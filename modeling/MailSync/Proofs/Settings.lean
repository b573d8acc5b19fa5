import MailSync.Proofs.Coding
import MailSync.Proofs.Text
import MailSync.Settings

/-!
# What settings come from

Every setting but the address comes from a variable that may be missing, and
has a default for that case. What a variable may say is stated here without the
readers (`Number.Numeral`, `Settings.SaysSecurity`), and the settings that are
read are those the environment has (`Settings.ofEnvironment_reads`): each is what
its variable says, trimmed where it is not a host, and a variable that says
nothing valid makes the settings fail. A variable whose octets are no text counts
as missing, though, and its setting is the default.
-/

namespace MailSync

open Settings

/-! ## Variables -/

namespace Environment

variable {env : Environment} {name text : String}

/-- A variable is set to octets that are no text. -/
def Unreadable (env : Environment) (name : String) : Prop :=
  ∃ octets, env.value? name = some octets ∧ ∀ text, octets ≠ utf8 text

theorem text?_eq_some_iff : env.text? name = some text ↔ env.value? name = some (utf8 text) := by
  rw [text?, Option.bind_eq_bind, Option.bind_eq_some_iff]
  simp only [Utf8.decode?_eq_some_iff, exists_eq_right]

theorem text?_eq_none_iff :
    env.text? name = none ↔ env.value? name = none ∨ env.Unreadable name := by
  rw [text?]
  cases hvalue : env.value? name with
  | none => simp
  | some octets =>
      have hnone : Utf8.decode? octets = none ↔ ∀ text, octets ≠ utf8 text := by
        simp only [Option.eq_none_iff_forall_ne_some, ne_eq, Utf8.decode?_eq_some_iff]
      simp [Unreadable, hvalue, hnone]

end Environment

namespace Settings

/-- What a setting is by its variable, whose text is to be valid, and its default. -/
inductive Has {α : Type} (env : Environment) (name : String) (Valid : String → α → Prop)
    (default : α) : α → Prop where
  | given {text : String} {a : α} : env.value? name = some (utf8 text) → Valid text a →
      Has env name Valid default a
  | unset : env.value? name = none → Has env name Valid default default
  | unreadable : env.Unreadable name → Has env name Valid default default

/-- A text says this, blanks around it apart. -/
def Trimmed {α : Type} (Valid : String → α → Prop) (text : String) (a : α) : Prop :=
  Valid (trimmed text) a

/-- The words for how a connection is secured, in any case. -/
def SaysSecurity (text : String) : Security → Prop
  | .tls => Ascii.lower text = "tls" ∨ Ascii.lower text = "ssl"
  | .startTls => Ascii.lower text = "starttls"

def SaysFlag (text : String) (value : Bool) : Prop := text = if value then "true" else "false"

def SaysPort (text : String) (port : UInt16) : Prop := Number.Numeral text port.toNat

def SaysSize (text : String) (size : UInt32) : Prop := Number.Numeral text size.toNat

/-! ## Readers -/

/-- A reader of numbers that fit in a word reads numerals. -/
theorem sized_eq_ok_iff {α : Type} {ofNat : Nat → α} {toNat : α → Nat} {max : Nat}
    (hmax : ∀ a, toNat a ≤ max) (hword : ∀ n ≤ max, ∀ a, ofNat n = a ↔ toNat a = n)
    {text : String} {a : α} :
    (match Number.natural max text with
      | .ok n => Except.ok (ofNat n)
      | .error e => Except.error e.message) = .ok a ↔ Number.Numeral text (toNat a) := by
  have hread := @Number.natural_eq_ok_iff max (toNat a) text
  rw [and_iff_left (hmax a)] at hread
  rw [← hread]
  cases hn : Number.natural max text with
  | error e => exact iff_of_false nofun nofun
  | ok n =>
      rw [Except.ok.injEq, Except.ok.injEq, hword n (Number.natural_le hn), eq_comm]

theorem port_eq_ok_iff (text : String) (a : UInt16) : port text = .ok a ↔ SaysPort text a :=
  sized_eq_ok_iff (fun a => Nat.le_of_lt_succ a.toNat_lt) fun n hn a => by
    rw [← UInt16.toNat_inj, UInt16.toNat_ofNat_of_lt' (Nat.lt_succ_of_le hn), eq_comm]

theorem pageSize_eq_ok_iff (text : String) (a : UInt32) : pageSize text = .ok a ↔ SaysSize text a :=
  sized_eq_ok_iff (fun a => Nat.le_of_lt_succ a.toNat_lt) fun n hn a => by
    rw [← UInt32.toNat_inj, UInt32.toNat_ofNat_of_lt' (Nat.lt_succ_of_le hn), eq_comm]

theorem flag_eq_ok_iff (text : String) (a : Bool) : flag text = .ok a ↔ SaysFlag text a := by
  rw [flag, boolean?, SaysFlag]
  by_cases hyes : text = "true"
  · cases a <;> simp [hyes]
  by_cases hno : text = "false"
  · cases a <;> simp [hno]
  · cases a <;> simp [hyes, hno]

theorem security_eq_ok_iff (text : String) (a : Security) :
    security text = .ok a ↔ SaysSecurity text a := by
  rw [security, Security.read]
  by_cases htls : Ascii.lower text = "tls"
  · cases a <;> simp [SaysSecurity, htls]
  by_cases hssl : Ascii.lower text = "ssl"
  · cases a <;> simp [SaysSecurity, hssl]
  by_cases hstartTls : Ascii.lower text = "starttls"
  · cases a <;> simp [SaysSecurity, hstartTls]
  · cases a <;> simp [SaysSecurity, htls, hssl, hstartTls]

/-! ## Outcomes -/

/-- The outcome is exactly what has a property, and if nothing has, an error of the settings. -/
structure Reads {α : Type} (outcome : Except MailError α) (P : α → Prop) : Prop where
  ok_iff : ∀ a, outcome = .ok a ↔ P a
  fails : ∀ e, outcome = .error e → ∃ why, e = .config why

namespace Reads

variable {α β : Type} {outcome : Except MailError α} {P P' : α → Prop}

theorem congr (h : Reads outcome P) (hP : ∀ a, P a ↔ P' a) : Reads outcome P' :=
  ⟨fun a => (h.ok_iff a).trans (hP a), h.fails⟩

theorem pure (a : α) : Reads (pure a) (a = ·) :=
  ⟨fun _ => ⟨Except.ok.inj, congrArg Except.ok⟩, nofun⟩

theorem bind {f : α → Except MailError β} {Q : α → β → Prop} (h : Reads outcome P)
    (hf : ∀ a, Reads (f a) (Q a)) : Reads (outcome >>= f) fun b => ∃ a, P a ∧ Q a b := by
  cases houtcome : outcome with
  | error e =>
      refine ⟨fun b => iff_of_false nofun ?_, fun e' he' => ?_⟩
      · rintro ⟨a, ha, -⟩
        rw [(h.ok_iff a).mpr ha] at houtcome
        cases houtcome
      · cases he'
        exact h.fails e houtcome
  | ok a =>
      have honly : ∀ a', P a' ↔ a = a' := fun a' => by
        rw [← h.ok_iff, houtcome, Except.ok.injEq]
      refine ⟨fun b => ?_, (hf a).fails⟩
      rw [show (Except.ok a >>= f) = f a from rfl, (hf a).ok_iff]
      simp [honly]

end Reads

variable {env : Environment} {name : String}

theorem required_reads (env : Environment) (name : String) :
    Reads (required env name) fun text => env.value? name = some (utf8 text) := by
  rw [required]
  cases htext : env.text? name with
  | none =>
      refine ⟨fun text => iff_of_false nofun fun h => ?_, fun e he => ?_⟩
      · rw [Environment.text?_eq_some_iff.mpr h] at htext
        cases htext
      · cases he
        exact ⟨_, rfl⟩
  | some text =>
      refine ⟨fun a => ?_, nofun⟩
      rw [← Environment.text?_eq_some_iff, htext, Except.ok.injEq, Option.some.injEq]

/-- A setting is decided by the text of its variable, if that has one. -/
theorem has_iff {α : Type} {Valid : String → α → Prop} {default a : α} :
    Has env name Valid default a ↔ match env.text? name with
      | none => default = a
      | some text => Valid text a := by
  cases htext : env.text? name with
  | none =>
      have hmissing := Environment.text?_eq_none_iff.mp htext
      constructor
      · rintro (⟨hvalue, -⟩ | _ | _)
        · rw [Environment.text?_eq_some_iff.mpr hvalue] at htext
          cases htext
        · rfl
        · rfl
      · rintro rfl
        exact hmissing.elim .unset .unreadable
  | some text =>
      have hvalue := Environment.text?_eq_some_iff.mp htext
      constructor
      · rintro (⟨hvalue', hvalid⟩ | hunset | ⟨octets, hoctets, hnone⟩)
        · rw [Environment.text?_eq_some_iff.mpr hvalue'] at htext
          cases htext
          exact hvalid
        · rw [hvalue] at hunset
          cases hunset
        · rw [hvalue] at hoctets
          cases hoctets
          exact absurd rfl (hnone text)
      · exact .given hvalue

theorem getD_eq_iff (env : Environment) (name default a : String) :
    (env.text? name).getD default = a ↔ Has env name Eq default a := by
  rw [has_iff]
  cases env.text? name with
  | none => rfl
  | some text => rfl

theorem parsed_reads {α : Type} {read : String → Except String α} {Valid : String → α → Prop}
    (hread : ∀ text a, read text = .ok a ↔ Valid text a) (env : Environment) (name : String)
    (default : α) :
    Reads (parsed env name default read) (Has env name (Trimmed Valid) default) := by
  refine Reads.congr ?_ fun a => has_iff.symm
  rw [parsed]
  cases env.text? name with
  | none => exact .pure default
  | some text =>
      simp only [Trimmed, ← hread]
      cases read (trimmed text) with
      | error why => exact ⟨fun a => iff_of_false nofun nofun, fun e he => ⟨_, by cases he; rfl⟩⟩
      | ok a => exact ⟨fun _ => ⟨fun h => by cases h; rfl, fun h => by cases h; rfl⟩, nofun⟩

end Settings

/-! ## Settings -/

/-- The settings of an account are those of its environment. -/
structure AccountSettings.Of (env : Environment) (a : AccountSettings) : Prop where
  email : env.value? "MAIL_EMAIL" = some (utf8 a.email)
  imapHost : Has env "IMAP_HOST" Eq "imap.gmail.com" a.imapHost
  imapPort : Has env "IMAP_PORT" (Trimmed SaysPort) 993 a.imapPort
  security : Has env "IMAP_SECURITY" (Trimmed SaysSecurity) .tls a.security
  smtpHost : Has env "SMTP_HOST" Eq "smtp.gmail.com" a.smtpHost
  smtpPort : Has env "SMTP_PORT" (Trimmed SaysPort) 465 a.smtpPort
  acceptInvalidCerts : Has env "MAIL_ACCEPT_INVALID_CERTS" (Trimmed SaysFlag) false
    a.acceptInvalidCerts

structure SyncSettings.Of (env : Environment) (s : SyncSettings) : Prop where
  pageSize : Has env "SYNC_PAGE_SIZE" (Trimmed SaysSize) 20 s.pageSize
  positive : 1 ≤ s.pageSize
  showOnlyEncrypted : Has env "SYNC_ONLY_ENCRYPTED" (Trimmed SaysFlag) false s.showOnlyEncrypted

theorem AccountSettings.reads (env : Environment) :
    Reads (AccountSettings.ofEnvironment env) (AccountSettings.Of env) := by
  have hparts := (required_reads env "MAIL_EMAIL").bind fun email =>
    (parsed_reads port_eq_ok_iff env "IMAP_PORT" 993).bind fun imapPort =>
    (parsed_reads security_eq_ok_iff env "IMAP_SECURITY" .tls).bind fun security =>
    (parsed_reads port_eq_ok_iff env "SMTP_PORT" 465).bind fun smtpPort =>
    (parsed_reads flag_eq_ok_iff env "MAIL_ACCEPT_INVALID_CERTS" false).bind fun accept =>
    Reads.pure (AccountSettings.mk email ((env.text? "IMAP_HOST").getD "imap.gmail.com") imapPort
      security ((env.text? "SMTP_HOST").getD "smtp.gmail.com") smtpPort accept)
  refine Reads.congr hparts fun a => ?_
  constructor
  · rintro ⟨email, hemail, imapPort, himapPort, security, hsecurity, smtpPort, hsmtpPort, accept,
      haccept, rfl⟩
    exact ⟨hemail, (getD_eq_iff ..).mp rfl, himapPort, hsecurity, (getD_eq_iff ..).mp rfl,
      hsmtpPort, haccept⟩
  · intro h
    refine ⟨_, h.email, _, h.imapPort, _, h.security, _, h.smtpPort, _, h.acceptInvalidCerts, ?_⟩
    rw [(getD_eq_iff ..).mpr h.imapHost, (getD_eq_iff ..).mpr h.smtpHost]

theorem SyncSettings.reads (env : Environment) :
    Reads (SyncSettings.ofEnvironment env) (SyncSettings.Of env) := by
  have hflag (size : UInt32) := (parsed_reads flag_eq_ok_iff env "SYNC_ONLY_ENCRYPTED" false).bind
    fun only => Reads.pure (SyncSettings.mk size only)
  refine Reads.congr (P := fun s => ∃ size, Has env "SYNC_PAGE_SIZE" (Trimmed SaysSize) 20 size ∧
    1 ≤ size ∧ ∃ only, Has env "SYNC_ONLY_ENCRYPTED" (Trimmed SaysFlag) false only ∧
      SyncSettings.mk size only = s) ?_ fun s => ?_
  · refine (parsed_reads pageSize_eq_ok_iff env "SYNC_PAGE_SIZE" 20).bind fun size => ?_
    by_cases hzero : size = 0
    · subst hzero
      refine ⟨fun s => iff_of_false nofun fun h => absurd h.1 (by decide), fun e he => ?_⟩
      cases he
      exact ⟨_, rfl⟩
    · have hpos : 1 ≤ size := by
        rw [UInt32.le_iff_toNat_le]
        exact Nat.pos_of_ne_zero fun h => hzero (UInt32.toNat_inj.mp h)
      rw [if_neg hzero]
      exact (hflag size).congr fun s => (and_iff_right hpos).symm
  · constructor
    · rintro ⟨size, hsize, hpos, only, honly, rfl⟩
      exact ⟨hsize, hpos, honly⟩
    · exact fun h => ⟨_, h.pageSize, h.positive, _, h.showOnlyEncrypted, rfl⟩

/-- The settings that are read are exactly those of the environment, and where a variable says
nothing valid there are none, which is an error of the settings. -/
theorem Settings.ofEnvironment_reads (env : Environment) :
    Reads (AccountSettings.ofEnvironment env) (AccountSettings.Of env) ∧
      Reads (SyncSettings.ofEnvironment env) (SyncSettings.Of env) :=
  ⟨AccountSettings.reads env, SyncSettings.reads env⟩

/-- A host and a page size that are given, but not as text, are replaced by the defaults. -/
theorem Settings.ofEnvironment_reads_unreadable :
    let env : Environment := ⟨[("MAIL_EMAIL", utf8 "me@example.com"), ("IMAP_HOST", [0xFF]),
      ("SYNC_PAGE_SIZE", [0xFF])]⟩
    env.Unreadable "IMAP_HOST" ∧ env.Unreadable "SYNC_PAGE_SIZE" ∧
      AccountSettings.ofEnvironment env = .ok (.gmail "me@example.com") ∧
        SyncSettings.ofEnvironment env = .ok .default := by
  intro env
  have hnone : Utf8.decode? [0xFF] = none := by
    rw [Utf8.decode?, Utf8.pieces]
    rfl
  have hnotext : ∀ text, [0xFF] ≠ utf8 text := fun text h => by
    rw [Utf8.decode?_eq_some_iff.mpr h] at hnone
    cases hnone
  have hhost : env.Unreadable "IMAP_HOST" := ⟨_, rfl, hnotext⟩
  have hsize : env.Unreadable "SYNC_PAGE_SIZE" := ⟨_, rfl, hnotext⟩
  obtain ⟨haccount, hsync⟩ := Settings.ofEnvironment_reads env
  refine ⟨hhost, hsize, (haccount.ok_iff _).mpr ?_, (hsync.ok_iff _).mpr ?_⟩
  · exact ⟨rfl, .unreadable hhost, .unset rfl, .unset rfl, .unset rfl, .unset rfl, .unset rfl⟩
  · exact ⟨.unreadable hsize, by decide, .unset rfl⟩

end MailSync
