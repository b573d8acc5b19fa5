import Mathlib.Data.List.Basic
import MailSync.Submission.Envelope

/-!
# The recipients of a submitted message

An envelope is made of what the headers of a message say. Each address on
its own is checked, and a fault refuses the message
(`SubmissionEnvelope.ofMessage_cases`); a header that cannot be read as an
address list is passed over, as if the message did not have it. So an
envelope has everyone whom the message names exactly if all headers that
name recipients can be read (`SubmissionEnvelope.ofMessage_collects`).
-/

namespace MailSync.SubmissionEnvelope

/-! ## What the headers say -/

/-- The texts of the headers that name recipients: those of To, then Cc, then Bcc. -/
def recipientHeaders (fields : List HeaderField) : List String :=
  ["To", "Cc", "Bcc"].flatMap (Header.all fields)

/-- The addresses in a list, those of groups in place. -/
def addressesOf (entries : List AddressEntry) : List String :=
  (entries.flatMap AddressEntry.addresses).map (·.address)

/-- The lists in those headers that can be read. -/
def readable (fields : List HeaderField) : List (List AddressEntry) :=
  (recipientHeaders fields).filterMap Address.entries?

/-- Every header that names recipients is read, and these are all addresses in them. -/
def Complete (fields : List HeaderField) (recipients : List String) : Prop :=
  ∃ lists : List (List AddressEntry),
    (recipientHeaders fields).map Address.entries? = lists.map some ∧
      recipients = lists.flatMap addressesOf

theorem map_address_list (value : String) :
    (Address.list value).map (·.address) = (Address.entries? value).toList.flatMap addressesOf := by
  rw [Address.list]
  cases Address.entries? value with
  | none => rfl
  | some entries => exact (List.append_nil _).symm

theorem recipientsOf_eq (fields : List HeaderField) :
    recipientsOf fields = (readable fields).flatMap addressesOf := by
  have hlist : (fun value => (Address.list value).map (·.address)) =
      fun value => (Address.entries? value).toList.flatMap addressesOf := funext map_address_list
  rw [readable, List.filterMap_eq_flatMap_toList, List.flatMap_assoc, ← hlist]
  rfl

/-- Nobody is missing exactly if there is no header that cannot be read. -/
theorem complete_recipientsOf_iff (fields : List HeaderField) :
    Complete fields (recipientsOf fields) ↔
      ∀ value ∈ recipientHeaders fields, Address.entries? value ≠ none := by
  constructor
  · rintro ⟨lists, hlists, -⟩ value hvalue hnone
    have hmem : none ∈ lists.map some := by
      rw [← hlists, ← hnone]
      exact List.mem_map_of_mem hvalue
    simp at hmem
  · intro hread
    refine ⟨readable fields, ?_, recipientsOf_eq fields⟩
    have hsome : ∀ value ∈ recipientHeaders fields,
        (Address.entries? value).map some = some (Address.entries? value) := by
      intro value hvalue
      obtain ⟨entries, hentries⟩ := Option.ne_none_iff_exists'.mp (hread value hvalue)
      rw [hentries]
      rfl
    rw [readable, List.map_filterMap, List.filterMap_congr hsome]
    rw [List.filterMap_eq_map']

/-! ## A header that cannot be read -/

section Overlooked

variable {before after : List HeaderField} {f : HeaderField}

theorem recipientsOf_overlooks (h : Address.entries? f.text = none) :
    recipientsOf (before ++ f :: after) = recipientsOf (before ++ after) := by
  have hnone : (Address.list f.text).map (·.address) = [] := by
    rw [map_address_list, h]
    rfl
  rw [recipientsOf, recipientsOf, List.flatMap_assoc, List.flatMap_assoc]
  refine List.flatMap_congr fun name _ => ?_
  cases hname : f.hasName name <;> simp [Header.all, List.filter_append, hname, hnone]

theorem senderOf_overlooks {account : String} (h : f.hasName "From" = false) :
    senderOf account (before ++ f :: after) = senderOf account (before ++ after) := by
  simp [senderOf, Header.first?, List.find?_append, h]

end Overlooked

/-! ## The outcome -/

theorem checked_cases (a : String) :
    (checked a = .ok a ∧ SubmissionAddress.fault? a = none) ∨
      (∃ text, checked a = .error (.smtp text)) ∧ SubmissionAddress.fault? a ≠ none := by
  rw [checked]
  cases SubmissionAddress.fault? a with
  | none => exact .inl ⟨rfl, rfl⟩
  | some fault => exact .inr ⟨⟨_, rfl⟩, Option.some_ne_none fault⟩

theorem mapM_checked_cases (as : List String) :
    (as.mapM checked = .ok as ∧ ∀ a ∈ as, SubmissionAddress.fault? a = none) ∨
      (∃ text, as.mapM checked = .error (.smtp text)) ∧
        ∃ a ∈ as, SubmissionAddress.fault? a ≠ none := by
  induction as with
  | nil => exact .inl ⟨rfl, fun a ha => absurd ha List.not_mem_nil⟩
  | cons a as ih =>
      rw [List.mapM_cons]
      rcases checked_cases a with ⟨ha, hfaultless⟩ | ⟨⟨text, ha⟩, hfault⟩
      · rcases ih with ⟨has, hrest⟩ | ⟨⟨text, has⟩, a', ha', hfault⟩
        · rw [ha, has]
          exact .inl ⟨rfl, List.forall_mem_cons.mpr ⟨hfaultless, hrest⟩⟩
        · rw [ha, has]
          exact .inr ⟨⟨text, rfl⟩, a', List.mem_cons_of_mem _ ha', hfault⟩
      · rw [ha]
        exact .inr ⟨⟨text, rfl⟩, a, List.mem_cons_self, hfault⟩

/-- Whether a message with these fields can be submitted: it names somebody, and no address in
its envelope is at fault. -/
def Submittable (account : String) (fields : List HeaderField) : Prop :=
  recipientsOf fields ≠ [] ∧
    ∀ a ∈ senderOf account fields :: recipientsOf fields, SubmissionAddress.fault? a = none

variable {account : String} {raw : Bytes} {fields : List HeaderField}

theorem ofMessage_of_fields (h : Header.fields raw = .ok fields) :
    ofMessage account raw = do
      let recipients ← (recipientsOf fields).mapM checked
      let sender ← checked (senderOf account fields)
      if recipients.isEmpty then
        throw (.smtp "Invalid envelope: missing destination address, invalid envelope")
      return ⟨sender, recipients⟩ := by
  rw [ofMessage, h]
  rfl

/-- What can be submitted is submitted to all that its readable headers name, and all else is
refused. -/
theorem ofMessage_cases (account : String) (h : Header.fields raw = .ok fields) :
    (ofMessage account raw = .ok ⟨senderOf account fields, recipientsOf fields⟩ ∧
      Submittable account fields) ∨
    (∃ text, ofMessage account raw = .error (.smtp text)) ∧ ¬ Submittable account fields := by
  rw [ofMessage_of_fields h]
  rcases mapM_checked_cases (recipientsOf fields) with
    ⟨hall, hfaultless⟩ | ⟨⟨text, hall⟩, a, ha, hfault⟩
  · rcases checked_cases (senderOf account fields) with
      ⟨hsender, hsound⟩ | ⟨⟨text, hsender⟩, hfault⟩
    · rw [hall, hsender]
      cases hnames : recipientsOf fields with
      | nil => exact .inr ⟨⟨_, rfl⟩, fun hcan => hcan.1 hnames⟩
      | cons a as =>
          refine .inl ⟨rfl, ?_, ?_⟩
          · rw [hnames]
            exact List.cons_ne_nil a as
          · exact List.forall_mem_cons.mpr ⟨hsound, hfaultless⟩
    · rw [hall, hsender]
      exact .inr ⟨⟨text, rfl⟩, fun hcan => hfault (hcan.2 _ List.mem_cons_self)⟩
  · rw [hall]
    exact .inr ⟨⟨text, rfl⟩, fun hcan => hfault (hcan.2 a (List.mem_cons_of_mem _ ha))⟩

theorem ofMessage_of_error {e : HeaderError} (account : String) (h : Header.fields raw = .error e) :
    ∃ text, ofMessage account raw = .error (.smtp text) := by
  rw [ofMessage, h]
  exact ⟨_, rfl⟩

/-- Whom a message with these fields is submitted to. -/
structure Collects (account : String) (raw : Bytes) (fields : List HeaderField) : Prop where
  /-- An envelope has the addresses of those headers that can be read, in order. -/
  recipients : ∀ e, ofMessage account raw = .ok e →
    e.recipients = (readable fields).flatMap addressesOf
  /-- These are all whom the message names exactly if it has no header that cannot be read. -/
  complete : ∀ e, ofMessage account raw = .ok e → (Complete fields e.recipients ↔
    ∀ value ∈ recipientHeaders fields, Address.entries? value ≠ none)
  /-- A header that cannot be read is as good as none. -/
  overlooks : ∀ raw' before f after, fields = before ++ f :: after →
    Header.fields raw' = .ok (before ++ after) → f.hasName "From" = false →
    Address.entries? f.text = none → ofMessage account raw = ofMessage account raw'
  /-- An address that is at fault in a header that can be read refuses the message. -/
  refuses : ∀ entries ∈ readable fields, ∀ a ∈ addressesOf entries,
    SubmissionAddress.fault? a ≠ none → ∃ text, ofMessage account raw = .error (.smtp text)

theorem collects (account : String) (h : Header.fields raw = .ok fields) :
    Collects account raw fields := by
  have houtcome : ∀ e, ofMessage account raw = .ok e → e.recipients = recipientsOf fields := by
    intro e he
    rcases ofMessage_cases account h with ⟨hok, -⟩ | ⟨⟨text, herror⟩, -⟩
    · rw [Except.ok.inj (he.symm.trans hok)]
    · cases he.symm.trans herror
  constructor
  case recipients =>
    intro e he
    rw [houtcome e he, recipientsOf_eq]
  case complete =>
    intro e he
    rw [houtcome e he]
    exact complete_recipientsOf_iff fields
  case overlooks =>
    rintro raw' before f after rfl h' hname hnone
    rw [ofMessage_of_fields h, ofMessage_of_fields h', recipientsOf_overlooks hnone,
      senderOf_overlooks hname]
  case refuses =>
    intro entries hentries a ha hfault
    rcases ofMessage_cases account h with ⟨-, hcan⟩ | ⟨herror, -⟩
    · have hmem : a ∈ recipientsOf fields := by
        rw [recipientsOf_eq]
        exact List.mem_flatMap.mpr ⟨entries, hentries, ha⟩
      exact absurd (hcan.2 a (List.mem_cons_of_mem _ hmem)) hfault
    · exact herror

/-- Whatever fails, it is the submission that fails. What does not fail goes to everyone that the
headers name, but for headers that cannot be read. -/
theorem ofMessage_collects (account : String) (raw : Bytes) :
    (∀ err, ofMessage account raw = .error err → ∃ text, err = .smtp text) ∧
    (∀ e, Header.fields raw = .error e → ∃ text, ofMessage account raw = .error (.smtp text)) ∧
    ∀ fields, Header.fields raw = .ok fields → Collects account raw fields := by
  refine ⟨fun err herr => ?_, fun e => ofMessage_of_error account, fun fields => collects account⟩
  have hrefused : ∀ text, ofMessage account raw = .error (.smtp text) → ∃ text, err = .smtp text :=
    fun text htext => ⟨text, Except.error.inj (herr.symm.trans htext)⟩
  cases hfields : Header.fields raw with
  | error e =>
      obtain ⟨text, htext⟩ := ofMessage_of_error account hfields
      exact hrefused text htext
  | ok fields =>
      rcases ofMessage_cases account hfields with ⟨hok, -⟩ | ⟨⟨text, htext⟩, -⟩
      · cases herr.symm.trans hok
      · exact hrefused text htext

/-- A copy to two is not sent to either, because one of them has no address. -/
theorem ofMessage_collects_unreadable :
    let raw := utf8 "To: bob@example.com\r\nCc: Carol <carol@example.com>, dave\r\n\r\nhi"
    ofMessage "me@example.com" raw = .ok ⟨"me@example.com", ["bob@example.com"]⟩ ∧
      ∃ fields, Header.fields raw = .ok fields ∧
        recipientHeaders fields = ["bob@example.com", "Carol <carol@example.com>, dave"] ∧
        ¬ Complete fields ["bob@example.com"] := by
  intro raw
  have hread : (Header.fields raw).toOption.map recipientHeaders =
      some ["bob@example.com", "Carol <carol@example.com>, dave"] := by decide +kernel
  have hunreadable : Address.entries? "Carol <carol@example.com>, dave" = none := by
    decide +kernel
  have hok : (ofMessage "me@example.com" raw).toOption =
      some ⟨"me@example.com", ["bob@example.com"]⟩ := by decide +kernel
  obtain ⟨-, -, hcollects⟩ := ofMessage_collects "me@example.com" raw
  cases hfields : Header.fields raw with
  | error e =>
      rw [hfields] at hread
      cases hread
  | ok fields =>
      rw [hfields] at hread
      have hheaders := Option.some.inj hread
      cases hmessage : ofMessage "me@example.com" raw with
      | error err =>
          rw [hmessage] at hok
          cases hok
      | ok e =>
          rw [hmessage] at hok
          obtain rfl := Option.some.inj hok
          refine ⟨rfl, fields, rfl, hheaders, fun hcomplete => ?_⟩
          refine ((hcollects fields hfields).complete _ hmessage).mp hcomplete
            "Carol <carol@example.com>, dave" ?_ hunreadable
          rw [hheaders]
          decide

end MailSync.SubmissionEnvelope
