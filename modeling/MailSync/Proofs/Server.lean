import Mathlib.Data.List.Forall2
import Mathlib.Logic.Function.Basic
import MailSync.Imap.Mailbox
import MailSync.Proofs.Client
import MailSync.Proofs.SequenceSet
import MailSync.Rehearsal.Account

/-!
# A mail server and its connections

A server as RFC 3501 describes it, as far as its mailboxes can change by the
commands of a session. It carries a command out or refuses it; and the
connection may break, so that the answer breaks off and nobody knows which
(`Server.Answers`). What the client makes of an answer is its own reading
(`Server.Serves`).

Copying is all or nothing. A copy is marked for deletion only if its original
is, and gets a number above all numbers of its mailbox.
-/

namespace MailSync

open Dialogue

/-! ## Conversations with surroundings that change -/

/-- `Along change s log s'`: the exchanges of `log` take the surroundings from `s` to `s'`. -/
inductive Dialogue.Along {Q : Type} {R : Q → Type} {σ : Type} (change : σ → Exchange Q R → σ → Prop) :
    σ → List (Exchange Q R) → σ → Prop where
  | nil (s : σ) : Along change s [] s
  | cons {s s' s'' : σ} {x : Exchange Q R} {log : List (Exchange Q R)} (h : change s x s')
    (rest : Along change s' log s'') : Along change s (x :: log) s''

namespace Dialogue

variable {Q : Type} {R : Q → Type} {σ : Type} {change : σ → Exchange Q R → σ → Prop} {s s' : σ}
  {x : Exchange Q R} {log log' : List (Exchange Q R)}

theorem along_nil_iff : Along change s [] s' ↔ s' = s := by
  constructor
  · rintro ⟨⟩
    rfl
  · rintro rfl
    exact .nil _

theorem along_cons_iff :
    Along change s (x :: log) s' ↔ ∃ s₁, change s x s₁ ∧ Along change s₁ log s' := by
  constructor
  · rintro (_ | ⟨h, rest⟩)
    exact ⟨_, h, rest⟩
  · rintro ⟨s₁, h, rest⟩
    exact .cons h rest

theorem along_singleton_iff : Along change s [x] s' ↔ change s x s' := by
  simp [along_cons_iff, along_nil_iff]

theorem along_append_iff : Along change s (log ++ log') s' ↔
    ∃ s₁, Along change s log s₁ ∧ Along change s₁ log' s' := by
  induction log generalizing s with
  | nil => simp [along_nil_iff]
  | cons x log ih =>
      simp only [List.cons_append, along_cons_iff, ih]
      constructor
      · rintro ⟨s₁, h, s₂, hlog, hlog'⟩
        exact ⟨s₂, ⟨s₁, h, hlog⟩, hlog'⟩
      · rintro ⟨s₂, ⟨s₁, h, hlog⟩, hlog'⟩
        exact ⟨s₁, h, s₂, hlog, hlog'⟩

theorem Along.mono {change' : σ → Exchange Q R → σ → Prop} (h : Along change s log s')
    (hmono : ∀ {s x s'}, change s x s' → change' s x s') : Along change' s log s' := by
  induction h with
  | nil s => exact .nil s
  | cons h _ ih => exact .cons (hmono h) ih

/-- Where the surroundings have a reply to every question, every dialogue comes to an end in
them. -/
theorem exists_along {α : Type} (replies : ∀ s q, ∃ r s', change s ⟨q, r⟩ s') (d : Dialogue Q R α)
    (s : σ) : ∃ log a s', Holds d log a ∧ Along change s log s' := by
  induction d generalizing s with
  | done a => exact ⟨[], a, s, .done a, .nil s⟩
  | ask q next ih =>
      obtain ⟨r, s₁, hr⟩ := replies s q
      obtain ⟨log, a, s', hheld, hlog⟩ := ih r s₁
      exact ⟨⟨q, r⟩ :: log, a, s', .ask hheld, .cons hr hlog⟩

/-- What no change of a conversation affects is as it was. -/
theorem Along.keeps {τ : Type} {f : σ → τ} (h : Along change s log s')
    (hkeeps : ∀ x ∈ log, ∀ s s', change s x s' → f s' = f s) : f s' = f s := by
  induction h with
  | nil s => rfl
  | cons h _ ih =>
      rw [List.forall_mem_cons] at hkeeps
      rw [ih hkeeps.2, hkeeps.1 _ _ h]

end Dialogue

/-! ## Mailboxes -/

namespace StoredMessage

def isDeleted (m : StoredMessage) : Bool := decide (Flag.deleted ∈ m.flags)

def marked (m : StoredMessage) : StoredMessage := { m with flags := m.flags.insert .deleted }

def markSet (set : String) (ms : List StoredMessage) : List StoredMessage :=
  ms.map fun m => if RehearsedAccount.inSet ms set m then m.marked else m

def purge (ms : List StoredMessage) : List StoredMessage := ms.filter (!·.isDeleted)

structure IsCopy (m copy : StoredMessage) : Prop where
  raw : copy.raw = m.raw
  isDeleted : copy.isDeleted = true → m.isDeleted = true

@[simp] theorem marked_uid (m : StoredMessage) : m.marked.uid = m.uid := rfl

@[simp] theorem marked_raw (m : StoredMessage) : m.marked.raw = m.raw := rfl

@[simp] theorem marked_isDeleted (m : StoredMessage) : m.marked.isDeleted = true := by
  simp [isDeleted, marked]

end StoredMessage

/-- The messages of each mailbox of an account. A mailbox is known by the one spelling of its
name. -/
abbrev Mail := String → Option (List StoredMessage)

def Mail.ofList (boxes : List (String × List StoredMessage)) : Mail := fun name => boxes.lookup name

def Mail.modify (mail : Mail) (name : String) (f : List StoredMessage → List StoredMessage) : Mail :=
  Function.update mail name ((mail name).map f)

theorem Mail.modify_self (mail : Mail) (name : String) (f : List StoredMessage → List StoredMessage) :
    mail.modify name f name = (mail name).map f :=
  Function.update_self ..

theorem Mail.modify_of_ne (mail : Mail) {name other : String} (h : other ≠ name)
    (f : List StoredMessage → List StoredMessage) : mail.modify name f other = mail other :=
  Function.update_of_ne h ..

theorem Mail.modify_id (mail : Mail) (name : String) : mail.modify name (fun ms => ms) = mail := by
  rw [modify, Option.map_id', Function.update_eq_self]

theorem Mail.modify_modify (mail : Mail) (name : String) (f g : List StoredMessage → List StoredMessage) :
    (mail.modify name f).modify name g = mail.modify name fun ms => g (f ms) := by
  rw [modify, modify_self, modify, Function.update_idem, Option.map_map]
  rfl

/-- Whether a command cannot change a mailbox, nor which one is selected. -/
def ImapCommand.looksOnly : ImapCommand → Bool
  | .noop | .list | .uidSearch _ | .uidFetch _ _ | .logout => true
  | .select _ | .uidCopy _ _ | .uidStoreDeleted _ | .expunge => false

/-- Whether a command leaves the mailboxes as they are. -/
def ImapCommand.keepsMail : ImapCommand → Bool
  | .uidCopy _ _ | .uidStoreDeleted _ | .expunge => false
  | _ => true

def ImapCommand.removes : ImapCommand → Bool
  | .uidStoreDeleted _ | .expunge => true
  | _ => false

namespace Server

open StoredMessage ListEntry
open RehearsedAccount (inSet)

/-- A connection as the server sees it: the mailbox that is selected, and whether it has broken. -/
structure Line where
  selected : Option String
  cut : Bool

structure State where
  mail : Mail
  line : Line

/-- `Effect mail selected c mail' selected'`: what carrying out a command makes of the mailboxes
and of the selection. A command with an empty set is malformed, and not carried out. -/
inductive Effect (mail : Mail) (selected : Option String) :
    ImapCommand → Mail → Option String → Prop where
  | select {folder : String} {ms : List StoredMessage} (h : mail (spelled folder) = some ms) :
    Effect mail selected (.select folder) mail (some (spelled folder))
  | copy {set folder source : String} {ms ds copies : List StoredMessage} (hset : set ≠ "")
    (hselected : selected = some source) (hsource : mail source = some ms)
    (hdestination : mail (spelled folder) = some ds)
    (hcopies : List.Forall₂ IsCopy (ms.filter (inSet ms set)) copies)
    (hnumbers : (ds ++ copies).Pairwise (·.uid < ·.uid)) :
    Effect mail selected (.uidCopy set folder) (mail.modify (spelled folder) (· ++ copies)) selected
  | store {set source : String} (hset : set ≠ "") (hselected : selected = some source) :
    Effect mail selected (.uidStoreDeleted set) (mail.modify source (markSet set)) selected
  | expunge {source : String} (hselected : selected = some source) :
    Effect mail selected .expunge (mail.modify source purge) selected
  | look {c : ImapCommand} (h : c.looksOnly = true) : Effect mail selected c mail selected

/-- What is selected after a refusal: a refused SELECT leaves nothing selected. -/
def afterRefusal (selected : Option String) : ImapCommand → Option String
  | .select _ => none
  | _ => selected

/-- `Answers s c answer s'`: how a server may answer a command, and what has changed then. -/
inductive Answers (s : State) (c : ImapCommand) : Except ImapError ImapAnswer → State → Prop where
  | done {mail' : Mail} {selected' : Option String} {items : List (Except ImapError ImapResponse)}
    {text : StatusText} (hline : s.line.cut = false)
    (h : Effect s.mail s.line.selected c mail' selected') :
    Answers s c (.ok ⟨items, some (.ok, text)⟩) ⟨mail', selected', false⟩
  | refused {status : ServerStatus} {items : List (Except ImapError ImapResponse)} {text : StatusText}
    (hline : s.line.cut = false) (hstatus : status = .no ∨ status = .bad) :
    Answers s c (.ok ⟨items, some (status, text)⟩)
      ⟨s.mail, afterRefusal s.line.selected c, false⟩
  -- The connection breaks before the end of the answer, and perhaps before the command.
  | unheard {answer : Except ImapError ImapAnswer} {mail' : Mail}
    (hanswer : ∀ a, answer = .ok a → a.ending = none)
    (h : mail' = s.mail ∨
      s.line.cut = false ∧ ∃ selected', Effect s.mail s.line.selected c mail' selected') :
    Answers s c answer ⟨mail', s.line.selected, true⟩

/-- What a client may hear of a command. One that has no line is not sent. -/
inductive Serves (s : State) : Exchange ImapCommand ImapCommand.Reply → State → Prop where
  | unsent {c : ImapCommand} {e : ImapError} (hline : c.line = .error e) : Serves s ⟨c, .error e⟩ s
  | answered {c : ImapCommand} {text : String} {answer : Except ImapError ImapAnswer} {s' : State}
    (hline : c.line = .ok text) (h : Answers s c answer s') : Serves s ⟨c, answer.bind c.read⟩ s'

/-- What a client may hear of a server that always removes what it is asked to; copies and
selections it may still refuse. -/
structure Obeys (s : State) (x : Exchange ImapCommand ImapCommand.Reply) (s' : State) : Prop where
  serves : Serves s x s'
  effect : x.question.removes = true →
    Effect s.mail s.line.selected x.question s'.mail s'.line.selected

variable {s s' : State} {c : ImapCommand} {reply : c.Reply}

/-! ## What one command changes -/

theorem Effect.obeys {mail mail' : Mail} {selected selected' : Option String} {text : String}
    (h : Effect mail selected c mail' selected') (hline : c.line = .ok text) :
    Obeys ⟨mail, selected, false⟩ ⟨c, c.read ⟨[], some (.ok, ⟨none, none⟩)⟩⟩ ⟨mail', selected', false⟩ := by
  have hanswered : Answers ⟨mail, selected, false⟩ c (.ok ⟨[], some (.ok, ⟨none, none⟩)⟩)
      ⟨mail', selected', false⟩ := .done rfl h
  exact ⟨.answered hline hanswered, fun _ => h⟩

theorem exists_serves (s : State) (c : ImapCommand) : ∃ reply s', Serves s ⟨c, reply⟩ s' := by
  cases hline : c.line with
  | error e => exact ⟨.error e, s, .unsent hline⟩
  | ok text =>
      have hbroken : Answers s c (.error .connectionLost) ⟨s.mail, s.line.selected, true⟩ :=
        .unheard nofun (.inl rfl)
      exact ⟨_, _, .answered hline hbroken⟩

theorem Effect.mail_of_look {mail mail' : Mail} {selected selected' : Option String}
    (h : Effect mail selected c mail' selected') (hlook : c.looksOnly = true) : mail' = mail := by
  cases h with
  | select _ | look _ => rfl
  | copy _ _ _ _ _ _ | store _ _ | expunge _ => cases hlook

theorem Effect.marks {mail mail' : Mail} {selected selected' : Option String} {set : String}
    (h : Effect mail selected (.uidStoreDeleted set) mail' selected') : selected' = selected ∧
      ∃ source, selected = some source ∧ mail' = mail.modify source (markSet set) := by
  cases h with
  | store _ hselected => exact ⟨rfl, _, hselected, rfl⟩
  | look hlook => cases hlook

theorem Effect.purges {mail mail' : Mail} {selected selected' : Option String}
    (h : Effect mail selected .expunge mail' selected') : selected' = selected ∧
      ∃ source, selected = some source ∧ mail' = mail.modify source purge := by
  cases h with
  | expunge hselected => exact ⟨rfl, _, hselected, rfl⟩
  | look hlook => cases hlook

theorem Serves.mail_of_look (h : Serves s ⟨c, reply⟩ s') (hlook : c.looksOnly = true) :
    s'.mail = s.mail := by
  cases h with
  | unsent _ => rfl
  | answered _ h =>
      cases h with
      | done _ heffect => exact heffect.mail_of_look hlook
      | refused _ _ => rfl
      | unheard _ h =>
          rcases h with rfl | ⟨-, selected', heffect⟩
          · rfl
          · exact heffect.mail_of_look hlook

/-- A folder that was selected with success is selected, unless the connection has broken. -/
theorem Serves.select {folder : String} {reply : (ImapCommand.select folder).Reply}
    (h : Serves s ⟨.select folder, reply⟩ s') : s'.mail = s.mail ∧ ∀ status, reply = .ok status →
      s'.line.cut = true ∨ s'.line.selected = some (spelled folder) := by
  cases h with
  | unsent _ => exact ⟨rfl, nofun⟩
  | answered _ h =>
      cases h with
      | done _ heffect =>
          cases heffect with
          | select _ => exact ⟨rfl, fun _ _ => .inr rfl⟩
          | look hlook => cases hlook
      | refused _ hstatus =>
          exact ⟨rfl, fun status hread => absurd hread (ImapAnswer.mailbox_ne_ok rfl hstatus)⟩
      | unheard _ h =>
          refine ⟨?_, fun _ _ => .inl rfl⟩
          rcases h with rfl | ⟨-, selected', heffect⟩
          · rfl
          · cases heffect with
            | select _ => rfl
            | look hlook => cases hlook

theorem Serves.keeps_mail (h : Serves s ⟨c, reply⟩ s') (hc : c.keepsMail = true) :
    s'.mail = s.mail := by
  cases c with
  | select folder => exact h.select.1
  | noop | list | uidSearch _ | uidFetch _ _ | logout => exact h.mail_of_look rfl
  | uidCopy _ _ | uidStoreDeleted _ | expunge => cases hc

/-- `Copied s set folder copies`: the messages of the selected mailbox in a set have these copies,
which can be added to a folder. -/
structure Copied (s : State) (set folder source : String) (ms ds copies : List StoredMessage) :
    Prop where
  hline : s.line.cut = false
  hset : set ≠ ""
  hselected : s.line.selected = some source
  hsource : s.mail source = some ms
  hdestination : s.mail (spelled folder) = some ds
  hcopies : List.Forall₂ IsCopy (ms.filter (inSet ms set)) copies
  hnumbers : (ds ++ copies).Pairwise (·.uid < ·.uid)

/-- Either nothing was copied, and the client hears of a failure, or everything was. -/
theorem Serves.copy {set folder : String} {reply : (ImapCommand.uidCopy set folder).Reply}
    (h : Serves s ⟨.uidCopy set folder, reply⟩ s') : s'.line.selected = s.line.selected ∧
      ((s'.mail = s.mail ∧ ∃ e, reply = .error e) ∨
        ∃ source ms ds copies, Copied s set folder source ms ds copies ∧
          s'.mail = s.mail.modify (spelled folder) (· ++ copies)) := by
  have done : ∀ {mail' selected'}, s.line.cut = false →
      Effect s.mail s.line.selected (.uidCopy set folder) mail' selected' →
        selected' = s.line.selected ∧ ∃ source ms ds copies, Copied s set folder source ms ds copies ∧
          mail' = s.mail.modify (spelled folder) (· ++ copies) := by
    intro mail' selected' hline heffect
    cases heffect with
    | copy hset hselected hsource hdestination hcopies hnumbers =>
        exact ⟨rfl, _, _, _, _, ⟨hline, hset, hselected, hsource, hdestination, hcopies, hnumbers⟩, rfl⟩
    | look hlook => cases hlook
  -- What is checked ends well only with OK, which is said of no copy that was not made.
  have failed : ∀ {a : ImapAnswer}, (∀ text, a.ending ≠ some (.ok, text)) → ∃ e, a.check = .error e := by
    intro a ha
    cases hcheck : a.check with
    | error e => exact ⟨e, rfl⟩
    | ok _ =>
        obtain ⟨text, hending⟩ := ImapAnswer.ending_of_check hcheck
        exact absurd hending (ha text)
  have unfinished : ∀ {answer : Except ImapError ImapAnswer},
      (∀ a, answer = .ok a → a.ending = none) →
        ∃ e, answer.bind (ImapCommand.uidCopy set folder).read = .error e := by
    intro answer hanswer
    cases answer with
    | error e => exact ⟨e, rfl⟩
    | ok a =>
        refine failed fun text hending => ?_
        rw [hanswer a rfl] at hending
        cases hending
  cases h with
  | @unsent _ e _ => exact ⟨rfl, .inl ⟨rfl, e, rfl⟩⟩
  | answered _ h =>
      cases h with
      | done hline heffect =>
          obtain ⟨hselected, hcopied⟩ := done hline heffect
          exact ⟨hselected, .inr hcopied⟩
      | refused _ hstatus =>
          refine ⟨rfl, .inl ⟨rfl, failed fun text hending => ?_⟩⟩
          rcases hstatus with rfl | rfl <;> cases hending
      | unheard hanswer h =>
          refine ⟨rfl, ?_⟩
          rcases h with rfl | ⟨hline, selected', heffect⟩
          · exact .inl ⟨rfl, unfinished hanswer⟩
          · exact .inr (done hline heffect).2

theorem Serves.changes_selected {f : List StoredMessage → List StoredMessage}
    (hc : ∀ {mail mail' : Mail} {selected selected' : Option String},
      Effect mail selected c mail' selected' → selected' = selected ∧
        ∃ source, selected = some source ∧ mail' = mail.modify source f)
    (hselect : ∀ selected, afterRefusal selected c = selected) (h : Serves s ⟨c, reply⟩ s') :
    s'.line.selected = s.line.selected ∧ (s'.mail = s.mail ∨
      ∃ source, s.line.selected = some source ∧ s'.mail = s.mail.modify source f) := by
  cases h with
  | unsent _ => exact ⟨rfl, .inl rfl⟩
  | answered _ h =>
      cases h with
      | done _ heffect =>
          obtain ⟨hselected, hmail⟩ := hc heffect
          exact ⟨hselected, .inr hmail⟩
      | refused _ _ => exact ⟨hselect _, .inl rfl⟩
      | unheard _ h =>
          refine ⟨rfl, ?_⟩
          rcases h with rfl | ⟨-, selected', heffect⟩
          · exact .inl rfl
          · exact .inr (hc heffect).2

theorem Serves.store {set : String} {reply : (ImapCommand.uidStoreDeleted set).Reply}
    (h : Serves s ⟨.uidStoreDeleted set, reply⟩ s') : s'.line.selected = s.line.selected ∧
      (s'.mail = s.mail ∨
        ∃ source, s.line.selected = some source ∧ s'.mail = s.mail.modify source (markSet set)) :=
  h.changes_selected Effect.marks fun _ => rfl

theorem Serves.expunge {reply : ImapCommand.expunge.Reply} (h : Serves s ⟨.expunge, reply⟩ s') :
    s'.mail = s.mail ∨
      ∃ source, s.line.selected = some source ∧ s'.mail = s.mail.modify source purge :=
  (h.changes_selected Effect.purges fun _ => rfl).2

end Server

end MailSync
