import MailSync.Live.Account
import MailSync.Proofs.Dialogue

/-!
# One command, one answer

Every command of a session is one line with one answer, and its outcome is
read off the whole answer (`ImapClient.perform_eq`). How a command ended is
looked at by some readings only (`ImapCommand.read`): UID COPY and LOGOUT
check it, SELECT looks for a refusal, and all others take any ending for
success. A call of a session is made of such commands
(`LiveAccount.call_commands`).
-/

namespace MailSync

open Dialogue

namespace ImapAnswer

variable {a : ImapAnswer}

/-- A command that is found to have ended well did. -/
theorem ending_of_check (h : a.check = .ok ()) : ∃ text, a.ending = some (.ok, text) := by
  rw [check] at h
  cases hitems : a.readable with
  | error e =>
      rw [hitems] at h
      cases h
  | ok items =>
      rw [hitems] at h
      cases hending : a.ending with
      | none =>
          simp only [hending] at h
          cases h
      | some ending =>
          obtain ⟨status, text⟩ := ending
          simp only [hending] at h
          cases status with
          | ok => exact ⟨text, rfl⟩
          | no | bad | preauth | bye => cases h

/-- A folder is not found to be selected if the command was refused. -/
theorem mailbox_ne_ok {status : ServerStatus} {text : StatusText} {s : MailboxStatus}
    (hending : a.ending = some (status, text)) (hstatus : status = .no ∨ status = .bad) :
    a.mailbox ≠ .ok s := by
  intro h
  rw [mailbox] at h
  cases hdescribed : (a.items.foldlM (fun s r => r >>= describe s) ⟨0, none, none⟩ :
      Except ImapError MailboxStatus) with
  | error e =>
      rw [hdescribed] at h
      cases h
  | ok s' =>
      rw [hdescribed] at h
      simp only [hending] at h
      rcases hstatus with rfl | rfl <;> cases h

end ImapAnswer

namespace ImapCommand

/-- The line that a command is sent as; not every folder can be named in a line. -/
def line : ImapCommand → Except ImapError String
  | .noop => return "NOOP"
  | .list => return "LIST \"\" *"
  | .select folder => return "SELECT " ++ (← ImapClient.quoted folder)
  | .uidSearch query => return "UID SEARCH " ++ query
  | .uidFetch set query => return "UID FETCH " ++ set ++ " " ++ query.text
  | .uidCopy set folder => return "UID COPY " ++ set ++ " " ++ (← ImapClient.quoted folder)
  | .uidStoreDeleted set => return "UID STORE " ++ set ++ " +FLAGS.SILENT (\\Deleted)"
  | .expunge => return "EXPUNGE"
  | .logout => return "LOGOUT"

/-- The outcome of a command, as it is read off its answer. -/
def read : (c : ImapCommand) → ImapAnswer → c.Reply
  | .noop, a => a.readable.map fun _ => ()
  | .list, a => .ok a.folders
  | .select _, a => a.mailbox
  | .uidSearch _, a => a.found
  | .uidFetch _ _, a => .ok a.fetched
  | .uidCopy _ _, a | .logout, a => a.check
  | .uidStoreDeleted _, _ | .expunge, _ => .ok ()

end ImapCommand

namespace ImapClient

/-- A folder can be named in a line if its name is one line. -/
theorem quoted_ok {text : String} (hfeed : text.contains '\n' = false)
    (hreturn : text.contains '\r' = false) : ∃ line, quoted text = .ok line := by
  rw [quoted, hfeed, hreturn]
  exact ⟨_, rfl⟩

theorem settle_ok {α : Type} (a : α) : settle (.ok a) = pure a := rfl

theorem settle_pure {α : Type} (a : α) : settle (pure a) = pure a := rfl

theorem settle_bind {α β : Type} (x : Except ImapError α) (f : α → Except ImapError β) :
    settle (x >>= f) = settle x >>= fun a => settle (f a) := by
  cases x with
  | ok a => rfl
  | error e => rfl

/-- A command is one exchange, whose answer is read as a whole. -/
theorem perform_eq (c : ImapCommand) : perform c = (do
    let text ← settle c.line
    settle (c.read (← exchange text))) := by
  have plain : ∀ {text : String}, c.line = .ok text →
      perform c = (do settle (c.read (← exchange text))) →
        perform c = (do
          let text ← settle c.line
          settle (c.read (← exchange text))) := by
    intro text hline hperform
    rw [hline, settle_ok, pure_bind, hperform]
  cases c with
  | noop =>
      refine plain rfl ?_
      rw [perform]
      refine bind_congr fun a => ?_
      rw [ImapCommand.read]
      cases a.readable with
      | ok _ => rfl
      | error _ => rfl
  | list | uidSearch _ | uidFetch _ _ | uidStoreDeleted _ | expunge | logout =>
      refine plain rfl ?_
      rw [perform]
      rfl
  | select folder | uidCopy _ folder =>
      rw [perform, ImapCommand.line, settle_bind, LawfulMonad.bind_assoc]
      refine bind_congr fun text => ?_
      rw [settle_pure, pure_bind]
      rfl

/-- What comes of a command: nothing is sent if it has no line, else its answer is read. -/
theorem holds_perform_iff {c : ImapCommand} {client client' : ImapClient} {reply : c.Reply}
    {log : List (Exchange NetworkCall NetworkCall.Reply)} :
    Holds ((perform c).run.run client) log (reply, client') ↔
      (∃ e, c.line = .error e ∧ log = [] ∧ reply = .error e ∧ client' = client) ∨
      ∃ text answer, c.line = .ok text ∧
        Holds ((exchange text).run.run client) log (answer, client') ∧
        reply = answer.bind c.read := by
  rw [perform_eq]
  cases hline : c.line with
  | error e =>
      show Holds (pure (.error e, client)) log (reply, client') ↔ _
      rw [holds_pure_iff]
      simp
  | ok text =>
      rw [settle_ok, pure_bind, ExceptT.run_bind, StateT.run_bind, holds_bind_iff]
      constructor
      · rintro ⟨before, after, ⟨answer, client₁⟩, rfl, hexchange, hread⟩
        obtain ⟨rfl, hreply⟩ : after = [] ∧ (reply, client') = (answer.bind c.read, client₁) := by
          cases answer with
          | ok a => exact holds_pure_iff.mp hread
          | error e => exact holds_pure_iff.mp hread
        cases hreply
        rw [List.append_nil]
        exact .inr ⟨text, answer, rfl, hexchange, rfl⟩
      · rintro (⟨e, he, -⟩ | ⟨text', answer, htext, hexchange, rfl⟩)
        · cases he
        · cases htext
          refine ⟨log, [], (answer, client'), (List.append_nil log).symm, hexchange, ?_⟩
          cases answer with
          | ok a => exact holds_pure_iff.mpr ⟨rfl, rfl⟩
          | error e => exact holds_pure_iff.mpr ⟨rfl, rfl⟩

end ImapClient

/-! ## Calls -/

/-- Where the questions of a dialogue are answered by other dialogues, it is held with what these
come to. -/
theorem Dialogue.holds_of_runM {Q Q' σ α : Type} {R : Q → Type} {R' : Q' → Type}
    {answer : (q : Q) → StateT σ (Dialogue Q' R') (R q)} {d : Dialogue Q R α} {s s' : σ}
    {log : List (Exchange Q' R')} {a : α} (h : Holds ((d.runM answer).run s) log (a, s')) :
    ∃ exchanges, Holds d exchanges a ∧
      ∀ x ∈ exchanges, ∃ s log s', Holds ((answer x.question).run s) log (x.reply, s') := by
  induction d generalizing s log with
  | done a' =>
      rw [runM, StateT.run_pure] at h
      obtain ⟨-, heq⟩ := holds_pure_iff.mp h
      cases heq
      exact ⟨[], .done _, fun x hx => absurd hx List.not_mem_nil⟩
  | ask q next ih =>
      rw [runM, StateT.run_bind] at h
      obtain ⟨before, after, ⟨r, s₁⟩, rfl, hanswer, hrest⟩ := holds_bind_iff.mp h
      obtain ⟨exchanges, hheld, hexchanges⟩ := ih r hrest
      exact ⟨⟨q, r⟩ :: exchanges, .ask hheld,
        List.forall_mem_cons.mpr ⟨⟨s, before, s₁, hanswer⟩, hexchanges⟩⟩

/-- A call of a session is a conversation of commands, each sent as its line and read off its
answer. -/
theorem LiveAccount.call_commands {id : SessionId} {c : SessionCall} {reply : c.Reply}
    {a a' : LiveAccount} {client : ImapClient} {log : List (Exchange NetworkCall NetworkCall.Reply)}
    (hclient : a.clients[id]? = some client) (h : Holds ((call id c).run a) log (reply, a')) :
    ∃ commands, Holds (ImapMailbox.perform c).run commands reply ∧
      ∀ x ∈ commands, (∃ e, x.question.line = .error e ∧ x.reply = .error e) ∨
        ∃ text, ∃ answer : Except ImapError ImapAnswer, x.question.line = .ok text ∧
          x.reply = answer.bind x.question.read := by
  rw [call, StateT.run_bind, StateT.run_get, pure_bind, hclient] at h
  simp only [StateT.run_bind, StateT.run_monadLift, monadLift_self] at h
  obtain ⟨held, rest, ⟨⟨reply', client'⟩, a₁⟩, rfl, hheld, hrest⟩ := holds_bind_iff.mp h
  obtain ⟨talked, nothing, ⟨reply'', client''⟩, rfl, htalked, hnothing⟩ := holds_bind_iff.mp hheld
  obtain ⟨-, heq⟩ := holds_pure_iff.mp hnothing
  cases heq
  obtain ⟨-, heq⟩ := holds_pure_iff.mp hrest
  cases heq
  obtain ⟨commands, hperformed, hcommands⟩ := holds_of_runM htalked
  refine ⟨commands, hperformed, fun x hx => ?_⟩
  obtain ⟨s, log, s', hx⟩ := hcommands x hx
  obtain ⟨e, hline, -, hreply, -⟩ | ⟨text, answer, hline, -, hreply⟩ := ImapClient.holds_perform_iff.mp hx
  · exact .inl ⟨e, hline, hreply⟩
  · exact .inr ⟨text, answer, hline, hreply⟩

end MailSync
