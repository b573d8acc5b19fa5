import MailSync.Proofs.Routine

/-!
# Submissions

What is said for a submission is a token, a last look whether the worker is to
stop, and the message (`Task.Submits`). So of one task at most one message is
submitted (`Worker.process_submissions`): the mailbox tasks have no part that
submits, and the task that does so has one, which comes last.
-/

namespace MailSync

open Dialogue

/-- The messages that were handed to the submission server, whatever came of it. -/
def WorkLog.submissions (log : WorkLog) : List Bytes :=
  log.filterMap fun x => match x.question with
    | .outside (.send _ _ raw) => some raw
    | _ => none

/-- A question that submits nothing. -/
def Request.SendsNothing : Request → Prop
  | .outside (.send _ _ _) => False
  | _ => True

theorem Request.IsMailbox.sendsNothing {q : Request} (h : q.IsMailbox) : q.SendsNothing := by
  unfold Request.SendsNothing
  split
  · exact h
  · trivial

theorem Request.IsInside.sendsNothing {q : Request} (h : q.IsInside) : q.SendsNothing := by
  cases q with
  | outside call => exact h.elim
  | inside call => trivial

theorem Request.IsRoutine.sendsNothing {q : Request} (h : q.IsRoutine) : q.SendsNothing := by
  unfold Request.SendsNothing
  split
  · exact h
  · trivial

@[simp] theorem WorkLog.submissions_append {log log' : WorkLog} :
    submissions (log ++ log') = submissions log ++ submissions log' := List.filterMap_append

theorem WorkLog.submissions_eq_nil {log : WorkLog} (h : ∀ x ∈ log, x.question.SendsNothing) :
    submissions log = [] := by
  refine List.filterMap_eq_nil_iff.mpr fun x hx => ?_
  have hnothing := h x hx
  split
  next heq =>
    rw [heq] at hnothing
    exact hnothing.elim
  · rfl

namespace Task

variable {p : Profile} {t : Task} {c : Connection} {log : WorkLog}

theorem checkCancelled_log {o : Except MailError Unit}
    (h : Holds Trial.checkCancelled.run log o) : ∃ stopped,
      log = [⟨.inside .isCancelled, stopped⟩] ∧ o = if stopped then .error .cancelled else .ok () := by
  obtain ⟨stopped, rest, rfl, hrest⟩ := (holds_ask_iff (q := Request.inside .isCancelled)).mp h
  cases stopped with
  | true | false =>
      obtain ⟨rfl, rfl⟩ := holds_pure_iff.mp hrest
      exact ⟨_, rfl, rfl⟩

/-- The conversation of a submission: no token, a worker that is to stop, or a message that is
handed over. -/
inductive Submits (p : Profile) (raw : Bytes) : WorkLog → Prop where
  | refused (e : MailError) : Submits p raw [⟨.outside .token, .error e⟩]
  | stopped (token : String) :
    Submits p raw [⟨.outside .token, .ok token⟩, ⟨.inside .isCancelled, true⟩]
  | sent (token : String) (reply : Except MailError Unit) : Submits p raw
      [⟨.outside .token, .ok token⟩, ⟨.inside .isCancelled, false⟩,
        ⟨.outside (.send p.email token raw), reply⟩]

theorem sendMessage_log {raw : Bytes} {o : Except MailError Report}
    (h : Holds (sendMessage p raw).run log o) : Submits p raw log := by
  rcases Attempt.holds_bind_iff.mp h with ⟨e, htoken, -⟩ | ⟨asked, log₁, token, rfl, htoken, h₁⟩
  · obtain rfl := Trial.holds_outside_iff.mp htoken
    exact .refused e
  obtain rfl := Trial.holds_outside_iff.mp htoken
  rcases Attempt.holds_bind_iff.mp h₁ with ⟨e, hchecked, -⟩ | ⟨checked, log₂, _, rfl, hchecked, h₂⟩
  · obtain ⟨stopped, rfl, ho⟩ := checkCancelled_log hchecked
    cases stopped with
    | true => exact .stopped token
    | false => cases ho
  obtain ⟨stopped, rfl, ho⟩ := checkCancelled_log hchecked
  cases stopped with
  | true => cases ho
  | false =>
      obtain ⟨sent, hsent, -⟩ := Attempt.holds_map_iff.mp h₂
      obtain rfl := Trial.holds_outside_iff.mp hsent
      exact .sent token sent

/-- A message is submitted last of all, so at most once. -/
theorem sendMessage_submissions {raw : Bytes} {o : Except MailError Report}
    (h : Holds (sendMessage p raw).run log o) :
    WorkLog.submissions log = [] ∨ WorkLog.submissions log = [raw] := by
  cases sendMessage_log h with
  | refused e | stopped token => exact .inl rfl
  | sent token reply => exact .inr rfl

end Task

/-- Of one task at most one message is submitted, which is that of the task. -/
theorem Worker.process_submissions {p : Profile} {t : Task} {c c' : Connection} {log : WorkLog}
    (h : Holds (Worker.process p t c) log c') :
    WorkLog.submissions log = [] ∨ ∃ raw, t.kind = .send raw ∧ WorkLog.submissions log = [raw] := by
  obtain ⟨performed, settled, outcome, ending, rfl, ⟨c₁, hperformed, hsettled⟩, -⟩ :=
    Worker.process_tells h
  have hsettled : WorkLog.submissions settled = [] :=
    WorkLog.submissions_eq_nil fun x hx =>
      ((t.settle_asks outcome c₁).of_holds hsettled x hx).sendsNothing
  show WorkLog.submissions (performed ++ settled) = [] ∨ ∃ raw, t.kind = .send raw ∧
    WorkLog.submissions (performed ++ settled) = [raw]
  rw [WorkLog.submissions_append, hsettled, List.append_nil]
  cases hmailbox : t.kind.needsMailbox with
  | false =>
      obtain ⟨raw, hkind⟩ := Task.needsMailbox_eq_false hmailbox
      refine (Task.sendMessage_submissions (Task.perform_send hkind hperformed).1).imp_right ?_
      exact fun hraw => ⟨raw, hkind, hraw⟩
  | true =>
      obtain ⟨opened, rest, session, c', rfl, hopened, hrest⟩ := Task.perform_log hmailbox hperformed
      refine .inl (WorkLog.submissions_eq_nil fun x hx => ?_)
      rcases List.mem_append.mp hx with hx | hx
      · exact ((Task.openSession_asks p t c).of_holds hopened x hx).sendsNothing
      · obtain ⟨e, -, rfl, -⟩ | ⟨id, -, hworked, -⟩ := hrest
        · cases hx
        · exact ((Task.inSession_asks p id hmailbox).of_holds hworked x hx).sendsNothing

end MailSync
