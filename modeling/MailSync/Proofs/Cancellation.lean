import MailSync.Proofs.Submission
import MailSync.Proofs.Turn

/-!
# A task that is to stop

A task looks at set points whether its worker is to stop, and is given up if
so: before it makes sure of a session, before it uses the session, and
between asking for a token and submitting a message. In between it goes on.
What it can still ask of the outside once the worker is to stop follows from
the number of times it found that it may go on (`Task.Late`,
`Worker.process_late`).
-/

namespace MailSync

open Dialogue

/-- What is asked of the outside. -/
def Request.call? : Request → Option OutsideCall
  | .outside call => some call
  | .inside _ => none

theorem Request.call?_eq_some_iff {q : Request} {call : OutsideCall} :
    q.call? = some call ↔ q = .outside call := by
  cases q <;> simp [call?]

theorem Request.IsInside.call? {q : Request} (h : q.IsInside) : q.call? = none := by
  cases q with
  | outside call => exact h.elim
  | inside call => rfl

/-- A question of a task to its session, which it neither probes nor leaves, or one that is no
call to a session. -/
def Request.InTask (s : SessionId) : Request → Prop
  | .outside (.session id call) => id = s ∧ call ≠ .noop ∧ call ≠ .logout
  | .outside (.store _) | .inside .isForeground => True
  | _ => False

theorem Request.InFolder.inTask {s : SessionId} {q : Request} (h : q.InFolder s) : q.InTask s := by
  cases q with
  | outside call => cases call with
    | session id call =>
        obtain ⟨hid, hfolder⟩ := h
        refine ⟨hid, ?_, ?_⟩
        all_goals
          rintro rfl
          cases hfolder
    | store _ => trivial
    | token | connect _ _ | send _ _ _ => exact h
  | inside call => cases call with
    | isForeground => trivial
    | emit _ | publish _ | release _ | isCancelled => exact h

namespace WorkLog

/-- The calls that were made to the outside, in order. -/
def asked (log : WorkLog) : List OutsideCall := log.filterMap (·.question.call?)

/-- The worker looks whether it is to stop, and is not. -/
def isPass : Exchange Request Request.Reply → Bool
  | ⟨.inside .isCancelled, false⟩ => true
  | _ => false

/-- How often the worker was found not to be told to stop. -/
def passes (log : WorkLog) : Nat := log.countP isPass

/-- What a worker says that is to stop. -/
def Unpassed (log : WorkLog) : Prop := ∀ x ∈ log, isPass x = false

variable {log log' earlier later : WorkLog} {x : Exchange Request Request.Reply}

@[simp] theorem asked_append : asked (log ++ log') = asked log ++ asked log' :=
  List.filterMap_append

@[simp] theorem passes_append : passes (log ++ log') = passes log + passes log' :=
  List.countP_append

theorem isPass_of_inTask {s : SessionId} (h : x.question.InTask s) : isPass x = false := by
  unfold isPass
  split
  · exact h.elim
  · rfl

theorem asked_eq_nil (h : ∀ x ∈ log, x.question.IsInside) : asked log = [] :=
  List.filterMap_eq_nil_iff.mpr fun x hx => (h x hx).call?

theorem Unpassed.passes_eq (h : Unpassed log) : passes log = 0 := by
  rw [passes, List.countP_eq_zero]
  intro x hx
  rw [h x hx]
  exact Bool.false_ne_true

theorem asked_tail_sublist (h : log <:+ log') : (asked log.tail).Sublist (asked log'.tail) := by
  obtain ⟨before, rfl⟩ := h
  refine List.Sublist.filterMap _ ?_
  cases before with
  | nil => exact .refl _
  | cons x before => exact (List.tail_sublist log).trans (List.sublist_append_right before log)

theorem asked_tail_eq_nil (h : log <:+ log') (hinside : ∀ x ∈ log'.tail, x.question.IsInside) :
    asked log.tail = [] :=
  List.sublist_nil.mp (asked_eq_nil hinside ▸ asked_tail_sublist h)

/-- What is said once the worker is to stop comes after every time that it was not. -/
theorem Unpassed.suffix (h : Unpassed later) (hsplit : earlier ++ later = log ++ x :: log')
    (hx : isPass x = true) : later <:+ log' := by
  have hnot : x ∉ later := by
    intro hmem
    rw [h x hmem] at hx
    cases hx
  rcases List.append_eq_append_iff.mp hsplit with ⟨mid, -, rfl⟩ | ⟨mid, -, hmid⟩
  · exact absurd (List.mem_append_right mid List.mem_cons_self) hnot
  · cases mid with
    | nil =>
        rw [List.nil_append] at hmid
        subst hmid
        exact absurd List.mem_cons_self hnot
    | cons y mid =>
        obtain ⟨-, rfl⟩ := List.cons.inj hmid
        exact List.suffix_append mid later

end WorkLog

open WorkLog

namespace Task

/-- What a task can begin to ask of the outside after its worker was told to stop, by what it had
said until then: before the first look at most the token of a submission; between the two looks of
a task in the mailbox at most a login; and after the last look whatever belongs to the task, except
that a submission has begun by then. -/
def Late (p : Profile) (t : Task) (said : WorkLog) (calls : List OutsideCall) : Prop :=
  match t.kind.needsMailbox, passes said with
  | false, 0 => calls.Sublist [.token]
  | false, _ + 1 => calls = []
  | true, 0 => calls = []
  | true, 1 => ∃ token, calls.Sublist [.token, .connect p.email token]
  | true, _ + 2 => ∃ s, ∀ call ∈ calls, Request.InTask s (.outside call)

variable {p : Profile} {t : Task} {c c' : Connection} {said later log : WorkLog}
  {calls calls' : List OutsideCall}

theorem Late.sublist (h : t.Late p said calls) (hcalls : calls'.Sublist calls) :
    t.Late p said calls' := by
  unfold Late at h ⊢
  split at h
  · exact hcalls.trans h
  · exact List.sublist_nil.mp (h ▸ hcalls)
  · exact List.sublist_nil.mp (h ▸ hcalls)
  · obtain ⟨token, h⟩ := h
    exact ⟨token, hcalls.trans h⟩
  · obtain ⟨s, h⟩ := h
    exact ⟨s, fun call hcall => h call (hcalls.subset hcall)⟩

theorem late_nil (p : Profile) (t : Task) (said : WorkLog) : t.Late p said [] := by
  unfold Late
  split
  · exact List.nil_sublist _
  · rfl
  · rfl
  · exact ⟨"", List.nil_sublist _⟩
  · exact ⟨0, nofun⟩

theorem inSession_inTask (p : Profile) (s : SessionId) {kind : TaskKind}
    (h : kind.needsMailbox = true) : (inSession p s kind).run.Asks (Request.InTask s) :=
  inSession_asks_of p s h ⟨rfl, nofun, nofun⟩ (fun _ => ⟨rfl, nofun, nofun⟩) fun _ =>
    Request.InFolder.inTask

/-! ## What is left of a task -/

/-- What is said of a task, from its start until it is settled: the notice of its start, what is
said while it is performed, and how it is settled. What is said after `said` is said by a worker
that is to stop. -/
structure Breaks (said later : WorkLog) (x : Exchange Request Request.Reply)
    (performed settled : WorkLog) : Prop where
  split : said ++ later = x :: (performed ++ settled)
  start : isPass x = false
  inside : ∀ y ∈ settled, y.question.IsInside
  unpassed : Unpassed later

namespace Breaks

variable {x y : Exchange Request Request.Reply} {performed performed' settled : WorkLog}

/-- Once the task is settled, nothing is left to ask. -/
theorem asked_of_settled (h : Breaks said later x performed settled) (hsettled : ¬ Unpassed settled) :
    asked later.tail = [] := by
  obtain ⟨y, hy, hpass⟩ : ∃ y ∈ settled, isPass y = true := by
    simpa [Unpassed] using hsettled
  obtain ⟨before, after, rfl⟩ := List.append_of_mem hy
  have hsplit : said ++ later = (x :: (performed ++ before)) ++ y :: after := by
    rw [h.split, List.cons_append, List.append_assoc]
  refine asked_tail_eq_nil (h.unpassed.suffix hsplit hpass) fun z hz => h.inside z ?_
  exact List.mem_append_right _ (List.mem_cons_of_mem _ (List.mem_of_mem_tail hz))

theorem passes_said (h : Breaks said later x performed settled) (hsettled : Unpassed settled) :
    passes said = passes performed := by
  have hpasses := congrArg passes h.split
  have hstart : Unpassed [x] := List.forall_mem_singleton.mpr h.start
  rw [← List.singleton_append, passes_append, passes_append, passes_append, h.unpassed.passes_eq,
    hstart.passes_eq, hsettled.passes_eq] at hpasses
  omega

/-- What is said late follows each time that the worker could go on. -/
theorem suffix (h : Breaks said later x (performed ++ y :: performed') settled)
    (hpass : isPass y = true) : later <:+ performed' ++ settled := by
  have hsplit : said ++ later = (x :: performed) ++ y :: (performed' ++ settled) := by
    rw [h.split, List.append_assoc, List.cons_append, List.cons_append]
  exact h.unpassed.suffix hsplit hpass

end Breaks

theorem Submits.late {raw : Bytes} {performed settled : WorkLog} {x : Exchange Request Request.Reply}
    (h : Submits p raw performed) (hkind : t.kind.needsMailbox = false)
    (hbreaks : Breaks said later x performed settled) (hsettled : Unpassed settled) :
    t.Late p said (asked later.tail) := by
  have hinside : asked settled = [] := asked_eq_nil hbreaks.inside
  have hwhole : (asked later.tail).Sublist (asked performed) := by
    have hsublist := asked_tail_sublist ⟨said, hbreaks.split⟩
    rwa [List.tail_cons, asked_append, hinside, List.append_nil] at hsublist
  rw [Late, hkind, hbreaks.passes_said hsettled]
  cases h with
  | refused e | stopped token => exact hwhole
  | sent token reply =>
      have hbreaks : Breaks said later x ([⟨.outside .token, .ok token⟩] ++
        ⟨.inside .isCancelled, false⟩ :: [⟨.outside (.send p.email token raw), reply⟩]) settled := hbreaks
      exact asked_tail_eq_nil (hbreaks.suffix rfl) hbreaks.inside

/-- After its first question, making sure of a session asks for a token and a session at most. -/
theorem ensuring_asked {made : WorkLog} {ensured : Connection.Ensured}
    (h : Connection.Ensuring p.email (t.note .connecting) c made ensured) :
    Unpassed made ∧ ∃ y rest token, made = y :: rest ∧
      (asked rest).Sublist [.token, .connect p.email token] := by
  cases h with
  | alive id => exact ⟨by simp [Unpassed, isPass], _, [], "", rfl, List.nil_sublist _⟩
  | @reopened _ lost noticed tried o hlost hnoticed htried =>
      obtain rfl := holds_note_iff.mp hnoticed
      have htried : Unpassed tried ∧ ∃ token,
          (asked tried).Sublist [.token, .connect p.email token] := by
        cases htried with
        | refused e => exact ⟨by simp [Unpassed, isPass], "", (List.nil_sublist _).cons_cons _⟩
        | rejected token e => exact ⟨by simp [Unpassed, isPass], token, .refl _⟩
        | opened token id => exact ⟨by simp [Unpassed, isPass], token, .refl _⟩
      obtain ⟨hunpassed, token, hasked⟩ := htried
      cases hlost with
      | none => exact ⟨List.forall_mem_cons.mpr ⟨rfl, hunpassed⟩, _, tried, token, rfl, hasked⟩
      | dead id e =>
          refine ⟨?_, _, _, token, rfl, hasked⟩
          exact List.forall_mem_cons.mpr ⟨rfl, List.forall_mem_cons.mpr
            ⟨rfl, List.forall_mem_cons.mpr ⟨rfl, hunpassed⟩⟩⟩

/-- A task in the mailbox that was stopped before it used a session. -/
theorem Breaks.late_of_login {made told settled : WorkLog} {ensured : Connection.Ensured}
    {x : Exchange Request Request.Reply}
    (h : Breaks said later x (⟨.inside .isCancelled, false⟩ :: (made ++ told)) settled)
    (hmailbox : t.kind.needsMailbox = true)
    (hmade : Connection.Ensuring p.email (t.note .connecting) c made ensured)
    (htold : ∀ y ∈ told, y.question.IsInside) (hunpassed : Unpassed told)
    (hsettled : Unpassed settled) : t.Late p said (asked later.tail) := by
  obtain ⟨hmade, y, rest, token, rfl, hasked⟩ := ensuring_asked hmade
  have hpasses : passes said = 1 := by
    rw [h.passes_said hsettled, ← List.singleton_append, passes_append, passes_append,
      hmade.passes_eq, hunpassed.passes_eq]
    rfl
  have hsuffix : later <:+ y :: (rest ++ told) ++ settled := by
    rw [← List.nil_append (_ :: _)] at h
    exact h.suffix rfl
  rw [Late, hmailbox, hpasses]
  refine ⟨token, (asked_tail_sublist hsuffix).trans ?_⟩
  rw [List.cons_append, List.tail_cons, asked_append, asked_append, asked_eq_nil htold,
    asked_eq_nil h.inside, List.append_nil, List.append_nil]
  exact hasked

/-- A task in the mailbox that was stopped after it could use its session. -/
theorem Breaks.late_of_session {before worked settled : WorkLog}
    {x : Exchange Request Request.Reply} {s : SessionId}
    (h : Breaks said later x (before ++ ⟨.inside .isCancelled, false⟩ :: worked) settled)
    (hmailbox : t.kind.needsMailbox = true) (hbefore : passes before = 1)
    (hworked : ∀ y ∈ worked, y.question.InTask s) (hsettled : Unpassed settled) :
    t.Late p said (asked later.tail) := by
  have hunpassed : Unpassed worked := fun y hy => isPass_of_inTask (hworked y hy)
  have hpasses : passes said = 2 := by
    rw [h.passes_said hsettled, ← List.singleton_append, passes_append, passes_append, hbefore,
      hunpassed.passes_eq]
    rfl
  rw [Late, hmailbox, hpasses]
  refine ⟨s, fun call hcall => ?_⟩
  have hlater : (asked later.tail).Sublist (asked worked) := by
    have hsublist := ((List.tail_sublist later).trans (h.suffix rfl).sublist).filterMap
      (·.question.call?)
    rwa [← asked, ← asked, asked_append, asked_eq_nil h.inside, List.append_nil] at hsublist
  obtain ⟨y, hy, hquestion⟩ := List.mem_filterMap.mp (hlater.subset hcall)
  rw [← Request.call?_eq_some_iff.mp hquestion]
  exact hworked y hy

theorem OpensSession.late {opened worked settled : WorkLog} {x : Exchange Request Request.Reply}
    {session : Except MailError SessionId} (h : OpensSession p t c opened (session, c'))
    (hmailbox : t.kind.needsMailbox = true)
    (hworked : ∀ y ∈ worked, ∃ s, session = .ok s ∧ y.question.InTask s)
    (hbreaks : Breaks said later x (opened ++ worked) settled) (hsettled : Unpassed settled) :
    t.Late p said (asked later.tail) := by
  have hnone : ∀ e, session = .error e → worked = [] := by
    rintro e rfl
    refine List.eq_nil_iff_forall_not_mem.mpr fun y hy => ?_
    obtain ⟨s, hs, -⟩ := hworked y hy
    cases hs
  generalize ho : (session, c') = o at h
  cases h with
  | stopped =>
      cases ho
      obtain rfl := hnone _ rfl
      have hinside : ∀ y ∈ (⟨.inside .isCancelled, true⟩ :: settled : WorkLog), y.question.IsInside :=
        List.forall_mem_cons.mpr ⟨trivial, hbreaks.inside⟩
      rw [asked_tail_eq_nil ⟨said, hbreaks.split⟩ hinside]
      exact late_nil ..
  | failed hmade he =>
      cases ho
      obtain rfl := hnone _ rfl
      rw [List.append_nil, ← List.append_nil (_ :: _)] at hbreaks
      exact hbreaks.late_of_login hmailbox hmade (List.forall_mem_nil _) (List.forall_mem_nil _) hsettled
  | @made made ensured id stopped hmade hid =>
      cases ho
      generalize htold : (if ensured.reopened then
        [⟨.inside (.emit (t.progressed .connected)), ()⟩] else [] : WorkLog) = told at hbreaks
      have htold : Unpassed told ∧ ∀ y ∈ told, y.question.IsInside := by
        subst htold
        cases ensured.reopened <;> simp [Unpassed, isPass, Request.IsInside]
      cases stopped with
      | true =>
          obtain rfl := hnone _ rfl
          rw [List.append_nil] at hbreaks
          refine hbreaks.late_of_login hmailbox hmade ?_ ?_ hsettled
          · exact List.forall_mem_append.mpr ⟨htold.2, List.forall_mem_singleton.mpr trivial⟩
          · exact List.forall_mem_append.mpr ⟨htold.1, List.forall_mem_singleton.mpr rfl⟩
      | false =>
          have hbreaks : Breaks said later x ((⟨.inside .isCancelled, false⟩ :: (made ++ told)) ++
              ⟨.inside .isCancelled, false⟩ :: worked) settled := by
            simpa using hbreaks
          have hbefore : passes (⟨.inside .isCancelled, false⟩ :: (made ++ told)) = 1 := by
            rw [← List.singleton_append, passes_append, passes_append,
              (ensuring_asked hmade).1.passes_eq, htold.1.passes_eq]
            rfl
          refine hbreaks.late_of_session (s := id) hmailbox hbefore (fun y hy => ?_) hsettled
          obtain ⟨s, hs, hasked⟩ := hworked y hy
          cases hs
          exact hasked

end Task

/-- Whatever was said of a task before its worker was told to stop, what it asks of the outside
after the question that it was at is at most what `Task.Late` says. -/
theorem Worker.process_late {p : Profile} {t : Task} {c c' : Connection} {said later : WorkLog}
    (h : Holds (Worker.process p t c) (said ++ later) c') (hlater : Unpassed later) :
    t.Late p said (asked later.tail) := by
  obtain ⟨u, hplays, rfl, rfl, hlog, rfl⟩ := Worker.process_turn h
  have hbreaks : Task.Breaks said later ⟨.inside (.emit (u.task.progressed .taskStarted)), ()⟩
      u.performed u.settled := ⟨hlog.symm, rfl, hplays.settles_inside, hlater⟩
  by_cases hsettled : Unpassed u.settled
  · cases hmailbox : u.task.kind.needsMailbox with
    | false =>
        obtain ⟨raw, hkind⟩ := Task.needsMailbox_eq_false hmailbox
        have hsubmits := Task.sendMessage_log (Task.perform_send hkind hplays.performs).1
        exact hsubmits.late hmailbox hbreaks hsettled
    | true =>
        obtain ⟨opened, worked, session, c', hperformed, hopened, hworked⟩ :=
          Task.perform_log hmailbox hplays.performs
        rw [hperformed] at hbreaks
        refine (Task.openSession_log hopened).late hmailbox (fun y hy => ?_) hbreaks hsettled
        rcases hworked with ⟨e, -, rfl, -⟩ | ⟨s, hs, hworked, -⟩
        · cases hy
        · exact ⟨s, hs, (Task.inSession_inTask p s hmailbox).of_holds hworked y hy⟩
  · rw [hbreaks.asked_of_settled hsettled]
    exact Task.late_nil ..

end MailSync
