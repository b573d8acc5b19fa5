import MailSync.Proofs.Selection

/-!
# One task and the connection

A task is performed and then settled. What it asks of the outside depends on
the connection it finds (`Connection.Reaches`): without a session it logs in
before anything else, and with one it probes the session and logs in only if
the probe fails. Settling keeps the connection as it is, unless the login
turned out not to work (`Task.Settling`).

A `Turn` is a task with both parts of its conversation, and with the
connection before, when the outcome arose, and after.
-/

namespace MailSync

open Dialogue WorkLog

/-! ## Calls -/

def Request.isOutside : Request → Bool
  | .outside _ => true
  | .inside _ => false

theorem Request.IsInside.isOutside {q : Request} (h : q.IsInside) : q.isOutside = false := by
  cases q with
  | outside call => exact h.elim
  | inside call => rfl

namespace WorkLog

/-- What is asked of the outside. -/
def calls (log : WorkLog) : WorkLog := log.filter (·.question.isOutside)

variable {log log' : WorkLog}

@[simp] theorem calls_append : calls (log ++ log') = calls log ++ calls log' :=
  List.filter_append ..

theorem calls_eq_nil (h : ∀ x ∈ log, x.question.IsInside) : calls log = [] := by
  rw [calls, List.filter_eq_nil_iff]
  intro x hx
  rw [(h x hx).isOutside]
  exact Bool.false_ne_true

/-- What is read off the calls alone can be read off all that is said. -/
theorem filterMap_calls {α : Type} {f : Exchange Request Request.Reply → Option α}
    (hf : ∀ x, x.question.isOutside = false → f x = none) :
    (calls log).filterMap f = log.filterMap f := by
  rw [calls, List.filterMap_filter]
  congr 1
  funext x
  split
  · rfl
  next hx => exact (hf x (Bool.eq_false_iff.mpr hx)).symm

theorem probes_calls : probes (calls log) = probes log := filterMap_calls fun x hx => by
  split
  · cases hx
  · rfl

theorem tokens_calls : tokens (calls log) = tokens log := filterMap_calls fun x hx => by
  split
  · cases hx
  · rfl

theorem connects_calls : connects (calls log) = connects log := filterMap_calls fun x hx => by
  split
  · cases hx
  · rfl

end WorkLog

/-- A call that is made with a session: to the session and no probe, or to the store. -/
def Request.Uses (s : SessionId) : Request → Prop
  | .outside (.session id call) => id = s ∧ call ≠ .noop
  | .outside (.store _) => True
  | _ => False

theorem Request.Uses.of_asked {s : SessionId} {q : Request} (hon : q.OnSession s)
    (hmailbox : q.IsMailbox) (houtside : q.isOutside = true) : q.Uses s := by
  cases q with
  | outside call => cases call with
    | session _ _ => exact hon
    | store _ => trivial
    | token | connect _ _ | send _ _ _ => exact hmailbox.elim
  | inside call => cases houtside

namespace Connection

/-- The calls of a login, and of what is then done with the session: a token is asked for, with a
token a session, and what follows is asked of no session but the one that was opened. -/
inductive LogsIn (email : String) : WorkLog → Prop where
  | refused (e : MailError) : LogsIn email [⟨.outside .token, .error e⟩]
  | rejected (token : String) (e : MailError) : LogsIn email
      [⟨.outside .token, .ok token⟩, ⟨.outside (.connect email token), .error e⟩]
  | opened (token : String) (s : SessionId) {rest : WorkLog} (h : ∀ x ∈ rest, x.question.Uses s) :
    LogsIn email
      (⟨.outside .token, .ok token⟩ :: ⟨.outside (.connect email token), .ok s⟩ :: rest)

/-- The calls of a task in the mailbox, by the connection it finds: with no session it logs in;
a session that is held is probed first of all, and only if it is dead is there a login. -/
inductive Reaches (email : String) : Connection → WorkLog → Prop where
  | fresh {log : WorkLog} (h : LogsIn email log) : Reaches email closed log
  | alive (s : SessionId) {rest : WorkLog} (h : ∀ x ∈ rest, x.question.Uses s) :
    Reaches email ⟨some s⟩ (⟨.outside (.session s .noop), .ok ()⟩ :: rest)
  | dead (s : SessionId) (e : MailError) {rest : WorkLog} (h : LogsIn email rest) :
    Reaches email ⟨some s⟩ (⟨.outside (.session s .noop), .error e⟩ :: rest)

/-- Whether a task needed another session and could ask for one: it found none, or one that failed
its probe, and it obtained a token. -/
def renews (c : Connection) (log : WorkLog) : Bool :=
  (c.session.isNone || (probes log).any fun probe => !probe.2.isOk) && (tokens log).any (·.isOk)

section Reaching

variable {email : String} {notice : Work Unit} {c : Connection} {ensured : Ensured}
  {log rest tried : WorkLog} {o : Except MailError SessionId} {s : SessionId}

/-- What is done with a session asks for no other. -/
theorem seen_of_uses (h : ∀ x ∈ rest, x.question.Uses s) :
    probes rest = [] ∧ tokens rest = [] ∧ connects rest = [] := by
  refine ⟨List.filterMap_eq_nil_iff.mpr ?_, List.filterMap_eq_nil_iff.mpr ?_,
    List.filterMap_eq_nil_iff.mpr ?_⟩
  all_goals
    intro x hx
    have huses := h x hx
    split
  · exact absurd rfl huses.2
  · rfl
  · exact huses.elim
  · rfl
  · exact huses.elim
  · rfl

theorem Opening.logsIn (h : Opening email tried o)
    (hrest : ∀ x ∈ rest, ∃ s, o = .ok s ∧ x.question.Uses s) :
    LogsIn email (calls tried ++ rest) := by
  have hnone : (∀ s, o ≠ .ok s) → rest = [] := by
    intro ho
    refine List.eq_nil_iff_forall_not_mem.mpr fun x hx => ?_
    obtain ⟨s, hs, -⟩ := hrest x hx
    exact ho s hs
  cases h with
  | refused e =>
      rw [hnone nofun]
      exact .refused e
  | rejected token e =>
      rw [hnone nofun]
      exact .rejected token e
  | opened token id =>
      refine .opened token id fun x hx => ?_
      obtain ⟨s, hs, huses⟩ := hrest x hx
      cases hs
      exact huses

theorem Ensuring.reaches (h : Ensuring email notice c log ensured)
    (hnotice : notice.Asks Request.IsInside)
    (hrest : ∀ x ∈ rest, ∃ s, ensured.session = .ok s ∧ x.question.Uses s) :
    Reaches email c (calls log ++ rest) := by
  cases h with
  | alive id =>
      refine .alive id fun x hx => ?_
      obtain ⟨s, hs, huses⟩ := hrest x hx
      cases hs
      exact huses
  | @reopened _ lost noticed tried o hlost hnoticed htried =>
      have hlogin : LogsIn email (calls (noticed ++ tried) ++ rest) := by
        rw [calls_append, calls_eq_nil (hnotice.of_holds hnoticed), List.nil_append]
        exact htried.logsIn hrest
      rw [calls_append, List.append_assoc]
      cases hlost with
      | none => exact .fresh hlogin
      | dead id e => exact .dead id e hlogin

/-- A login asks for one token, and with a token for one session. -/
theorem LogsIn.seen (h : LogsIn email log) : probes log = [] ∧
    ((∃ e, tokens log = [.error e] ∧ connects log = []) ∨
      ∃ token reply, tokens log = [.ok token] ∧ connects log = [(email, token, reply)]) := by
  cases h with
  | refused e => exact ⟨rfl, .inl ⟨e, rfl, rfl⟩⟩
  | rejected token e => exact ⟨rfl, .inr ⟨token, .error e, rfl, rfl⟩⟩
  | @opened token s rest huses =>
      obtain ⟨hprobes, htokens, hconnects⟩ := seen_of_uses huses
      exact ⟨hprobes, .inr ⟨token, .ok s, congrArg (Except.ok token :: ·) htokens,
        congrArg ((email, token, Except.ok s) :: ·) hconnects⟩⟩

/-- There is a connect exactly where a session was needed and a token was obtained. -/
theorem Reaches.connects (h : c.Reaches email log) :
    WorkLog.connects log = [] ∧ c.renews log = false ∨
      (∃ token reply, WorkLog.connects log = [(email, token, reply)] ∧ .ok token ∈ tokens log) ∧
        c.renews log = true := by
  unfold renews
  cases h with
  | fresh h =>
      obtain ⟨-, ⟨e, htokens, hconnects⟩ | ⟨token, reply, htokens, hconnects⟩⟩ := h.seen
      · exact .inl ⟨hconnects, by simp [htokens, Except.isOk, Except.toBool]⟩
      · refine .inr ⟨⟨token, reply, hconnects, by simp [htokens]⟩, ?_⟩
        simp [closed, htokens, Except.isOk, Except.toBool]
  | @alive s rest huses =>
      obtain ⟨-, htokens, hconnects⟩ := seen_of_uses huses
      have htokens : tokens (⟨.outside (.session s .noop), .ok ()⟩ :: rest) = [] := htokens
      refine .inl ⟨hconnects, ?_⟩
      rw [htokens, List.any_nil, Bool.and_false]
  | @dead s e rest h =>
      have hprobes : probes (⟨.outside (.session s .noop), .error e⟩ :: rest) =
        (s, .error e) :: probes rest := rfl
      have htokens : tokens (⟨.outside (.session s .noop), .error e⟩ :: rest) = tokens rest := rfl
      rw [htokens]
      obtain ⟨-, ⟨e', htokens, hconnects⟩ | ⟨token, reply, htokens, hconnects⟩⟩ := h.seen
      · exact .inl ⟨hconnects, by simp [htokens, Except.isOk, Except.toBool]⟩
      · refine .inr ⟨⟨token, reply, hconnects, by simp [htokens]⟩, ?_⟩
        simp [htokens, hprobes, Except.isOk, Except.toBool]

end Reaching

end Connection

/-! ## What stays as it is -/

theorem Request.IsMailbox.leavesSession {q : Request} (h : q.IsMailbox) : q.LeavesSession := by
  cases q with
  | outside call => cases call with
    | connect _ _ => exact h
    | token | session _ _ | send _ _ _ | store _ => trivial
  | inside call => cases call with
    | publish _ | release _ => exact h
    | emit _ | isCancelled | isForeground => trivial

theorem Request.IsSubmission.leavesSession {q : Request} (h : q.IsSubmission) :
    q.LeavesSession := by
  cases q with
  | outside call => cases call with
    | connect _ _ => exact h
    | token | session _ _ | send _ _ _ | store _ => trivial
  | inside call => cases call with
    | publish _ | release _ => exact h
    | emit _ | isCancelled | isForeground => trivial

namespace WorkLog

variable {log : WorkLog}

theorem connects_of_leavesSession (h : ∀ x ∈ log, x.question.LeavesSession) :
    connects log = [] := by
  refine List.filterMap_eq_nil_iff.mpr fun x hx => ?_
  have hleaves := h x hx
  split
  · exact hleaves.elim
  · rfl

theorem seen_of_leavesSession (h : ∀ x ∈ log, x.question.LeavesSession) :
    states log = [] ∧ opened log = [] ∧ released log = [] := by
  refine ⟨List.filterMap_eq_nil_iff.mpr ?_, ?_, List.filterMap_eq_nil_iff.mpr ?_⟩
  · intro x hx
    have hleaves := h x hx
    split
    · exact hleaves.elim
    · rfl
  · rw [opened, connects_of_leavesSession h, List.filterMap_nil]
  · intro x hx
    have hleaves := h x hx
    split
    · exact hleaves.elim
    · rfl

end WorkLog

namespace Connection.Settled

variable {c : Connection} {past log : WorkLog}

theorem append (h : Settled past c) (hlog : ∀ x ∈ log, x.question.LeavesSession) :
    Settled (past ++ log) c := by
  obtain ⟨hstates, hopened, hreleased⟩ := seen_of_leavesSession hlog
  refine ⟨?_, ?_, ?_⟩
  · rw [published_append_of_nil hstates]
    exact h.connected_iff
  · rw [published_append_of_nil hstates]
    exact h.not_connecting
  · rw [opened_append, released_append, hopened, hreleased, List.append_nil, List.append_nil]
    exact h.opened_eq

end Connection.Settled

/-! ## Performing -/

namespace Task

variable {p : Profile} {t : Task} {c c' : Connection} {past log : WorkLog}

/-- What a task in the mailbox asks of the outside: nothing if the worker is to stop, or what it
takes to reach a session and what is done with it. -/
theorem perform_reaches (hmailbox : t.kind.needsMailbox = true)
    {o : Except MailError Report × Connection} (h : Holds (t.perform p c) log o) :
    (calls log = [] ∧ stopped log = true) ∨ c.Reaches p.email (calls log) := by
  obtain ⟨opening, rest, session, c₁, rfl, hopening, hrest⟩ := perform_log hmailbox h
  -- Whatever follows the opening is done with the session that was given out.
  have huses : ∀ x ∈ calls rest, ∃ s, session = .ok s ∧ x.question.Uses s := by
    intro x hx
    obtain ⟨hx, houtside⟩ := List.mem_filter.mp hx
    rcases hrest with ⟨e, -, rfl, -⟩ | ⟨s, hs, hworked, -⟩
    · cases hx
    · have hon := (inSession_onSession p s t.kind).of_holds hworked x hx
      have hasked := (inSession_asks p s hmailbox).of_holds hworked x hx
      exact ⟨s, hs, .of_asked hon hasked houtside⟩
  have hnotice : (t.note .connecting).Asks Request.IsInside :=
    (t.note_asks .connecting).mono fun _ => Request.IsNotice.isInside
  rw [calls_append]
  generalize ho : (session, c₁) = o₁ at hopening
  cases openSession_log hopening with
  | stopped =>
      cases ho
      rcases hrest with ⟨e, -, rfl, -⟩ | ⟨s, hs, -⟩
      · exact .inl ⟨rfl, rfl⟩
      · cases hs
  | @failed made ensured e hmade he =>
      cases ho
      refine .inr (hmade.reaches hnotice fun x hx => ?_)
      obtain ⟨s, hs, -⟩ := huses x hx
      cases hs
  | @made made ensured id stopped hmade hid =>
      cases ho
      have hcalls : calls ((if ensured.reopened then
          [⟨.inside (.emit (t.progressed .connected)), ()⟩] else []) ++
            [⟨.inside .isCancelled, stopped⟩]) = [] := by
        cases ensured.reopened <;> rfl
      refine .inr ?_
      show c.Reaches p.email (calls (made ++ _) ++ calls rest)
      rw [calls_append, hcalls, List.append_nil]
      refine hmade.reaches hnotice fun x hx => ?_
      obtain ⟨s, hs, hx⟩ := huses x hx
      cases stopped with
      | true => cases hs
      | false =>
          cases hs
          exact ⟨id, hid, hx⟩

theorem openSession_settled {o : Except MailError SessionId × Connection}
    (h : Holds (t.openSession p c) log o) (hsettled : Connection.Settled past c) :
    Connection.Settled (past ++ log) o.2 := by
  have hnotice : (t.note .connecting).Asks fun q => q.ofConnection = false :=
    ⟨rfl, fun _ => trivial⟩
  have hasked : ∀ stopped, Connection.Settled (past ++ [⟨.inside .isCancelled, stopped⟩]) c := by
    intro stopped
    refine hsettled.append fun x hx => ?_
    obtain rfl := List.mem_singleton.mp hx
    trivial
  cases openSession_log h with
  | stopped => exact hasked true
  | failed hmade _ =>
      have hmade := (hasked false).ensure hmade hnotice
      rwa [List.append_assoc] at hmade
  | @made made ensured id stopped hmade _ =>
      have hmade := (hasked false).ensure hmade hnotice
      rw [List.append_assoc] at hmade
      have hlast : ∀ x ∈ ((if ensured.reopened then
          [⟨.inside (.emit (t.progressed .connected)), ()⟩] else []) ++
            [⟨.inside .isCancelled, stopped⟩] : WorkLog), x.question.LeavesSession := by
        cases ensured.reopened <;> simp [Request.LeavesSession]
      have htold := hmade.append hlast
      rwa [List.append_assoc, List.append_assoc] at htold

/-- However a task ends, the connection is as it should be when it does. -/
theorem perform_settled {o : Except MailError Report × Connection}
    (h : Holds (t.perform p c) log o) (hsettled : Connection.Settled past c) :
    Connection.Settled (past ++ log) o.2 := by
  cases hmailbox : t.kind.needsMailbox with
  | false =>
      obtain ⟨raw, hkind⟩ := needsMailbox_eq_false hmailbox
      obtain ⟨hsent, rfl⟩ := perform_send hkind h
      exact hsettled.append fun x hx =>
        ((sendMessage_asks p raw).of_holds hsent x hx).leavesSession
  | true =>
      obtain ⟨opening, rest, session, c', rfl, hopening, hrest⟩ := perform_log hmailbox h
      have hopened := openSession_settled hopening hsettled
      rcases hrest with ⟨e, -, rfl, rfl⟩ | ⟨id, -, hworked, rfl⟩
      · rwa [List.append_nil]
      · rw [← List.append_assoc]
        exact hopened.append fun x hx =>
          ((inSession_asks p id hmailbox).of_holds hworked x hx).leavesSession

theorem Settling.settled {outcome : Except MailError Report} (h : t.Settling outcome c log c')
    (hsettled : Connection.Settled past c) : Connection.Settled (past ++ log) c' := by
  cases h with
  | dropped _ _ hlog =>
      rw [← List.append_assoc]
      refine (hsettled.invalidate hlog).append fun x hx => ?_
      obtain rfl := List.mem_singleton.mp hx
      trivial
  | kept _ hlog => exact hsettled.append hlog

end Task

/-! ## Turns -/

/-- One task, from its start until it is settled. -/
structure Turn where
  task : Task
  before : Connection
  /-- What is said until the outcome arises. -/
  performed : WorkLog
  outcome : Except MailError Report
  /-- The connection when the outcome arises. -/
  held : Connection
  settled : WorkLog
  after : Connection

namespace Turn

/-- All that is said until the outcome arises. -/
def upToOutcome (u : Turn) : WorkLog :=
  ⟨.inside (.emit (u.task.progressed .taskStarted)), ()⟩ :: u.performed

def log (u : Turn) : WorkLog := u.upToOutcome ++ u.settled

/-- A turn that a worker can take. -/
structure Plays (p : Profile) (u : Turn) : Prop where
  performs : Holds (u.task.perform p u.before) u.performed (u.outcome, u.held)
  settles : Holds (u.task.settle u.outcome u.held) u.settled u.after

/-- Whether the task is one in the mailbox that found no session, or one that failed its probe,
and that obtained a token. -/
def reconnects (u : Turn) : Bool := u.task.kind.needsMailbox && u.before.renews u.log

end Turn

/-- Whatever is said of a task is a turn. -/
theorem Worker.process_turn {p : Profile} {t : Task} {c c' : Connection} {log : WorkLog}
    (h : Holds (Worker.process p t c) log c') :
    ∃ u : Turn, u.Plays p ∧ u.task = t ∧ u.before = c ∧ u.log = log ∧ u.after = c' := by
  obtain ⟨noted, log₁, _, rfl, hnoted, h₁⟩ := holds_bind_iff.mp h
  obtain ⟨performed, settled, ⟨outcome, held⟩, rfl, hperformed, hsettled⟩ := holds_bind_iff.mp h₁
  obtain rfl := Task.holds_note_iff.mp hnoted
  exact ⟨⟨t, c, performed, outcome, held, settled, c'⟩, ⟨hperformed, hsettled⟩, rfl, rfl, rfl, rfl⟩

namespace Turn.Plays

variable {p : Profile} {u : Turn} {past : WorkLog}

theorem settling (h : u.Plays p) : u.task.Settling u.outcome u.held u.settled u.after :=
  Task.settle_settling h.settles

/-- Settling asks nothing of the outside. -/
theorem settles_inside (h : u.Plays p) : ∀ x ∈ u.settled, x.question.IsInside :=
  (u.task.settle_asks u.outcome u.held).of_holds h.settles

theorem calls_log (h : u.Plays p) : calls u.log = calls u.performed := by
  rw [Turn.log, calls_append, calls_eq_nil h.settles_inside, List.append_nil]
  rfl

theorem settled_held (h : u.Plays p) (hbefore : Connection.Settled past u.before) :
    Connection.Settled (past ++ u.upToOutcome) u.held := by
  have hstarted : Connection.Settled
      (past ++ [⟨.inside (.emit (u.task.progressed .taskStarted)), ()⟩]) u.before :=
    hbefore.append (by simp [Request.LeavesSession])
  have hheld := Task.perform_settled h.performs hstarted
  rwa [List.append_assoc] at hheld

theorem settled_after (h : u.Plays p) (hbefore : Connection.Settled past u.before) :
    Connection.Settled (past ++ u.log) u.after := by
  have hafter := h.settling.settled (h.settled_held hbefore)
  rwa [List.append_assoc] at hafter

/-- A task in the mailbox asks nothing of the outside if the worker is to stop, and otherwise
first of all reaches a session. -/
theorem reaches (h : u.Plays p) (hmailbox : u.task.kind.needsMailbox = true) :
    (calls u.log = [] ∧ stopped u.log = true) ∨ u.before.Reaches p.email (calls u.log) := by
  rw [h.calls_log]
  refine (Task.perform_reaches hmailbox h.performs).imp_left fun ⟨hcalls, hstopped⟩ => ⟨hcalls, ?_⟩
  rw [Turn.log, upToOutcome, stopped, List.any_append, List.any_cons, ← stopped, hstopped]
  rfl

/-- A message is submitted without the mailbox. -/
theorem submits (h : u.Plays p) (hsend : u.task.kind.needsMailbox = false) :
    (∀ x ∈ u.performed, x.question.IsSubmission) ∧ u.held = u.before := by
  obtain ⟨raw, hkind⟩ := Task.needsMailbox_eq_false hsend
  obtain ⟨hsent, hheld⟩ := Task.perform_send hkind h.performs
  exact ⟨(Task.sendMessage_asks p raw).of_holds hsent, hheld⟩

/-- After a failed login nothing is held, and otherwise what was held is kept. -/
theorem after_cases (h : u.Plays p) :
    (u.after = .closed ∧ ∃ e, u.outcome = .error e ∧ e.kind = .auth) ∨
      (u.after = u.held ∧ (∀ e, u.outcome = .error e → e.kind ≠ .auth) ∧
        ∀ x ∈ u.settled, x.question.LeavesSession) := by
  generalize hsettled : u.settled = settled
  generalize hafter : u.after = after
  have hsettling := h.settling
  rw [hsettled, hafter] at hsettling
  cases hsettling with
  | dropped houtcome hkind _ => exact .inl ⟨rfl, _, houtcome, hkind⟩
  | kept hkind hlog => exact .inr ⟨rfl, hkind, hlog⟩

/-- A turn connects once if it `reconnects`, and otherwise not at all. -/
theorem connects_log (h : u.Plays p) : connects u.log = [] ∧ u.reconnects = false ∨
    (∃ token reply, connects u.log = [(p.email, token, reply)] ∧ .ok token ∈ tokens u.log) ∧
      u.reconnects = true := by
  unfold reconnects
  cases hmailbox : u.task.kind.needsMailbox with
  | false =>
      have hsubmits := (h.submits hmailbox).1
      have hperformed : connects u.performed = [] :=
        connects_of_leavesSession fun x hx => (hsubmits x hx).leavesSession
      refine .inl ⟨?_, Bool.false_and _⟩
      rw [← connects_calls, h.calls_log, connects_calls, hperformed]
  | true =>
      rw [Bool.true_and, Connection.renews, ← connects_calls, ← tokens_calls, ← probes_calls]
      rcases h.reaches hmailbox with ⟨hcalls, -⟩ | hreaches
      · rw [hcalls]
        exact .inl ⟨rfl, Bool.and_false _⟩
      · exact hreaches.connects

end Turn.Plays

end MailSync
