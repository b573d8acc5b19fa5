import MailSync.Proofs.Story

/-!
# What is routine for a worker

Around the part of a task that does what was asked, a worker opens sessions
and closes them, and tells of progress and of failures. None of this submits
a message, reads the cache or reports a result, and a session is only probed.
Settling a task drops the session after a failed login, and leaves it alone
otherwise (`Task.settle_settling`).
-/

namespace MailSync

open Dialogue

/-- A question that a worker asks whatever the task. -/
def Request.IsRoutine : Request → Prop
  | .outside (.send _ _ _) | .outside (.store _) => False
  | .outside (.session _ call) => call = .noop
  | .inside (.emit event) => event.report.isResult = false
  | _ => True

/-- A question to the engine. -/
def Request.IsInside : Request → Prop
  | .outside _ => False
  | .inside _ => True

/-- A question to the engine that reports no result. -/
def Request.IsNotice : Request → Prop
  | .outside _ => False
  | .inside (.emit event) => event.report.isResult = false
  | .inside _ => True

/-- A question that leaves both the session and the published state as they are. -/
def Request.LeavesSession : Request → Prop
  | .outside (.connect ..) | .inside (.publish _) | .inside (.release _) => False
  | _ => True

theorem Request.IsNotice.isRoutine {q : Request} (h : q.IsNotice) : q.IsRoutine := by
  cases q with
  | outside call => exact h.elim
  | inside call => cases call with
    | emit event => exact h
    | publish _ | release _ | isCancelled | isForeground => trivial

theorem Request.IsNotice.isInside {q : Request} (h : q.IsNotice) : q.IsInside := by
  cases q with
  | outside call => exact h
  | inside call => trivial

theorem Work.asks_inside {may : Request → Prop} {c : InsideCall} (h : may (.inside c)) :
    (Work.inside c).Asks may := ⟨h, fun _ => trivial⟩

theorem Work.asks_outside {may : Request → Prop} {c : OutsideCall} (h : may (.outside c)) :
    (Work.outside c).Asks may := ⟨h, fun _ => trivial⟩

theorem Connection.login_asks (email : String) : (login email).Asks Request.IsRoutine := by
  refine (Work.asks_outside trivial).bind fun reply => ?_
  cases reply with
  | ok token => exact Work.asks_outside trivial
  | error e => trivial

theorem Connection.reopen_asks (email : String) {notice : Work Unit}
    (h : notice.Asks Request.IsRoutine) : (reopen email notice).Asks Request.IsRoutine := by
  refine h.bind fun _ => (Work.asks_inside trivial).bind fun _ => (login_asks email).bind fun o => ?_
  cases o with
  | ok id => exact (Work.asks_inside trivial).bind fun _ => trivial
  | error e => exact (Work.asks_inside trivial).bind fun _ => trivial

theorem Connection.ensure_asks (email : String) {notice : Work Unit}
    (h : notice.Asks Request.IsRoutine) (c : Connection) :
    (c.ensure email notice).Asks Request.IsRoutine := by
  obtain ⟨session⟩ := c
  cases session with
  | none => exact reopen_asks email h
  | some id =>
      have hprobe : Request.IsRoutine (.outside (.session id .noop)) := rfl
      refine (Work.asks_outside hprobe).bind fun reply => ?_
      cases reply with
      | ok _ => trivial
      | error _ => exact (Work.asks_inside trivial).bind fun _ => reopen_asks email h

theorem Connection.invalidate_asks (c : Connection) : c.invalidate.Asks Request.IsNotice := by
  obtain ⟨session⟩ := c
  cases session with
  | none => trivial
  | some id =>
      exact (Work.asks_inside trivial).bind fun _ =>
        (Work.asks_inside trivial).bind fun _ => trivial

namespace Task

theorem note_asks (t : Task) (progress : Progress) : (t.note progress).Asks Request.IsNotice :=
  Work.asks_inside rfl

theorem openSession_asks (p : Profile) (t : Task) (c : Connection) :
    (t.openSession p c).Asks Request.IsRoutine := by
  have hnote : ∀ progress, (t.note progress).Asks Request.IsRoutine := fun progress =>
    (t.note_asks progress).mono fun _ => Request.IsNotice.isRoutine
  refine (Work.asks_inside trivial).bind fun stopped => ?_
  cases stopped with
  | true => trivial
  | false =>
      refine (Connection.ensure_asks p.email (hnote .connecting) c).bind fun ensured => ?_
      obtain ⟨session, reopened, c'⟩ := ensured
      cases session with
      | error e => trivial
      | ok id =>
          cases reopened with
          | false =>
              refine (Work.asks_inside trivial).bind fun stopped => ?_
              cases stopped <;> trivial
          | true =>
              refine (hnote .connected).bind fun _ =>
                (Work.asks_inside trivial).bind fun stopped => ?_
              cases stopped <;> trivial

/-! ## Settling -/

theorem fail_asks (t : Task) (kind : ErrorKind) (e : MailError) :
    (Work.inside (.emit ⟨t.tag, .failed kind e⟩)).Asks Request.IsNotice :=
  Work.asks_inside rfl

theorem tellFailure_asks (t : Task) (e : MailError) (c : Connection) :
    (t.tellFailure e c).Asks Request.IsNotice := by
  rw [tellFailure]
  split
  · exact (t.note_asks .taskCompleted).bind fun _ => trivial
  · exact c.invalidate_asks.bind fun _ => (t.fail_asks .auth e).bind fun _ => trivial
  · exact (t.fail_asks e.kind e).bind fun _ => trivial

theorem settle_error_asks (t : Task) (e : MailError) (c : Connection) :
    (t.settle (.error e) c).Asks Request.IsNotice := by
  by_cases he : e = .cancelled
  · subst he
    rw [settle_cancelled]
    refine (Work.asks_inside trivial).bind fun stopped => ?_
    cases stopped with
    | true => trivial
    | false => exact t.tellFailure_asks .cancelled c
  · rw [settle_failed t c he]
    exact t.tellFailure_asks e c

/-- A task is settled between the worker and the engine. -/
theorem settle_asks (t : Task) (outcome : Except MailError Report) (c : Connection) :
    (t.settle outcome c).Asks Request.IsInside := by
  cases outcome with
  | ok report =>
      exact (Work.asks_inside trivial).bind fun _ =>
        (Work.asks_inside trivial).bind fun _ => trivial
  | error e => exact (t.settle_error_asks e c).mono fun _ => Request.IsNotice.isInside

section Settled

variable {t : Task} {c c' : Connection} {log : WorkLog}

/-- What settling does to the connection: after a failed login the session is dropped, and
otherwise all stays as it is. -/
inductive Settling (t : Task) (outcome : Except MailError Report) (c : Connection) :
    WorkLog → Connection → Prop where
  | dropped {e : MailError} {log : WorkLog} (houtcome : outcome = .error e) (hkind : e.kind = .auth)
    (hlog : Holds c.invalidate log .closed) :
    Settling t outcome c (log ++ [⟨.inside (.emit ⟨t.tag, .failed .auth e⟩), ()⟩]) .closed
  | kept {log : WorkLog} (hkind : ∀ e, outcome = .error e → e.kind ≠ .auth)
    (hlog : ∀ x ∈ log, x.question.LeavesSession) : Settling t outcome c log c

theorem tellFailure_settling {e : MailError} (h : Holds (t.tellFailure e c) log c') :
    t.Settling (.error e) c log c' := by
  unfold tellFailure at h
  split at h
  next hkind =>
    obtain ⟨noted, log₁, _, rfl, hnoted, h₁⟩ := holds_bind_iff.mp h
    obtain rfl := holds_note_iff.mp hnoted
    obtain ⟨rfl, rfl⟩ := holds_pure_iff.mp h₁
    refine .kept ?_ ?_
    · rintro _ ⟨⟩
      rw [hkind]
      nofun
    · simp [Request.LeavesSession]
  next hkind =>
    obtain ⟨dropped, log₁, c₁, rfl, hdropped, h₁⟩ := holds_bind_iff.mp h
    obtain ⟨told, log₂, _, rfl, htold, h₂⟩ := holds_bind_iff.mp h₁
    obtain rfl := (holds_call_iff (q := Request.inside (.emit ⟨t.tag, .failed .auth e⟩))).mp htold
    obtain ⟨rfl, rfl⟩ := holds_pure_iff.mp h₂
    obtain rfl := (Connection.invalidate_log hdropped).1
    exact .dropped rfl hkind hdropped
  next hauth =>
    obtain ⟨told, log₁, _, rfl, htold, h₁⟩ := holds_bind_iff.mp h
    obtain rfl := (holds_call_iff (q := Request.inside (.emit ⟨t.tag, .failed e.kind e⟩))).mp htold
    obtain ⟨rfl, rfl⟩ := holds_pure_iff.mp h₁
    refine .kept ?_ ?_
    · rintro _ ⟨⟩
      exact hauth
    · simp [Request.LeavesSession]

theorem settle_settling {outcome : Except MailError Report}
    (h : Holds (t.settle outcome c) log c') : t.Settling outcome c log c' := by
  cases outcome with
  | ok report =>
      obtain ⟨told, log₁, _, rfl, htold, h₁⟩ := holds_bind_iff.mp h
      obtain ⟨noted, log₂, _, rfl, hnoted, h₂⟩ := holds_bind_iff.mp h₁
      obtain rfl := (holds_call_iff (q := Request.inside (.emit ⟨t.tag, report⟩))).mp htold
      obtain rfl := holds_note_iff.mp hnoted
      obtain ⟨rfl, rfl⟩ := holds_pure_iff.mp h₂
      refine .kept nofun ?_
      simp [Request.LeavesSession]
  | error e =>
      by_cases he : e = .cancelled
      · subst he
        rw [settle_cancelled] at h
        obtain ⟨asked, log₁, stopped, rfl, hasked, h₁⟩ := holds_bind_iff.mp h
        obtain rfl := (holds_call_iff (q := Request.inside .isCancelled)).mp hasked
        -- Being stopped is no failure of the login.
        have hkind : ∀ e, (.error .cancelled : Except MailError Report) = .error e →
            e.kind ≠ .auth := by
          rintro _ ⟨⟩
          nofun
        cases stopped with
        | true =>
            obtain ⟨rfl, rfl⟩ := holds_pure_iff.mp h₁
            refine .kept hkind ?_
            simp [Request.LeavesSession]
        | false =>
            rw [if_neg Bool.false_ne_true] at h₁
            cases tellFailure_settling h₁ with
            | dropped houtcome hauth _ => exact absurd hauth (hkind _ houtcome)
            | kept _ hlog => exact .kept hkind (List.forall_mem_cons.mpr ⟨trivial, hlog⟩)
      · rw [settle_failed t c he] at h
        exact tellFailure_settling h

end Settled

end Task

end MailSync
