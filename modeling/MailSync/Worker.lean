import MailSync.Task.Perform

/-!
# Workers

A worker takes tasks one at a time. What happens for one task is a
dialogue (`Worker.process`); between two tasks the worker looks whether it
is to stop, and before the first it waits for the worker it replaces.
-/

namespace MailSync

namespace Task

/-- Reports the outcome of a task and drops the session after a failed login. A task
that failed because the worker is to stop, or because its message has gone, has no failure
to report. -/
def settle (t : Task) (outcome : Except MailError Report) (c : Connection) : Work Connection := do
  match outcome with
  | .ok report =>
    Work.inside (.emit ⟨t.tag, report⟩)
    t.note .taskCompleted
    return c
  | .error e =>
    if e = .cancelled then
      if ← Work.inside .isCancelled then return c
    match e.kind with
    | .messageRemovedRace =>
      t.note .taskCompleted
      return c
    | .auth =>
      let c ← c.invalidate
      Work.inside (.emit ⟨t.tag, .failed .auth e⟩)
      return c
    | kind =>
      Work.inside (.emit ⟨t.tag, .failed kind e⟩)
      return c

end Task

/-- Tells one worker from another; workers are counted as they are started. -/
abbrev WorkerId := Nat

/-- Where a worker is in its life. -/
inductive Phase where
  /-- Waits for the worker before it. -/
  | waiting
  /-- Between two tasks. -/
  | idle (c : Connection)
  /-- At work, with what is left to do. -/
  | working (task : Task) (rest : Work Connection)
  /-- Told to stop, and closing its connection. -/
  | leaving (rest : Work Connection)
  | finished

structure Worker where
  /-- Whom this worker waits for. -/
  predecessor : Option WorkerId
  cancelled : Bool
  phase : Phase

namespace Worker

/-- All that happens for one task. -/
def process (p : Profile) (t : Task) (c : Connection) : Work Connection := do
  t.note .taskStarted
  let (outcome, c) ← t.perform p c
  t.settle outcome c

def isFinished (w : Worker) : Bool :=
  match w.phase with
  | .finished => true
  | _ => false

/-- Whether a worker still takes tasks. -/
def isActive (w : Worker) : Bool := !w.cancelled && !w.isFinished

/-- What is left of the dialogue a worker is in. -/
def rest? (w : Worker) : Option (Work Connection) :=
  match w.phase with
  | .working _ rest | .leaving rest => some rest
  | _ => none

/-- The worker after its dialogue went on. -/
def continued (w : Worker) (rest : Work Connection) : Worker :=
  match w.phase with
  | .working t _ => { w with phase := .working t rest }
  | .leaving _ => { w with phase := .leaving rest }
  | _ => w

end Worker

end MailSync
