import MailSync.Crypto.Task

/-!
# The crypto pool

A fixed number of workers, each with an engine of its own, take tasks from
one queue in the order of submission. A worker first looks whether the pool
is stopping and then whether there is a task; the pool may be told to stop
in between. It finishes the task in hand whatever happens, and goes once it
has seen that the pool is stopping, or once nobody receives its events.
-/

namespace MailSync

/-- A worker of the pool. -/
inductive CryptoWorker where
  | idle
  /-- It has seen that the pool was not stopping, and is about to look for a task. -/
  | ready
  | busy (task : CryptoTask)
  | gone
deriving DecidableEq, Repr

structure CryptoPool where
  queue : List CryptoTask
  workers : List CryptoWorker
  stopping : Bool
  /-- Whether anybody receives events. -/
  attended : Bool
  /-- The events that were received, in order. -/
  events : List CryptoEvent

namespace CryptoPool

/-- The number of workers. -/
def size : Nat := 3

/-- A pool at its start, every worker with an engine. -/
def fresh : CryptoPool := ⟨[], List.replicate size .idle, false, true, []⟩

/-! ## Calls of the user -/

def submit (p : CryptoPool) (t : CryptoTask) : CryptoPool := { p with queue := p.queue ++ [t] }

/-- Drops all tasks that have not been taken; counts them. -/
def cancelAll (p : CryptoPool) : Nat × CryptoPool := (p.queue.length, { p with queue := [] })

def stop (p : CryptoPool) : CryptoPool := { p with stopping := true }

/-! ## Moves of the workers -/

/-- What a worker does next. -/
inductive Move where
  /-- It sees that the pool is not stopping. -/
  | look (id : Nat)
  /-- It takes the first task of the queue. -/
  | take (id : Nat)
  /-- It finds no task. -/
  | rest (id : Nat)
  /-- Its engine answers; the worker goes if nobody receives the event. -/
  | complete (id : Nat) (call : CryptoCall) (reply : call.Reply)
  /-- It goes because the pool is stopping. -/
  | leave (id : Nat)

def setWorker (p : CryptoPool) (id : Nat) (w : CryptoWorker) : CryptoPool :=
  { p with workers := p.workers.set id w }

/-- Reports what came of a task. -/
def report (p : CryptoPool) (event : CryptoEvent) : CryptoPool :=
  if p.attended then { p with events := p.events ++ [event] } else p

/-- One move, if it can be made. -/
def step (p : CryptoPool) : Move → Option CryptoPool
  | .look id =>
    match p.workers[id]?, p.stopping with
    | some .idle, false => some (p.setWorker id .ready)
    | _, _ => none
  | .take id =>
    match p.workers[id]?, p.queue with
    | some .ready, t :: queue => some ({ p with queue }.setWorker id (.busy t))
    | _, _ => none
  | .rest id =>
    match p.workers[id]?, p.queue with
    | some .ready, [] => some (p.setWorker id .idle)
    | _, _ => none
  | .complete id call reply =>
    match p.workers[id]? with
    | some (.busy t) =>
      if h : call = t.call then
        some ((p.report (.ofTask t (h ▸ reply))).setWorker id (if p.attended then .idle else .gone))
      else none
    | _ => none
  | .leave id =>
    match p.workers[id]?, p.stopping with
    | some .idle, true => some (p.setWorker id .gone)
    | _, _ => none

/-- The pool after a move; one that cannot be made changes nothing. -/
def after (p : CryptoPool) (m : Move) : CryptoPool := (p.step m).getD p

end CryptoPool

end MailSync
