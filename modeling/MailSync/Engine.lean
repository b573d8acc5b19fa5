import MailSync.Worker

/-!
# The engine

One queue of tasks, one board that all workers share, and the workers
started so far. The calls of a user are functions on the engine
(`enqueue`, `start`, `disconnect`, `cancelAll`, `halt`); a worker goes on
by moves (`Engine.step`), of which only `Move.answer` needs the outside.
A run is any interleaving of calls and moves; a move is one poll of a worker
or a part of one.
-/

namespace MailSync

/-- What workers share with each other and with the user. -/
structure Board where
  state : ConnectionState
  foreground : Bool
  /-- Whether anybody receives events. -/
  attended : Bool
  /-- The events that were received, in order. -/
  events : List Event

namespace Board

def fresh : Board := ⟨.disconnected, false, true, []⟩

/-- Answers a worker that is to stop or not. -/
def answer (b : Board) (cancelled : Bool) : (c : InsideCall) → c.Reply × Board
  | .emit event => ((), if b.attended then { b with events := b.events ++ [event] } else b)
  | .publish state => ((), { b with state })
  | .release _ => ((), b)
  | .isCancelled => (cancelled, b)
  | .isForeground => (b.foreground, b)

end Board

structure Engine where
  profile : Profile
  board : Board
  queue : List Task
  /-- All workers, in the order in which they were started. -/
  workers : List Worker
  /-- The worker that takes tasks now, if one was started. -/
  current : Option WorkerId

namespace Engine

def fresh (profile : Profile) : Engine := ⟨profile, .fresh, [], [], none⟩

def currentWorker? (e : Engine) : Option Worker := e.current >>= (e.workers[·]?)

def isRunning (e : Engine) : Bool := e.currentWorker?.any Worker.isActive

def isConnected (e : Engine) : Bool := e.board.state = .connected

/-! ## Calls of the user -/

def enqueue (e : Engine) (t : Task) : Engine := { e with queue := e.queue ++ [t] }

/-- Drops all tasks that have not been taken; counts them. -/
def cancelAll (e : Engine) : Nat × Engine := (e.queue.length, { e with queue := [] })

/-- Tells the current worker to stop. -/
def disconnect (e : Engine) : Engine :=
  match e.current with
  | none => e
  | some id => { e with workers := e.workers.modify id fun w => { w with cancelled := true } }

/-- Starts a new worker, which first waits for the current one unless that has finished. -/
def launch (e : Engine) : Engine :=
  let predecessor := e.current.filter fun id => e.workers[id]?.any fun w => !w.isFinished
  { e with
    workers := e.workers ++ [⟨predecessor, false, .waiting⟩]
    current := some e.workers.length }

/-- Makes sure that a worker takes tasks; a reset drops the tasks and replaces the worker. -/
def start (e : Engine) (reset : Bool) : Engine :=
  let e := if reset then e.cancelAll.2.disconnect else e
  if e.isRunning then e else e.launch

/-- Drops all tasks, tells the current worker to stop and parts with it. Gives the worker
whose end is still to be waited for. -/
def halt (e : Engine) : Option WorkerId × Engine :=
  (e.current, { e.cancelAll.2.disconnect with current := none })

/-! ## Moves of the workers -/

/-- What a worker does next. -/
inductive Move where
  /-- Its predecessor has finished. -/
  | begin (id : WorkerId)
  /-- It sees that it is not to stop and takes the first task of the queue. Both are done in one
  poll of the worker, and one poll is taken as atomic: no call comes in between. -/
  | take (id : WorkerId)
  /-- It is to stop and closes its connection. -/
  | leave (id : WorkerId)
  /-- The engine answers its question. -/
  | tell (id : WorkerId)
  /-- The outside answers its question. -/
  | answer (id : WorkerId) (call : OutsideCall) (reply : call.Reply)
  /-- It is done with its dialogue. -/
  | finish (id : WorkerId)

def Move.worker : Move → WorkerId
  | begin id | take id | leave id | tell id | answer id .. | finish id => id

def setWorker (e : Engine) (id : WorkerId) (w : Worker) : Engine :=
  { e with workers := e.workers.set id w }

/-- Whether the worker before this one has finished. -/
def mayBegin (e : Engine) (w : Worker) : Bool :=
  w.predecessor.all fun id => e.workers[id]?.all Worker.isFinished

/-- One move of a worker, if it can be made. -/
def stepWorker (e : Engine) (w : Worker) : Move → Option Engine
  | .begin id =>
    match w.phase with
    | .waiting =>
      if e.mayBegin w then some (e.setWorker id { w with phase := .idle .closed }) else none
    | _ => none
  | .take id =>
    match w.phase, w.cancelled, e.queue with
    | .idle c, false, t :: queue =>
      some ({ e with queue }.setWorker id
        { w with phase := .working t (Worker.process e.profile t c) })
    | _, _, _ => none
  | .leave id =>
    match w.phase, w.cancelled with
    | .idle c, true => some (e.setWorker id { w with phase := .leaving c.disconnect })
    | _, _ => none
  | .tell id =>
    match w.rest? with
    | some (.ask (.inside call) next) =>
      let (reply, board) := e.board.answer w.cancelled call
      some ({ e with board }.setWorker id (w.continued (next reply)))
    | _ => none
  | .answer id call reply =>
    match w.rest? with
    | some (.ask (.outside asked) next) =>
      if h : call = asked then some (e.setWorker id (w.continued (next (h ▸ reply)))) else none
    | _ => none
  | .finish id =>
    match w.phase with
    | .working _ (.done c) => some (e.setWorker id { w with phase := .idle c })
    | .leaving (.done _) => some (e.setWorker id { w with phase := .finished })
    | _ => none

/-- One move, if it can be made. -/
def step (e : Engine) (m : Move) : Option Engine :=
  e.workers[m.worker]? >>= (e.stepWorker · m)

/-- The engine after a move; one that cannot be made changes nothing. -/
def after (e : Engine) (m : Move) : Engine := (e.step m).getD e

end Engine

end MailSync
