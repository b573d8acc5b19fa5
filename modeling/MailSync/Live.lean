import MailSync.Engine
import MailSync.Live.Account

/-!
# Live engines

An engine whose calls are answered by a live account. Workers change the
engine by its moves alone.
-/

namespace MailSync

structure Live where
  engine : Engine
  account : LiveAccount

namespace Live

/-- What a live engine does, in talk with the network. -/
abbrev Activity (α : Type) := StateT Live (Dialogue NetworkCall NetworkCall.Reply) α

def fresh (account : LiveAccount) (settings : SyncSettings) : Live :=
  ⟨.fresh ⟨account.credentials.email, settings⟩, account⟩

def move (m : Engine.Move) : Activity Unit :=
  modify fun l => { l with engine := l.engine.after m }

/-- Runs an errand of the account. -/
def errand {α : Type} (e : LiveAccount.Errand α) : Activity α := fun l => do
  let (a, account) ← e.run l.account
  return (a, { l with account })

/-- Goes on with the dialogue of a worker to its end. -/
def converse (id : WorkerId) : Work Connection → Activity Unit
  | .done _ => move (.finish id)
  | .ask (.inside c) next => do
    if let .release session := c then errand (LiveAccount.release session)
    let l ← get
    let cancelled := l.engine.workers[id]?.any (·.cancelled)
    move (.tell id)
    converse id (next (l.engine.board.answer cancelled c).1)
  | .ask (.outside c) next => do
    let reply ← errand (LiveAccount.perform c)
    move (.answer id c reply)
    converse id (next reply)

/-- Goes on with whatever dialogue a worker is in. -/
def resume (id : WorkerId) : Activity Unit := do
  if let some rest := (← get).engine.workers[id]? >>= Worker.rest? then converse id rest

/-- Lets a worker perform all tasks of the queue. -/
def work (id : WorkerId) : Activity Unit := do
  move (.begin id)
  for _ in (← get).engine.queue do
    move (.take id)
    resume id

/-- Stops the engine, and lets its worker close the connection. -/
def stop : Activity Unit := do
  let (awaited, engine) := (← get).engine.halt
  modify fun l => { l with engine }
  if let some id := awaited then
    move (.leave id)
    resume id

/-- Performs one task from start to end, and gives the events it brought. -/
def perform (t : Task) : Activity (List Event) := do
  modify fun l => { l with engine := (l.engine.enqueue t).start false }
  if let some id := (← get).engine.current then work id
  let events := (← get).engine.board.events
  stop
  return events

end Live

end MailSync
