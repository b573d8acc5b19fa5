import MailSync.Engine
import MailSync.Rehearsal.Account

/-!
# Rehearsals

An engine with a rehearsed account and a clock. Time passes only where a
call takes time; every worker goes on until it is blocked or has a call
that outlasts the moment until which the rehearsal runs. Workers change
the engine by its moves alone.
-/

namespace MailSync

structure Rehearsal where
  engine : Engine
  account : RehearsedAccount
  clock : Nat
  /-- When the call in progress comes back. -/
  due : Option Nat

namespace Rehearsal

def fresh (credentials : Credentials) (settings : SyncSettings) : Rehearsal :=
  ⟨.fresh ⟨credentials.email, settings⟩, .fresh credentials, 0, none⟩

def move (r : Rehearsal) (m : Engine.Move) : Rehearsal := { r with engine := r.engine.after m }

/-- Begins a call unless it has begun already, and completes it unless it takes longer
than until the deadline. -/
def call (r : Rehearsal) (deadline : Option Nat) (c : OutsideCall) :
    Option c.Reply × Rehearsal :=
  let (due, r) := match r.due with
    | some due => (due, r)
    | none =>
      (r.clock + r.account.script.delay c.method, { r with account := r.account.note c.line })
  if deadline.all (due ≤ ·) then
    let (reply, account) := r.account.resolve c
    (some reply, { r with account, clock := due, due := none })
  else (none, { r with due := some due })

/-- Goes on with the dialogue of a worker. -/
def converse (deadline : Option Nat) (id : WorkerId) : Work Connection → Rehearsal → Rehearsal
  | .done _, r => r.move (.finish id)
  | .ask (.inside c) next, r =>
    let cancelled := r.engine.workers[id]?.any (·.cancelled)
    converse deadline id (next (r.engine.board.answer cancelled c).1) (r.move (.tell id))
  | .ask (.outside c) next, r =>
    match r.call deadline c with
    | (none, r) => r
    | (some reply, r) => converse deadline id (next reply) (r.move (.answer id c reply))

/-- Goes on with whatever dialogue a worker is in. -/
def resume (deadline : Option Nat) (id : WorkerId) (r : Rehearsal) : Rehearsal :=
  match r.engine.workers[id]? >>= Worker.rest? with
  | some rest => converse deadline id rest r
  | none => r

/-- Lets a worker take one task after the other. -/
def serve (deadline : Option Nat) (id : WorkerId) : List Task → Rehearsal → Rehearsal
  | [], r => r
  | _ :: rest, r => serve deadline id rest (resume deadline id (r.move (.take id)))

/-- Lets a worker go on as far as it can. -/
def drive (deadline : Option Nat) (r : Rehearsal) (id : WorkerId) : Rehearsal :=
  let r := resume deadline id (r.move (.begin id))
  let r := serve deadline id r.engine.queue r
  resume deadline id (r.move (.leave id))

/-- Lets all workers go on; one that waits for another comes after it. -/
def driveAll (deadline : Option Nat) (r : Rehearsal) : Rehearsal :=
  (List.range r.engine.workers.length).foldl (drive deadline) r

/-- Lets time pass. -/
def wait (r : Rehearsal) (duration : Nat) : Rehearsal :=
  let deadline := r.clock + duration
  { r.driveAll (some deadline) with clock := deadline }

/-- Stops the engine, and lets time pass until its worker has finished. -/
def stop (r : Rehearsal) : Rehearsal :=
  let (awaited, engine) := r.engine.halt
  let r := { r with engine }
  if awaited.isSome then r.driveAll none else r

/-- Makes a call to the row store on behalf of the user. -/
def storeCall (c : StoreCall) (r : Rehearsal) : c.Reply × Rehearsal :=
  let r := { r with account := r.account.note c.line }
  let duration := r.account.script.delay c.method
  let r := if duration = 0 then r else r.wait duration
  let (reply, account) := r.account.resolve (.store c)
  (reply, { r with account })

/-- Takes the lines that were added to the log. -/
def takeLog (r : Rehearsal) : List String × Rehearsal :=
  (r.account.log, { r with account := { r.account with log := [] } })

/-- Takes the events that were received. -/
def takeEvents (r : Rehearsal) : List Event × Rehearsal :=
  (r.engine.board.events,
    { r with engine := { r.engine with board := { r.engine.board with events := [] } } })

/-- Writes an event to the row store. -/
def apply (w : CacheWriter) (event : Event) (r : Rehearsal) :
    Except MailError CacheUpdate × Rehearsal :=
  (w.apply event).run.run storeCall r

/-- Does work that belongs to no worker, with nothing else going on. -/
def perform {α : Type} (work : Work α) (r : Rehearsal) : α × Rehearsal :=
  work.run (fun q r =>
    match q with
    | .inside c =>
      let (reply, board) := r.engine.board.answer false c
      (reply, { r with engine := { r.engine with board } })
    | .outside c =>
      let (reply, account) := r.account.perform c
      (reply, { r with account })) r

end Rehearsal

end MailSync
