import MailSync.Cache.Store
import MailSync.Dialogue
import MailSync.Event
import MailSync.Session

/-!
# Requests of a worker

All that a worker asks of its surroundings while it works: credentials,
sessions, submission and the row store lie outside and may fail, while
events, the published state and the two switches are kept by the engine.
-/

namespace MailSync

/-- The state of the connection, as it is published. -/
inductive ConnectionState where
  | disconnected
  | connecting
  | connected
  | failed
deriving DecidableEq, Repr

def ConnectionState.name : ConnectionState → String
  | disconnected => "disconnected"
  | connecting => "connecting"
  | connected => "connected"
  | failed => "failed"

/-- A question to a part of the outside that may fail. -/
inductive OutsideCall where
  /-- A token that is valid now. -/
  | token
  | connect (email token : String)
  | session (id : SessionId) (call : SessionCall)
  | send (email token : String) (raw : Bytes)
  | store (call : StoreCall)
deriving DecidableEq

namespace OutsideCall

abbrev Value : OutsideCall → Type
  | token => String
  | connect .. => SessionId
  | session _ call => call.Value
  | send .. => Unit
  | store call => call.Value

abbrev Reply (c : OutsideCall) : Type := Except MailError c.Value

end OutsideCall

/-- A question to the engine, which always has an answer. -/
inductive InsideCall where
  /-- Report an event. -/
  | emit (event : Event)
  | publish (state : ConnectionState)
  /-- Give up a session without a word to the server. -/
  | release (id : SessionId)
  /-- Whether this worker is to stop. -/
  | isCancelled
  /-- Whether the user is looking at the mail. -/
  | isForeground
deriving DecidableEq

abbrev InsideCall.Reply : InsideCall → Type
  | emit _ | publish _ | release _ => Unit
  | isCancelled | isForeground => Bool

/-- A question of a worker. -/
inductive Request where
  | outside (call : OutsideCall)
  | inside (call : InsideCall)
deriving DecidableEq

abbrev Request.Reply : Request → Type
  | outside call => call.Reply
  | inside call => call.Reply

/-- What a worker does, as a dialogue with its surroundings. -/
abbrev Work (α : Type) := Dialogue Request Request.Reply α

/-- Work that may fail. -/
abbrev Trial (α : Type) := Attempt Request Request.Reply MailError α

namespace Work

/-- Asks the outside. -/
def outside (call : OutsideCall) : Work call.Reply := Dialogue.call (Request.outside call)

/-- Asks the engine. -/
def inside (call : InsideCall) : Work call.Reply := Dialogue.call (Request.inside call)

end Work

namespace Trial

/-- Asks the outside, and fails with it. -/
def outside (call : OutsideCall) : Trial call.Value := ExceptT.mk (Work.outside call)

/-- Asks a session, and fails with it. -/
def session (id : SessionId) (call : SessionCall) : Trial call.Value := outside (.session id call)

/-- Fails if the worker is to stop. -/
def checkCancelled : Trial Unit := do
  if ← ExceptT.lift (Work.inside .isCancelled) then throw .cancelled

end Trial

end MailSync
