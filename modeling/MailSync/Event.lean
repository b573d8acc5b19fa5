import MailSync.Folder
import MailSync.Message
import MailSync.Ordered.Map

/-!
# Events

What the worker reports. Every event carries the tag of the request it
belongs to; a request ends with one outcome and one final progress mark,
or with one failure.
-/

namespace MailSync

/-- Who asked for a task. -/
structure RequestTag where
  owner : String
  code : Int32
deriving DecidableEq, Repr

inductive Progress where
  | connecting
  | connected
  | taskStarted
  | taskCompleted
deriving DecidableEq, Repr

def Progress.name : Progress → String
  | connecting => "connecting"
  | connected => "connected"
  | taskStarted => "task_started"
  | taskCompleted => "task_completed"

/-- Which messages are encrypted, as far as that is known. -/
abbrev EncryptionStates := OrderedMap Uid Bool

/-- What an event says. -/
inductive Report where
  | folders (folders : List Folder)
  | messages (folder : Folder) (messages : List RemoteMessage)
  | details (folder : Folder) (uid : Uid) (raw : Bytes)
  | newMessages (folder : Folder) (messages : List RemoteMessage) (states : EncryptionStates)
    (notify : Bool)
  | refreshed (folder : Folder) (new updated : List RemoteMessage) (deleted : OrderedSet Uid)
    (states : EncryptionStates) (notify : Bool)
  | moved (source destination : Folder) (uids : List Uid)
  | sent
  | progress (progress : Progress)
  | failed (kind : ErrorKind) (error : MailError)
deriving DecidableEq

structure Event where
  tag : RequestTag
  report : Report
deriving DecidableEq

def Event.isError (e : Event) : Bool :=
  match e.report with
  | .failed _ _ => true
  | _ => false

end MailSync
