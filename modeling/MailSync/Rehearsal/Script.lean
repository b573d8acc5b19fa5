import MailSync.Request
import MailSync.SequenceSet

/-!
# Scripts

A rehearsal keeps a log of the calls that reach the outside, and can be
told how long each kind of call takes and what comes of the next ones.
-/

namespace MailSync

/-- The kinds of calls that can be scripted. -/
inductive Method where
  | token
  | connect
  | noop
  | list
  | select
  | search
  | flags
  | headers
  | text
  | raw
  | move
  | logout
  | send
  | addRows
  | updateFlags
  | delete
  | uidFlags
  | newRows
  | unseenUids
deriving DecidableEq, Repr

def StoreCall.method : StoreCall → Method
  | addRows _ => .addRows
  | updateFlags .. => .updateFlags
  | delete .. => .delete
  | uidFlags .. => .uidFlags
  | newRows .. => .newRows
  | unseenUids .. => .unseenUids

def SessionCall.method : SessionCall → Method
  | noop => .noop
  | listFolders => .list
  | select _ => .select
  | search _ => .search
  | fetchFlags _ => .flags
  | fetchHeaders _ => .headers
  | fetchText .. => .text
  | fetchRaw _ => .raw
  | move .. => .move
  | logout => .logout

def OutsideCall.method : OutsideCall → Method
  | token => .token
  | connect .. => .connect
  | session _ call => call.method
  | send .. => .send
  | store call => call.method

/-! ## The log -/

/-- A list as the log shows it. -/
def bracketed {α : Type} (text : α → String) (items : List α) : String :=
  "[" ++ ",".intercalate (items.map text) ++ "]"

def StoreCall.line : StoreCall → String
  | addRows rows => "STORE add_rows " ++ bracketed (fun r => toString r.uid) rows
  | updateFlags account folder updates =>
    "STORE update_flags " ++ account ++ " " ++ folder ++ " " ++
      bracketed (fun (uid, flags) => toString uid ++ "=" ++ flags) updates
  | delete account folder uids =>
    "STORE delete " ++ account ++ " " ++ folder ++ " " ++ bracketed toString uids.toList
  | uidFlags account folder => "STORE uid_flags " ++ account ++ " " ++ folder
  | newRows account folder => "STORE new_messages " ++ account ++ " " ++ folder
  | unseenUids account folder => "STORE unseen_uids " ++ account ++ " " ++ folder

def SessionCall.line : SessionCall → String
  | noop => "NOOP"
  | listFolders => "LIST"
  | select folder => "SELECT " ++ folder
  | search query => "UID SEARCH " ++ query
  | fetchFlags set => "FETCH FLAGS " ++ set
  | fetchHeaders set => "FETCH HEADERS " ++ set
  | fetchText set limit => "FETCH TEXT " ++ set ++ " " ++ toString limit
  | fetchRaw uid => "FETCH BODY " ++ toString uid
  | move set destination => "MOVE " ++ set ++ " " ++ destination
  | logout => "LOGOUT"

/-- The line of a call in the log. -/
def OutsideCall.line : OutsideCall → String
  | token => "TOKEN"
  | connect email secret => "CONNECT " ++ email ++ " " ++ secret
  | session _ call => call.line
  | send email secret raw =>
    "SEND " ++ email ++ " " ++ secret ++ " " ++ toString raw.length ++ " bytes"
  | store call => call.line

/-! ## Prepared outcomes -/

/-- A value prepared for some call. -/
inductive PreparedValue where
  | token (text : String)
  | folders (folders : List Folder)
  | status (messages : UInt32)
  | uids (uids : List Uid)
  | messages (messages : List RemoteMessage)
  | snippets (snippets : List (Uid × Bytes))
  | raw (raw : Option Bytes)

inductive Outcome where
  | fail (error : MailError)
  | succeed (value : PreparedValue)

/-- What the calls to come are to take and to bring. -/
structure Script where
  /-- The last entry for a method counts. -/
  delays : List (Method × Nat)
  /-- Each is used once, in order. -/
  outcomes : List (Method × Outcome)

namespace Script

def blank : Script := ⟨[], []⟩

def delay (s : Script) (m : Method) : Nat := (s.delays.reverse.lookup m).getD 0

def setDelay (s : Script) (m : Method) (duration : Nat) : Script :=
  { s with delays := s.delays ++ [(m, duration)] }

def prepare (s : Script) (m : Method) (o : Outcome) : Script :=
  { s with outcomes := s.outcomes ++ [(m, o)] }

/-- Takes the next outcome prepared for a method. -/
def next (s : Script) (m : Method) : Option Outcome × Script :=
  (s.outcomes.lookup m, { s with outcomes := s.outcomes.eraseP (·.1 = m) })

end Script

/-- The value prepared for a call, if it is of its kind. -/
def PreparedValue.ofCall? : (c : SessionCall) → PreparedValue → Option c.Value
  | .listFolders, .folders v => some v
  | .select _, .status n => some { FolderStatus.blank with messages := n }
  | .search _, .uids v => some v
  | .fetchFlags _, .messages v => some v
  | .fetchHeaders _, .messages v => some v
  | .fetchText .., .snippets v => some v
  | .fetchRaw _, .raw v => some v
  | _, _ => none

end MailSync
