import MailSync.Folder
import MailSync.Message

/-!
# Mailbox sessions

What can be asked of an open session with the mail server. Searches and
fetches concern the folder that was selected last.
-/

namespace MailSync

/-- Tells one open session from another. -/
abbrev SessionId := Nat

/-- What the server says of a folder when it is selected. -/
structure FolderStatus where
  /-- The number of messages. -/
  messages : UInt32
  uidValidity : Option UInt32
  uidNext : Option Uid
deriving DecidableEq, Repr

/-- A folder of which the server says nothing. -/
def FolderStatus.blank : FolderStatus := ⟨0, none, none⟩

/-- A question to an open session. -/
inductive SessionCall where
  /-- A probe that changes nothing. -/
  | noop
  | listFolders
  | select (folder : String)
  | search (query : String)
  /-- Numbers and flags only. -/
  | fetchFlags (set : String)
  | fetchHeaders (set : String)
  /-- The first bytes of the bodies. -/
  | fetchText (set : String) (limit : UInt32)
  | fetchRaw (uid : Uid)
  | move (set destination : String)
  | logout
deriving DecidableEq, Repr

namespace SessionCall

/-- What a session answers when it does not fail. -/
abbrev Value : SessionCall → Type
  | noop | move .. | logout => Unit
  | listFolders => List Folder
  | select _ => FolderStatus
  | search _ => List Uid
  | fetchFlags _ | fetchHeaders _ => List RemoteMessage
  | fetchText .. => List (Uid × Bytes)
  | fetchRaw _ => Option Bytes

/-- A session may fail at any call. -/
abbrev Reply (c : SessionCall) : Type := Except MailError c.Value

end SessionCall

end MailSync
