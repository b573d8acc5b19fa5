import MailSync.Task

/-!
# Commands

What the program can be told to do, and the task behind each command.
-/

namespace MailSync

/-- A command with its arguments; folders are given by their full names. -/
inductive Command where
  | folders
  | list (folder : String) (first last : UInt32)
  | page (folder : String) (alreadyLoaded : UInt32)
  | details (uid : Uid) (folder : String)
  | new (folder : String) (lastUid : Uid)
  | sync (folder : String)
  | move (uids : List Uid) (source destination : String)
  /-- Send the message in a file. -/
  | send (path : String)
deriving DecidableEq, Repr

/-- A command and the switches that go with any command. -/
structure Invocation where
  command : Command
  /-- Whether events are printed as JSON. -/
  json : Bool
  /-- Whether the token is used as a password. -/
  passwordAuth : Bool
deriving DecidableEq, Repr

namespace Command

/-- A folder by its full name, with the part after the last slash for its short name. -/
def folder (name : String) : Folder :=
  ⟨name, String.ofList (name.toList.reverse.takeWhile (· ≠ '/')).reverse, []⟩

/-- The file that a command reads. -/
def file? : Command → Option String
  | send path => some path
  | _ => none

/-- The task of a command, given the contents of its file. -/
def task (contents : Bytes) : Command → TaskKind
  | folders => .updateLabels
  | list name first last => .loadMessages (folder name) first last
  | page name alreadyLoaded => .loadPage (folder name) alreadyLoaded
  | details uid name => .loadDetails (folder name) uid
  | new name lastUid => .loadNew (folder name) lastUid
  | sync name => .syncFolder (folder name)
  | move uids source destination => .move (folder source) (folder destination) uids
  | send _ => .send contents

end Command

end MailSync
