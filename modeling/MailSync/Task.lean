import MailSync.Event

/-!
# Tasks

What can be asked of the worker. A task does not change once it is queued.
-/

namespace MailSync

inductive TaskKind where
  /-- List the folders of the account. -/
  | updateLabels
  /-- Load the messages at positions `first` to `last`, counted from 1. -/
  | loadMessages (folder : Folder) (first last : UInt32)
  | loadDetails (folder : Folder) (uid : Uid)
  /-- Load the page before the messages already loaded. -/
  | loadPage (folder : Folder) (alreadyLoaded : UInt32)
  /-- Load the messages that came after one. -/
  | loadNew (folder : Folder) (lastUid : Uid)
  | move (source destination : Folder) (uids : List Uid)
  | send (raw : Bytes)
  /-- Compare the folder with the cache. -/
  | syncFolder (folder : Folder)
deriving DecidableEq, Repr

def TaskKind.name : TaskKind → String
  | updateLabels => "update_labels"
  | loadMessages .. => "load_messages"
  | loadDetails .. => "load_message_details"
  | loadPage .. => "load_messages_to_cache"
  | loadNew .. => "load_new_messages"
  | move .. => "move_messages"
  | send _ => "send_message"
  | syncFolder _ => "sync_folder"

/-- Whether a task needs a session with the mail server. -/
def TaskKind.needsMailbox : TaskKind → Bool
  | send _ => false
  | _ => true

structure Task where
  tag : RequestTag
  kind : TaskKind
deriving DecidableEq, Repr

end MailSync
