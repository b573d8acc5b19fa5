import MailSync.Request
import MailSync.SequenceSet
import MailSync.Settings

/-!
# Synchronising a folder

Looking for new messages and comparing a whole folder with the cache. Both
load the headers of what is not cached, find out which of these messages
are encrypted, and leave the writing to whoever reads the report.
-/

namespace MailSync

/-- The account a worker serves, and how. -/
structure Profile where
  email : String
  settings : SyncSettings
deriving DecidableEq, Repr

namespace Task

/-- How much of a body is looked at to tell whether it is encrypted. -/
def snippetLength : UInt32 := 2048

/-- Finds out which of these messages are encrypted. -/
def encryptionStates (settings : SyncSettings) (s : SessionId) (messages : List RemoteMessage) :
    Trial EncryptionStates := do
  let uids := messages.filterMap (·.uid)
  if settings.showOnlyEncrypted then
    return OrderedMap.ofList (uids.map fun uid => (uid, true))
  if uids.isEmpty then return ∅
  let snippets ← Trial.session s (.fetchText (SequenceSet.ofList uids) snippetLength)
  return OrderedMap.ofList (snippets.map fun (uid, snippet) => (uid, looksEncrypted snippet))

/-- The cached numbers of a folder with their flags. -/
def snapshot (p : Profile) (folder : Folder) : Trial Snapshot :=
  Trial.outside (.store (.uidFlags p.email folder.shortName))

/-- New mail is announced while the user looks elsewhere, and only in the inbox. -/
def announces (folder : Folder) : Trial Bool := do
  return !(← ExceptT.lift (Work.inside .isForeground)) && folder.isInbox

/-- The smallest number that can come after this one. -/
def uidAfter? (uid : Uid) : Option Uid :=
  if uid.toNat + 1 < UInt32.size then some (uid + 1) else none

/-- The numbers above this one. A server answers the search `n:*` with its largest
number even if that is below `n`. -/
def uidsAfter (s : SessionId) (uid : Uid) : Trial (List Uid) := do
  match uidAfter? uid with
  | none => return []
  | some first =>
    let found ← Trial.session s (.search ("UID " ++ toString first ++ ":*"))
    return found.filter (uid < ·)

/-- The messages with these numbers that are not cached. -/
def uncached (p : Profile) (s : SessionId) (folder : Folder) (uids : List Uid) :
    Trial (List RemoteMessage) := do
  if uids.isEmpty then return []
  let cached ← snapshot p folder
  return Reconciliation.toInsert cached.contains
    (← Trial.session s (.fetchHeaders (SequenceSet.ofList uids)))

def loadNew (p : Profile) (s : SessionId) (folder : Folder) (lastUid : Uid) : Trial Report := do
  let _ ← Trial.session s (.select folder.fullName)
  let messages ← uncached p s folder (← uidsAfter s lastUid)
  let states ← encryptionStates p.settings s messages
  return .newMessages folder messages states (← announces folder)

/-- Lists numbers and flags of the selected folder. -/
def listing (s : SessionId) (status : FolderStatus) : Trial (List RemoteMessage) := do
  if status.messages = 0 then return []
  Trial.session s (.fetchFlags "1:*")

/-- The entries of a listing whose numbers are in a set. -/
def within (uids : OrderedSet Uid) (messages : List RemoteMessage) : List RemoteMessage :=
  messages.filter fun m => m.uid.any fun uid => uid ∈ uids

/-- Loads the messages with the numbers in a set. -/
def headersOf (s : SessionId) (uids : OrderedSet Uid) : Trial (List RemoteMessage) := do
  if uids.isEmpty then return []
  return within uids (← Trial.session s (.fetchHeaders (SequenceSet.ofSet uids)))

def syncFolder (p : Profile) (s : SessionId) (folder : Folder) : Trial Report := do
  let remote ← listing s (← Trial.session s (.select folder.fullName))
  let diff := Reconciliation.diff (← snapshot p folder) remote
  let new ← headersOf s diff.insert
  let updated := within diff.update remote
  let states ← encryptionStates p.settings s new
  return .refreshed folder new updated diff.delete states (← announces folder)

end Task

end MailSync
