import MailSync.Imap.Command
import MailSync.Imap.Number
import MailSync.Session

/-!
# Mailboxes over IMAP

Each call of a session is a short dialogue of IMAP commands. A response
that cannot be read is passed over; the data of the others is taken as it
stands.
-/

namespace MailSync

/-- The items of an answer that could be read. -/
def readable {ε α : Type} (items : List (Except ε α)) : List α := items.filterMap (·.toOption)

namespace FetchItem

/-- The number of the message, as it is kept. -/
def keptUid? (f : FetchItem) : Option Uid := f.uid?.map (·.toUInt64)

/-- The entry that a response makes in a listing. -/
def message (f : FetchItem) : RemoteMessage where
  uid := f.keptUid?
  flags := OrderedSet.ofList (f.flags.filterMap Flag.ofWire?)
  envelope := ((f.part? .header).map Envelope.ofBytes).getD .empty
  size := f.size?

/-- The snippet in a response that names its message; no snippet is an empty one. -/
def snippet? (f : FetchItem) : Option (Uid × Bytes) :=
  f.keptUid?.map fun uid => (uid, (f.part? .text).getD [])

end FetchItem

namespace ListEntry

/-- What stands before the first occurrence of a mark. -/
def takeUntil (mark : List Char) : List Char → List Char
  | [] => []
  | c :: rest => if mark.isPrefixOf (c :: rest) then [] else c :: takeUntil mark rest

/-- What stands after the last delimiter of a name. -/
def lastPiece (delimiter name : List Char) : List Char :=
  (takeUntil delimiter.reverse name.reverse).reverse

/-- The inbox has one name; any other folder is called by the last piece of its name. -/
def shortName (e : ListEntry) : String :=
  if Ascii.eqIgnoreCase e.name "INBOX" then "INBOX"
  else match e.delimiter with
    | some d => String.ofList (lastPiece d.toList e.name.toList)
    | none => e.name

def folder (e : ListEntry) : Folder := ⟨e.name, e.shortName, e.attributes.map (·.name)⟩

end ListEntry

def MailboxStatus.folderStatus (s : MailboxStatus) : FolderStatus :=
  ⟨s.messages, s.uidValidity, s.uidNext.map (·.toUInt64)⟩

namespace ImapMailbox

/-- A dialogue of IMAP commands. -/
abbrev Commands (α : Type) := Attempt ImapCommand ImapCommand.Reply MailError α

/-- Sends a command; its failure is one of the call, named by the context. -/
def send (context : String) (c : ImapCommand) : Commands c.Value :=
  ExceptT.mk do
    match ← Dialogue.call c with
    | .ok value => return .ok value
    | .error e => return .error (e.ofCall context)

def fetch (set : String) (query : FetchQuery) : Commands (List FetchItem) :=
  return readable (← send "UID FETCH" (.uidFetch set query))

/-- Drops the repetitions in a sorted list. -/
def collapse : List UInt32 → List UInt32
  | a :: b :: rest => if a = b then collapse (b :: rest) else a :: collapse (b :: rest)
  | short => short

/-- The distinct numbers in ascending order. -/
def ascending (uids : List UInt32) : List UInt32 := collapse (uids.mergeSort fun a b => a ≤ b)

/-- Fetches a whole message; the first response for its number counts. -/
def fetchRaw (uid : Uid) : Commands (Option Bytes) := do
  let wanted ← (ExceptT.mk (pure uid.wire?) : Commands UInt32)
  let items ← fetch (toString wanted) .whole
  return (items.find? (·.uid? = some wanted)).bind (·.part? .whole)

/-- Copies messages, marks them as deleted, and removes what is marked. -/
def move (set destination : String) : Commands Unit := do
  send ("UID COPY to " ++ destination) (.uidCopy set destination)
  send "UID STORE" (.uidStoreDeleted set)
  send "EXPUNGE" .expunge

/-- The commands of a call. -/
def perform : (c : SessionCall) → Commands c.Value
  | .noop => send "NOOP" .noop
  | .listFolders => return (readable (← send "LIST" .list)).map (·.folder)
  | .select folder => return (← send ("SELECT " ++ folder) (.select folder)).folderStatus
  | .search query =>
    return (ascending (← send "UID SEARCH" (.uidSearch query))).map (·.toUInt64)
  | .fetchFlags set => return (← fetch set .flags).map (·.message)
  | .fetchHeaders set => return (← fetch set .headers).map (·.message)
  | .fetchText set limit => return (← fetch set (.snippet limit)).filterMap (·.snippet?)
  | .fetchRaw uid => fetchRaw uid
  | .move set destination => move set destination
  | .logout => send "LOGOUT" .logout

end ImapMailbox

end MailSync
