import MailSync.Dialogue
import MailSync.Imap.Attribute
import MailSync.Imap.Error
import MailSync.Text.Ascii

/-!
# IMAP commands

The commands that a mailbox sends, and what each brings. Fetches, lists,
stores and expunges bring one item per response, readable or not; a fetch
also brings responses that nobody asked for.
-/

namespace MailSync

/-- A folder in the answer to LIST. -/
structure ListEntry where
  name : String
  delimiter : Option String
  attributes : List FolderAttribute
deriving DecidableEq, Repr

/-- What the answer to SELECT says. -/
structure MailboxStatus where
  messages : UInt32
  uidValidity : Option UInt32
  uidNext : Option UInt32
deriving DecidableEq, Repr

/-- A part of a message that can be fetched. -/
inductive MessagePart where
  | header
  | text
  | whole
deriving DecidableEq, Repr

/-- One datum of a FETCH response. -/
inductive FetchDatum where
  | uid (n : UInt32)
  | size (n : UInt32)
  | flags (tokens : List String)
  /-- A part of the message, unless it is NIL. -/
  | part (part : MessagePart) (data : Option Bytes)
  /-- Anything else. -/
  | other
deriving DecidableEq, Repr

/-- The data of a FETCH response, in order. -/
structure FetchItem where
  data : List FetchDatum
deriving DecidableEq, Repr

namespace FetchItem

/-- The number of the message; the last that is given counts. -/
def uid? (f : FetchItem) : Option UInt32 :=
  f.data.reverse.findSome? fun d => match d with
    | .uid n => some n
    | _ => none

/-- The size of the message; the last that is given counts. -/
def size? (f : FetchItem) : Option UInt32 :=
  f.data.reverse.findSome? fun d => match d with
    | .size n => some n
    | _ => none

/-- All flags that are given. -/
def flags (f : FetchItem) : List String :=
  f.data.flatMap fun d => match d with
    | .flags tokens => tokens
    | _ => []

/-- The first data given for a part. -/
def part? (f : FetchItem) (p : MessagePart) : Option Bytes :=
  f.data.findSome? fun d => match d with
    | .part q data => if p = q then data else none
    | _ => none

end FetchItem

/-- What is asked of each message in a fetch. -/
inductive FetchQuery where
  | flags
  | headers
  /-- The first bytes of the body. -/
  | snippet (limit : UInt32)
  | whole
deriving DecidableEq, Repr

namespace FetchQuery

def text : FetchQuery → String
  | flags => "(UID FLAGS)"
  | headers => "(UID FLAGS RFC822.SIZE BODY.PEEK[HEADER])"
  | snippet limit => "(UID BODY.PEEK[TEXT]<0." ++ toString limit ++ ">)"
  | whole => "(UID BODY.PEEK[])"

end FetchQuery

/-- A command of an open session. -/
inductive ImapCommand where
  | noop
  /-- List all folders. -/
  | list
  | select (folder : String)
  | uidSearch (query : String)
  | uidFetch (set : String) (query : FetchQuery)
  | uidCopy (set folder : String)
  /-- Mark messages as deleted. -/
  | uidStoreDeleted (set : String)
  /-- Remove the messages of the selected folder that are marked as deleted. -/
  | expunge
  | logout
deriving DecidableEq, Repr

namespace ImapCommand

/-- What a command brings if it does not fail. -/
abbrev Value : ImapCommand → Type
  | noop | uidCopy .. | uidStoreDeleted _ | expunge | logout => Unit
  | list => List (Except ImapError ListEntry)
  | select _ => MailboxStatus
  | uidSearch _ => List UInt32
  | uidFetch .. => List (Except ImapError FetchItem)

abbrev Reply (c : ImapCommand) : Type := Except ImapError c.Value

end ImapCommand

end MailSync
