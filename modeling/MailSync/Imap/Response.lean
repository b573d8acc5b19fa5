import MailSync.Imap.Command
import MailSync.Imap.Datum
import MailSync.Imap.Status

/-!
# Responses of a mail server

The responses that a client makes use of, each read from its own bytes.
Responses of no interest are told apart from those that cannot be read.
-/

namespace MailSync

/-- A known attribute in any case, with its backslash; or else the text itself. -/
def FolderAttribute.ofWire (text : String) : FolderAttribute :=
  match known.find? fun (_, name) => Ascii.eqIgnoreCase ("\\" ++ name) text with
  | some (a, _) => a
  | none => extended text

namespace Datum

/-- The text of an atom, a quoted text or a literal. -/
def string? : Datum → Option String
  | atom bytes | text bytes => Utf8.decode? bytes
  | list _ => none

/-- Whether a datum stands for a missing one. -/
def isNil : Datum → Bool
  | atom bytes => Ascii.eqIgnoreCase (Utf8.ofLatin1 bytes) "NIL"
  | _ => false

/-- A text that may be missing. -/
def optional? (d : Datum) : Option (Option Bytes) :=
  match d with
  | text bytes => some (some bytes)
  | d => if d.isNil then some none else none

def number? : Datum → Option UInt32
  | atom bytes => wireNumber? bytes
  | _ => none

/-- The texts of all items of a list. -/
def strings? : Datum → Option (List String)
  | list items => items.mapM string?
  | _ => none

end Datum

namespace ListEntry

/-- The name of a folder; the inbox has one spelling. -/
def spelled (name : String) : String := if Ascii.eqIgnoreCase name "INBOX" then "INBOX" else name

/-- The folder in the data of a LIST response. -/
def ofData? : List Datum → Option ListEntry
  | [attributes, delimiter, name] => do
    let attributes ← attributes.strings?
    let delimiter ← match ← delimiter.optional? with
      | some bytes => (Utf8.decode? bytes).map some
      | none => some none
    return ⟨spelled (← name.string?), delimiter, attributes.map .ofWire⟩
  | _ => none

end ListEntry

/-- The part of a message that a name stands for; it may be followed by an offset. -/
def MessagePart.named? (name : String) : Option MessagePart :=
  match String.ofList ((Ascii.upper name).toList.takeWhile (· ≠ '<')) with
  | "BODY[HEADER]" | "RFC822.HEADER" => some header
  | "BODY[TEXT]" | "RFC822.TEXT" => some text
  | "BODY[]" | "RFC822" => some whole
  | _ => none

/-- A datum with its name. -/
def FetchDatum.ofPair? (name : String) (value : Datum) : Option FetchDatum :=
  match Ascii.upper name with
  | "UID" => value.number?.map uid
  | "RFC822.SIZE" => value.number?.map size
  | "FLAGS" => value.strings?.map flags
  | _ =>
    match MessagePart.named? name with
    | some p => value.optional?.map (part p)
    | none => some other

/-- The data of a FETCH response, in pairs of name and value. -/
def FetchItem.ofPairs? : List Datum → Option FetchItem
  | name :: value :: rest => do
    let datum ← FetchDatum.ofPair? (← name.string?) value
    return ⟨datum :: (← ofPairs? rest).data⟩
  | [] => some ⟨[]⟩
  | [_] => none

inductive ImapResponse where
  /-- The server waits for more; with its challenge, if there is one. -/
  | proceed (text : StatusText)
  /-- The end of the command with this tag. -/
  | tagged (tag : String) (status : ServerStatus) (text : StatusText)
  | status (status : ServerStatus) (text : StatusText)
  /-- The number of messages in the selected folder. -/
  | messages (n : UInt32)
  | folder (entry : ListEntry)
  | found (uids : List UInt32)
  | fetched (item : FetchItem)
  /-- A response of no interest. -/
  | other
deriving DecidableEq, Repr

namespace ImapResponse

/-- A response about the message or the folder with a number. -/
def ofNumbered? (n : UInt32) (rest : Bytes) : Option ImapResponse :=
  let (word, rest) := firstWord rest
  match Ascii.upper (Utf8.ofLatin1 word) with
  | "EXISTS" => some (messages n)
  | "FETCH" => do
    match ← Datum.read? rest with
    | [.list pairs] => return fetched (← FetchItem.ofPairs? pairs)
    | _ => none
  | _ => some other

/-- A response that no command is named for. -/
def ofUntagged? (bytes : Bytes) : Option ImapResponse :=
  let (word, rest) := firstWord bytes
  match ServerStatus.read? word, wireNumber? word with
  | some s, _ => (StatusText.read? rest).map (status s)
  | none, some n => ofNumbered? n rest
  | none, none =>
    match Ascii.upper (Utf8.ofLatin1 word) with
    | "LIST" => do return folder (← ListEntry.ofData? (← Datum.read? rest))
    | "SEARCH" =>
      (((rest.splitOn 32).filter (!·.isEmpty)).mapM wireNumber?).map found
    | "" => none
    | _ => some other

/-- The response in a line and its literals. -/
def ofLine? (line : Bytes) : Option ImapResponse :=
  let (word, rest) := firstWord line
  if word = [43] then (StatusText.read? rest).map proceed
  else if word = [42] then ofUntagged? rest
  else do
    let (judgement, rest) := firstWord rest
    return tagged (← Utf8.decode? word) (← ServerStatus.read? judgement) (← StatusText.read? rest)

/-- The response that ends with a line end. -/
def ofFrame (frame : Bytes) : Except ImapError ImapResponse :=
  match ofLine? (frame.take (frame.length - 2)) with
  | some r => .ok r
  | none => .error (.io ("unreadable response: " ++ Escaped.quote (Utf8.decodeLossy frame)))

end ImapResponse

end MailSync
