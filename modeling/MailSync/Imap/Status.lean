import MailSync.Text.Escaped
import MailSync.Text.Split
import MailSync.Text.Utf8
import MailSync.Imap.Error
import MailSync.Imap.Frame

/-!
# Statuses of a mail server

How a server judges a command, and the text that goes with it. The text may
open with a code in brackets; a code that is not known is part of the text.
-/

namespace MailSync

/-- A word of a response: what stands before the first blank, and what after it. -/
def firstWord (bytes : Bytes) : Bytes × Bytes := (splitAt 32 bytes).getD (bytes, [])

/-- A number of at most 32 bits, in digits only. -/
def wireNumber? (bytes : Bytes) : Option UInt32 :=
  if !bytes.isEmpty && bytes.all Ascii.isDigitByte && FrameReader.decimal bytes < UInt32.size then
    some (UInt32.ofNat (FrameReader.decimal bytes))
  else none

inductive ServerStatus where
  | ok
  | no
  | bad
  /-- A greeting to a client that need not log in. -/
  | preauth
  /-- The server is about to close the connection. -/
  | bye
deriving DecidableEq, Repr

namespace ServerStatus

def read? (word : Bytes) : Option ServerStatus :=
  match Ascii.upper (Utf8.ofLatin1 word) with
  | "OK" => some ok
  | "NO" => some no
  | "BAD" => some bad
  | "PREAUTH" => some preauth
  | "BYE" => some bye
  | _ => none

def name : ServerStatus → String
  | ok => "Ok"
  | no => "No"
  | bad => "Bad"
  | preauth => "PreAuth"
  | bye => "Bye"

end ServerStatus

inductive StatusCode where
  | alert
  | parse
  | readOnly
  | readWrite
  /-- The folder is missing and might be created. -/
  | tryCreate
  | uidNotSticky
  | uidNext (n : UInt32)
  | uidValidity (n : UInt32)
  | unseen (n : UInt32)
deriving DecidableEq, Repr

namespace StatusCode

/-- The code that stands between brackets. -/
def read? (inside : Bytes) : Option StatusCode :=
  let (word, rest) := firstWord inside
  match Ascii.upper (Utf8.ofLatin1 word), rest with
  | "ALERT", [] => some alert
  | "PARSE", [] => some parse
  | "READ-ONLY", [] => some readOnly
  | "READ-WRITE", [] => some readWrite
  | "TRYCREATE", [] => some tryCreate
  | "UIDNOTSTICKY", [] => some uidNotSticky
  | "UIDNEXT", n => (wireNumber? n).map uidNext
  | "UIDVALIDITY", n => (wireNumber? n).map uidValidity
  | "UNSEEN", n => (wireNumber? n).map unseen
  | _, _ => none

def description : StatusCode → String
  | alert => "Alert"
  | parse => "Parse"
  | readOnly => "ReadOnly"
  | readWrite => "ReadWrite"
  | tryCreate => "TryCreate"
  | uidNotSticky => "UidNotSticky"
  | uidNext n => "UidNext(" ++ toString n ++ ")"
  | uidValidity n => "UidValidity(" ++ toString n ++ ")"
  | unseen n => "Unseen(" ++ toString n ++ ")"

end StatusCode

/-- What a server says along with a status. -/
structure StatusText where
  code : Option StatusCode
  info : Option String
deriving DecidableEq, Repr

namespace StatusText

/-- The code that opens a text, and the text after it. -/
def leadingCode? (bytes : Bytes) : Option (StatusCode × Bytes) :=
  match bytes with
  | 91 :: rest => do
    let (inside, rest) ← splitAt 93 rest
    return (← StatusCode.read? inside, rest)
  | _ => none

/-- Reads a text; an empty one says nothing. -/
def read? (bytes : Bytes) : Option StatusText := do
  let (code, rest) := match leadingCode? bytes with
    | some (code, rest) => (some code, rest.drop 1)
    | none => (none, bytes)
  let info ← Utf8.decode? rest
  return ⟨code, if info = "" then none else some info⟩

def option {α : Type} (describe : α → String) : Option α → String
  | none => "None"
  | some a => "Some(" ++ describe a ++ ")"

/-- The form in which a refusal quotes the server. -/
def description (t : StatusText) : String :=
  "code: " ++ option StatusCode.description t.code ++ ", info: " ++ option Escaped.quote t.info

end StatusText

/-- The failure that a status stands for. -/
def ServerStatus.failure? (s : ServerStatus) (t : StatusText) : Option ImapError :=
  match s with
  | ok => none
  | no => some (.no t.description)
  | bad => some (.bad t.description)
  | preauth | bye =>
    some (.io ("status: " ++ s.name ++ ", code: " ++ StatusText.option StatusCode.description t.code ++
      ", information: " ++ StatusText.option Escaped.quote t.info))

end MailSync
