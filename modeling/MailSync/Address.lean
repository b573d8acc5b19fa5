import MailSync.Text.Blank

/-!
# Address lists

The value of an address header: addresses with or without a display name,
groups of addresses, and comments. A list is read character by character
(`AddressReader.step`); a list with one fault is refused as a whole.
-/

namespace MailSync

/-- An address, with the name shown for it. -/
structure EmailAddress where
  name : Option String
  address : String
deriving DecidableEq, Repr

/-- The text shown for an address. -/
def EmailAddress.display (a : EmailAddress) : String :=
  match a.name with
  | none | some "" => a.address
  | some name => name ++ " <" ++ a.address ++ ">"

/-- An item of an address list. -/
inductive AddressEntry where
  | single (address : EmailAddress)
  | group (name : String) (members : List EmailAddress)
deriving DecidableEq, Repr

def AddressEntry.addresses : AddressEntry → List EmailAddress
  | single a => [a]
  | group _ members => members

/-- Where the reader stands; texts hold the characters read, in order. -/
inductive AddressState where
  /-- Before an item. -/
  | start
  /-- Behind the colon of a group. -/
  | opened
  /-- Between the quotes of a name. -/
  | quoted (name : List Char)
  | escaped (name : List Char)
  /-- Behind a quoted name. -/
  | afterQuoted (name : List Char)
  | bracketed (name : Option (List Char)) (address : List Char)
  | afterBracketed
  /-- In an address, a name or a group name, which only its end will tell. -/
  | plain (text : List Char)
  /-- In a comment inside such a text. -/
  | comment (text : List Char)
  /-- In a comment behind a bracketed address. -/
  | trailer
deriving DecidableEq, Repr

/-- A group that has not ended. -/
structure OpenGroup where
  name : String
  members : List EmailAddress
  /-- The blanks held back outside the group. -/
  outerBlanks : List Char
deriving DecidableEq, Repr

structure AddressReader where
  /-- The items read. -/
  entries : List AddressEntry
  /-- The group being read. -/
  group : Option OpenGroup
  /-- The blanks met behind quoted names. They wait for a name that goes on after its
  quotes, if not this one then a later one of the same group. -/
  blanks : List Char
  state : AddressState
deriving DecidableEq, Repr

namespace AddressReader

def begin : AddressReader := ⟨[], none, [], .start⟩

/-- Files an address; without an at sign it is none. -/
def file (r : AddressReader) (name : Option (List Char)) (address : List Char)
    (next : AddressState) : Option AddressReader :=
  if '@' ∈ address then
    let a : EmailAddress := ⟨name.map String.ofList, String.ofList address⟩
    match r.group with
    | none => some { r with entries := r.entries ++ [.single a], state := next }
    | some g => some { r with group := some { g with members := g.members ++ [a] }, state := next }
  else none

/-- Opens a group; groups do not nest. -/
def openGroup (r : AddressReader) (name : List Char) : Option AddressReader :=
  match r.group with
  | none => some ⟨r.entries, some ⟨String.ofList name, [], r.blanks⟩, [], .opened⟩
  | some _ => none

/-- Ends the item at a semicolon, and with it the group, if one is open. -/
def semicolon (r : AddressReader) : AddressReader :=
  match r.group with
  | none => { r with state := .start }
  | some g => ⟨r.entries ++ [.group g.name g.members], none, g.outerBlanks, .start⟩

/-- Reads one character before an item. -/
def startItem (r : AddressReader) (c : Char) : Option AddressReader :=
  if isBlank c then some { r with state := .start }
  else match c with
    | '"' => some { r with state := .quoted [] }
    | '<' => some { r with state := .bracketed none [] }
    | ';' => r.group.map fun _ => r.semicolon
    | c => some { r with state := .plain [c] }

def step (r : AddressReader) (c : Char) : Option AddressReader :=
  match r.state with
  | .start | .opened => r.startItem c
  | .quoted name =>
    match c with
    | '\\' => some { r with state := .escaped name }
    | '"' => some { r with state := .afterQuoted name }
    | c => some { r with state := .quoted (name ++ [c]) }
  | .escaped name => some { r with state := .quoted (name ++ [c]) }
  | .afterQuoted name =>
    if isBlank c then some { r with blanks := r.blanks ++ [c] }
    else match c with
      | '<' => some { r with state := .bracketed (some name) [] }
      | ':' => r.openGroup name
      | '"' => some { r with blanks := [], state := .quoted (name ++ r.blanks) }
      | c => some { r with blanks := [], state := .afterQuoted (name ++ r.blanks ++ [c]) }
  | .bracketed name address =>
    match c with
    | '>' => r.file name address .afterBracketed
    | c => some { r with state := .bracketed name (address ++ [c]) }
  | .afterBracketed =>
    if isBlank c then some r
    else match c with
      | ',' => some { r with state := .start }
      | ';' => some r.semicolon
      | '(' => some { r with state := .trailer }
      | _ => none
  | .plain text =>
    match c with
    | '<' => some { r with state := .bracketed (some (Blank.trimEnd text)) [] }
    | ',' => r.file none (Blank.trimEnd text) .start
    | ';' => (r.file none (Blank.trimEnd text) .start).map semicolon
    | ':' => r.openGroup (Blank.trimEnd text)
    | '(' => some { r with state := .comment text }
    | c => some { r with state := .plain (text ++ [c]) }
  | .comment text => if c = ')' then some { r with state := .plain text } else some r
  | .trailer => if c = ')' then some { r with state := .afterBracketed } else some r

/-- The items, if the list may end here. -/
def finish (r : AddressReader) : Option (List AddressEntry) :=
  match r.group, r.state with
  | none, .start | none, .afterBracketed => some r.entries
  | none, .plain text => (r.file none (Blank.trimEnd text) .start).map (·.entries)
  | some g, .opened => some (r.entries ++ [.group g.name g.members])
  | _, _ => none

end AddressReader

namespace Address

/-- The items of an address list, if it is faultless. -/
def entries? (value : String) : Option (List AddressEntry) :=
  value.toList.foldlM AddressReader.step AddressReader.begin >>= AddressReader.finish

/-- All addresses of a list, those of groups in place; none if it is at fault. -/
def list (value : String) : List EmailAddress :=
  ((entries? value).getD []).flatMap AddressEntry.addresses

end Address

end MailSync
