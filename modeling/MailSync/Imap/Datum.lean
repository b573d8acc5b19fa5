import MailSync.Imap.Frame

/-!
# Data in responses

Structured responses are made of atoms, texts and lists in parentheses. A
bracket within an atom keeps everything up to its end together, unless the
atom is a flag. A quoted text is kept as it stands between its quotes.
-/

namespace MailSync

inductive Datum where
  | atom (bytes : Bytes)
  /-- A quoted text or a literal. -/
  | text (bytes : Bytes)
  | list (items : List Datum)
deriving Repr

namespace Datum

/-- Where the reader is. -/
inductive Place where
  | between
  /-- In an atom, the last byte first. -/
  | atom (read : Bytes) (bracketed : Bool)
  | quoted (read : Bytes) (escaped : Bool)
  /-- In the length of a literal. -/
  | length (n : Nat)
  /-- Between a length and its literal. -/
  | lineEnd (n : Nat)
  | literal (left : Nat) (read : Bytes)

/-- Whether a byte after these, the last of them first, opens a bracket. In a flag, which starts
with a backslash, it is a byte like any other. -/
def opensBracket (read : Bytes) (b : UInt8) : Bool := b = 91 && read.getLast? ≠ some 92

/-- The reader: where it is, and the items of each open list, the last first. -/
structure Reader where
  place : Place
  items : List Datum
  outer : List (List Datum)

namespace Reader

def fresh : Reader := ⟨.between, [], []⟩

def push (r : Reader) (d : Datum) : Reader := { r with place := .between, items := d :: r.items }

/-- Closes the list that was opened last. -/
def close? (r : Reader) : Option Reader :=
  match r.outer with
  | [] => none
  | items :: outer => some ⟨.between, .list r.items.reverse :: items, outer⟩

/-- A byte between two data. -/
def start (r : Reader) (b : UInt8) : Option Reader :=
  if b = 32 then some r
  else if b = 40 then some ⟨.between, [], r.items :: r.outer⟩
  else if b = 41 then r.close?
  else if b = 34 then some { r with place := .quoted [] false }
  else if b = 123 then some { r with place := .length 0 }
  else some { r with place := .atom [b] (b = 91) }

/-- A literal of a length that is known now. -/
def openLiteral (r : Reader) (n : Nat) : Reader :=
  if n = 0 then r.push (.text []) else { r with place := .literal n [] }

/-- One more byte; nothing if it cannot stand there. -/
def feed (r : Reader) (b : UInt8) : Option Reader :=
  match r.place with
  | .between => r.start b
  | .atom read true => some { r with place := .atom (b :: read) (b ≠ 93) }
  | .atom read false =>
    if b = 32 || b = 40 || b = 41 then (r.push (.atom read.reverse)).start b
    else some { r with place := .atom (b :: read) (opensBracket read b) }
  | .quoted read true => some { r with place := .quoted (b :: read) false }
  | .quoted read false =>
    if b = 34 then some (r.push (.text read.reverse))
    else some { r with place := .quoted (b :: read) (b = 92) }
  | .length n =>
    if Ascii.isDigitByte b then some { r with place := .length (n * 10 + (b.toNat - 48)) }
    else if b = 125 then some { r with place := .lineEnd n }
    else none
  | .lineEnd n =>
    if b = 13 then some r
    else if b = 10 then some (r.openLiteral n)
    else none
  | .literal (left + 1) read =>
    if left = 0 then some (r.push (.text (b :: read).reverse))
    else some { r with place := .literal left (b :: read) }
  | .literal 0 _ => none

/-- The data that were read, if none is unfinished. -/
def finish? (r : Reader) : Option (List Datum) :=
  match r.outer, r.place with
  | [], .between => some r.items.reverse
  | [], .atom read false => some (.atom read.reverse :: r.items).reverse
  | _, _ => none

end Reader

/-- The data in some bytes. -/
def read? (bytes : Bytes) : Option (List Datum) := (bytes.foldlM Reader.feed .fresh) >>= (·.finish?)

end Datum

end MailSync
