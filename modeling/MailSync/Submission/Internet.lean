import MailSync.Text.Number

/-!
# Addresses of hosts

The text of an address in version 6 of the Internet protocol: eight groups
of hexadecimal digits, of which `::` leaves out one or more that are zero,
and the last two of which may be written as an address in version 4.
-/

namespace MailSync.Internet

/-- A decimal number up to 255 without zeros in front. -/
def isByte (cs : List Char) : Bool :=
  cs.all Char.isDigit && !cs.isEmpty && cs.length ≤ 3 && (cs = ['0'] || cs.head? ≠ some '0') &&
    (cs.foldl (fun n c => n * 10 + (c.toNat - 48)) 0) ≤ 255

def isVersion4 (cs : List Char) : Bool :=
  let parts := cs.splitOn '.'
  parts.length = 4 && parts.all isByte

def isHexDigit (c : Char) : Bool :=
  c.isDigit || ('a' ≤ c && c ≤ 'f') || ('A' ≤ c && c ≤ 'F')

def isGroup (cs : List Char) : Bool := !cs.isEmpty && cs.length ≤ 4 && cs.all isHexDigit

/-- The number of groups in parts between colons; only the last may be an address in version 4. -/
def groups? : List (List Char) → Option Nat
  | [] => some 0
  | [last] => if isGroup last then some 1 else if isVersion4 last then some 2 else none
  | part :: rest => if isGroup part then (groups? rest).map (· + 1) else none

/-- The parts between colons, of which an empty text has none. -/
def parts (cs : List Char) : List (List Char) := if cs.isEmpty then [] else cs.splitOn ':'

/-- What stands before and after the first `::`. -/
def atGap : List Char → Option (List Char × List Char)
  | ':' :: ':' :: rest => some ([], rest)
  | c :: rest => (atGap rest).map fun (before, after) => (c :: before, after)
  | [] => none

def isVersion6 (cs : List Char) : Bool :=
  match atGap cs with
  | none => groups? (parts cs) = some 8
  | some (before, after) =>
    match groups? (parts before), groups? (parts after) with
    | some m, some n => (parts before).all isGroup && m + n ≤ 7
    | _, _ => false

end MailSync.Internet
