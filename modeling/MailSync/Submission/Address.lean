import MailSync.DomainName
import MailSync.Submission.Internet
import MailSync.Text.Alphanumeric
import MailSync.Text.Split

/-!
# Addresses for submission

The addresses that an SMTP envelope takes: a local part of atoms with dots
between them or in quotes, and a domain of labels, in brackets, or given as
a number. They are stricter than those of an address header.
-/

namespace MailSync.SubmissionAddress

/-- Why an address cannot be part of an envelope. -/
inductive Fault where
  | missingParts
  | invalidUser
  | invalidDomain
deriving DecidableEq, Repr

def Fault.message : Fault → String
  | .missingParts => "Missing domain or user"
  | .invalidUser => "Invalid email user"
  | .invalidDomain => "Invalid email domain"

/-- The characters outside ASCII that are taken for text. They are those whose code point
has two octets that would be one character in UTF-8. -/
def isPacked (c : Char) : Bool :=
  let high := c.toNat / 256
  let low := c.toNat % 256
  0xC2 ≤ high && high ≤ 0xDF && 0x80 ≤ low && low ≤ 0xBF

/-- Atoms are made of letters, digits, these signs and text outside ASCII. -/
def isAtomChar (c : Char) : Bool :=
  isAlphanumeric c || isPacked c || "!#$%&'*+-/=?^_`\x7b|\x7d~".contains c

def isAtom (cs : List Char) : Bool := !cs.isEmpty && cs.all isAtomChar

/-- What may stand between quotes: blanks, printable ASCII characters, pairs of a backslash
and one of those, and text outside ASCII. -/
def isQuotable : List Char → Bool
  | [] => true
  | '\\' :: c :: rest => ('!' ≤ c && c ≤ '~') && isQuotable rest
  | c :: rest =>
    (c = ' ' || c = '\t' || c = '!' || ('#' ≤ c && c ≤ '[') || (']' ≤ c && c ≤ '~') ||
      isPacked c) && isQuotable rest

def octets (cs : List Char) : Nat := cs.foldr (·.utf8Size + ·) 0

/-- A local part has at most 64 octets. -/
def isLocalPart (cs : List Char) : Bool :=
  !cs.isEmpty && octets cs ≤ 64 &&
    if cs.head? = some '"' && cs.getLast? = some '"' then
      cs.length > 2 && isQuotable (cs.drop 1).dropLast
    else (cs.splitOn '.').all isAtom

/-- A label has at most 63 octets, and a letter or digit at either end. -/
def isLabel (cs : List Char) : Bool :=
  isAtom cs && octets cs ≤ 63 && cs.head?.any isAlphanumeric && cs.getLast?.any isAlphanumeric

/-- What may stand between the brackets of a literal domain. -/
def isLiteralChar (c : Char) : Bool :=
  ('!' ≤ c && c ≤ 'Z') || ('^' ≤ c && c ≤ '~') || isPacked c

/-- A domain has at most 254 octets. -/
def isPlainDomain (cs : List Char) : Bool :=
  !cs.isEmpty && octets cs ≤ 254 &&
    if cs.head? = some '[' && cs.getLast? = some ']' then (cs.drop 1).dropLast.all isLiteralChar
    else (cs.splitOn '.').all isLabel

/-- Whether a domain is one as it stands. -/
def isDirectDomain (cs : List Char) : Bool := isPlainDomain cs || Internet.isVersion6 cs

/-- Whether a domain is one as it stands or in ASCII. -/
def isDomain (cs : List Char) : Bool :=
  isDirectDomain cs || (DomainName.ascii? cs).any isDirectDomain

/-- The fault of an address, if it has one; the last at sign divides it. -/
def fault? (address : String) : Option Fault :=
  let reversed := address.toList.reverse
  if '@' ∈ reversed then
    let domain := (reversed.takeWhile (· ≠ '@')).reverse
    let user := ((reversed.dropWhile (· ≠ '@')).drop 1).reverse
    if !isLocalPart user then some .invalidUser
    else if !isDomain domain then some .invalidDomain
    else none
  else some .missingParts

end MailSync.SubmissionAddress
