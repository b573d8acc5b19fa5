import MailSync.Text.Blank
import MailSync.Text.Ascii

/-!
# Quoted-printable text within one line

An octet is written as an equals sign and two hexadecimal digits. Reading
never fails: an equals sign that starts no such escape stands for itself,
one at the end of the line vanishes, and so does every character outside
printable ASCII and its blanks.
-/

namespace MailSync.QuotedPrintable

def hexDigit? (c : Char) : Option UInt8 :=
  if '0' ≤ c ∧ c ≤ '9' then some (UInt8.ofNat (c.toNat - 48))
  else if 'A' ≤ c ∧ c ≤ 'F' then some (UInt8.ofNat (c.toNat - 55))
  else if 'a' ≤ c ∧ c ≤ 'f' then some (UInt8.ofNat (c.toNat - 87))
  else none

def octet (c : Char) : UInt8 := UInt8.ofNat c.toNat

def unescape : List Char → Bytes
  | [] => []
  | ['='] => []
  | ['=', x] => [61, octet x]
  | '=' :: x :: y :: rest =>
    match hexDigit? x, hexDigit? y with
    | some h, some l => (h * 16 + l) :: unescape rest
    | _, _ => 61 :: octet x :: octet y :: unescape rest
  | c :: rest => octet c :: unescape rest

/-- The characters that a line may carry. -/
def isCarried (c : Char) : Bool :=
  c = '\t' || c = '\r' || c = '\n' || (' ' ≤ c && c ≤ '~')

/-- Reads one line; blanks at its end are not part of it. -/
def decode (line : List Char) : Bytes :=
  unescape (Blank.trimEnd (line.filter isCarried))

end MailSync.QuotedPrintable
