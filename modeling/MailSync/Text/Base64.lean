import MailSync.Text.Ascii

/-!
# Base64

Three octets are written as four characters, the last group padded with
equals signs. Reading ignores line breaks, asks for complete groups,
and accepts padding at the end of any group.
-/

namespace MailSync.Base64

/-- The character for a six-bit value. -/
def symbol (n : Nat) : Char :=
  if n < 26 then Char.ofNat (65 + n)
  else if n < 52 then Char.ofNat (97 + (n - 26))
  else if n < 62 then Char.ofNat (48 + (n - 52))
  else if n = 62 then '+'
  else '/'

/-- The six-bit value of a character. -/
def value? (c : Char) : Option Nat :=
  if 'A' ≤ c ∧ c ≤ 'Z' then some (c.toNat - 65)
  else if 'a' ≤ c ∧ c ≤ 'z' then some (c.toNat - 97 + 26)
  else if '0' ≤ c ∧ c ≤ '9' then some (c.toNat - 48 + 52)
  else if c = '+' then some 62
  else if c = '/' then some 63
  else none

def encodeChars : Bytes → List Char
  | [] => []
  | [a] =>
    let n := a.toNat * 16
    [symbol (n / 64), symbol (n % 64), '=', '=']
  | [a, b] =>
    let n := (a.toNat * 256 + b.toNat) * 4
    [symbol (n / 4096), symbol (n / 64 % 64), symbol (n % 64), '=']
  | a :: b :: c :: rest =>
    let n := (a.toNat * 256 + b.toNat) * 256 + c.toNat
    symbol (n / 262144) :: symbol (n / 4096 % 64) :: symbol (n / 64 % 64) :: symbol (n % 64) ::
      encodeChars rest

def encode (bs : Bytes) : String := String.ofList (encodeChars bs)

/-- The octets of one group of four characters. -/
def group? (a b c d : Char) : Option Bytes := do
  let a ← value? a
  let b ← value? b
  let first := UInt8.ofNat (a * 4 + b / 16)
  if c = '=' ∧ d = '=' then return [first]
  let c ← value? c
  let second := UInt8.ofNat (b % 16 * 16 + c / 4)
  if d = '=' then return [first, second]
  let d ← value? d
  return [first, second, UInt8.ofNat (c % 4 * 64 + d)]

def groups? : List Char → Option Bytes
  | [] => some []
  | a :: b :: c :: d :: rest => do return (← group? a b c d) ++ (← groups? rest)
  | _ => none

def decode? (cs : List Char) : Option Bytes :=
  groups? (cs.filter fun c => c ≠ '\r' ∧ c ≠ '\n')

end MailSync.Base64
