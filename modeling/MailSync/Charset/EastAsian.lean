import MailSync.Charset.Table.Big5
import MailSync.Charset.Table.Chinese
import MailSync.Charset.Table.Japanese
import MailSync.Charset.Table.Korean
import MailSync.Text.Ascii

/-!
# Character sets of East Asia

Sets in which a character takes one octet or several. A reader makes one
step for each octet that no earlier step has used: it says what the octet
and those after it stand for, and how many of those it has used. What
stands for nothing is U+FFFD once, and an octet of ASCII at the end of it
counts again on its own.
-/

namespace MailSync

namespace EastAsian

/-- What a step has read, and how many of the octets after its own it has used. -/
abbrev Step := UInt8 → Bytes → List Char × Nat

/-- Reads octets step by step. -/
def decode (step : Step) : Bytes → List Char
  | [] => []
  | b :: rest => (step b rest).1 ++ decode step (rest.drop (step b rest).2)
termination_by bs => bs.length
decreasing_by
  rw [List.length_drop]
  exact Nat.lt_succ_of_le (Nat.sub_le _ _)

def unknown : List Char := ['\uFFFD']

def inRange (low high b : UInt8) : Bool := low ≤ b && b ≤ high

def isAscii (b : UInt8) : Bool := b < 0x80

def charOf (n : Nat) : List Char := [Char.ofNat n]

/-- The character in a cell, if it is not empty. -/
def cell? (row : String) (column : Nat) : Option Char :=
  row.toList[column]?.filter (· ≠ '\uFFFD')

/-- The character of a set whose rows have a half for second octets below 0xA1 and a half
for those from there on. `first` is the octet of the first cell, and no octet stands for
the cell of 0x7F unless `filled`. -/
def halvesCell? (rows : List (String × String)) (lead trail first : UInt8) (filled : Bool) :
    Option Char := do
  let (left, right) ← rows[(lead - 0x81).toNat]?
  if trail ≥ 0xA1 then cell? right (trail - 0xA1).toNat
  else if trail > 0x7F && !filled then cell? left (trail - first - 1).toNat
  else cell? left (trail - first).toNat

/-- The outcome for a first octet and the octet after it. -/
def pair (found : Option (List Char)) (trail : UInt8) : List Char × Nat :=
  match found with
  | some cs => (cs, 1)
  | none => (unknown, if isAscii trail then 0 else 1)

/-- A step of a set with one or two octets a character. -/
def twoOctets (single : UInt8 → Option (List Char)) (isLead : UInt8 → Bool)
    (found : UInt8 → UInt8 → Option (List Char)) : Step := fun b rest =>
  match single b, rest with
  | some cs, _ => (cs, 0)
  | none, trail :: _ => if isLead b then pair (found b trail) trail else (unknown, 0)
  | none, [] => (unknown, 0)

def ascii (b : UInt8) : Option (List Char) :=
  if isAscii b then some (charOf b.toNat) else none

/-! ## Korean and traditional Chinese -/

def korean : Step :=
  twoOctets ascii (inRange 0x81 0xFE) fun lead trail =>
    if inRange 0x41 0xFE trail then
      (halvesCell? Charset.Table.korean lead trail 0x41 true).map fun c => [c]
    else none

/-- Four pairs stand for a letter with a mark above it. -/
def big5Marked? (lead trail : UInt8) : Option (List Char) :=
  match lead.toNat, trail.toNat with
  | 0x88, 0x62 => some ['\u00CA', '\u0304']
  | 0x88, 0x64 => some ['\u00CA', '\u030C']
  | 0x88, 0xA3 => some ['\u00EA', '\u0304']
  | 0x88, 0xA5 => some ['\u00EA', '\u030C']
  | _, _ => none

def big5 : Step :=
  twoOctets ascii (inRange 0x81 0xFE) fun lead trail =>
    if inRange 0x40 0x7E trail || inRange 0xA1 0xFE trail then
      big5Marked? lead trail <|>
        (halvesCell? Charset.Table.big5 lead trail 0x40 true).map fun c => [c]
    else none

/-! ## Simplified Chinese -/

/-- The three areas that belong to the user. -/
def chineseUser? (lead trail : UInt8) : Option Nat :=
  if inRange 0xAA 0xAF lead && trail ≥ 0xA1 then
    some (0xE000 + (lead - 0xAA).toNat * 94 + (trail - 0xA1).toNat)
  else if inRange 0xF8 0xFE lead && trail ≥ 0xA1 then
    some (0xE234 + (lead - 0xF8).toNat * 94 + (trail - 0xA1).toNat)
  else if inRange 0xA1 0xA7 lead && trail < 0xA1 then
    let column := if trail < 0x7F then (trail - 0x40).toNat else (trail - 0x41).toNat
    some (0xE4C6 + (lead - 0xA1).toNat * 96 + column)
  else none

def chinesePair? (lead trail : UInt8) : Option (List Char) :=
  if inRange 0x40 0x7E trail || inRange 0x80 0xFE trail then
    if lead = 0xA3 && trail = 0xA0 then some ['\u3000']
    else match chineseUser? lead trail with
      | some n => some (charOf n)
      | none => (halvesCell? Charset.Table.chinese lead trail 0x40 false).map fun c => [c]
  else none

/-- The code point of a character with four octets, by its number. -/
def chineseNumbered? (n : Nat) : Option Nat :=
  if 39419 < n && n < 189000 || 1237575 < n then none
  else if n = 7457 then some 0xE7C7
  else
    (Charset.Table.chineseRanges.reverse.find? (·.1 ≤ n)).map fun (first, code) =>
      code + (n - first)

def chineseFour? (a b c d : UInt8) : Option (List Char) :=
  (chineseNumbered? ((((a - 0x81).toNat * 10 + (b - 0x30).toNat) * 126 + (c - 0x81).toNat) * 10 +
    (d - 0x30).toNat)).map charOf

def chinese : Step := fun a rest =>
  if isAscii a then (charOf a.toNat, 0)
  else if a = 0x80 then (['€'], 0)
  else if a = 0xFF then (unknown, 0)
  else match rest with
    | [] => (unknown, 0)
    | b :: rest =>
      if !Ascii.isDigitByte b then pair (chinesePair? a b) b
      else match rest with
        | [] => (unknown, 1)
        | c :: rest =>
          if !inRange 0x81 0xFE c then (unknown, 0)
          else match rest with
            | [] => (unknown, 2)
            | d :: _ =>
              if Ascii.isDigitByte d then ((chineseFour? a b c d).getD unknown, 3) else (unknown, 0)

/-! ## Japanese -/

/-- The character in a row and a column of JIS X 0208. -/
def jis0208? (row column : Nat) : Option (List Char) :=
  (Charset.Table.jis0208[row]? >>= (cell? · column)).map fun c => [c]

def jis0212? (row column : Nat) : Option (List Char) :=
  (Charset.Table.jis0212[row]? >>= (cell? · column)).map fun c => [c]

/-- A half-width letter, counted from the first. -/
def halfWidth (n : UInt8) : List Char := charOf (0xFF61 + n.toNat)

/-- The number of a pair, counted over two rows of the table for each first octet. -/
def shiftJisNumber (lead trail : UInt8) : Nat :=
  (if lead < 0xA0 then lead - 0x81 else lead - 0xC1).toNat * 188 +
    (if trail < 0x7F then trail - 0x40 else trail - 0x41).toNat

def shiftJis : Step :=
  twoOctets
    (fun b =>
      if b ≤ 0x80 then some (charOf b.toNat)
      else if inRange 0xA1 0xDF b then some (halfWidth (b - 0xA1))
      else none)
    (fun b => inRange 0x81 0x9F b || inRange 0xE0 0xFC b)
    fun lead trail =>
      if inRange 0x40 0x7E trail || inRange 0x80 0xFC trail then
        let n := shiftJisNumber lead trail
        if 8836 ≤ n && n ≤ 10715 then some (charOf (0xE000 + (n - 8836)))
        else jis0208? (n / 94) (n % 94)
      else none

def isHigh (b : UInt8) : Bool := inRange 0xA1 0xFE b

/-- A character of JIS X 0212, after its mark. -/
def eucJpThree (b : UInt8) (rest : Bytes) : List Char × Nat :=
  match rest with
  | [] => (unknown, 1)
  | c :: _ =>
    let found := if isHigh c then jis0212? (b - 0xA1).toNat (c - 0xA1).toNat else none
    let (cs, used) := pair found c
    (cs, used + 1)

def eucJp : Step := fun a rest =>
  match a.toNat, rest with
  | 0x8F, b :: rest => if isHigh b then eucJpThree b rest else pair none b
  | 0x8E, b :: _ => pair (if inRange 0xA1 0xDF b then some (halfWidth (b - 0xA1)) else none) b
  | _, _ =>
    twoOctets ascii isHigh (fun a b =>
      if isHigh b then jis0208? (a - 0xA1).toNat (b - 0xA1).toNat else none) a rest

/-- What the octets of ISO-2022-JP stand for at the moment. -/
inductive JisMode where
  | ascii
  | roman
  | katakana
  | twoOctets
deriving DecidableEq

/-- The mode that an escape sequence changes to. -/
def JisMode.escape? : Bytes → Option JisMode
  | 0x28 :: 0x42 :: _ => some .ascii
  | 0x28 :: 0x4A :: _ => some .roman
  | 0x28 :: 0x49 :: _ => some .katakana
  | 0x24 :: 0x40 :: _ | 0x24 :: 0x42 :: _ => some .twoOctets
  | _ => none

/-- What one octet stands for, in a mode with one octet a character. -/
def JisMode.single (m : JisMode) (b : UInt8) : List Char :=
  match m with
  | .roman =>
    if b = 0x5C then ['¥'] else if b = 0x7E then ['\u203E']
    else if isAscii b && b ≠ 0x0E && b ≠ 0x0F then charOf b.toNat else unknown
  | .katakana => if inRange 0x21 0x5F b then halfWidth (b - 0x21) else unknown
  | _ => if isAscii b && b ≠ 0x0E && b ≠ 0x0F then charOf b.toNat else unknown

/-- Reads ISO-2022-JP. `idle` tells whether nothing was read since the mode changed; a
second change then is an error. `skip` octets have been used already. -/
def decodeJis (m : JisMode) (idle : Bool) (skip : Nat) : Bytes → List Char
  | [] => []
  | b :: rest =>
    if skip > 0 then decodeJis m idle (skip - 1) rest
    else if b = 0x1B then
      match JisMode.escape? rest with
      | some mode => (if idle then unknown else []) ++ decodeJis mode true 2 rest
      | none => unknown ++ decodeJis m false 0 rest
    else if m = .twoOctets && inRange 0x21 0x7E b then
      match rest with
      | [] => unknown
      | c :: _ =>
        if c = 0x1B then unknown ++ decodeJis m false 0 rest
        else
          let found := if inRange 0x21 0x7E c then jis0208? (b - 0x21).toNat (c - 0x21).toNat else none
          found.getD unknown ++ decodeJis m false 1 rest
    else
      (if m = .twoOctets then unknown else m.single b) ++ decodeJis m false 0 rest

end EastAsian

end MailSync
