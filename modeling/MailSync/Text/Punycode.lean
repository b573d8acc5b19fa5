import MailSync.Text.Ascii

/-!
# Punycode

Text written with letters, digits and hyphens. The ASCII characters of a text
come first; behind a hyphen, the others are put in one by one, from the
smallest to the largest, and each takes a number that says how far it is from
the one before, in code points and in places together. Numbers have digits to
base 36, and thresholds that follow the numbers so far tell where each ends.
-/

namespace MailSync.Punycode

/-- The digits: the letters, then the figures. -/
def digit (n : Nat) : Char := Char.ofNat (if n < 26 then 97 + n else 22 + n)

def value? (c : Char) : Option Nat :=
  if 'a' ≤ c ∧ c ≤ 'z' then some (c.toNat - 97)
  else if 'A' ≤ c ∧ c ≤ 'Z' then some (c.toNat - 65)
  else if '0' ≤ c ∧ c ≤ '9' then some (c.toNat - 22)
  else none

/-- The least digit after which a number goes on; `place` grows by 36 with each digit. -/
def threshold (bias place : Nat) : Nat := max 1 (min 26 (place - bias))

theorem one_le_threshold (bias place : Nat) : 1 ≤ threshold bias place := by
  unfold threshold
  omega

/-- Divides by 35 while the value is large, and counts the times. -/
def scaled (times delta : Nat) : Nat × Nat :=
  if 455 < delta then scaled (times + 1) (delta / 35) else (times, delta)
termination_by delta
decreasing_by exact Nat.div_lt_self (by omega) (by omega)

/-- The bias after a number, given how many characters there are with the new one. -/
def adapt (delta count : Nat) (isFirst : Bool) : Nat :=
  let delta := if isFirst then delta / 700 else delta / 2
  let (times, delta) := scaled 0 (delta + delta / count)
  36 * times + 36 * delta / (delta + 38)

/-! ## Writing -/

/-- The digits of a number. -/
def number (bias place n : Nat) : List Char :=
  let t := threshold bias place
  if n < t then [digit n]
  else digit (t + (n - t) % (36 - t)) :: number bias (place + 36) ((n - t) / (36 - t))
termination_by n
decreasing_by
  have h := one_le_threshold bias place
  have := Nat.div_le_self (n - threshold bias place) (36 - threshold bias place)
  omega

/-- What has been written. -/
structure Writer where
  output : List Char
  /-- The distance from the last character put in. -/
  delta : Nat
  bias : Nat
  /-- How many characters are put in, and how many of them are ASCII. -/
  count : Nat
  basic : Nat

namespace Writer

/-- Passes a character of the text while those with code point `n` are put in. -/
def pass (n : Nat) (w : Writer) (c : Char) : Writer :=
  if c.toNat < n then { w with delta := w.delta + 1 }
  else if c.toNat = n then
    { w with
      output := w.output ++ number w.bias 36 w.delta
      delta := 0
      bias := adapt w.delta (w.count + 1) (w.count = w.basic)
      count := w.count + 1 }
  else w

/-- Puts in the characters with the code points of a list; `least` is the next one that
could be put in. -/
def putIn (text : List Char) (w : Writer) (least : Nat) : List Nat → Writer
  | [] => w
  | n :: rest =>
    let w := { w with delta := w.delta + (n - least) * (w.count + 1) }
    let w := text.foldl (pass n) w
    putIn text { w with delta := w.delta + 1 } (n + 1) rest

end Writer

/-- Writes a text. -/
def encode (text : List Char) : List Char :=
  let basic := text.filter fun c => c.toNat < 128
  let others := ((text.filter fun c => 128 ≤ c.toNat).map Char.toNat).mergeSort.eraseDups
  let w := Writer.putIn text ⟨[], 0, 72, basic.length, basic.length⟩ 128 others
  (if basic.isEmpty then [] else basic ++ ['-']) ++ w.output

/-! ## Reading -/

/-- Adds a number to `total`, each digit with its weight. -/
def addNumber? (bias place weight total : Nat) : List Char → Option (Nat × List Char)
  | [] => none
  | c :: rest => do
    let d ← value? c
    let t := threshold bias place
    if d < t then return (total + d * weight, rest)
    else addNumber? bias (place + 36) (weight * (36 - t)) (total + d * weight) rest

theorem length_addNumber? {bias place weight total : Nat} {cs : List Char} {r : Nat × List Char}
    (h : addNumber? bias place weight total cs = some r) : r.2.length < cs.length := by
  induction cs generalizing place weight total with
  | nil => simp [addNumber?] at h
  | cons c rest ih =>
    cases hv : value? c with
    | none => simp [addNumber?, hv] at h
    | some d =>
      simp only [addNumber?, hv, Option.bind_eq_bind, Option.bind_some] at h
      split at h
      · cases h
        simp
      · have := ih h
        simp only [List.length_cons]
        omega

/-- Puts the characters of the numbers into a text; `code` and `position` are those from
which the next number counts. -/
def insertAll? (bias code position : Nat) (text : List Char) (cs : List Char) :
    Option (List Char) :=
  if cs.isEmpty then some text
  else
    match h : addNumber? bias 36 1 position cs with
    | none => none
    | some (total, rest) =>
      have : rest.length < cs.length := length_addNumber? h
      let count := text.length + 1
      let code := code + total / count
      if code < 0xD800 ∨ 0xDFFF < code ∧ code < 0x110000 then
        insertAll? (adapt (total - position) count (position = 0)) code (total % count + 1)
          (text.insertIdx (total % count) (Char.ofNat code)) rest
      else none
termination_by cs.length

/-- Reads a text. -/
def decode? (cs : List Char) : Option (List Char) :=
  let numbers := (cs.reverse.takeWhile (· ≠ '-')).reverse
  let basic := cs.take (cs.length - numbers.length - 1)
  if basic.isEmpty then insertAll? 72 128 0 [] cs else insertAll? 72 128 0 basic numbers

end MailSync.Punycode
