import MailSync.Text.Ascii

/-!
# Reading numbers and truth values

A number is an optional sign and decimal digits. It is read from the
left, so of a misplaced character and a value out of range the one that
is met first is reported.
-/

namespace MailSync

/-- Why a number is refused. -/
inductive NumberError where
  | empty
  | invalidDigit
  | tooLarge
  | tooSmall
deriving DecidableEq, Repr

def NumberError.message : NumberError → String
  | .empty => "cannot parse integer from empty string"
  | .invalidDigit => "invalid digit found in string"
  | .tooLarge => "number too large to fit in target type"
  | .tooSmall => "number too small to fit in target type"

namespace Number

/-- The value of a decimal digit. -/
def digit? (c : Char) : Option Nat :=
  if '0' ≤ c ∧ c ≤ '9' then some (c.toNat - 48) else none

/-- Digits after a value already read, none of whose prefixes exceeds `max`. -/
def digits (max : Nat) (whenOver : NumberError) (value : Nat) : List Char → Except NumberError Nat
  | [] => .ok value
  | c :: rest =>
    match digit? c with
    | none => .error .invalidDigit
    | some d =>
      if value * 10 + d ≤ max then digits max whenOver (value * 10 + d) rest
      else .error whenOver

/-- A number from 0 to `max`, with an optional plus sign. -/
def natural (max : Nat) (s : String) : Except NumberError Nat :=
  match s.toList with
  | [] => .error .empty
  | ['+'] => .error .invalidDigit
  | '+' :: ds => digits max .tooLarge 0 ds
  | ds => digits max .tooLarge 0 ds

/-- A number from `-low` to `high`, with an optional sign. -/
def integer (low high : Nat) (s : String) : Except NumberError Int :=
  match s.toList with
  | [] => .error .empty
  | ['+'] => .error .invalidDigit
  | ['-'] => .error .invalidDigit
  | '+' :: ds => (digits high .tooLarge 0 ds).map Int.ofNat
  | '-' :: ds => (digits low .tooSmall 0 ds).map fun n => -(n : Int)
  | ds => (digits high .tooLarge 0 ds).map Int.ofNat

theorem digits_le {max value n : Nat} {e : NumberError} {cs : List Char} (h : value ≤ max)
    (hr : digits max e value cs = .ok n) : n ≤ max := by
  induction cs generalizing value with
  | nil => simp only [digits, Except.ok.injEq] at hr; omega
  | cons c rest ih =>
    simp only [digits] at hr
    split at hr
    · cases hr
    · split at hr
      next hle => exact ih hle hr
      next => cases hr

theorem natural_le {max n : Nat} {s : String} (h : natural max s = .ok n) : n ≤ max := by
  unfold natural at h
  split at h
  · cases h
  · cases h
  · exact digits_le (Nat.zero_le _) h
  · exact digits_le (Nat.zero_le _) h

end Number

/-- The words for truth values. -/
def boolean? (s : String) : Option Bool :=
  if s = "true" then some true else if s = "false" then some false else none

end MailSync
