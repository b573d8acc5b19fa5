/-!
# Letters without case

Mail protocols compare names in the letters `A`–`Z` without regard to
case and leave every other character alone.
-/

namespace MailSync

/-- The octets of a message, a reply or a text in UTF-8. -/
abbrev Bytes := List UInt8

namespace Ascii

/-- Lower-cases `A`–`Z` only. -/
def lower (s : String) : String := s.map Char.toLower

/-- Upper-cases `a`–`z` only. -/
def upper (s : String) : String := s.map Char.toUpper

/-- Equality up to the case of the letters `A`–`Z`. -/
def eqIgnoreCase (s t : String) : Bool := lower s = lower t

/-- The octet of the lower-case letter, for the octet of an upper-case one. -/
def lowerByte (b : UInt8) : UInt8 := if 65 ≤ b ∧ b ≤ 90 then b + 32 else b

def isDigitByte (b : UInt8) : Bool := 48 ≤ b && b ≤ 57

theorem lower_lower (s : String) : lower (lower s) = lower s := by
  have h : ∀ c : Char, c.toLower.toLower = c.toLower := by
    intro c
    delta Char.toLower
    split
    next hupper =>
      have hlower : 97 ≤ c.val + 32 := by grind
      split
      next => grind
      next => rfl
    next => rfl
  apply String.toList_injective
  simp [lower, String.toList_map, Function.comp_def, h]

end Ascii

/-- The octets of a text in UTF-8. -/
def utf8 (s : String) : Bytes := s.toUTF8.data.toList

end MailSync
