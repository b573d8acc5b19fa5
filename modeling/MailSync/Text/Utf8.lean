import MailSync.Text.Ascii

/-!
# Reading UTF-8

Octets are read as a sequence of characters and ill-formed pieces. A
piece is a maximal subpart: the longest start of a well-formed sequence,
or else a single octet. A text is well formed when there are no pieces;
the lossy reading puts U+FFFD for each.
-/

namespace MailSync.Utf8

/-- What a first octet promises: the bounds of the octet after it, how many
octets follow, and the bits it contributes. -/
structure Lead where
  low : UInt8
  high : UInt8
  more : Nat
  bits : Nat

/-- The well-formed first octets of sequences of two to four. -/
def lead? (b : UInt8) : Option Lead :=
  if 0xC2 ≤ b ∧ b ≤ 0xDF then some ⟨0x80, 0xBF, 1, b.toNat - 0xC0⟩
  else if b = 0xE0 then some ⟨0xA0, 0xBF, 2, 0⟩
  else if b = 0xED then some ⟨0x80, 0x9F, 2, 13⟩
  else if 0xE1 ≤ b ∧ b ≤ 0xEF then some ⟨0x80, 0xBF, 2, b.toNat - 0xE0⟩
  else if b = 0xF0 then some ⟨0x90, 0xBF, 3, 0⟩
  else if 0xF1 ≤ b ∧ b ≤ 0xF3 then some ⟨0x80, 0xBF, 3, b.toNat - 0xF0⟩
  else if b = 0xF4 then some ⟨0x80, 0x8F, 3, 4⟩
  else none

/-- Reads the octets after the first; `none` where the sequence breaks off. -/
def continued (bits : Nat) : Nat → UInt8 → UInt8 → Bytes → Option Char × Bytes
  | 0, _, _, rest => (some (Char.ofNat bits), rest)
  | _ + 1, _, _, [] => (none, [])
  | n + 1, low, high, b :: rest =>
    if low ≤ b ∧ b ≤ high then continued (bits * 64 + (b.toNat - 0x80)) n 0x80 0xBF rest
    else (none, b :: rest)

theorem length_continued (bits n : Nat) (low high : UInt8) (bs : Bytes) :
    (continued bits n low high bs).2.length ≤ bs.length := by
  induction n generalizing bits low high bs with
  | zero => simp [continued]
  | succ n ih =>
    cases bs with
    | nil => simp [continued]
    | cons b rest =>
      simp only [continued]
      split
      · exact Nat.le_succ_of_le (ih _ _ _ _)
      · exact Nat.le_refl _

/-- One character or ill-formed piece, and the octets after it. -/
def step (b : UInt8) (rest : Bytes) : Option Char × Bytes :=
  if b < 0x80 then (some (Char.ofNat b.toNat), rest)
  else match lead? b with
    | none => (none, rest)
    | some l => continued l.bits l.more l.low l.high rest

theorem length_step (b : UInt8) (rest : Bytes) : (step b rest).2.length ≤ rest.length := by
  unfold step
  split
  · exact Nat.le_refl _
  · split
    · exact Nat.le_refl _
    · exact length_continued _ _ _ _ _

/-- All characters and ill-formed pieces (`none`). -/
def pieces : Bytes → List (Option Char)
  | [] => []
  | b :: rest =>
    (step b rest).1 :: pieces (step b rest).2
termination_by bs => bs.length
decreasing_by exact Nat.lt_succ_of_le (length_step b rest)

/-- The text, if the octets are well formed. -/
def decode? (bs : Bytes) : Option String :=
  let ps := pieces bs
  if ps.all Option.isSome then some (String.ofList (ps.filterMap id)) else none

/-- The text with U+FFFD for each ill-formed piece. -/
def decodeLossy (bs : Bytes) : String :=
  String.ofList ((pieces bs).map (·.getD '\uFFFD'))

/-- The text whose code points are the octets. -/
def ofLatin1 (bs : Bytes) : String :=
  String.ofList (bs.map fun b => Char.ofNat b.toNat)

end MailSync.Utf8
