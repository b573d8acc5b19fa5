import MailSync.Text.Ascii

/-!
# Framing responses

A response ends with a line, and a line that ends with a length in braces
is followed by that many bytes and goes on after them. The reader is a
state that one byte turns into the next, so bytes may come in any pieces
(`FrameReader.feedAll_append`).
-/

namespace MailSync

/-- The state of the reader within a response. -/
structure FrameReader where
  /-- The bytes of the response so far, the last first. -/
  held : Bytes
  /-- The bytes of its current line, the last first. -/
  line : Bytes
  /-- The number of bytes still to come before the line goes on. -/
  literal : Nat
deriving DecidableEq, Repr

namespace FrameReader

def fresh : FrameReader := ⟨[], [], 0⟩

def decimal (digits : Bytes) : Nat := digits.foldl (fun n d => n * 10 + (d.toNat - 48)) 0

/-- The length in braces at the end of a line, whose last byte comes first. -/
def literalLength? (line : Bytes) : Option Nat :=
  match line with
  | 125 :: rest =>
    let digits := rest.takeWhile Ascii.isDigitByte
    if !digits.isEmpty && (rest.dropWhile Ascii.isDigitByte).head? = some 123 then
      some (decimal digits.reverse)
    else none
  | _ => none

/-- One more byte, which may end the response. -/
def feed (r : FrameReader) (b : UInt8) : Option Bytes × FrameReader :=
  if r.literal > 0 then (none, ⟨b :: r.held, r.line, r.literal - 1⟩)
  else if b = 10 && r.line.head? = some 13 then
    match literalLength? r.line.tail with
    | some n => (none, ⟨b :: r.held, [], n⟩)
    | none => (some (b :: r.held).reverse, fresh)
  else (none, ⟨b :: r.held, b :: r.line, 0⟩)

/-- The responses that end within some bytes. -/
def feedAll (r : FrameReader) : Bytes → List Bytes × FrameReader
  | [] => ([], r)
  | b :: rest =>
    let (frame, r) := r.feed b
    let (frames, r) := r.feedAll rest
    (frame.toList ++ frames, r)

theorem feedAll_append (r : FrameReader) (a b : Bytes) :
    r.feedAll (a ++ b) =
      ((r.feedAll a).1 ++ ((r.feedAll a).2.feedAll b).1, ((r.feedAll a).2.feedAll b).2) := by
  induction a generalizing r with
  | nil => rfl
  | cons x a ih => simp [feedAll, ih]

end FrameReader

end MailSync
