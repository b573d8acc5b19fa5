import MailSync.Text.Ascii

/-!
# Removing blind copies

Before a message is submitted, its Bcc headers are taken out line by line:
a line that starts with `bcc:` in any case, and the folded lines after it.
Nothing behind the first empty line is touched.
-/

namespace MailSync.Bcc

/-- The lines of a message, each with its line feed. -/
def lines : Bytes → List Bytes
  | [] => []
  | b :: rest =>
    if b = 10 then [b] :: lines rest
    else match lines rest with
      | [] => [[b]]
      | line :: more => (b :: line) :: more

theorem flatten_lines (bs : Bytes) : (lines bs).flatten = bs := by
  induction bs with
  | nil => rfl
  | cons b rest ih =>
    simp only [lines]
    split
    · simp [ih]
    · split <;> simp_all

/-- The line that ends the header block. -/
def isEmptyLine (line : Bytes) : Bool := line = [13, 10] || line = [10]

/-- Whether a line continues the one before it. -/
def isFolded (line : Bytes) : Bool :=
  match line with
  | b :: _ => b = 32 || b = 9
  | [] => false

def startsBcc (line : Bytes) : Bool := (line.take 4).map Ascii.lowerByte = utf8 "bcc:"

/-- Whether a header line belongs to a Bcc header; `within` tells whether the
line before it does. -/
def isBcc (within : Bool) (line : Bytes) : Bool :=
  if isFolded line then within else startsBcc line

/-- The lines that stay; `within` tells whether the line before was removed. -/
def keep (within : Bool) : List Bytes → List Bytes
  | [] => []
  | line :: rest =>
    if isEmptyLine line then line :: rest
    else if isBcc within line then keep true rest
    else line :: keep false rest

theorem keep_sublist (within : Bool) (ls : List Bytes) : (keep within ls).Sublist ls := by
  induction ls generalizing within with
  | nil => simp [keep]
  | cons line rest ih =>
    unfold keep
    split
    · exact List.Sublist.refl _
    · split
      · exact (ih true).cons _
      · exact (ih false).cons_cons _

/-- The message without Bcc headers, if it has any. -/
def strip? (raw : Bytes) : Option Bytes :=
  let kept := keep false (lines raw)
  if kept.length = (lines raw).length then none else some kept.flatten

/-- The message without Bcc headers. -/
def strip (raw : Bytes) : Bytes := (strip? raw).getD raw

end MailSync.Bcc
