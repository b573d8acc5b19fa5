import MailSync.Text.Ascii

/-!
# Header blocks

A header block is a run of fields up to an empty line. A field is a key,
a colon and a value; its line goes on through every line that starts with
a space or a tab. A line without a colon is a key with an empty value.
A block fails as a whole in two ways only (`HeaderError`).
-/

namespace MailSync

/-- One field, as written: the value keeps its folding. -/
structure HeaderField where
  key : Bytes
  value : Bytes
deriving DecidableEq, Repr

/-- Why a header block cannot be read. -/
inductive HeaderError where
  /-- A field starts with a space. -/
  | leadingSpace
  /-- A line starts with a carriage return that no line feed follows. -/
  | loneReturn
deriving DecidableEq, Repr

def HeaderError.message : HeaderError → String
  | .leadingSpace => "Header cannot start with a space; it is likely an overhanging line " ++
      "from a previous header"
  | .loneReturn => "Headers were followed by an unexpected lone CR character!"

namespace Header

/-- A field's line with its continuations, and the octets after it. -/
def foldedLine : Bytes → Bytes × Bytes
  | [] => ([], [])
  | 10 :: 32 :: rest => let (line, after) := foldedLine (32 :: rest); (10 :: line, after)
  | 10 :: 9 :: rest => let (line, after) := foldedLine (9 :: rest); (10 :: line, after)
  | 10 :: rest => ([], rest)
  | b :: rest => let (line, after) := foldedLine rest; (b :: line, after)

theorem length_foldedLine (bs : Bytes) : (foldedLine bs).2.length ≤ bs.length := by
  fun_induction foldedLine bs <;> simp_all <;> omega

/-- A value without the line ends after it. -/
def stripLineEnd (value : Bytes) : Bytes :=
  (value.reverse.dropWhile fun b => b = 13 || b = 10).reverse

/-- The first field of a block, and the octets after it. -/
def field (bs : Bytes) : HeaderField × Bytes :=
  let key := bs.takeWhile fun b => b ≠ 58 && b ≠ 10
  match bs.dropWhile fun b => b ≠ 58 && b ≠ 10 with
  | 58 :: rest =>
    let (line, after) := foldedLine (rest.dropWhile (· = 32))
    (⟨key, stripLineEnd line⟩, after)
  | _ :: rest => (⟨key, []⟩, rest)
  | [] => (⟨key, []⟩, [])

theorem length_field (b : UInt8) (bs : Bytes) : (field (b :: bs)).2.length ≤ bs.length := by
  have hdrop := (List.dropWhile_sublist (l := b :: bs) fun b => b ≠ 58 && b ≠ 10).length_le
  unfold field
  split
  next rest h =>
    have hspace := (List.dropWhile_sublist (l := rest) fun b : UInt8 => b = 32).length_le
    have hline := length_foldedLine (rest.dropWhile (· = 32))
    simp only [h, List.length_cons] at hdrop
    simp only
    omega
  next rest h =>
    simp only [h, List.length_cons] at hdrop
    simp only
    omega
  next => simp

/-- The fields of the header block at the start of a message. -/
def fields (bs : Bytes) : Except HeaderError (List HeaderField) :=
  match bs with
  | [] => .ok []
  | 10 :: _ => .ok []
  | 13 :: 10 :: _ => .ok []
  | 13 :: _ => .error .loneReturn
  | 32 :: _ => .error .leadingSpace
  | b :: rest =>
    match fields (field (b :: rest)).2 with
    | .ok fs => .ok ((field (b :: rest)).1 :: fs)
    | .error e => .error e
termination_by bs.length
decreasing_by exact Nat.lt_succ_of_le (length_field b rest)

end Header

/-- Whether a field has this name, in any case. -/
def HeaderField.hasName (f : HeaderField) (name : String) : Bool :=
  f.key.map Ascii.lowerByte = utf8 (Ascii.lower name)

end MailSync
