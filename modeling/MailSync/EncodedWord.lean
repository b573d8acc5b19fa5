import MailSync.Charset
import MailSync.Header
import MailSync.Text.QuotedPrintable

/-!
# Header text

The text of a field value: lines are unfolded, and encoded words such as
`=?utf-8?Q?caf=C3=A9?=` are decoded where they stand between boundaries.
White space after a decoded word disappears before another one and at the
end; an encoded word that cannot be decoded stays as it is.
-/

namespace MailSync

/-- A piece of header text. -/
inductive HeaderToken where
  | text (cs : List Char)
  | blank (cs : List Char)
  | newline
  | word (cs : List Char)
deriving DecidableEq, Repr

namespace EncodedWord

/-- What is before and after the first occurrence of two characters. -/
def splitAtPair (a b : Char) : List Char → Option (List Char × List Char)
  | [] => none
  | [_] => none
  | c :: d :: rest =>
    if c = a ∧ d = b then some ([], rest)
    else (splitAtPair a b (d :: rest)).map fun (before, after) => (c :: before, after)

theorem length_splitAtPair {a b : Char} {cs before after : List Char}
    (h : splitAtPair a b cs = some (before, after)) :
    before.length + after.length + 2 = cs.length := by
  induction cs generalizing before after with
  | nil => simp [splitAtPair] at h
  | cons c cs ih =>
    cases cs with
    | nil => simp [splitAtPair] at h
    | cons d rest =>
      simp only [splitAtPair] at h
      split at h
      · simp only [Option.some.injEq, Prod.mk.injEq] at h
        simp [← h.1, ← h.2]
      · obtain ⟨⟨p, q⟩, hpq, he⟩ := Option.map_eq_some_iff.mp h
        have := ih hpq
        simp only [Prod.mk.injEq] at he
        simp only [← he.1, ← he.2, List.length_cons] at this ⊢
        omega

def byteLength (cs : List Char) : Nat := cs.foldr (·.utf8Size + ·) 0

/-- Whether an encoded word may touch the character with this number in the
line, or the end of the line. -/
def isBoundary (text : List Char) (position : Nat) : Bool :=
  match text[position]? with
  | none => true
  | some c => isBlank c || c = '"' || c = '(' || c = ')' || c = '<' || c = '>' || c = ','

/-- The octets behind the text of an encoded word. -/
def octets? (coding : List Char) (text : List Char) : Option Bytes :=
  match coding with
  | ['B'] | ['b'] => Base64.decode? text
  | ['Q'] | ['q'] =>
    let spaced := text.map fun c => if c = '_' then ' ' else c
    let inner := Blank.trimEnd spaced
    some (QuotedPrintable.decode inner ++ utf8 (String.ofList (spaced.drop inner.length)))
  | _ => none

/-- Decodes what stands between `=?` and `?=`. -/
def decode? (word : List Char) : Option (List Char) := do
  let label := word.takeWhile (· ≠ '?')
  let afterLabel ← (word.dropWhile (· ≠ '?')).tail?
  let coding := afterLabel.takeWhile (· ≠ '?')
  let text ← (afterLabel.dropWhile (· ≠ '?')).tail?
  let bytes ← octets? coding text
  let charset ← Charset.ofLabel? (String.ofList label)
  return (charset.decode bytes).toList

/-- The end of an encoded word: the first `?=` that a boundary follows.
`offset` is the octet offset of `rest`, `word` what was passed over. -/
def wordEnd (line : List Char) (offset : Nat) (word rest : List Char) :
    Option (List Char × List Char) :=
  match h : splitAtPair '?' '=' rest with
  | none => none
  | some (before, after) =>
    have : after.length < rest.length := by
      have := length_splitAtPair h
      omega
    let stop := offset + byteLength before + 2
    if isBoundary line stop then some (word ++ before, after)
    else wordEnd line stop (word ++ before ++ ['?', '=']) after
termination_by rest.length

theorem length_wordEnd {line word rest w after : List Char} {offset : Nat}
    (h : wordEnd line offset word rest = some (w, after)) : after.length < rest.length := by
  fun_induction wordEnd line offset word rest with
  | case1 => simp at h
  | case2 offset word rest before after' h' _ _ _ =>
    simp only [Option.some.injEq, Prod.mk.injEq] at h
    rw [← h.2]
    assumption
  | case3 offset word rest before after' h' hlt _ _ ih => exact Nat.lt_trans (ih h) hlt

def blankOrText (cs : List Char) : HeaderToken :=
  if (Blank.trimEnd cs).isEmpty then .blank cs else .text cs

/-- The tokens of one line. Boundaries are looked up at octet offsets taken
as character numbers. -/
def lineTokens (line : List Char) (offset : Nat) (rest : List Char) : List HeaderToken :=
  match h : splitAtPair '=' '?' rest with
  | none => [blankOrText rest]
  | some (before, after) =>
    have hlt : after.length < rest.length := by
      have := length_splitAtPair h
      omega
    let start := offset + byteLength before
    if start ≠ 0 ∧ !isBoundary line (start - 1) then
      .text (before ++ ['=', '?']) :: lineTokens line (start + 2) after
    else
      blankOrText before ::
        match he : wordEnd line (start + 2) [] after with
        | none => .text ['=', '?'] :: lineTokens line (start + 2) after
        | some (word, tail) =>
          have : tail.length < rest.length := Nat.lt_trans (length_wordEnd he) hlt
          let token := match decode? word with
            | some cs => .word cs
            | none => .text (['=', '?'] ++ word ++ ['?', '='])
          token :: lineTokens line (start + byteLength word + 4) tail
termination_by rest.length

end EncodedWord

namespace HeaderText

/-- Lines end at line feeds; a carriage return before one is part of the end. -/
def lines : List Char → List (List Char)
  | [] => []
  | cs =>
    let line := cs.takeWhile (· ≠ '\n')
    match h : cs.dropWhile (· ≠ '\n') with
    | [] => [line]
    | _ :: rest =>
      have : rest.length < cs.length := by
        have := (List.dropWhile_sublist (l := cs) (· ≠ '\n')).length_le
        simp only [h, List.length_cons] at this
        omega
      (if line.getLast? = some '\r' then line.dropLast else line) :: lines rest
termination_by cs => cs.length

/-- The tokens of a folded text, each line without the blanks before it. -/
def tokens (cs : List Char) : List HeaderToken :=
  (((lines cs).map Blank.trimStart).map fun line =>
    EncodedWord.lineTokens line 0 line).intersperse [.newline] |>.flatten

/-- What has been seen since the last decoded word. -/
inductive Gap where
  /-- No decoded word comes directly before. -/
  | none
  /-- A decoded word, and nothing since. -/
  | word
  /-- A decoded word and blanks. -/
  | blank (cs : List Char)
  /-- A decoded word, blanks and a line end, written as these blanks. -/
  | line (cs : List Char)

/-- The text of the tokens after a gap that is not written yet. -/
def join : Gap → List HeaderToken → List Char
  | _, [] => []
  | .blank cs, .text t :: rest => cs ++ t ++ join .none rest
  | .line cs, .text t :: rest => cs ++ t ++ join .none rest
  | _, .text t :: rest => t ++ join .none rest
  | .word, .blank cs :: rest => join (.blank cs) rest
  | _, .blank cs :: rest => cs ++ join .none rest
  | .blank cs, .newline :: rest => join (.line (cs ++ [' '])) rest
  | _, .newline :: rest => ' ' :: join .none rest
  | _, .word cs :: rest => cs ++ join .word rest

end HeaderText

/-- The text of a value: UTF-8 where it is well formed, else one character an octet. -/
def HeaderField.text (f : HeaderField) : String :=
  let raw := (Utf8.decode? f.value).getD (Utf8.ofLatin1 f.value)
  String.ofList (HeaderText.join .none (HeaderText.tokens raw.toList))

namespace Header

/-- The text of the first field with a name. -/
def first? (fields : List HeaderField) (name : String) : Option String :=
  (fields.find? (·.hasName name)).map (·.text)

/-- The texts of all fields with a name. -/
def all (fields : List HeaderField) (name : String) : List String :=
  (fields.filter (·.hasName name)).map (·.text)

end Header

end MailSync
