import MailSync.Envelope
import MailSync.Proofs.HeaderLine

/-!
# A stray line in a header block

One line of any octets is put into a block of well-formed header lines. What the
reader makes of it depends on how it starts (`StrayLine.fields_reading`): the
block is refused as a whole, or it ends there, or the line goes to the header
before it, or it is a header of its own. In a refused block every field of the
envelope is lost, and in all others only the fields that the line itself touches
(`Envelope.ofBytes_disturbed`).
-/

namespace MailSync

open Bcc Header

namespace Header

theorem span_unfolded {rest : List Bytes} (h : ∀ line ∈ rest.head?, isFolded line = false) :
    rest.takeWhile isFolded = [] ∧ rest.dropWhile isFolded = rest := by
  cases rest with
  | nil => exact ⟨rfl, rfl⟩
  | cons line rest =>
      have hline : ¬ isFolded line = true := by simp [h line rfl]
      exact ⟨List.takeWhile_cons_of_neg hline, List.dropWhile_cons_of_neg hline⟩

/-- The name of a line that is read as a header of its own: up to a colon or the line's end. -/
def lineKey (line : Bytes) : Bytes := line.takeWhile fun b => b ≠ 58 && b ≠ 10

/-- Where nothing is folded onto a line, it is a field by itself. -/
theorem field_alone {line : Bytes} {rest : List Bytes} (hline : EndsLine line rest)
    (hrest : WellCut rest) (hhead : ∀ next ∈ rest.head?, isFolded next = false) :
    ∃ value, field (line ++ rest.flatten) = (⟨lineKey line, value⟩, rest.flatten) := by
  by_cases hcolon : 58 ∈ line
  · obtain ⟨k, u, rfl, hk⟩ := List.eq_append_cons_of_mem hcolon
    obtain ⟨hfeed, hu⟩ := hline.after
    have hkey := key_bytes hk hfeed
    rw [List.append_assoc, List.cons_append, field_colon hkey (hu (by decide)) hrest,
      (span_unfolded hhead).2, lineKey, (span_key hkey (.inl rfl) u).1]
    exact ⟨_, rfl⟩
  · obtain ⟨v, rfl, hv⟩ | ⟨hlast, rfl⟩ := hline
    · have hk := key_bytes (fun h => hcolon (List.mem_append_left _ h)) hv
      rw [List.append_assoc, List.singleton_append, field_plain hk, lineKey,
        (span_key hk (.inr rfl) []).1]
      exact ⟨_, rfl⟩
    · have hk := key_bytes hcolon hlast
      have hall : lineKey line = line := by
        simpa [lineKey] using @List.takeWhile_append_of_pos _
          (fun b : UInt8 => b ≠ 58 && b ≠ 10) line [] fun b hb => by simpa using hk b hb
      rw [List.flatten_nil, List.append_nil, field_last hk, hall]
      exact ⟨_, rfl⟩

theorem stripLineEnd_return {text : Bytes} (h : ∀ b ∈ text, b ≠ 10 ∧ b ≠ 13) :
    stripLineEnd (text ++ [13]) = text := by
  have hkept : ∀ b ∈ text.reverse, (b = 13 || b = 10) = false := fun b hb => by
    simpa [and_comm] using h b (List.mem_reverse.mp hb)
  rw [stripLineEnd, List.reverse_append, List.reverse_singleton, List.singleton_append,
    List.dropWhile_cons_of_pos (by simp)]
  cases hreverse : text.reverse with
  | nil => exact (List.reverse_eq_nil_iff.mp hreverse).symm
  | cons b more =>
      have hb := hkept b (by simp [hreverse])
      rw [List.dropWhile_cons_of_neg (by simpa using hb), ← hreverse, List.reverse_reverse]

end Header

/-! ## Well-formed lines -/

/-- A well-formed header line: a name, a colon, and a value on the same line. -/
structure HeaderLine where
  name : Bytes
  value : Bytes
  name_ne_nil : name ≠ []
  name_graphic : ∀ b ∈ name, 33 ≤ b ∧ b ≤ 126 ∧ b ≠ 58
  value_unbroken : ∀ b ∈ value, b ≠ 10 ∧ b ≠ 13

/-- What stands behind a header block: nothing, or an empty line and the body. -/
structure BlockEnd where
  bytes : Bytes
  empty_line : ∀ line ∈ (lines bytes).head?, isEmptyLine line = true

namespace HeaderLine

/-- The line with its line end. -/
def bytes (l : HeaderLine) : Bytes := l.name ++ 58 :: (l.value ++ [13, 10])

/-- The field that is read from the line. -/
def field (l : HeaderLine) : HeaderField := ⟨l.name, l.value.dropWhile (· = 32)⟩

/-- The field that is read from the line and some lines folded onto it. -/
def foldedField (l : HeaderLine) (folds : List Bytes) : HeaderField :=
  ⟨l.name, stripLineEnd (foldedLine ((l.value ++ [13, 10]).dropWhile (· = 32) ++ folds.flatten)).1⟩

/-- The octets of a message that starts with these lines. -/
def message (headers : List HeaderLine) (rest : BlockEnd) : Bytes :=
  (headers.map bytes).flatten ++ rest.bytes

/-- Whether one of these lines has a name. -/
def Named (headers : List HeaderLine) (name : String) : Prop :=
  (headers.map field).any (·.hasName name) = true

instance (headers : List HeaderLine) (name : String) : Decidable (Named headers name) :=
  inferInstanceAs (Decidable (_ = true))

theorem name_key (l : HeaderLine) : ∀ b ∈ l.name, b ≠ 58 ∧ b ≠ 10 := by
  intro b hb
  obtain ⟨hlow, -, hcolon⟩ := l.name_graphic b hb
  refine ⟨hcolon, ?_⟩
  rintro rfl
  exact absurd hlow (by decide)

theorem bytes_eq_cons (l : HeaderLine) : ∃ b more, l.bytes = b :: more ∧ 33 ≤ b := by
  obtain ⟨b, more, hname⟩ := List.exists_cons_of_ne_nil l.name_ne_nil
  exact ⟨b, more ++ 58 :: (l.value ++ [13, 10]), by rw [bytes, hname, List.cons_append],
    (l.name_graphic b (by simp [hname])).1⟩

theorem starts (l : HeaderLine) : Starts l.bytes := by
  obtain ⟨b, more, hbytes, hlow⟩ := l.bytes_eq_cons
  refine ⟨b, more, hbytes, ?_, ?_, ?_⟩ <;> rintro rfl <;> exact absurd hlow (by decide)

theorem not_isFolded (l : HeaderLine) : isFolded l.bytes = false := by
  obtain ⟨b, more, hbytes, hlow⟩ := l.bytes_eq_cons
  rw [hbytes]
  refine eq_false_of_ne_true fun hfolded => ?_
  simp only [isFolded, Bool.or_eq_true, decide_eq_true_eq] at hfolded
  rcases hfolded with rfl | rfl <;> exact absurd hlow (by decide)

/-- The value ends the line. -/
theorem value_ends (l : HeaderLine) (rest : List Bytes) : EndsLine (l.value ++ [13, 10]) rest := by
  refine .inl ⟨l.value ++ [13], by simp, ?_⟩
  rw [List.mem_append, not_or]
  exact ⟨fun h => (l.value_unbroken 10 h).1 rfl, by simp⟩

theorem bytes_ends (l : HeaderLine) (rest : List Bytes) : EndsLine l.bytes rest := by
  refine .inl ⟨l.name ++ 58 :: (l.value ++ [13]), by simp [bytes], ?_⟩
  rw [List.mem_append, List.mem_cons, List.mem_append, not_or, not_or, not_or]
  exact ⟨fun h => (l.name_key 10 h).2 rfl, by decide,
    fun h => (l.value_unbroken 10 h).1 rfl, by simp⟩

theorem wellCut_append (headers : List HeaderLine) {rest : List Bytes} (h : WellCut rest) :
    WellCut (headers.map bytes ++ rest) := by
  induction headers with
  | nil => exact h
  | cons l headers ih => exact ⟨by simp [bytes], l.bytes_ends _, ih⟩

theorem foldedField_nil (l : HeaderLine) : l.foldedField [] = l.field := by
  let text := l.value.dropWhile (· = 32)
  have htext : ∀ b ∈ text, b ≠ 10 ∧ b ≠ 13 := fun b hb =>
    l.value_unbroken b ((List.dropWhile_sublist _).mem hb)
  have hdrop : (l.value ++ [13, 10]).dropWhile (· = 32) = (text ++ [13]) ++ [10] := by
    rw [List.dropWhile_append]
    split
    next h =>
      rw [show text = [] from List.isEmpty_iff.mp h]
      rfl
    next => rw [List.append_assoc, List.singleton_append]
  have hfeed : 10 ∉ text ++ [13] := by
    rw [List.mem_append, not_or]
    exact ⟨fun h => (htext 10 h).1 rfl, by simp⟩
  rw [foldedField, List.flatten_nil, List.append_nil, hdrop, foldedLine_append hfeed,
    foldedLine_feed, if_neg (by simp [isFolded]), List.append_nil, stripLineEnd_return htext]
  rfl

/-- A well-formed line is read with the lines folded onto it. -/
theorem fields_folds (l : HeaderLine) {rest : List Bytes} (h : WellCut rest) :
    fields (l.bytes :: rest).flatten =
      (fields (rest.dropWhile isFolded).flatten).map
        (l.foldedField (rest.takeWhile isFolded) :: ·) := by
  have hfield := field_colon l.name_key (l.value_ends rest) h
  rw [List.flatten_cons, fields_starts l.starts, bytes, List.append_assoc, List.cons_append, hfield]
  rfl

theorem not_isFolded_head (headers : List HeaderLine) {rest : List Bytes}
    (h : ∀ line ∈ rest.head?, isFolded line = false) :
    ∀ line ∈ (headers.map bytes ++ rest).head?, isFolded line = false := by
  cases headers with
  | nil => exact h
  | cons l headers =>
      intro line hline
      obtain rfl : l.bytes = line := Option.some.inj hline
      exact l.not_isFolded

/-- Well-formed lines are read one by one. -/
theorem fields_headers (headers : List HeaderLine) {rest : List Bytes} (h : WellCut rest)
    (hhead : ∀ line ∈ rest.head?, isFolded line = false) :
    fields (headers.map bytes ++ rest).flatten =
      (fields rest.flatten).map (headers.map field ++ ·) := by
  induction headers with
  | nil =>
      rw [List.map_nil, List.nil_append]
      cases fields rest.flatten <;> rfl
  | cons l headers ih =>
      obtain ⟨htake, hdrop⟩ := span_unfolded (not_isFolded_head headers hhead)
      rw [List.map_cons, List.cons_append, fields_folds l (wellCut_append headers h), htake, hdrop,
        ih, foldedField_nil]
      cases fields rest.flatten <;> rfl

end HeaderLine

namespace BlockEnd

variable (rest : BlockEnd)

theorem not_isFolded_head : ∀ line ∈ (lines rest.bytes).head?, isFolded line = false := by
  intro line hline
  have hempty := rest.empty_line line hline
  rw [isEmptyLine, Bool.or_eq_true, decide_eq_true_eq, decide_eq_true_eq] at hempty
  rcases hempty with rfl | rfl <;> rfl

theorem fields_eq : fields (lines rest.bytes).flatten = .ok [] := by
  have hempty := rest.empty_line
  cases hlines : lines rest.bytes with
  | nil => exact fields.eq_def _
  | cons line more =>
      rw [hlines] at hempty
      exact fields_empty (hempty line rfl) more.flatten

/-- Some headers and what stands behind them, line by line. -/
def following (headers : List HeaderLine) : List Bytes :=
  headers.map HeaderLine.bytes ++ lines rest.bytes

theorem wellCut_following (headers : List HeaderLine) : WellCut (rest.following headers) :=
  HeaderLine.wellCut_append headers (wellCut_lines rest.bytes)

theorem not_isFolded_following (headers : List HeaderLine) :
    ∀ line ∈ (rest.following headers).head?, isFolded line = false :=
  HeaderLine.not_isFolded_head headers rest.not_isFolded_head

theorem flatten_following (headers : List HeaderLine) :
    (rest.following headers).flatten = HeaderLine.message headers rest := by
  rw [following, List.flatten_append, flatten_lines]
  rfl

theorem fields_following (headers : List HeaderLine) :
    fields (rest.following headers).flatten = .ok (headers.map HeaderLine.field) := by
  rw [following, HeaderLine.fields_headers headers (wellCut_lines _) rest.not_isFolded_head,
    rest.fields_eq, Except.map, List.append_nil]

end BlockEnd

/-! ## One more line -/

/-- A line put into a block of well-formed lines, before one of them or behind them all. -/
structure StrayLine where
  before : List HeaderLine
  line : Bytes
  after : List HeaderLine
  rest : BlockEnd
  line_ne_nil : line ≠ []
  line_ends : EndsLine line (rest.following after)

namespace StrayLine

variable (s : StrayLine)

/-- The message without the line. -/
def original : Bytes := HeaderLine.message (s.before ++ s.after) s.rest

/-- The message with the line. -/
def disturbed : Bytes :=
  (s.before.map HeaderLine.bytes).flatten ++ (s.line ++ HeaderLine.message s.after s.rest)

/-- The message with a well-formed line in its place. -/
def replaced (l : HeaderLine) : Bytes := HeaderLine.message (s.before ++ l :: s.after) s.rest

/-- The line is looked at by itself, and starts with a carriage return that no line feed follows or
with a space. -/
def Refused : Prop :=
  (s.line.head? = some 13 ∧ isEmptyLine s.line = false) ∨
    (s.line.head? = some 32 ∧ s.before.isEmpty = true)

instance : Decidable s.Refused := inferInstanceAs (Decidable (_ ∨ _))

/-- The line leaves alone what the block says of a name. -/
structure Spares (name : String) : Prop where
  /-- An empty line ends the block. -/
  ends : isEmptyLine s.line = true →
    HeaderLine.Named s.after name → HeaderLine.Named s.before name
  /-- A folded line becomes part of the header in front of it. -/
  folds : isFolded s.line = true → ∀ l ∈ s.before.getLast?,
    l.field.hasName name = true → HeaderLine.Named s.before.dropLast name
  /-- Any other line is a header, and of two with one name the first counts. -/
  reads : isFolded s.line = false →
    (⟨lineKey s.line, []⟩ : HeaderField).hasName name = true → HeaderLine.Named s.before name

theorem wellCut : WellCut (s.line :: s.rest.following s.after) :=
  ⟨s.line_ne_nil, s.line_ends, s.rest.wellCut_following s.after⟩

theorem disturbed_eq : s.disturbed =
    (s.before.map HeaderLine.bytes ++ s.line :: s.rest.following s.after).flatten := by
  rw [disturbed, List.flatten_append, List.flatten_cons, s.rest.flatten_following]

/-- A line that continues no header is read by itself. -/
theorem fields_unfolded (h : isFolded s.line = true → s.before = []) :
    fields s.disturbed = (fields (s.line ++ (s.rest.following s.after).flatten)).map
      (s.before.map HeaderLine.field ++ ·) := by
  rw [disturbed_eq]
  cases hfolded : isFolded s.line with
  | true =>
      rw [h hfolded, List.map_nil, List.nil_append, List.flatten_cons]
      cases fields (s.line ++ (s.rest.following s.after).flatten) <;> rfl
  | false =>
      refine HeaderLine.fields_headers s.before s.wellCut ?_
      intro line hline
      rwa [← Option.some.inj hline]

/-- A line that continues a header becomes part of that field. -/
theorem fields_folded {front : List HeaderLine} {l : HeaderLine} (hbefore : s.before = front ++ [l])
    (h : isFolded s.line = true) :
    fields s.disturbed = .ok (front.map HeaderLine.field ++
      l.foldedField [s.line] :: s.after.map HeaderLine.field) := by
  obtain ⟨htake, hdrop⟩ := span_unfolded (s.rest.not_isFolded_following s.after)
  have hwhole : s.before.map HeaderLine.bytes ++ s.line :: s.rest.following s.after =
      front.map HeaderLine.bytes ++ (l.bytes :: s.line :: s.rest.following s.after) := by
    simp [hbefore]
  have hcut : WellCut (l.bytes :: s.line :: s.rest.following s.after) :=
    HeaderLine.wellCut_append [l] s.wellCut
  have hhead : ∀ line ∈ (l.bytes :: s.line :: s.rest.following s.after).head?,
      isFolded line = false := by
    intro line hline
    rw [← Option.some.inj hline]
    exact l.not_isFolded
  rw [disturbed_eq, hwhole, HeaderLine.fields_headers front hcut hhead, l.fields_folds s.wellCut,
    List.takeWhile_cons_of_pos h, List.dropWhile_cons_of_pos h, htake, hdrop,
    s.rest.fields_following]
  rfl

/-- A line is empty, or can start a field, or cannot. -/
theorem line_cases : isEmptyLine s.line = true ∨ Starts s.line ∨
    isEmptyLine s.line = false ∧ (s.line.head? = some 13 ∨ s.line.head? = some 32) := by
  have hends := s.line_ends
  obtain ⟨b, more, hline⟩ := List.exists_cons_of_ne_nil s.line_ne_nil
  rw [hline] at hends ⊢
  by_cases hempty : isEmptyLine (b :: more) = true
  · exact .inl hempty
  by_cases hfeed : b = 10
  · subst hfeed
    cases more with
    | nil => exact absurd rfl hempty
    | cons c more => exact absurd List.mem_cons_self (hends.after (k := [10])).1
  by_cases hreturn : b = 13
  · exact .inr (.inr ⟨eq_false_of_ne_true hempty, .inl (congrArg some hreturn)⟩)
  by_cases hspace : b = 32
  · exact .inr (.inr ⟨eq_false_of_ne_true hempty, .inr (congrArg some hspace)⟩)
  exact .inr (.inl ⟨b, more, rfl, hfeed, hreturn, hspace⟩)

variable {s} in
theorem Refused.unreadable (h : s.Refused) : isEmptyLine s.line = false ∧ ¬ Starts s.line ∧
    (isFolded s.line = true → s.before = []) := by
  rcases h with ⟨hhead, hempty⟩ | ⟨hhead, hnil⟩
  all_goals obtain ⟨more, hline⟩ := List.head?_eq_some_iff.mp hhead
  · refine ⟨hempty, ?_, fun hfolded => ?_⟩
    · rintro ⟨b, more', heq, -, hreturn, -⟩
      exact hreturn (List.cons.inj (heq.symm.trans hline)).1
    · rw [hline] at hfolded
      cases hfolded
  · refine ⟨by rw [hline]; rfl, ?_, fun _ => List.isEmpty_iff.mp hnil⟩
    rintro ⟨b, more', heq, -, -, hspace⟩
    exact hspace (List.cons.inj (heq.symm.trans hline)).1

/-- What the reader makes of the line. -/
inductive Reading : Except HeaderError (List HeaderField) → Prop where
  | refused (e : HeaderError) (h : s.Refused) : Reading (.error e)
  /-- The block ends with the line. -/
  | ended (h : ¬ s.Refused) (hline : isEmptyLine s.line = true) :
      Reading (.ok (s.before.map HeaderLine.field))
  /-- The line is part of the header in front of it. -/
  | folded (h : ¬ s.Refused) (hline : isFolded s.line = true) (front : List HeaderLine)
      (l : HeaderLine) (hbefore : s.before = front ++ [l]) (value : Bytes) :
      Reading (.ok (front.map HeaderLine.field ++ ⟨l.name, value⟩ :: s.after.map HeaderLine.field))
  /-- The line is a header; if it starts with a blank, so does the name. -/
  | header (h : ¬ s.Refused) (hline : isFolded s.line = true → s.line.head? = some 9)
      (value : Bytes) :
      Reading (.ok (s.before.map HeaderLine.field ++
        ⟨lineKey s.line, value⟩ :: s.after.map HeaderLine.field))

variable {s} in
theorem Reading.refused_of_error {e : HeaderError} (h : s.Reading (.error e)) : s.Refused := by
  cases h with
  | refused _ hrefused => exact hrefused

variable {s} in
theorem Reading.not_refused {fs : List HeaderField} (h : s.Reading (.ok fs)) : ¬ s.Refused := by
  cases h with
  | ended hread | folded hread | header hread => exact hread

theorem fields_reading : s.Reading (fields s.disturbed) := by
  -- A folded line behind a header is never looked at by itself.
  by_cases hfolds : isFolded s.line = true ∧ s.before ≠ []
  · obtain ⟨hline, hne⟩ := hfolds
    obtain ⟨front, l, hbefore⟩ := (List.eq_nil_or_concat s.before).resolve_left hne
    rw [List.concat_eq_append] at hbefore
    rw [s.fields_folded hbefore hline]
    exact .folded (fun h => hne (h.unreadable.2.2 hline)) hline front l hbefore _
  have hunfolded : isFolded s.line = true → s.before = [] := by simpa using hfolds
  rw [s.fields_unfolded hunfolded]
  rcases s.line_cases with hempty | hstarts | ⟨hempty, hhead⟩
  · rw [fields_empty hempty, Except.map, List.append_nil]
    refine .ended (fun h => ?_) hempty
    rw [h.unreadable.1] at hempty
    cases hempty
  · obtain ⟨value, hfield⟩ := field_alone s.line_ends (s.rest.wellCut_following s.after)
      (s.rest.not_isFolded_following s.after)
    rw [fields_starts hstarts, hfield, s.rest.fields_following]
    refine .header (fun h => h.unreadable.2.1 hstarts) (fun hline => ?_) value
    obtain ⟨b, more, hb, -, -, hspace⟩ := hstarts
    rw [hb] at hline ⊢
    simpa [isFolded, hspace] using hline
  · have hrefused : s.Refused := by
      rcases hhead with hreturn | hspace
      · exact .inl ⟨hreturn, hempty⟩
      · obtain ⟨more, hline⟩ := List.head?_eq_some_iff.mp hspace
        exact .inr ⟨hspace, List.isEmpty_iff.mpr (hunfolded (by rw [hline]; rfl))⟩
    cases hfields : fields (s.line ++ (s.rest.following s.after).flatten) with
    | error e => exact .refused e hrefused
    | ok fs =>
        rcases starts_of_fields s.wellCut hfields with hline | hline
        · exact absurd hline (by simp [hempty])
        · exact absurd hline hrefused.unreadable.2.1

end StrayLine

/-! ## The fields of an envelope -/

namespace Header

/-- Fields in the middle do not matter to a name that they do not have, or that stands in front of
them already. -/
theorem first?_middle (front middle middle' back : List HeaderField) {name : String}
    (h : front.any (·.hasName name) = true ∨
      middle.any (·.hasName name) = false ∧ middle'.any (·.hasName name) = false) :
    first? (front ++ (middle ++ back)) name = first? (front ++ (middle' ++ back)) name := by
  have hnone : ∀ {fs : List HeaderField}, fs.any (·.hasName name) = false →
      fs.find? (·.hasName name) = none := fun hfs => List.find?_eq_none.mpr (by simpa using hfs)
  simp only [first?, List.find?_append]
  rcases h with hfront | ⟨hmiddle, hmiddle'⟩
  · rw [List.any_eq_true] at hfront
    obtain ⟨f, hf⟩ := Option.isSome_iff_exists.mp (List.find?_isSome.mpr hfront)
    rw [hf, Option.some_or, Option.some_or]
  · rw [hnone hmiddle, hnone hmiddle']

end Header

inductive EnvelopeField where
  | messageId
  | subject
  | sender
  | recipients
  | cc
  | date

namespace EnvelopeField

/-- The header a field is read from. -/
def header : EnvelopeField → String
  | messageId => "Message-ID"
  | subject => "Subject"
  | sender => "From"
  | recipients => "To"
  | cc => "Cc"
  | date => "Date"

/-- Two envelopes have the same in a field. -/
def Agrees : EnvelopeField → Envelope → Envelope → Prop
  | messageId, e, e' => e.messageId = e'.messageId
  | subject, e, e' => e.subject = e'.subject
  | sender, e, e' => e.sender = e'.sender
  | recipients, e, e' => e.recipients = e'.recipients
  | cc, e, e' => e.cc = e'.cc
  | date, e, e' => e.date = e'.date

/-- The header has a text that the field cannot be read from. Any text is an identifier or a
subject. -/
def Unreadable : EnvelopeField → String → Prop
  | messageId, _ | subject, _ => False
  | sender, text | recipients, text | cc, text => Address.entries? text = none
  | date, text => MailDate.instant? text = none

variable (f : EnvelopeField)

theorem agrees_ofFields {fs fs' : List HeaderField}
    (h : Header.first? fs f.header = Header.first? fs' f.header) :
    f.Agrees (Envelope.ofFields fs) (Envelope.ofFields fs') := by
  cases f
  all_goals
    rw [header] at h
    simp only [Agrees, Envelope.ofFields, h]

/-- A field that cannot be read is empty. -/
theorem agrees_empty {fs : List HeaderField} {text : String}
    (h : Header.first? fs f.header = some text) (hunreadable : f.Unreadable text) :
    f.Agrees (Envelope.ofFields fs) Envelope.empty := by
  cases f
  case messageId | subject => exact hunreadable.elim
  all_goals
    rw [header] at h
    rw [Unreadable] at hunreadable
    simp [Agrees, Envelope.ofFields, Envelope.empty, h, Address.list, hunreadable]

/-- No field has a name that starts with a tab. -/
theorem not_hasName_tab (key value : Bytes) :
    (⟨9 :: key, value⟩ : HeaderField).hasName f.header = false := by
  have hhead : (utf8 (Ascii.lower f.header)).head? ≠ some 9 := by
    cases f <;> decide +kernel
  rw [HeaderField.hasName, decide_eq_false_iff_not]
  intro hname
  rw [← hname] at hhead
  exact hhead rfl

end EnvelopeField

namespace StrayLine

variable {s : StrayLine} {f : EnvelopeField}

/-- A field whose header the line spares has the same text as before. -/
theorem Reading.first? {fs : List HeaderField} (h : s.Reading (.ok fs))
    (hspares : s.Spares f.header) : Header.first? fs f.header =
      Header.first? (s.before.map HeaderLine.field ++ s.after.map HeaderLine.field) f.header := by
  cases h with
  | ended _ hline =>
      rw [← List.append_nil (s.before.map HeaderLine.field),
        ← List.append_nil (s.after.map HeaderLine.field), List.append_assoc]
      refine first?_middle _ [] _ [] ?_
      cases hafter : (s.after.map HeaderLine.field).any (·.hasName f.header) with
      | true => exact .inl (hspares.ends hline hafter)
      | false => exact .inr ⟨rfl, rfl⟩
  | folded _ hline front l hbefore value =>
      have hfolds := hspares.folds hline l
      rw [hbefore, List.getLast?_concat, List.dropLast_concat] at hfolds
      rw [hbefore, List.map_append, List.append_assoc]
      refine first?_middle _ [⟨l.name, value⟩] [l.field] _ ?_
      cases hname : l.field.hasName f.header with
      | true => exact .inl (hfolds rfl hname)
      | false => exact .inr (by simpa using ⟨hname, hname⟩)
  | header _ hline value =>
      refine first?_middle _ [⟨lineKey s.line, value⟩] [] _ ?_
      cases hname : (⟨lineKey s.line, value⟩ : HeaderField).hasName f.header with
      | false => exact .inr ⟨by simpa using hname, rfl⟩
      | true =>
          refine .inl (hspares.reads (eq_false_of_ne_true fun hfolded => ?_) hname)
          obtain ⟨more, htab⟩ := List.head?_eq_some_iff.mp (hline hfolded)
          have hkey : lineKey s.line = 9 :: lineKey more := by rw [htab]; rfl
          rw [hkey, f.not_hasName_tab] at hname
          cases hname

end StrayLine

namespace Envelope

theorem ofBytes_message (headers : List HeaderLine) (rest : BlockEnd) :
    ofBytes (HeaderLine.message headers rest) = ofFields (headers.map HeaderLine.field) := by
  rw [ofBytes, ← rest.flatten_following, rest.fields_following]

/-- A stray line in a block of well-formed header lines takes the whole envelope away if the block
is refused for it. Otherwise it touches no field but those whose header it does not spare. A
well-formed header in its place is nothing to the fields of other names, and leaves its own field
empty if it cannot be read as that field wants. -/
theorem ofBytes_disturbed (s : StrayLine) :
    (s.Refused → ofBytes s.disturbed = empty) ∧
    (¬ s.Refused → ∀ f : EnvelopeField, s.Spares f.header →
      f.Agrees (ofBytes s.disturbed) (ofBytes s.original)) ∧
    ∀ (l : HeaderLine) (f : EnvelopeField),
      (l.field.hasName f.header = false →
        f.Agrees (ofBytes (s.replaced l)) (ofBytes s.original)) ∧
      (l.field.hasName f.header = true → ¬ HeaderLine.Named s.before f.header →
        f.Unreadable l.field.text → f.Agrees (ofBytes (s.replaced l)) empty) := by
  have horiginal : ofBytes s.original =
      ofFields (s.before.map HeaderLine.field ++ s.after.map HeaderLine.field) := by
    rw [StrayLine.original, ofBytes_message, List.map_append]
  have hreplaced : ∀ l, ofBytes (s.replaced l) = ofFields
      (s.before.map HeaderLine.field ++ l.field :: s.after.map HeaderLine.field) := fun l => by
    rw [StrayLine.replaced, ofBytes_message, List.map_append, List.map_cons]
  have hreading := s.fields_reading
  refine ⟨fun hrefused => ?_, fun hread f hspares => ?_, fun l f => ⟨fun hname => ?_, ?_⟩⟩
  · rw [ofBytes]
    cases hfields : fields s.disturbed with
    | error e => rfl
    | ok fs => exact absurd hrefused (hfields ▸ hreading).not_refused
  · rw [horiginal, ofBytes]
    cases hfields : fields s.disturbed with
    | error e => exact absurd (hfields ▸ hreading).refused_of_error hread
    | ok fs => exact f.agrees_ofFields ((hfields ▸ hreading).first? hspares)
  · rw [horiginal, hreplaced]
    exact f.agrees_ofFields (first?_middle _ [l.field] [] _ (.inr ⟨by simpa using hname, rfl⟩))
  · intro hname hbefore hunreadable
    rw [hreplaced]
    refine f.agrees_empty ?_ hunreadable
    rw [HeaderLine.Named, Bool.not_eq_true, List.any_eq_false] at hbefore
    rw [first?, List.find?_append, List.find?_eq_none.mpr hbefore, Option.none_or,
      List.find?_cons, hname]
    rfl

/-- A line that starts with a space in front of the first header, and one that starts with a
carriage return behind it, take the subject away with all the rest; a line with the name alone hides
it. Folded onto another header the first of them touches that header only, and a header that is no
address list leaves the recipients empty and nothing else. -/
theorem ofBytes_disturbed_subject :
    let subject : HeaderLine :=
      ⟨utf8 "Subject", utf8 " x", by decide +kernel, by decide +kernel, by decide +kernel⟩
    let broken : HeaderLine :=
      ⟨utf8 "To", utf8 " <", by decide +kernel, by decide +kernel, by decide +kernel⟩
    let rest : BlockEnd := ⟨utf8 "\r\n", by decide +kernel⟩
    let spaced : StrayLine := ⟨[], utf8 " bad\r\n", [subject], rest, by decide +kernel,
      .inl ⟨utf8 " bad\r", by decide +kernel, by decide +kernel⟩⟩
    let returned : StrayLine := ⟨[subject], utf8 "\rbad\r\n", [], rest, by decide +kernel,
      .inl ⟨utf8 "\rbad\r", by decide +kernel, by decide +kernel⟩⟩
    let named : StrayLine := ⟨[], utf8 "Subject\n", [subject], rest, by decide +kernel,
      .inl ⟨utf8 "Subject", by decide +kernel, by decide +kernel⟩⟩
    let folded : StrayLine := ⟨[broken], utf8 " bad\r\n", [subject], rest, by decide +kernel,
      .inl ⟨utf8 " bad\r", by decide +kernel, by decide +kernel⟩⟩
    (ofBytes spaced.original).subject = "x" ∧ ofBytes spaced.disturbed = empty ∧
    (ofBytes returned.original).subject = "x" ∧ ofBytes returned.disturbed = empty ∧
    (ofBytes named.original).subject = "x" ∧ (ofBytes named.disturbed).subject = "" ∧
    (ofBytes folded.disturbed).subject = (ofBytes folded.original).subject ∧
    (ofBytes (spaced.replaced broken)).recipients = [] ∧
    (ofBytes (spaced.replaced broken)).subject = (ofBytes spaced.original).subject := by
  intro subject broken rest spaced returned named folded
  have hspaced := ofBytes_disturbed spaced
  have hfolded : folded.Spares EnvelopeField.subject.header :=
    ⟨by decide +kernel, by decide +kernel, by decide +kernel⟩
  refine ⟨by decide +kernel, hspaced.1 (by decide +kernel), by decide +kernel,
    (ofBytes_disturbed returned).1 (by decide +kernel), by decide +kernel, by decide +kernel,
    ?_, ?_, ?_⟩
  · exact (ofBytes_disturbed folded).2.1 (by decide +kernel) .subject hfolded
  · exact (hspaced.2.2 broken .recipients).2 (by decide +kernel) (by decide +kernel)
      (show Address.entries? broken.field.text = none by decide +kernel)
  · exact (hspaced.2.2 broken .subject).1 (by decide +kernel)

end Envelope

end MailSync
