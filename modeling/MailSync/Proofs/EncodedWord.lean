import Mathlib.Data.List.Basic
import Mathlib.Data.List.TakeWhile
import MailSync.EncodedWord
import MailSync.Proofs.Coding

/-!
# Encoded words in a header

A value in which encoded words stand apart from the text between them is cut
into just these pieces (`EncodedWord.lineTokens_written`), and its text has
each word decoded in its place (`HeaderField.text_written`).
-/

namespace MailSync

namespace EncodedWord

/-! ## Cutting at two characters -/

theorem splitAtPair_append {a b : Char} {cs rest : List Char} (h : splitAtPair a b cs = none)
    (hrest : rest.head? ≠ some b) : splitAtPair a b (cs ++ rest) =
      (splitAtPair a b rest).map fun (before, after) => (cs ++ before, after) := by
  induction cs with
  | nil => exact Option.map_id'.symm
  | cons c cs ih =>
      cases cs with
      | nil =>
          cases rest with
          | nil => rfl
          | cons d rest =>
              have hne : ¬ (c = a ∧ d = b) := fun h => hrest (congrArg some h.2)
              rw [List.singleton_append, splitAtPair, if_neg hne]
              rfl
      | cons d cs =>
          rw [splitAtPair] at h
          split at h
          · cases h
          next hne =>
            rw [List.cons_append, List.cons_append, splitAtPair, if_neg hne, ← List.cons_append,
              ih (Option.map_eq_none_iff.mp h), Option.map_map]
            rfl

theorem splitAtPair_self (a b : Char) (rest : List Char) :
    splitAtPair a b (a :: b :: rest) = some ([], rest) := if_pos ⟨rfl, rfl⟩

theorem splitAtPair_cons {a b c : Char} (h : c ≠ a) (cs : List Char) :
    splitAtPair a b (c :: cs) =
      (splitAtPair a b cs).map fun (before, after) => (c :: before, after) := by
  cases cs with
  | nil => rfl
  | cons d cs => rw [splitAtPair, if_neg fun heq => h heq.1]

theorem splitAtPair_eq_none {a b : Char} {cs : List Char} (h : a ∉ cs) :
    splitAtPair a b cs = none := by
  induction cs with
  | nil => rfl
  | cons c cs ih =>
      obtain ⟨hc, hcs⟩ := not_or.mp (List.mem_cons.not.mp h)
      rw [splitAtPair_cons (Ne.symm hc), ih hcs]
      rfl

/-! ## Words between boundaries -/

/-- Whether an encoded word may touch a character. -/
def bounds (c : Char) : Bool :=
  isBlank c || c = '"' || c = '(' || c = ')' || c = '<' || c = '>' || c = ','

theorem isBoundary_eq (text : List Char) (position : Nat) :
    isBoundary text position = (text[position]?).all bounds := by
  rw [isBoundary]
  cases text[position]? <;> rfl

theorem isBoundary_append {before rest : List Char} {c : Char} {position : Nat}
    (h : position = before.length) : isBoundary (before ++ c :: rest) position = bounds c := by
  rw [isBoundary_eq, h, List.getElem?_append_right (Nat.le_refl _), Nat.sub_self,
    List.getElem?_cons_zero, Option.all_some]

theorem byteLength_ascii {cs : List Char} (h : ∀ c ∈ cs, c.toNat < 128) :
    byteLength cs = cs.length := by
  induction cs with
  | nil => rfl
  | cons c cs ih =>
      rw [List.forall_mem_cons] at h
      have hsize : c.utf8Size = 1 := by
        rw [Char.utf8Size_eq_one_iff, UInt32.le_iff_toNat_le]
        exact Nat.le_of_lt_succ h.1
      rw [byteLength, List.foldr_cons, hsize, ← byteLength, ih h.2, List.length_cons, Nat.add_comm]

/-- Encoded words, each with the text behind it. -/
def written (pieces : List (List Char × List Char)) : List Char :=
  pieces.flatMap fun (word, text) => '=' :: '?' :: word ++ '?' :: '=' :: text

/-- A word with the text behind it, where either ends as it should and they are apart. -/
structure Apart (piece : List Char × List Char) : Prop where
  word : splitAtPair '?' '=' piece.1 = none
  text : splitAtPair '=' '?' piece.2 = none
  first : ∃ c rest, piece.2 = c :: rest ∧ bounds c = true
  last : ∃ c rest, piece.2 = rest ++ [c] ∧ bounds c = true

/-- What becomes of a word. -/
def token (word : List Char) : HeaderToken :=
  match decode? word with
  | some cs => .word cs
  | none => .text (['=', '?'] ++ word ++ ['?', '='])

section Lines

variable {line before text rest : List Char} {piece : List Char × List Char}

theorem wordEnd_apart (h : Apart piece)
    (hline : line = before ++ (piece.1 ++ '?' :: '=' :: (piece.2 ++ rest)))
    (hascii : ∀ c ∈ line, c.toNat < 128) :
    wordEnd line before.length [] (piece.1 ++ '?' :: '=' :: (piece.2 ++ rest)) =
      some (piece.1, piece.2 ++ rest) := by
  have hsplit : splitAtPair '?' '=' (piece.1 ++ '?' :: '=' :: (piece.2 ++ rest)) =
      some (piece.1, piece.2 ++ rest) := by
    rw [splitAtPair_append h.word (by simp), splitAtPair_self, Option.map_some]
    exact congrArg (fun word => some (word, piece.2 ++ rest)) (List.append_nil _)
  have hbytes : byteLength piece.1 = piece.1.length :=
    byteLength_ascii fun c hc => hascii c (by simp [hline, hc])
  obtain ⟨c, cs, htext, hc⟩ := h.first
  have hstop : isBoundary line (before.length + byteLength piece.1 + 2) = true := by
    have hline' : line = (before ++ piece.1 ++ ['?', '=']) ++ c :: (cs ++ rest) := by
      simp [hline, htext]
    rw [hbytes, hline', isBoundary_append (by simp; omega)]
    exact hc
  rw [wordEnd]
  split
  next hnone => cases hnone.symm.trans hsplit
  next before' after' hsome =>
    obtain ⟨rfl, rfl⟩ := Prod.mk.inj (Option.some.inj (hsome.symm.trans hsplit))
    rw [if_pos hstop, List.nil_append]

/-- A word may begin where the line does, or after a boundary. -/
theorem startsWord (hbytes : byteLength text = text.length) (hline : line = before ++ text ++ rest)
    (hlast : ∀ c ∈ (before ++ text).getLast?, bounds c = true) :
    ¬ (before.length + byteLength text ≠ 0 ∧
      (!isBoundary line (before.length + byteLength text - 1)) = true) := by
  rintro ⟨hne, hnot⟩
  rw [hbytes, ← List.length_append] at hne hnot
  obtain ⟨init, c, hinit⟩ := (List.eq_nil_or_concat (before ++ text)).resolve_left
    fun hnil => hne (List.length_eq_zero_iff.mpr hnil)
  have hc : bounds c = true := hlast c (by simp [hinit])
  have hline' : line = init ++ c :: rest := by rw [hline, hinit]; simp
  rw [hline', hinit, isBoundary_append (by simp), hc] at hnot
  cases hnot

/-- The text before a word and the word are cut off. -/
theorem lineTokens_apart (h : Apart piece)
    (hline : line = before ++ text ++
      '=' :: '?' :: (piece.1 ++ '?' :: '=' :: (piece.2 ++ rest)))
    (hascii : ∀ c ∈ line, c.toNat < 128) (htext : splitAtPair '=' '?' text = none)
    (hlast : ∀ c ∈ (before ++ text).getLast?, bounds c = true) :
    lineTokens line before.length (text ++
      '=' :: '?' :: (piece.1 ++ '?' :: '=' :: (piece.2 ++ rest))) =
        blankOrText text :: token piece.1 ::
          lineTokens line (before ++ text ++ '=' :: '?' :: piece.1 ++ ['?', '=']).length
            (piece.2 ++ rest) := by
  have hsplit : splitAtPair '=' '?' (text ++
      '=' :: '?' :: (piece.1 ++ '?' :: '=' :: (piece.2 ++ rest))) =
        some (text, piece.1 ++ '?' :: '=' :: (piece.2 ++ rest)) := by
    rw [splitAtPair_append htext (by simp), splitAtPair_self, Option.map_some]
    exact congrArg (fun text => some (text, _)) (List.append_nil _)
  have htextBytes : byteLength text = text.length :=
    byteLength_ascii fun c hc => hascii c (by simp [hline, hc])
  have hwordBytes : byteLength piece.1 = piece.1.length :=
    byteLength_ascii fun c hc => hascii c (by simp [hline, hc])
  have hword : wordEnd line (before ++ text ++ ['=', '?']).length []
      (piece.1 ++ '?' :: '=' :: (piece.2 ++ rest)) = some (piece.1, piece.2 ++ rest) :=
    wordEnd_apart h (by simp [hline]) hascii
  have hbegin : (before ++ text ++ ['=', '?']).length =
      before.length + byteLength text + 2 := by simp [htextBytes, Nat.add_assoc]
  have hend : (before ++ text ++ '=' :: '?' :: piece.1 ++ ['?', '=']).length =
      before.length + byteLength text + byteLength piece.1 + 4 := by
    simp [htextBytes, hwordBytes]
    omega
  rw [hbegin] at hword
  rw [hend, lineTokens]
  split
  next hnone => cases hnone.symm.trans hsplit
  next before' after' hsome =>
    obtain ⟨rfl, rfl⟩ := Prod.mk.inj (Option.some.inj (hsome.symm.trans hsplit))
    rw [if_neg (startsWord htextBytes hline hlast)]
    split
    next hnone => cases hnone.symm.trans hword
    next hsome =>
      obtain ⟨rfl, rfl⟩ := Prod.mk.inj (Option.some.inj (hsome.symm.trans hword))
      rfl

/-- A line is cut into the text it begins with, each word and the text behind it. -/
theorem lineTokens_written {pieces : List (List Char × List Char)}
    (hpieces : ∀ piece ∈ pieces, Apart piece) (hline : line = before ++ text ++ written pieces)
    (hascii : ∀ c ∈ line, c.toNat < 128) (htext : splitAtPair '=' '?' text = none)
    (hlast : ∀ c ∈ (before ++ text).getLast?, bounds c = true) :
    lineTokens line before.length (text ++ written pieces) =
      blankOrText text :: pieces.flatMap fun piece => [token piece.1, blankOrText piece.2] := by
  induction pieces generalizing before text with
  | nil =>
      have hsplit : splitAtPair '=' '?' (text ++ written []) = none := by
        rw [written, List.flatMap_nil, List.append_nil, htext]
      rw [lineTokens]
      split
      next => rw [written, List.flatMap_nil, List.flatMap_nil, List.append_nil]
      next hsome => cases hsome.symm.trans hsplit
  | cons piece pieces ih =>
      rw [List.forall_mem_cons] at hpieces
      obtain ⟨hpiece, hpieces⟩ := hpieces
      have hwritten : written (piece :: pieces) =
          '=' :: '?' :: (piece.1 ++ '?' :: '=' :: (piece.2 ++ written pieces)) := by
        simp [written]
      rw [hwritten] at hline ⊢
      rw [lineTokens_apart hpiece hline hascii htext hlast]
      obtain ⟨c, init, hinit, hc⟩ := hpiece.last
      rw [ih hpieces (by simp [hline]) hpiece.text fun d hd => ?_]
      · rfl
      · rw [hinit, ← List.append_assoc, List.getLast?_concat] at hd
        obtain rfl := Option.some.inj hd
        exact hc

end Lines

/-! ## Words of UTF-8 in Base64 -/

/-- The label and the coding that these words begin with. -/
def utf8Base64 : List Char := ['u', 't', 'f', '-', '8', '?', 'B', '?']

/-- What stands between the marks of an encoded word for a text. -/
def wordFor (s : String) : List Char := utf8Base64 ++ Base64.encodeChars (utf8 s)

theorem decode?_wordFor (s : String) : decode? (wordFor s) = some s.toList := by
  have hoctets : octets? ['B'] (Base64.encodeChars (utf8 s)) = some (utf8 s) :=
    Base64.decode?_encodeChars (utf8 s)
  have hlabel : Charset.ofLabel? (String.ofList ['u', 't', 'f', '-', '8']) = some .utf8 := by
    decide +kernel
  have htext : (Charset.utf8.decode (utf8 s)).toList = s.toList :=
    congrArg String.toList (Utf8.decodeLossy_utf8 s)
  simp [decode?, wordFor, utf8Base64, hoctets, hlabel, htext]

theorem splitAtPair_wordFor (s : String) : splitAtPair '?' '=' (wordFor s) = none := by
  have hcoded : '?' ∉ Base64.encodeChars (utf8 s) := fun h =>
    absurd (Base64.mem_encodeChars h) (by decide)
  rw [wordFor, splitAtPair_append rfl (Base64.head?_encodeChars _), splitAtPair_eq_none hcoded]
  rfl

theorem mem_wordFor {s : String} {c : Char} (hc : c ∈ wordFor s) : c.toNat < 128 ∧ c ≠ '\n' := by
  have hprefix : ∀ c ∈ utf8Base64, c.toNat < 128 ∧ c ≠ '\n' :=
    List.all_iff_forall_prop.mp (by decide)
  have hsymbols : ∀ c ∈ Base64.alphabet, c.toNat < 128 ∧ c ≠ '\n' :=
    List.all_iff_forall_prop.mp (by decide)
  rcases List.mem_append.mp hc with hc | hc
  · exact hprefix c hc
  · exact hsymbols c (Base64.mem_encodeChars hc)

end EncodedWord

namespace HeaderText

open EncodedWord

/-- Texts with something in them, each behind a decoded word, are joined as they are. -/
theorem join_words (pieces : List (List Char × List Char)) :
    join .none (pieces.flatMap fun piece => [.word piece.1, .text piece.2]) =
      pieces.flatMap fun piece => piece.1 ++ piece.2 := by
  induction pieces with
  | nil => rfl
  | cons piece pieces ih =>
      rw [List.flatMap_cons, List.flatMap_cons, ← ih]
      simp [join]

theorem join_blank (cs : List Char) (rest : List HeaderToken) :
    join .none (.blank cs :: rest) = cs ++ join .none rest := by
  simp [join]

theorem lines_single {line : List Char} (hne : line ≠ []) (h : '\n' ∉ line) :
    lines line = [line] := by
  have htake : line.takeWhile (· ≠ '\n') = line :=
    List.takeWhile_eq_self_iff.mpr fun c hc => decide_eq_true fun heq => h (heq ▸ hc)
  have hdrop : line.dropWhile (· ≠ '\n') = [] :=
    List.dropWhile_eq_nil_iff.mpr fun c hc => decide_eq_true fun heq => h (heq ▸ hc)
  cases line with
  | nil => exact absurd rfl hne
  | cons c cs =>
      rw [lines.eq_2 _ hne]
      split
      next => rw [htake]
      next hsome => cases hsome.symm.trans hdrop

end HeaderText

namespace EncodedWord

/-- Words for these texts, each with the text behind it. -/
def pieces (items : List (String × List Char)) : List (List Char × List Char) :=
  items.map fun item => (wordFor item.1, item.2)

/-- An item whose text can stand behind its word in a value of one line. -/
structure Legible (item : String × List Char) : Prop where
  apart : Apart (wordFor item.1, item.2)
  ascii : ∀ c ∈ item.2, c.toNat < 128
  unbroken : '\n' ∉ item.2
  solid : ∃ c ∈ item.2, isBlank c = false

variable {items : List (String × List Char)}

theorem mem_written_pieces (h : ∀ item ∈ items, Legible item) {c : Char}
    (hc : c ∈ written (pieces items)) : c.toNat < 128 ∧ c ≠ '\n' := by
  obtain ⟨piece, hpiece, hc⟩ := List.mem_flatMap.mp hc
  obtain ⟨item, hitem, rfl⟩ := List.mem_map.mp hpiece
  have hmarks : ∀ c ∈ ['=', '?'], c.toNat < 128 ∧ c ≠ '\n' :=
    List.all_iff_forall_prop.mp (by decide)
  simp only [List.mem_append, List.mem_cons] at hc
  rcases hc with (hc | hc | hc) | hc | hc | hc
  · exact hmarks c (by simp [hc])
  · exact hmarks c (by simp [hc])
  · exact mem_wordFor hc
  · exact hmarks c (by simp [hc])
  · exact hmarks c (by simp [hc])
  · have htext := h item hitem
    exact ⟨htext.ascii c hc, fun heq => htext.unbroken (heq ▸ hc)⟩

theorem blankOrText_solid {text : List Char} (h : ∃ c ∈ text, isBlank c = false) :
    blankOrText text = .text text := by
  have htrim : ¬ (Blank.trimEnd text).isEmpty = true := by
    rw [Blank.trimEnd, List.isEmpty_reverse, List.isEmpty_iff, List.dropWhile_eq_nil_iff]
    obtain ⟨c, hc, hsolid⟩ := h
    exact fun hall => Bool.false_ne_true (hsolid.symm.trans (hall c (List.mem_reverse.mpr hc)))
  rw [blankOrText, if_neg htrim]

theorem tokens_written (h : ∀ item ∈ items, Legible item) (hne : items ≠ []) :
    HeaderText.tokens (written (pieces items)) =
      .blank [] :: items.flatMap fun item => [.word item.1.toList, .text item.2] := by
  have hlines : HeaderText.lines (written (pieces items)) = [written (pieces items)] := by
    refine HeaderText.lines_single (fun hnil => ?_) fun hmem => (mem_written_pieces h hmem).2 rfl
    cases items with
    | nil => exact hne rfl
    | cons item items => cases hnil
  have htrim : Blank.trimStart (written (pieces items)) = written (pieces items) := by
    cases items with
    | nil => rfl
    | cons item items => rfl
  have hpieces : ∀ piece ∈ pieces items, Apart piece := by
    intro piece hpiece
    obtain ⟨item, hitem, rfl⟩ := List.mem_map.mp hpiece
    exact (h item hitem).apart
  have hcut : lineTokens (written (pieces items)) ([] : List Char).length
      ([] ++ written (pieces items)) =
        blankOrText [] ::
          (pieces items).flatMap fun piece => [token piece.1, blankOrText piece.2] :=
    lineTokens_written hpieces rfl (fun c hc => (mem_written_pieces h hc).1) rfl
      fun c hc => by cases hc
  have htokens : ∀ item ∈ items, [token (wordFor item.1), blankOrText item.2] =
      [.word item.1.toList, .text item.2] := by
    intro item hitem
    rw [token, decode?_wordFor, blankOrText_solid (h item hitem).solid]
  rw [HeaderText.tokens, hlines, List.map_singleton, List.map_singleton, htrim]
  refine (List.append_nil _).trans (hcut.trans ?_)
  rw [pieces, List.flatMap_map]
  exact congrArg (.blank [] :: ·) (List.flatMap_congr htokens)

end EncodedWord

/-- A value of one line in which texts stand behind encoded words has the words decoded. -/
theorem HeaderField.text_written {f : HeaderField} {items : List (String × List Char)}
    (hitems : ∀ item ∈ items, EncodedWord.Legible item)
    (h : f.value = utf8 (String.ofList (EncodedWord.written (EncodedWord.pieces items)))) :
    f.text = String.ofList (items.flatMap fun item => item.1.toList ++ item.2) := by
  have hjoin : HeaderText.join .none
      (HeaderText.tokens (EncodedWord.written (EncodedWord.pieces items))) =
        items.flatMap fun item => item.1.toList ++ item.2 := by
    cases items with
    | nil => simp [HeaderText.tokens, HeaderText.lines, EncodedWord.written, EncodedWord.pieces,
        HeaderText.join]
    | cons item items =>
        have hwords := HeaderText.join_words
          ((item :: items).map fun item => (item.1.toList, item.2))
        rw [List.flatMap_map, List.flatMap_map] at hwords
        rw [EncodedWord.tokens_written hitems (List.cons_ne_nil _ _), HeaderText.join_blank]
        exact hwords
  rw [HeaderField.text, h, Utf8.decode?_utf8, Option.getD_some, String.toList_ofList, hjoin]

end MailSync
