import MailSync.Header
import MailSync.Submission.Bcc

/-!
# Header blocks, line by line

A header block is read byte by byte, a field with its folded lines at a time.
Here it is cut into lines first (`Bcc.lines`), and each field is found again as
one line or as a line with those folded onto it (`Header.fields_plain`,
`Header.fields_colon`).
-/

namespace MailSync

/-! ## Lines -/

/-- Whether some bytes are what is left of the last line, or of one that is ended and followed by
others. -/
def EndsLine (u : Bytes) (rest : List Bytes) : Prop :=
  (∃ v, u = v ++ [10] ∧ 10 ∉ v) ∨ (10 ∉ u ∧ rest = [])

/-- Lines as a message is cut into: none is empty, and only the last may lack its line feed. -/
def WellCut : List Bytes → Prop
  | [] => True
  | line :: rest => line ≠ [] ∧ EndsLine line rest ∧ WellCut rest

theorem WellCut.sublist {ls ls' : List Bytes} (hsub : ls'.Sublist ls) (h : WellCut ls) :
    WellCut ls' := by
  induction hsub with
  | slnil => trivial
  | cons line _ ih => exact ih h.2.2
  | cons_cons line hrest ih =>
      refine ⟨h.1, h.2.1.imp_right fun ⟨hlast, hnil⟩ => ⟨hlast, ?_⟩, ih h.2.2⟩
      rw [hnil] at hrest
      exact List.sublist_nil.mp hrest

theorem dropWhile_space_feed (v w : Bytes) :
    (v ++ 10 :: w).dropWhile (· = 32) = v.dropWhile (· = 32) ++ 10 :: w := by
  rw [List.dropWhile_append]
  split
  next h =>
    rw [List.isEmpty_iff.mp h]
    rfl
  next => rfl

/-- Spaces that are skipped are skipped within a line. -/
theorem EndsLine.dropWhile {u : Bytes} {rest : List Bytes} (h : EndsLine u rest) :
    (u ++ rest.flatten).dropWhile (· = 32) = u.dropWhile (· = 32) ++ rest.flatten ∧
      EndsLine (u.dropWhile (· = 32)) rest := by
  obtain ⟨v, rfl, hv⟩ | ⟨hlast, rfl⟩ := h
  · rw [List.append_assoc, List.singleton_append, dropWhile_space_feed, dropWhile_space_feed]
    refine ⟨by simp, .inl ⟨_, rfl, fun hmem => hv ((List.dropWhile_sublist _).mem hmem)⟩⟩
  · refine ⟨by simp, .inr ⟨fun hmem => hlast ((List.dropWhile_sublist _).mem hmem), rfl⟩⟩

/-- A line feed is the last byte of its line. -/
theorem EndsLine.after {k u : Bytes} {b : UInt8} {rest : List Bytes}
    (h : EndsLine (k ++ b :: u) rest) : 10 ∉ k ∧ (b ≠ 10 → EndsLine u rest) := by
  obtain ⟨v, heq, hv⟩ | ⟨hlast, hnil⟩ := h
  · obtain rfl | ⟨u', c, rfl⟩ := List.eq_nil_or_concat u
    · obtain ⟨rfl, hb⟩ := List.append_inj' heq rfl
      exact ⟨hv, fun hne => absurd (List.cons.inj hb).1 hne⟩
    · rw [List.concat_eq_append, ← List.cons_append, ← List.append_assoc] at heq
      obtain ⟨rfl, hc⟩ := List.append_inj' heq rfl
      obtain rfl := (List.cons.inj hc).1
      rw [List.mem_append, List.mem_cons, not_or, not_or] at hv
      exact ⟨hv.1, fun _ => .inl ⟨u', List.concat_eq_append, hv.2.2⟩⟩
  · rw [List.mem_append, List.mem_cons, not_or, not_or] at hlast
    exact ⟨hlast.1, fun _ => .inr ⟨hlast.2.2, hnil⟩⟩

namespace Bcc

theorem lines_append_feed {v : Bytes} (h : 10 ∉ v) (rest : Bytes) :
    lines (v ++ 10 :: rest) = (v ++ [10]) :: lines rest := by
  induction v with
  | nil => simp [lines]
  | cons b v ih =>
      rw [List.mem_cons, not_or] at h
      rw [List.cons_append, lines, if_neg (Ne.symm h.1), ih h.2]
      rfl

theorem lines_of_notMem {v : Bytes} (hv : v ≠ []) (h : 10 ∉ v) : lines v = [v] := by
  induction v with
  | nil => exact absurd rfl hv
  | cons b v ih =>
      rw [List.mem_cons, not_or] at h
      rw [lines, if_neg (Ne.symm h.1)]
      cases v with
      | nil => rfl
      | cons c v => rw [ih (List.cons_ne_nil c v) h.2]

theorem lines_flatten {ls : List Bytes} (h : WellCut ls) : lines ls.flatten = ls := by
  induction ls with
  | nil => rfl
  | cons line rest ih =>
      obtain ⟨hne, ⟨v, rfl, hv⟩ | ⟨hlast, rfl⟩, hrest⟩ := h
      · rw [List.flatten_cons, List.append_assoc, List.singleton_append, lines_append_feed hv, ih hrest]
      · rw [List.flatten_cons, List.flatten_nil, List.append_nil, lines_of_notMem hne hlast]

theorem wellCut_lines (bs : Bytes) : WellCut (lines bs) := by
  induction bs with
  | nil => trivial
  | cons b rest ih =>
      rw [lines]
      split
      next hb =>
        subst hb
        exact ⟨by simp, .inl ⟨[], rfl, by simp⟩, ih⟩
      next hb =>
        split
        next => exact ⟨by simp, .inr ⟨by simpa using Ne.symm hb, rfl⟩, trivial⟩
        next line more hlines =>
          rw [hlines] at ih
          obtain ⟨-, ⟨v, rfl, hv⟩ | ⟨hlast, rfl⟩, hmore⟩ := ih
          · exact ⟨by simp, .inl ⟨b :: v, rfl, List.not_mem_cons_of_ne_of_not_mem (Ne.symm hb) hv⟩, hmore⟩
          · exact ⟨by simp, .inr ⟨List.not_mem_cons_of_ne_of_not_mem (Ne.symm hb) hlast, rfl⟩, trivial⟩

end Bcc

/-! ## Fields, by lines -/

namespace Header

open Bcc

theorem foldedLine_cons {b : UInt8} (hb : b ≠ 10) (rest : Bytes) :
    foldedLine (b :: rest) = (b :: (foldedLine rest).1, (foldedLine rest).2) := by
  simp [foldedLine, hb]

theorem foldedLine_feed (rest : Bytes) :
    foldedLine (10 :: rest) =
      if isFolded rest then (10 :: (foldedLine rest).1, (foldedLine rest).2) else ([], rest) := by
  cases rest with
  | nil => rfl
  | cons b rest =>
      by_cases hspace : b = 32
      · subst hspace
        rfl
      by_cases htab : b = 9
      · subst htab
        rfl
      simp [foldedLine, isFolded, hspace, htab]

theorem foldedLine_append {v : Bytes} (h : 10 ∉ v) (rest : Bytes) :
    foldedLine (v ++ rest) = (v ++ (foldedLine rest).1, (foldedLine rest).2) := by
  induction v with
  | nil => rfl
  | cons b v ih =>
      rw [List.mem_cons, not_or] at h
      rw [List.cons_append, foldedLine_cons (Ne.symm h.1), ih h.2]
      rfl

theorem isFolded_append {line : Bytes} (hne : line ≠ []) (rest : Bytes) :
    isFolded (line ++ rest) = isFolded line := by
  cases line with
  | nil => exact absurd rfl hne
  | cons b line => rfl

/-- A field goes on through the folded lines, and ends with them. -/
theorem foldedLine_lines {u : Bytes} {rest : List Bytes} (hu : EndsLine u rest) (h : WellCut rest) :
    foldedLine (u ++ rest.flatten) =
      ((foldedLine (u ++ (rest.takeWhile isFolded).flatten)).1,
        (rest.dropWhile isFolded).flatten) := by
  induction rest generalizing u with
  | nil =>
      obtain ⟨v, rfl, hv⟩ | ⟨hv, -⟩ := hu
      · simp [foldedLine_append hv, foldedLine_feed, isFolded]
      · have hu := foldedLine_append hv []
        rw [List.append_nil] at hu
        simp [hu, foldedLine]
  | cons line rest ih =>
      obtain ⟨v, rfl, hv⟩ | ⟨-, hnil⟩ := hu
      · obtain ⟨hne, hline, hrest⟩ := h
        have hcut : ∀ w : Bytes, foldedLine (v ++ [10] ++ w) =
            if isFolded w then (v ++ 10 :: (foldedLine w).1, (foldedLine w).2) else (v, w) := by
          intro w
          rw [List.append_assoc, List.singleton_append, foldedLine_append hv, foldedLine_feed]
          split <;> simp
        rw [hcut, hcut, List.flatten_cons, isFolded_append hne]
        cases hfolded : isFolded line with
        | true =>
            rw [List.takeWhile_cons_of_pos hfolded, List.dropWhile_cons_of_pos hfolded,
              List.flatten_cons, isFolded_append hne, if_pos hfolded, if_pos rfl, ih hline hrest]
        | false =>
            have hnot : ¬ isFolded line = true := by simp [hfolded]
            rw [List.takeWhile_cons_of_neg hnot, List.dropWhile_cons_of_neg hnot]
            rfl
      · cases hnil

theorem key_bytes {k : Bytes} (hcolon : 58 ∉ k) (hfeed : 10 ∉ k) : ∀ b ∈ k, b ≠ 58 ∧ b ≠ 10 :=
  fun _ hb => ⟨fun h => hcolon (h ▸ hb), fun h => hfeed (h ▸ hb)⟩

/-- A key ends at the first colon or line feed. -/
theorem span_key {k : Bytes} (hk : ∀ b ∈ k, b ≠ 58 ∧ b ≠ 10) {b : UInt8} (hb : b = 58 ∨ b = 10)
    (rest : Bytes) :
    (k ++ b :: rest).takeWhile (fun b => b ≠ 58 && b ≠ 10) = k ∧
      (k ++ b :: rest).dropWhile (fun b => b ≠ 58 && b ≠ 10) = b :: rest := by
  have hpos : ∀ b ∈ k, (b ≠ 58 && b ≠ 10) = true := fun b hmem => by simpa using hk b hmem
  rw [List.takeWhile_append_of_pos hpos, List.dropWhile_append_of_pos hpos]
  rcases hb with rfl | rfl <;> simp

/-- A line with a colon makes a field together with the folded lines after it. -/
theorem field_colon {k u : Bytes} {rest : List Bytes} (hk : ∀ b ∈ k, b ≠ 58 ∧ b ≠ 10)
    (hu : EndsLine u rest) (h : WellCut rest) :
    field (k ++ 58 :: (u ++ rest.flatten)) =
      (⟨k, stripLineEnd (foldedLine (u.dropWhile (· = 32) ++ (rest.takeWhile isFolded).flatten)).1⟩,
        (rest.dropWhile isFolded).flatten) := by
  obtain ⟨htake, hdrop⟩ := span_key hk (.inl rfl) (u ++ rest.flatten)
  rw [field, htake, hdrop]
  show (_, _) = _
  rw [hu.dropWhile.1, foldedLine_lines hu.dropWhile.2 h]

/-- A line without a colon makes a field of its own. -/
theorem field_plain {k : Bytes} (hk : ∀ b ∈ k, b ≠ 58 ∧ b ≠ 10) (rest : Bytes) :
    field (k ++ 10 :: rest) = (⟨k, []⟩, rest) := by
  obtain ⟨htake, hdrop⟩ := span_key hk (.inr rfl) rest
  rw [field, htake, hdrop]
  rfl

theorem field_last {k : Bytes} (hk : ∀ b ∈ k, b ≠ 58 ∧ b ≠ 10) : field k = (⟨k, []⟩, []) := by
  have hpos : ∀ b ∈ k, (b ≠ 58 && b ≠ 10) = true := fun b hmem => by simpa using hk b hmem
  have htake : k.takeWhile (fun b => b ≠ 58 && b ≠ 10) = k := by
    simpa using @List.takeWhile_append_of_pos _ _ k [] hpos
  have hdrop : k.dropWhile (fun b => b ≠ 58 && b ≠ 10) = [] := by
    simpa using @List.dropWhile_append_of_pos _ _ k [] hpos
  rw [field, htake, hdrop]

/-! ### Whole blocks -/

/-- Whether a line can start a field. -/
def Starts (line : Bytes) : Prop := ∃ b more, line = b :: more ∧ b ≠ 10 ∧ b ≠ 13 ∧ b ≠ 32

theorem fields_starts {line : Bytes} (h : Starts line) (rest : Bytes) :
    fields (line ++ rest) =
      (fields (field (line ++ rest)).2).map ((field (line ++ rest)).1 :: ·) := by
  obtain ⟨b, more, rfl, hfeed, hreturn, hspace⟩ := h
  rw [List.cons_append]
  rw [fields.eq_def (b :: (more ++ rest))]
  split
  next h => cases h
  next h => exact absurd (List.cons.inj h).1 hfeed
  next h => exact absurd (List.cons.inj h).1 hreturn
  next h => exact absurd (List.cons.inj h).1 hreturn
  next h => exact absurd (List.cons.inj h).1 hspace
  next h =>
    cases h
    cases fields (field (b :: (more ++ rest))).2 <;> rfl

/-- Where a block can be read, every line of it is empty or can start a field. -/
theorem starts_of_fields {line : Bytes} {rest : List Bytes} {fs : List HeaderField}
    (h : WellCut (line :: rest)) (hfs : fields (line ++ rest.flatten) = .ok fs) :
    isEmptyLine line = true ∨ Starts line := by
  obtain ⟨hne, hline, -⟩ := h
  obtain ⟨b, more, rfl⟩ := List.exists_cons_of_ne_nil hne
  by_cases hfeed : b = 10
  · subst hfeed
    cases more with
    | nil => exact .inl rfl
    | cons c more => exact absurd List.mem_cons_self (hline.after (k := [10])).1
  by_cases hreturn : b = 13
  · subst hreturn
    cases more with
    | nil =>
        obtain ⟨v, heq, -⟩ | ⟨-, rfl⟩ := hline
        · cases v <;> simp at heq
        · rw [fields.eq_def] at hfs
          cases hfs
    | cons c more =>
        by_cases hc : c = 10
        · subst hc
          cases more with
          | nil => exact .inl rfl
          | cons c more => exact absurd (by simp) (hline.after (k := [13, 10])).1
        · rw [List.cons_append, List.cons_append, fields.eq_def] at hfs
          simp [hc] at hfs
  by_cases hspace : b = 32
  · subst hspace
    rw [List.cons_append, fields.eq_def] at hfs
    cases hfs
  exact .inr ⟨b, more, rfl, hfeed, hreturn, hspace⟩

theorem fields_empty {line : Bytes} (h : isEmptyLine line = true) (rest : Bytes) :
    fields (line ++ rest) = .ok [] := by
  rw [isEmptyLine, Bool.or_eq_true, decide_eq_true_eq, decide_eq_true_eq] at h
  rcases h with rfl | rfl <;> exact fields.eq_def _

/-- The first field of a block whose first line has a colon is that line and what is folded onto
it. -/
theorem fields_colon {k u : Bytes} (hstarts : Starts (k ++ 58 :: u)) (hk : 58 ∉ k)
    (folded : List Bytes) :
    ∃ value, ∀ rest, WellCut ((k ++ 58 :: u) :: rest) → rest.takeWhile isFolded = folded →
      fields ((k ++ 58 :: u) ++ rest.flatten) =
        (fields (rest.dropWhile isFolded).flatten).map (⟨k, value⟩ :: ·) := by
  refine ⟨stripLineEnd (foldedLine (u.dropWhile (· = 32) ++ folded.flatten)).1, ?_⟩
  rintro rest ⟨-, hline, hrest⟩ rfl
  obtain ⟨hfeed, hu⟩ := hline.after
  rw [fields_starts hstarts, List.append_assoc, List.cons_append,
    field_colon (key_bytes hk hfeed) (hu (by decide)) hrest]

/-- A first line without a colon is a field without a value. -/
theorem fields_plain {line : Bytes} (hstarts : Starts line) (hcolon : 58 ∉ line) :
    ∃ key, ∀ rest, WellCut (line :: rest) →
      fields (line ++ rest.flatten) = (fields rest.flatten).map (⟨key, []⟩ :: ·) := by
  by_cases hended : ∃ v, line = v ++ [10] ∧ 10 ∉ v
  · obtain ⟨v, rfl, hv⟩ := hended
    rw [List.mem_append, not_or] at hcolon
    refine ⟨v, fun rest _ => ?_⟩
    rw [fields_starts hstarts, List.append_assoc, List.singleton_append,
      field_plain (key_bytes hcolon.1 hv)]
  · refine ⟨line, fun rest ⟨_, hline, _⟩ => ?_⟩
    obtain ⟨hlast, rfl⟩ := hline.resolve_left hended
    rw [fields_starts hstarts, List.flatten_nil, List.append_nil,
      field_last (key_bytes hcolon hlast)]

end Header

end MailSync
