import MailSync.Proofs.HeaderLine

/-!
# Blind copies and header fields

Two readers look at the same header block. One goes line by line and takes out
the lines of blind copies, the other goes byte by byte and finds the fields.
What the one takes out are whole fields of the other, and what is left is read as
it was before (`Bcc.fields_keep`). Which lines go is said without the scanner
(`Bcc.InBlindCopy`), and the main statement joins both (`Bcc.strip_takes_out`).
-/

namespace MailSync

namespace Bcc

theorem isEmptyLine_of_isFolded {line : Bytes} (h : isFolded line = true) :
    isEmptyLine line = false := by
  unfold isFolded at h
  split at h
  next b more =>
    rw [Bool.or_eq_true, decide_eq_true_eq, decide_eq_true_eq] at h
    rcases h with rfl | rfl <;> simp [isEmptyLine]
  next => cases h

theorem isBcc_of_not_isFolded {line : Bytes} (h : isFolded line = false) (within : Bool) :
    isBcc within line = startsBcc line := by
  rw [isBcc, h]
  rfl

/-- Whether the line before was removed matters to folded lines only. -/
theorem keep_true (ls : List Bytes) : keep true ls = keep false (ls.dropWhile isFolded) := by
  induction ls with
  | nil => rfl
  | cons line rest ih =>
      cases hfolded : isFolded line with
      | true =>
          rw [keep, isEmptyLine_of_isFolded hfolded, List.dropWhile_cons_of_pos hfolded, ← ih]
          simp [isBcc, hfolded]
      | false =>
          rw [List.dropWhile_cons_of_neg (by simp [hfolded]), keep, keep,
            isBcc_of_not_isFolded hfolded, isBcc_of_not_isFolded hfolded]

theorem keep_folded {line : Bytes} (h : isFolded line = true) (rest : List Bytes) :
    keep false (line :: rest) = line :: keep false rest := by
  rw [keep, isEmptyLine_of_isFolded h]
  simp [isBcc, h]

/-- After a blind copy the next line that stays is not a folded one. -/
theorem head_keep_true (ls : List Bytes) :
    ∀ line ∈ (keep true ls).head?, isFolded line = false := by
  induction ls with
  | nil => simp [keep]
  | cons line rest ih =>
      rw [keep]
      split
      next hempty =>
        intro line' hline'
        obtain rfl : line = line' := by simpa using hline'
        refine eq_false_of_ne_true fun hfolded => ?_
        rw [isEmptyLine_of_isFolded hfolded] at hempty
        cases hempty
      next =>
        split
        next => exact ih
        next hstays =>
          intro line' hline'
          obtain rfl : line = line' := by simpa using hline'
          exact eq_false_of_ne_true fun hfolded => hstays (by rw [isBcc, if_pos hfolded])

/-- Taking out blind copies leaves what is folded onto the line before as it is. -/
theorem span_keep (ls : List Bytes) :
    (keep false ls).takeWhile isFolded = ls.takeWhile isFolded ∧
      (keep false ls).dropWhile isFolded = keep false (ls.dropWhile isFolded) := by
  induction ls with
  | nil => exact ⟨rfl, rfl⟩
  | cons line rest ih =>
      cases hfolded : isFolded line with
      | true =>
          rw [keep_folded hfolded, List.takeWhile_cons_of_pos hfolded,
            List.takeWhile_cons_of_pos hfolded, List.dropWhile_cons_of_pos hfolded,
            List.dropWhile_cons_of_pos hfolded, ih.1, ih.2]
          exact ⟨rfl, rfl⟩
      | false =>
          have hnot : ¬ isFolded line = true := by simp [hfolded]
          have hhead := head_keep_true (line :: rest)
          rw [keep_true, List.dropWhile_cons_of_neg hnot] at hhead
          rw [List.takeWhile_cons_of_neg hnot, List.dropWhile_cons_of_neg hnot]
          cases hkept : keep false (line :: rest) with
          | nil => exact ⟨rfl, rfl⟩
          | cons line' kept =>
              have hnot' : ¬ isFolded line' = true := by simp [hhead line' (by rw [hkept]; rfl)]
              rw [List.takeWhile_cons_of_neg hnot', List.dropWhile_cons_of_neg hnot']
              exact ⟨rfl, rfl⟩

theorem keep_of_isEmptyLine {line : Bytes} (h : isEmptyLine line = true) (within : Bool)
    (rest : List Bytes) : keep within (line :: rest) = line :: rest := by
  rw [keep, if_pos h]

theorem keep_of_isBcc {line : Bytes} {within : Bool} (hline : isEmptyLine line = false)
    (h : isBcc within line = true) (rest : List Bytes) :
    keep within (line :: rest) = keep true rest := by
  rw [keep, hline, h]
  rfl

theorem keep_of_not_isBcc {line : Bytes} {within : Bool} (hline : isEmptyLine line = false)
    (h : isBcc within line = false) (rest : List Bytes) :
    keep within (line :: rest) = line :: keep false rest := by
  rw [keep, hline, h]
  rfl

/-! ## What is left of a header block -/

open Header

theorem isEmptyLine_of_starts {line : Bytes} (h : Starts line) : isEmptyLine line = false := by
  obtain ⟨b, more, rfl, hfeed, hreturn, -⟩ := h
  simp [isEmptyLine, hfeed, hreturn]

theorem eq_colon_of_lowerByte {b : UInt8} (h : Ascii.lowerByte b = 58) : b = 58 := by
  unfold Ascii.lowerByte at h
  split at h
  next hletter =>
    have h₁ := UInt8.le_iff_toNat_le.mp hletter.1
    have h₂ := UInt8.le_iff_toNat_le.mp hletter.2
    have h₃ := congrArg UInt8.toNat h
    rw [UInt8.toNat_add] at h₃
    simp at h₁ h₂ h₃
    omega
  next => exact h

theorem utf8_mark : utf8 "bcc:" = [98, 99, 99, 58] := by decide +kernel

theorem startsBcc_eq_true_iff {line : Bytes} : startsBcc line = true ↔
    ∃ b₁ b₂ b₃ more, line = b₁ :: b₂ :: b₃ :: 58 :: more ∧
      [b₁, b₂, b₃].map Ascii.lowerByte = [98, 99, 99] := by
  rw [startsBcc, utf8_mark, decide_eq_true_eq]
  constructor
  · intro h
    match line with
    | [] | [_] | [_, _] | [_, _, _] => simp at h
    | b₁ :: b₂ :: b₃ :: b₄ :: more =>
      simp only [List.take_succ_cons, List.take_zero, List.map_cons, List.map_nil,
        List.cons.injEq, and_true] at h
      obtain ⟨h₁, h₂, h₃, h₄⟩ := h
      obtain rfl := eq_colon_of_lowerByte h₄
      exact ⟨b₁, b₂, b₃, more, rfl, by simp [h₁, h₂, h₃]⟩
  · rintro ⟨b₁, b₂, b₃, more, rfl, h⟩
    simp only [List.map_cons, List.map_nil, List.cons.injEq, and_true] at h
    obtain ⟨h₁, h₂, h₃⟩ := h
    have hcolon : Ascii.lowerByte 58 = 58 := rfl
    simp [h₁, h₂, h₃, hcolon]

/-- A field with a colon has the name exactly if its line starts with the mark. -/
theorem startsBcc_iff_hasName {k : Bytes} (hk : 58 ∉ k) (u value : Bytes) :
    startsBcc (k ++ 58 :: u) = true ↔ (⟨k, value⟩ : HeaderField).hasName "Bcc" = true := by
  have hname : utf8 (Ascii.lower "Bcc") = [98, 99, 99] := by decide +kernel
  have hcolon : Ascii.lowerByte 58 = 58 := rfl
  rw [startsBcc, utf8_mark, HeaderField.hasName, hname, decide_eq_true_eq, decide_eq_true_eq]
  match k with
  | [] | [_] | [_, _] | [_, _, _] => simp [hcolon]
  | _ :: _ :: _ :: b :: _ =>
      have hb : Ascii.lowerByte b ≠ 58 := fun h => hk (by simp [eq_colon_of_lowerByte h])
      simp [hb]

theorem isFolded_of_startsBcc {line : Bytes} (h : startsBcc line = true) :
    isFolded line = false := by
  obtain ⟨b, _, _, _, rfl, hname⟩ := startsBcc_eq_true_iff.mp h
  refine eq_false_of_ne_true fun hfolded => ?_
  simp only [isFolded, Bool.or_eq_true, decide_eq_true_eq] at hfolded
  rcases hfolded with rfl | rfl <;> exact absurd (List.cons.inj hname).1 (by decide)

theorem startsBcc_of_isBcc {line : Bytes} (h : isBcc false line = true) :
    startsBcc line = true := by
  rw [isBcc] at h
  split at h
  · cases h
  · exact h

theorem map_cons_eq_ok {ε α : Type} {o : Except ε (List α)} {a : α} {l : List α}
    (h : o.map (a :: ·) = .ok l) : ∃ l', o = .ok l' ∧ l = a :: l' := by
  cases o with
  | error e => cases h
  | ok l' => exact ⟨l', rfl, (Except.ok.inj h).symm⟩

/-- What is left of some fields without blind copies: all others, in order, and of those with the
name only such as have no value. -/
def Remain (fs fs' : List HeaderField) : Prop :=
  fs'.filter (!·.hasName "Bcc") = fs.filter (!·.hasName "Bcc") ∧
    ∀ f ∈ fs', f.hasName "Bcc" = true → f.value = []

theorem Remain.cons {f : HeaderField} {fs fs' : List HeaderField} (h : Remain fs fs')
    (hf : f.hasName "Bcc" = true → f.value = []) : Remain (f :: fs) (f :: fs') :=
  ⟨by rw [List.filter_cons, List.filter_cons, h.1], List.forall_mem_cons.mpr ⟨hf, h.2⟩⟩

theorem Remain.drop {f : HeaderField} {fs fs' : List HeaderField} (h : Remain fs fs')
    (hf : f.hasName "Bcc" = true) : Remain (f :: fs) fs' :=
  ⟨by rw [h.1, List.filter_cons_of_neg (by simp [hf])], h.2⟩

/-- A readable header block can be read without its blind copies. -/
theorem fields_keep {ls : List Bytes} {fs : List HeaderField} (h : WellCut ls)
    (hfs : fields ls.flatten = .ok fs) :
    ∃ fs', fields (keep false ls).flatten = .ok fs' ∧ Remain fs fs' := by
  induction hn : ls.length using Nat.strongRecOn generalizing ls fs with
  | ind n ih =>
      have hkeep : WellCut (keep false ls) := h.sublist (keep_sublist false ls)
      cases ls with
      | nil =>
          rw [List.flatten_nil, fields.eq_def] at hfs
          obtain rfl := Except.ok.inj hfs
          exact ⟨[], fields.eq_def _, rfl, by simp⟩
      | cons line rest =>
          have hshorter : ∀ {rest' : List Bytes}, rest'.Sublist rest → rest'.length < n :=
            fun hsub => hn ▸ Nat.lt_succ_of_le hsub.length_le
          rw [List.flatten_cons] at hfs
          obtain hempty | hstarts := starts_of_fields h hfs
          · rw [fields_empty hempty] at hfs
            obtain rfl := Except.ok.inj hfs
            rw [keep_of_isEmptyLine hempty, List.flatten_cons, fields_empty hempty]
            exact ⟨[], rfl, rfl, by simp⟩
          have hline := isEmptyLine_of_starts hstarts
          have hdrop : (rest.dropWhile isFolded).Sublist rest := List.dropWhile_sublist _
          by_cases hcolon : 58 ∈ line
          · obtain ⟨k, u, rfl, hk⟩ := List.eq_append_cons_of_mem hcolon
            obtain ⟨value, hfields⟩ := fields_colon hstarts hk (rest.takeWhile isFolded)
            rw [hfields rest h rfl] at hfs
            obtain ⟨fs₀, hfs₀, rfl⟩ := map_cons_eq_ok hfs
            obtain ⟨fs', hfs', hremain⟩ := ih _ (hshorter hdrop) (h.2.2.sublist hdrop) hfs₀ rfl
            cases hbcc : isBcc false (k ++ 58 :: u) with
            | true =>
                rw [keep_of_isBcc hline hbcc, keep_true]
                have hname := (startsBcc_iff_hasName hk u value).mp (startsBcc_of_isBcc hbcc)
                exact ⟨fs', hfs', hremain.drop hname⟩
            | false =>
                rw [keep_of_not_isBcc hline hbcc] at hkeep ⊢
                rw [List.flatten_cons, hfields _ hkeep (span_keep rest).1, (span_keep rest).2, hfs']
                refine ⟨_, rfl, hremain.cons fun hname => ?_⟩
                have hstarts := (startsBcc_iff_hasName hk u value).mpr hname
                rw [isBcc_of_not_isFolded (isFolded_of_startsBcc hstarts), hstarts] at hbcc
                cases hbcc
          · obtain ⟨key, hfields⟩ := fields_plain hstarts hcolon
            rw [hfields rest h] at hfs
            obtain ⟨fs₀, hfs₀, rfl⟩ := map_cons_eq_ok hfs
            obtain ⟨fs', hfs', hremain⟩ := ih _ (hshorter (.refl rest)) h.2.2 hfs₀ rfl
            have hbcc : isBcc false line = false := eq_false_of_ne_true fun h => by
              obtain ⟨_, _, _, _, rfl, -⟩ := startsBcc_eq_true_iff.mp (startsBcc_of_isBcc h)
              exact hcolon (by simp)
            rw [keep_of_not_isBcc hline hbcc] at hkeep ⊢
            rw [List.flatten_cons, hfields _ hkeep, hfs']
            exact ⟨_, rfl, hremain.cons fun _ => rfl⟩

/-! ## What is taken out -/

theorem strip_eq (raw : Bytes) : strip raw = (keep false (lines raw)).flatten := by
  rw [strip, strip?]
  split
  next h =>
    rw [(keep_sublist false (lines raw)).eq_of_length h, flatten_lines]
    rfl
  next => rfl

theorem lines_strip (raw : Bytes) : lines (strip raw) = keep false (lines raw) := by
  rw [strip_eq, lines_flatten ((wellCut_lines raw).sublist (keep_sublist false _))]

theorem keep_keep (within : Bool) (ls : List Bytes) :
    keep false (keep within ls) = keep within ls := by
  induction ls generalizing within with
  | nil => rfl
  | cons line rest ih =>
      cases hline : isEmptyLine line with
      | true => rw [keep_of_isEmptyLine hline, keep_of_isEmptyLine hline]
      | false =>
          cases hbcc : isBcc within line with
          | true => rw [keep_of_isBcc hline hbcc, ih]
          | false =>
              have hstays : isBcc false line = false := by
                rw [isBcc] at hbcc ⊢
                split at hbcc
                next hfolded => rw [if_pos hfolded]
                next hfolded => rw [if_neg hfolded, hbcc]
              rw [keep_of_not_isBcc hline hbcc, keep_of_not_isBcc hline hstays, ih]

/-- What is kept before and after a header does not depend on where it stands. -/
theorem keep_append {before rest rest' : List Bytes}
    (hbefore : ∀ line ∈ before, isEmptyLine line = false)
    (h : ∀ within, keep within rest = keep within rest') (within : Bool) :
    keep within (before ++ rest) = keep within (before ++ rest') := by
  induction before generalizing within with
  | nil => exact h within
  | cons line before ih =>
      rw [List.forall_mem_cons] at hbefore
      rw [List.cons_append, List.cons_append]
      cases hbcc : isBcc within line with
      | true => rw [keep_of_isBcc hbefore.1 hbcc, keep_of_isBcc hbefore.1 hbcc, ih hbefore.2]
      | false =>
          rw [keep_of_not_isBcc hbefore.1 hbcc, keep_of_not_isBcc hbefore.1 hbcc, ih hbefore.2]

theorem isEmptyLine_of_startsBcc {line : Bytes} (h : startsBcc line = true) :
    isEmptyLine line = false := by
  obtain ⟨b₁, b₂, b₃, more, rfl, -⟩ := startsBcc_eq_true_iff.mp h
  simp [isEmptyLine]

/-- A blind copy: the line that starts it, and the lines that are folded onto it. -/
structure IsBlindCopy (start : Bytes) (folds : List Bytes) : Prop where
  starts : startsBcc start = true
  folded : ∀ line ∈ folds, isFolded line = true

theorem keep_of_isBlindCopy {start : Bytes} {folds after : List Bytes} (h : IsBlindCopy start folds)
    (hafter : ∀ line ∈ after.head?, isFolded line = false) (within : Bool) :
    keep within (start :: folds ++ after) = keep false after := by
  have hstart : isBcc within start = true := by
    rw [isBcc_of_not_isFolded (isFolded_of_startsBcc h.starts), h.starts]
  rw [List.cons_append, keep_of_isBcc (isEmptyLine_of_startsBcc h.starts) hstart, keep_true,
    List.dropWhile_append_of_pos h.folded]
  cases after with
  | nil => rfl
  | cons line after => rw [List.dropWhile_cons_of_neg (by simp [hafter line rfl])]

/-- The last of these lines, with which a header block starts, belongs to a blind copy. -/
def InBlindCopy (upto : List Bytes) : Prop :=
  (∀ line ∈ upto, isEmptyLine line = false) ∧
    ∃ before start folds, upto = before ++ start :: folds ∧ IsBlindCopy start folds

/-- The same where the line before the first may belong to a blind copy already. -/
def GoesOn (within : Bool) (upto : List Bytes) : Prop :=
  (∀ line ∈ upto, isEmptyLine line = false) ∧
    ((within = true ∧ ∀ line ∈ upto, isFolded line = true) ∨
      ∃ before start folds, upto = before ++ start :: folds ∧ IsBlindCopy start folds)

theorem goesOn_false_iff {upto : List Bytes} : GoesOn false upto ↔ InBlindCopy upto := by
  simp [GoesOn, InBlindCopy]

theorem goesOn_nil_iff {within : Bool} : GoesOn within [] ↔ within = true := by
  simp [GoesOn]

theorem goesOn_cons_iff {within : Bool} {line : Bytes} (hline : isEmptyLine line = false)
    (upto : List Bytes) : GoesOn within (line :: upto) ↔ GoesOn (isBcc within line) upto := by
  rw [GoesOn, GoesOn, List.forall_mem_cons, and_iff_right hline, List.forall_mem_cons]
  refine and_congr_right fun _ => ?_
  constructor
  · rintro (⟨rfl, hfolded, hmore⟩ | ⟨before, start, folds, heq, hcopy⟩)
    · exact .inl ⟨by rw [isBcc, if_pos hfolded], hmore⟩
    · cases before with
      | nil =>
          obtain ⟨rfl, rfl⟩ := List.cons.inj heq
          have hfolded := isFolded_of_startsBcc hcopy.starts
          exact .inl ⟨by rw [isBcc_of_not_isFolded hfolded, hcopy.starts], hcopy.folded⟩
      | cons line' before =>
          obtain ⟨rfl, rfl⟩ := List.cons.inj heq
          exact .inr ⟨before, start, folds, rfl, hcopy⟩
  · rintro (⟨hbcc, hmore⟩ | ⟨before, start, folds, rfl, hcopy⟩)
    · rw [isBcc] at hbcc
      split at hbcc
      next hfolded => exact .inl ⟨hbcc, hfolded, hmore⟩
      next => exact .inr ⟨[], line, upto, rfl, hbcc, hmore⟩
    · exact .inr ⟨line :: before, start, folds, rfl, hcopy⟩

/-- The lines of a message, each with whether it stays. -/
def marks (within : Bool) : List Bytes → List (Bytes × Bool)
  | [] => []
  | line :: rest =>
    if isEmptyLine line then (line :: rest).map fun line => (line, true)
    else (line, !isBcc within line) :: marks (isBcc within line) rest

theorem map_marks (within : Bool) (ls : List Bytes) : (marks within ls).map (·.1) = ls := by
  induction ls generalizing within with
  | nil => rfl
  | cons line rest ih =>
      rw [marks]
      split
      · simp [Function.comp_def]
      · rw [List.map_cons, ih]

theorem keep_eq_marks (within : Bool) (ls : List Bytes) :
    keep within ls = ((marks within ls).filter (·.2)).map (·.1) := by
  induction ls generalizing within with
  | nil => rfl
  | cons line rest ih =>
      rw [keep, marks]
      split
      · rw [List.filter_eq_self.mpr (by simp), List.map_map]
        exact (List.map_id _).symm
      · cases isBcc within line with
        | true => simp [ih]
        | false => simp [ih]

/-- A line goes exactly if it belongs to a blind copy. -/
theorem marks_split {within : Bool} {ls : List Bytes} {before after : List (Bytes × Bool)}
    {line : Bytes} {stays : Bool} (h : marks within ls = before ++ (line, stays) :: after) :
    stays = false ↔ GoesOn within (before.map (·.1) ++ [line]) := by
  induction ls generalizing within before with
  | nil => simp [marks] at h
  | cons line' rest ih =>
      rw [marks] at h
      split at h
      next hempty =>
        have hstays : (line, stays) ∈ (line' :: rest).map fun line => (line, true) := by simp [h]
        obtain ⟨_, -, hmark⟩ := List.mem_map.mp hstays
        obtain rfl := (Prod.mk.inj hmark).2
        refine iff_of_false (by simp) fun hgoes => ?_
        have hhead : line' ∈ before.map (·.1) ++ [line] := by
          cases before with
          | nil => simp [(Prod.mk.inj (List.cons.inj h).1).1]
          | cons mark before => simp [← (List.cons.inj h).1]
        rw [hgoes.1 line' hhead] at hempty
        cases hempty
      next hline =>
        cases before with
        | nil =>
            obtain ⟨hmark, -⟩ := List.cons.inj h
            obtain ⟨rfl, rfl⟩ := Prod.mk.inj hmark
            rw [List.map_nil, List.nil_append, goesOn_cons_iff (eq_false_of_ne_true hline),
              goesOn_nil_iff]
            simp
        | cons mark before =>
            obtain ⟨rfl, hrest⟩ := List.cons.inj h
            rw [List.map_cons, List.cons_append, goesOn_cons_iff (eq_false_of_ne_true hline),
              ih hrest]

theorem marks_iff {raw : Bytes} {before after : List (Bytes × Bool)} {line : Bytes} {stays : Bool}
    (h : marks false (lines raw) = before ++ (line, stays) :: after) :
    stays = false ↔ InBlindCopy (before.map (·.1) ++ [line]) :=
  (marks_split h).trans goesOn_false_iff

theorem strip?_eq_none_iff_stay (raw : Bytes) :
    strip? raw = none ↔ ∀ mark ∈ marks false (lines raw), mark.2 = true := by
  have hlength : (marks false (lines raw)).length = (lines raw).length := by
    simpa using congrArg List.length (map_marks false (lines raw))
  rw [strip?, keep_eq_marks, List.length_map, ← hlength, ← List.length_filter_eq_length_iff]
  split
  next h => exact iff_of_true rfl h
  next h => exact iff_of_false (by simp) h

/-- A message stays as it is exactly if no line of it belongs to a blind copy. -/
theorem strip?_eq_none_iff (raw : Bytes) :
    strip? raw = none ↔ ∀ before line after, lines raw = before ++ line :: after →
      ¬ InBlindCopy (before ++ [line]) := by
  rw [strip?_eq_none_iff_stay]
  constructor
  · intro hall before line after hraw hcopy
    have hsplit : (marks false (lines raw)).map (·.1) = before ++ line :: after := by
      rw [map_marks, hraw]
    obtain ⟨before', rest', hmarks, rfl, hrest⟩ := List.map_eq_append_iff.mp hsplit
    obtain ⟨⟨line', stays⟩, after', rfl, rfl, -⟩ := List.map_eq_cons_iff.mp hrest
    have hstays : stays = true := hall (line', stays) (by simp [hmarks])
    rw [(marks_iff hmarks).mpr hcopy] at hstays
    cases hstays
  · intro hnone mark hmem
    obtain ⟨before, after, hsplit⟩ := List.append_of_mem hmem
    refine eq_true_of_ne_false fun hgone => ?_
    refine hnone _ mark.1 (after.map (·.1)) ?_ ((marks_iff hsplit).mp hgone)
    rw [← map_marks false (lines raw), hsplit, List.map_append, List.map_cons]

/-- Stripping takes out of a message the lines of its blind copies and nothing else. The result does
not depend on what they said, has no more of them to take out, and is read as the message was,
without them. -/
theorem strip_takes_out (raw : Bytes) :
    (∃ marks : List (Bytes × Bool), marks.map (·.1) = lines raw ∧
      strip raw = ((marks.filter (·.2)).map (·.1)).flatten ∧
      ∀ before line stays after, marks = before ++ (line, stays) :: after →
        (stays = false ↔ InBlindCopy (before.map (·.1) ++ [line]))) ∧
    (∀ raw' before start folds start' folds' after,
      lines raw = before ++ (start :: folds ++ after) →
      lines raw' = before ++ (start' :: folds' ++ after) →
      (∀ line ∈ before, isEmptyLine line = false) → (∀ line ∈ after.head?, isFolded line = false) →
      IsBlindCopy start folds → IsBlindCopy start' folds' → strip raw = strip raw') ∧
    strip (strip raw) = strip raw ∧
    (strip? raw = none ↔ ∀ before line after, lines raw = before ++ line :: after →
      ¬ InBlindCopy (before ++ [line])) ∧
    ∀ fs, fields raw = .ok fs → ∃ fs', fields (strip raw) = .ok fs' ∧
      fs'.filter (!·.hasName "Bcc") = fs.filter (!·.hasName "Bcc") ∧
      ∀ f ∈ fs', f.hasName "Bcc" = true → f.value = [] := by
  refine ⟨⟨marks false (lines raw), map_marks false _, ?_, fun _ _ _ _ => marks_iff⟩, ?_, ?_,
    strip?_eq_none_iff raw, ?_⟩
  · rw [strip_eq, keep_eq_marks]
  · intro raw' before start folds start' folds' after hraw hraw' hbefore hafter hcopy hcopy'
    rw [strip_eq, strip_eq, hraw, hraw']
    refine congrArg List.flatten (keep_append hbefore (fun within => ?_) false)
    rw [keep_of_isBlindCopy hcopy hafter, keep_of_isBlindCopy hcopy' hafter]
  · rw [strip_eq (strip raw), lines_strip, keep_keep, ← strip_eq]
  · intro fs hfs
    rw [← flatten_lines raw] at hfs
    rw [strip_eq]
    exact fields_keep (wellCut_lines raw) hfs

/-- A folded blind copy goes. A line with the name alone stays, as a field without a value, and so
does the body. -/
theorem strip_takes_out_folded :
    let raw := utf8 "To: a\nBCC: x,\n\ty\nbcc\n\nBcc: z"
    let raw' := utf8 "To: a\nBcc: x\nbcc\n\nBcc: z"
    strip raw = utf8 "To: a\nbcc\n\nBcc: z" ∧ strip raw = strip raw' ∧
      ∃ fs', fields (strip raw) = .ok fs' ∧
        fs'.filter (!·.hasName "Bcc") = [⟨utf8 "To", utf8 "a"⟩] ∧
        ∀ f ∈ fs', f.hasName "Bcc" = true → f.value = [] := by
  intro raw raw'
  have hraw : lines raw = [utf8 "To: a\n"] ++
      (utf8 "BCC: x,\n" :: [utf8 "\ty\n"] ++ [utf8 "bcc\n", [10], utf8 "Bcc: z"]) := by
    decide +kernel
  have hraw' : lines raw' = [utf8 "To: a\n"] ++
      (utf8 "Bcc: x\n" :: [] ++ [utf8 "bcc\n", [10], utf8 "Bcc: z"]) := by
    decide +kernel
  have hcopy : IsBlindCopy (utf8 "BCC: x,\n") [utf8 "\ty\n"] :=
    ⟨by decide +kernel, by decide +kernel⟩
  have hcopy' : IsBlindCopy (utf8 "Bcc: x\n") [] := ⟨by decide +kernel, by simp⟩
  let others := fun fs : List HeaderField => fs.filter (!·.hasName "Bcc")
  have hfields : (fields raw).toOption.map others = some [⟨utf8 "To", utf8 "a"⟩] := by
    decide +kernel
  obtain ⟨-, hsame, -, -, hread⟩ := strip_takes_out raw
  cases hfs : fields raw with
  | error e =>
      rw [hfs] at hfields
      cases hfields
  | ok fs =>
      obtain ⟨fs', hfs', hothers, hvalues⟩ := hread fs hfs
      rw [hfs] at hfields
      refine ⟨by decide +kernel, ?_, fs', hfs', hothers.trans (Option.some.inj hfields), hvalues⟩
      exact hsame raw' _ _ _ _ _ _ hraw hraw' (by decide +kernel) (by decide +kernel) hcopy hcopy'

end Bcc

end MailSync
