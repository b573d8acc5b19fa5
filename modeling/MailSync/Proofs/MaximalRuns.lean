import Mathlib.Algebra.GroupWithZero.Nat
import Mathlib.Algebra.Order.BigOperators.Group.List
import Mathlib.Algebra.Order.Group.Nat
import Mathlib.Data.List.Pairwise
import Mathlib.Data.List.Perm.Subperm
import MailSync.Proofs.SequenceSet

/-!
# Sequence sets are as short as can be

By the grammar a sequence set is a list of items with commas between them,
and an item is a number or two numbers in ascending order with a colon
between them. The grammar leaves no choice: a text reads as some items
exactly if it is how these items are written (`items?_eq_some_iff`).

The runs of an ascending list keep apart (`apart_runs`), so every number
that begins or ends one of them has to be written in any text that stands for
the same set (`numbers_subset`). From this follow both measures of
`ofList_encodes`: no such text has fewer items or fewer characters.
-/

namespace MailSync.SequenceSet

/-! ## The grammar -/

/-- The number that has this decimal text; a number does not begin with a zero unless that is all
of it. -/
def numeral? (cs : List Char) : Option Uid :=
  if cs = ['0'] then some 0
  else if cs = [] || cs.head? = some '0' then none
  else match Number.digits (UInt64.size - 1) .tooLarge 0 cs with
    | .ok n => some (UInt64.ofNat n)
    | .error _ => none

/-- The run that an item stands for. -/
def item? (cs : List Char) : Option (Uid × Uid) :=
  match splitAt ':' cs with
  | none => (numeral? cs).map fun uid => (uid, uid)
  | some (a, b) => do
    let first ← numeral? a
    let last ← numeral? b
    if first < last then some (first, last) else none

/-- The runs that a text stands for by the grammar; an empty text stands for none. -/
def items? (text : String) : Option (List (Uid × Uid)) :=
  if text = "" then some [] else (text.toList.splitOn ',').mapM item?

/-- How runs are written. -/
def itemsText (items : List (Uid × Uid)) : String := ",".intercalate (items.map runText)

/-! ### What is read is what is written -/

theorem toList_toString (uid : Uid) : (toString uid).toList = Nat.toDigits 10 uid.toNat :=
  Number.toList_toString uid.toNat

/-- A number is read from its decimal text and from no other. -/
theorem numeral?_eq_some_iff {cs : List Char} {uid : Uid} :
    numeral? cs = some uid ↔ cs = (toString uid).toList := by
  rw [toList_toString]
  constructor
  · intro h
    rw [numeral?] at h
    split at h
    next hzero =>
      cases h
      exact hzero
    split at h
    next => cases h
    next hhead =>
      simp only [Bool.or_eq_true, decide_eq_true_eq, not_or] at hhead
      split at h
      next n hread =>
        cases h
        have hlt : n < UInt64.size :=
          Nat.lt_of_le_pred (by decide) (Number.digits_le (Nat.zero_le _) hread)
        rw [UInt64.toNat_ofNat_of_lt' hlt]
        exact Number.eq_toDigits_of_digits hhead.1 hhead.2 hread
      next => cases h
  · rintro rfl
    rcases Nat.eq_zero_or_pos uid.toNat with hzero | hpos
    · obtain rfl : uid = 0 := UInt64.toNat_inj.mp hzero
      rfl
    · have hhead := Number.head?_toDigits hpos
      have hread : Number.digits (UInt64.size - 1) .tooLarge 0 (Nat.toDigits 10 uid.toNat) =
          .ok uid.toNat := by
        rw [← List.append_nil (Nat.toDigits 10 uid.toNat),
          Number.digits_toDigits (Nat.le_sub_one_of_lt uid.toNat_lt), Number.digits]
      have hzero : Nat.toDigits 10 uid.toNat ≠ ['0'] := fun h => hhead (by rw [h]; rfl)
      rw [numeral?, if_neg hzero, if_neg (by simpa using hhead), hread]
      exact congrArg some UInt64.ofNat_toNat

theorem numeral?_toString (uid : Uid) : numeral? (toString uid).toList = some uid :=
  numeral?_eq_some_iff.mpr rfl

theorem toList_runText {first last : Uid} (h : first ≠ last) :
    (runText (first, last)).toList = (toString first).toList ++ ':' :: (toString last).toList := by
  rw [runText, if_neg h]
  simp

/-- An item stands for a run exactly if it is how the run is written. -/
theorem item?_eq_some_iff {cs : List Char} {r : Uid × Uid} :
    item? cs = some r ↔ r.1 ≤ r.2 ∧ cs = (runText r).toList := by
  rw [item?.eq_def]
  constructor
  · intro h
    split at h
    next hsplit =>
      obtain ⟨uid, huid, rfl⟩ := Option.map_eq_some_iff.mp h
      exact ⟨UInt64.le_refl uid, by rw [numeral?_eq_some_iff.mp huid, runText, if_pos rfl]⟩
    next a b hsplit =>
      simp only [Option.bind_eq_bind, Option.bind_eq_some_iff, Option.ite_none_right_eq_some,
        Option.some.injEq, numeral?_eq_some_iff] at h
      obtain ⟨first, rfl, last, rfl, hlt, rfl⟩ := h
      refine ⟨UInt64.le_of_lt hlt, ?_⟩
      rw [splitAt_eq_some hsplit, toList_runText (UInt64.ne_of_lt hlt)]
  · obtain ⟨first, last⟩ := r
    rintro ⟨hle, rfl⟩
    have hcolon : ':' ∉ (toString first).toList := Number.not_mem_toString (by decide) first.toNat
    rcases Decidable.em (first = last) with rfl | hne
    · rw [runText, if_pos rfl, splitAt_eq_none hcolon, numeral?_toString]
      rfl
    · have hlt : first < last := UInt64.lt_of_le_of_ne hle hne
      rw [toList_runText hne, splitAt_append hcolon]
      simp only [numeral?_toString, Option.bind_eq_bind, Option.bind_some, if_pos hlt]

theorem mapM_item?_eq_some_iff {css : List (List Char)} {items : List (Uid × Uid)} :
    css.mapM item? = some items ↔
      (∀ r ∈ items, r.1 ≤ r.2) ∧ css = items.map fun r => (runText r).toList := by
  induction css generalizing items with
  | nil =>
      rw [List.mapM_nil]
      constructor
      · rintro ⟨⟩
        exact ⟨fun r hr => absurd hr List.not_mem_nil, rfl⟩
      · rintro ⟨-, h⟩
        rw [List.map_eq_nil_iff.mp h.symm]
        rfl
  | cons cs css ih =>
      simp only [List.mapM_cons, Option.bind_eq_bind, Option.bind_eq_some_iff, item?_eq_some_iff, ih]
      constructor
      · rintro ⟨r, ⟨hr, rfl⟩, items, ⟨hitems, rfl⟩, ⟨⟩⟩
        exact ⟨List.forall_mem_cons.mpr ⟨hr, hitems⟩, rfl⟩
      · rintro ⟨hitems, h⟩
        obtain ⟨r, items, rfl, rfl, rfl⟩ := List.map_eq_cons_iff.mp h.symm
        obtain ⟨hr, hitems⟩ := List.forall_mem_cons.mp hitems
        exact ⟨r, ⟨hr, rfl⟩, items, ⟨hitems, rfl⟩, rfl⟩

theorem runText_ne_empty (r : Uid × Uid) : (runText r).toList ≠ [] := by
  have hnumber : (toString r.1).toList ≠ [] := by
    rw [toList_toString]
    exact Nat.toDigits_ne_nil
  rcases Decidable.em (r.1 = r.2) with heq | hne
  · rwa [runText, if_pos heq]
  · rw [toList_runText hne]
    exact fun h => hnumber (List.append_eq_nil_iff.mp h).1

theorem toList_itemsText (items : List (Uid × Uid)) :
    (itemsText items).toList = [','].intercalate (items.map fun r => (runText r).toList) := by
  rw [itemsText, String.toList_intercalate, List.map_map]
  rfl

theorem itemsText_singleton (r : Uid × Uid) : itemsText [r] = runText r := by
  rw [← String.toList_inj, toList_itemsText, List.map_singleton, List.intercalate_singleton]

theorem itemsText_cons_cons (r r' : Uid × Uid) (items : List (Uid × Uid)) :
    itemsText (r :: r' :: items) = runText r ++ "," ++ itemsText (r' :: items) := by
  simp only [← String.toList_inj, String.toList_append, toList_itemsText, List.map_cons,
    List.intercalate_cons_cons]
  rfl

theorem itemsText_ne_empty {items : List (Uid × Uid)} (h : items ≠ []) : itemsText items ≠ "" := by
  cases items with
  | nil => exact absurd rfl h
  | cons r items =>
      have hrun : runText r ≠ "" := fun h => runText_ne_empty r (String.toList_inj.mpr h)
      cases items with
      | nil => rwa [itemsText_singleton]
      | cons r' items =>
          rw [itemsText_cons_cons]
          simp [hrun]

/-- A text reads as some runs exactly if it is how these runs are written. -/
theorem items?_eq_some_iff {text : String} {items : List (Uid × Uid)} :
    items? text = some items ↔ (∀ r ∈ items, r.1 ≤ r.2) ∧ text = itemsText items := by
  have hcomma : ∀ cs ∈ items.map fun r => (runText r).toList, ',' ∉ cs := by
    intro cs hcs
    obtain ⟨r, -, rfl⟩ := List.mem_map.mp hcs
    exact not_mem_runText (by decide) (by decide) r
  rw [items?]
  split
  next hempty =>
    subst hempty
    constructor
    · rintro ⟨⟩
      exact ⟨fun r hr => absurd hr List.not_mem_nil, rfl⟩
    · rintro ⟨-, h⟩
      rw [Decidable.not_not.mp fun hne => itemsText_ne_empty hne h.symm]
  next hne =>
    rw [mapM_item?_eq_some_iff, ← String.toList_inj, toList_itemsText]
    refine and_congr_right fun _ => ⟨fun h => ?_, fun h => ?_⟩
    · rw [← h, List.intercalate_splitOn]
    · rw [h, List.splitOn_intercalate ',' hcomma]
      rintro hnil
      rw [List.map_eq_nil_iff.mp hnil] at h
      exact hne (String.toList_inj.mp h)

/-! ## Runs with gaps between them -/

/-- One run ends before another begins, with a number between them. -/
def Apart (r r' : Uid × Uid) : Prop := r.2.toNat + 1 < r'.1.toNat

theorem covers_iff {rs : List (Uid × Uid)} {uid : Uid} :
    covers rs uid = true ↔ ∃ r ∈ rs, r.1.toNat ≤ uid.toNat ∧ uid.toNat ≤ r.2.toNat := by
  simp [covers, UInt64.le_iff_toNat_le]

/-- The runs of an ascending list are apart: two of them that touched would be one. -/
theorem apart_runs {l : List Uid} (h : l.Pairwise (· < ·)) : (runs l).Pairwise Apart := by
  induction l with
  | nil => exact .nil
  | cons u rest ih =>
      obtain ⟨hu, hrest⟩ := List.pairwise_cons.mp h
      have hapart := ih hrest
      rw [runs]
      split
      next => exact List.pairwise_singleton Apart (u, u)
      next first last more hruns =>
        obtain ⟨hfirst, hle⟩ := mem_runs hrest (r := (first, last)) (hruns ▸ List.mem_cons_self)
        rw [hruns] at hapart
        obtain ⟨hmore, hapart'⟩ := List.pairwise_cons.mp hapart
        split
        next => exact List.pairwise_cons.mpr ⟨hmore, hapart'⟩
        next hnext =>
          -- `first` is greater than `u` but not the next number, so there is one between them
          have hlt : u < first := hu first hfirst
          have hgap : u.toNat + 1 < first.toNat := by
            simp only [UInt64.lt_iff_toNat_lt, ← UInt64.toNat_inj, UInt64.toNat_add,
              UInt64.toNat_one] at hlt hnext
            have := first.toNat_lt
            omega
          refine List.pairwise_cons.mpr ⟨List.forall_mem_cons.mpr ⟨hgap, fun r hr => ?_⟩, hapart⟩
          have hlater := hmore r hr
          simp only [Apart, UInt64.le_iff_toNat_le] at hlater hle ⊢
          omega

/-! ## What every text has to say -/

/-- A number that is in a set while the number before it is not. -/
def Begins (s : Uid → Bool) (uid : Uid) : Prop :=
  s uid = true ∧ ∀ before, before.toNat + 1 = uid.toNat → s before = false

/-- A number that is in a set while the number after it is not. -/
def Stops (s : Uid → Bool) (uid : Uid) : Prop :=
  s uid = true ∧ ∀ after, after.toNat = uid.toNat + 1 → s after = false

section Runs

variable {rs : List (Uid × Uid)} {r r' : Uid × Uid} {uid : Uid}

/-- Whatever runs cover a set, one of them starts where the set begins. -/
theorem exists_of_begins (h : Begins (covers rs) uid) : ∃ r ∈ rs, r.1 = uid := by
  obtain ⟨r, hr, hlow, hhigh⟩ := covers_iff.mp h.1
  refine ⟨r, hr, ?_⟩
  by_contra hne
  have hlt : r.1.toNat < uid.toNat :=
    Nat.lt_of_le_of_ne hlow fun heq => hne (UInt64.toNat_inj.mp heq)
  have hbefore : (uid - 1).toNat + 1 = uid.toNat := by
    have hone : (1 : Uid) ≤ uid := UInt64.le_iff_toNat_le.mpr (by rw [UInt64.toNat_one]; omega)
    rw [UInt64.toNat_sub_of_le _ _ hone, UInt64.toNat_one]
    omega
  have hcovered : covers rs (uid - 1) = true := covers_iff.mpr ⟨r, hr, by omega, by omega⟩
  rw [h.2 _ hbefore] at hcovered
  cases hcovered

/-- Whatever runs cover a set, one of them ends where the set stops. -/
theorem exists_of_stops (h : Stops (covers rs) uid) : ∃ r ∈ rs, r.2 = uid := by
  obtain ⟨r, hr, hlow, hhigh⟩ := covers_iff.mp h.1
  refine ⟨r, hr, ?_⟩
  by_contra hne
  have hlt : uid.toNat < r.2.toNat :=
    Nat.lt_of_le_of_ne hhigh fun heq => hne (UInt64.toNat_inj.mp heq.symm)
  have hafter : (uid + 1).toNat = uid.toNat + 1 := by
    have hsize := r.2.toNat_lt
    rw [UInt64.toNat_add, UInt64.toNat_one]
    omega
  have hcovered : covers rs (uid + 1) = true := covers_iff.mpr ⟨r, hr, by omega, by omega⟩
  rw [h.2 _ hafter] at hcovered
  cases hcovered

/-- Of runs that are apart no two touch. -/
theorem eq_of_touch (hapart : rs.Pairwise Apart) (hr : r ∈ rs) (hr' : r' ∈ rs)
    (h : r.1.toNat ≤ r'.2.toNat + 1) (h' : r'.1.toNat ≤ r.2.toNat + 1) : r = r' := by
  have hall := List.Pairwise.forall_of_forall_of_flip
    (R := fun a b => a.1.toNat ≤ b.2.toNat + 1 → b.1.toNat ≤ a.2.toNat + 1 → a = b)
    (fun a _ _ _ => rfl) (hapart.imp fun hab _ hba => absurd hab (Nat.not_lt.mpr hba))
    (hapart.imp fun hab hba _ => absurd hab (Nat.not_lt.mpr hba))
  exact hall hr hr' h h'

theorem begins_of_mem (hle : ∀ r ∈ rs, r.1 ≤ r.2) (hapart : rs.Pairwise Apart) (hr : r ∈ rs) :
    Begins (covers rs) r.1 := by
  have hself := UInt64.le_iff_toNat_le.mp (hle r hr)
  refine ⟨covers_iff.mpr ⟨r, hr, Nat.le_refl _, hself⟩, fun before hbefore => ?_⟩
  rw [Bool.eq_false_iff]
  intro hcovered
  obtain ⟨r', hr', hlow, hhigh⟩ := covers_iff.mp hcovered
  obtain rfl := eq_of_touch hapart hr hr' (by omega) (by omega)
  omega

theorem stops_of_mem (hle : ∀ r ∈ rs, r.1 ≤ r.2) (hapart : rs.Pairwise Apart) (hr : r ∈ rs) :
    Stops (covers rs) r.2 := by
  have hself := UInt64.le_iff_toNat_le.mp (hle r hr)
  refine ⟨covers_iff.mpr ⟨r, hr, hself, Nat.le_refl _⟩, fun after hafter => ?_⟩
  rw [Bool.eq_false_iff]
  intro hcovered
  obtain ⟨r', hr', hlow, hhigh⟩ := covers_iff.mp hcovered
  obtain rfl := eq_of_touch hapart hr hr' (by omega) (by omega)
  omega

end Runs

/-! ### How much there is to write -/

/-- The numbers that are written for a run. -/
def ends (r : Uid × Uid) : List Uid := if r.1 = r.2 then [r.1] else [r.1, r.2]

/-- The room that a number takes, with the character behind it. -/
def room (uid : Uid) : Nat := (toString uid).length + 1

theorem length_runText (r : Uid × Uid) : (runText r).length + 1 = ((ends r).map room).sum := by
  rw [runText, ends]
  split
  · rfl
  · have hcolon : (":" : String).length = 1 := rfl
    rw [String.length_append, String.length_append, hcolon, List.map_cons, List.map_singleton,
      List.sum_cons, List.sum_singleton, room, room]
    omega

/-- In a text every number is followed by a colon, a comma or the end. -/
theorem length_itemsText {items : List (Uid × Uid)} (h : items ≠ []) :
    (itemsText items).length + 1 = ((items.flatMap ends).map room).sum := by
  induction items with
  | nil => exact absurd rfl h
  | cons r items ih =>
      rw [List.flatMap_cons, List.map_append, List.sum_append, ← length_runText]
      cases items with
      | nil => rw [itemsText_singleton, List.flatMap_nil, List.map_nil, List.sum_nil, Nat.add_zero]
      | cons r' items =>
          have hcomma : ("," : String).length = 1 := rfl
          rw [← ih (List.cons_ne_nil _ _), itemsText_cons_cons, String.length_append,
            String.length_append, hcomma]
          omega

section Shortest

variable {rs rs' : List (Uid × Uid)}

theorem mem_ends_iff {r : Uid × Uid} {uid : Uid} : uid ∈ ends r ↔ uid = r.1 ∨ uid = r.2 := by
  rw [ends]
  split
  next heq => rw [List.mem_singleton, ← heq, or_self]
  next => simp

/-- In runs that are apart no number is written twice. -/
theorem nodup_numbers (hle : ∀ r ∈ rs, r.1 ≤ r.2) (hapart : rs.Pairwise Apart) :
    (rs.flatMap ends).Nodup := by
  have hascending : (rs.flatMap ends).Pairwise (· < ·) := by
    refine List.pairwise_flatMap.mpr ⟨fun r hr => ?_, hapart.imp_of_mem fun hr hr' hab x hx y hy => ?_⟩
    · rw [ends]
      split
      next => exact List.pairwise_singleton _ _
      next hne => exact List.pairwise_pair.mpr (UInt64.lt_of_le_of_ne (hle r hr) hne)
    · have hself := UInt64.le_iff_toNat_le.mp (hle _ hr)
      have hself' := UInt64.le_iff_toNat_le.mp (hle _ hr')
      rw [Apart] at hab
      rw [UInt64.lt_iff_toNat_lt]
      rcases mem_ends_iff.mp hx with rfl | rfl <;> rcases mem_ends_iff.mp hy with rfl | rfl <;> omega
  exact hascending.imp UInt64.ne_of_lt

/-- What is written for runs that are apart is written for any runs that cover the same set. -/
theorem numbers_subset (hle : ∀ r ∈ rs, r.1 ≤ r.2) (hapart : rs.Pairwise Apart)
    (hsame : covers rs' = covers rs) : rs.flatMap ends ⊆ rs'.flatMap ends := by
  intro uid huid
  obtain ⟨r, hr, huid⟩ := List.mem_flatMap.mp huid
  rw [List.mem_flatMap]
  rcases mem_ends_iff.mp huid with rfl | rfl
  · obtain ⟨r', hr', heq⟩ := exists_of_begins (hsame ▸ begins_of_mem hle hapart hr)
    exact ⟨r', hr', mem_ends_iff.mpr (.inl heq.symm)⟩
  · obtain ⟨r', hr', heq⟩ := exists_of_stops (hsame ▸ stops_of_mem hle hapart hr)
    exact ⟨r', hr', mem_ends_iff.mpr (.inr heq.symm)⟩

/-- No fewer runs cover the same set. -/
theorem length_le_of_apart (hle : ∀ r ∈ rs, r.1 ≤ r.2) (hapart : rs.Pairwise Apart)
    (hsame : covers rs' = covers rs) : rs.length ≤ rs'.length := by
  have hnodup : (rs.map (·.1)).Nodup := by
    refine List.pairwise_map.mpr (hapart.imp_of_mem fun hr _ hab => UInt64.ne_of_lt ?_)
    have hself := UInt64.le_iff_toNat_le.mp (hle _ hr)
    rw [Apart] at hab
    rw [UInt64.lt_iff_toNat_lt]
    omega
  have hsubset : rs.map (·.1) ⊆ rs'.map (·.1) := by
    intro uid huid
    obtain ⟨r, hr, rfl⟩ := List.mem_map.mp huid
    obtain ⟨r', hr', heq⟩ := exists_of_begins (hsame ▸ begins_of_mem hle hapart hr)
    exact List.mem_map.mpr ⟨r', hr', heq⟩
  simpa using (List.subperm_of_subset hnodup hsubset).length_le

/-- No shorter text stands for the same set. -/
theorem length_itemsText_le (hle : ∀ r ∈ rs, r.1 ≤ r.2) (hapart : rs.Pairwise Apart)
    (hsame : covers rs' = covers rs) : (itemsText rs).length ≤ (itemsText rs').length := by
  rcases Decidable.em (rs = []) with rfl | hne
  · exact Nat.zero_le _
  · have hne' : rs' ≠ [] := by
      rintro rfl
      exact hne (List.length_eq_zero_iff.mp (Nat.le_zero.mp (length_le_of_apart hle hapart hsame)))
    -- all numbers of the one text are among those of the other, and none of them is written twice
    obtain ⟨numbers, hperm, hsub⟩ := List.subperm_iff.mp
      (List.subperm_of_subset (nodup_numbers hle hapart) (numbers_subset hle hapart hsame))
    refine Nat.le_of_succ_le_succ ?_
    calc (itemsText rs).length + 1 = ((rs.flatMap ends).map room).sum := length_itemsText hne
      _ ≤ (numbers.map room).sum := (hsub.map room).sum_le_sum fun _ _ => Nat.zero_le _
      _ = ((rs'.flatMap ends).map room).sum := (hperm.map room).sum_eq
      _ = (itemsText rs').length + 1 := (length_itemsText hne').symm

end Shortest

/-! ## The text of a list of numbers -/

/-- What a text of the numbers of a list has to be. -/
structure Encodes (uids : List Uid) (text : String) : Prop where
  /-- By the grammar it stands for just these numbers, item after item in ascending order, and
  between two items there is a number that is in neither. -/
  reads : ∃ items, items? text = some items ∧ (∀ uid, covers items uid = true ↔ uid ∈ uids) ∧
    (∀ r ∈ items, r.1 ≤ r.2) ∧ items.Pairwise Apart
  /-- No other text that stands for these numbers has fewer items or fewer characters. -/
  shortest : ∀ text' items', items? text' = some items' →
    (∀ uid, covers items' uid = true ↔ uid ∈ uids) →
      (∃ items, items? text = some items ∧ items.length ≤ items'.length) ∧
        text.length ≤ text'.length
  /-- It is the text of another list exactly if that has the same numbers, in whatever order and
  however often. -/
  same : ∀ uids', ofList uids' = text ↔ ∀ uid, uid ∈ uids' ↔ uid ∈ uids
  empty : text = "" ↔ uids = []

theorem items?_ofList (uids : List Uid) :
    items? (ofList uids) = some (runs (OrderedSet.ofList uids).toList) :=
  items?_eq_some_iff.mpr ⟨fun _ hr => (mem_runs (pairwise_lt _) hr).2, rfl⟩

theorem covers_runs_ofList (uids : List Uid) (uid : Uid) :
    covers (runs (OrderedSet.ofList uids).toList) uid = true ↔ uid ∈ uids :=
  (covers_runs (pairwise_lt _) uid).trans OrderedSet.mem_ofList

/-- A list of numbers has one text, by the grammar the shortest there is for them. -/
theorem ofList_encodes (uids : List Uid) : Encodes uids (ofList uids) where
  reads := ⟨_, items?_ofList uids, covers_runs_ofList uids,
    fun _ hr => (mem_runs (pairwise_lt _) hr).2, apart_runs (pairwise_lt _)⟩
  shortest text' items' hread hcovers := by
    have hle : ∀ r ∈ runs (OrderedSet.ofList uids).toList, r.1 ≤ r.2 := fun _ hr =>
      (mem_runs (pairwise_lt _) hr).2
    have hapart := apart_runs (pairwise_lt (OrderedSet.ofList uids))
    have hsame : covers items' = covers (runs (OrderedSet.ofList uids).toList) :=
      funext fun uid => Bool.eq_iff_iff.mpr ((hcovers uid).trans (covers_runs_ofList uids uid).symm)
    obtain ⟨-, rfl⟩ := items?_eq_some_iff.mp hread
    exact ⟨⟨_, items?_ofList uids, length_le_of_apart hle hapart hsame⟩,
      length_itemsText_le hle hapart hsame⟩
  same uids' := by
    constructor
    · intro h uid
      have hruns := items?_ofList uids'
      rw [h, items?_ofList, Option.some.injEq] at hruns
      rw [← covers_runs_ofList, ← covers_runs_ofList, hruns]
    · intro h
      have hset : OrderedSet.ofList uids' = OrderedSet.ofList uids := OrderedSet.ext fun uid => by
        rw [OrderedSet.mem_ofList, OrderedSet.mem_ofList, h]
      rw [ofList, ofList, hset]
  empty := by
    constructor
    · intro h
      have hruns := items?_ofList uids
      rw [h] at hruns
      have hnil : [] = runs (OrderedSet.ofList uids).toList := Option.some.inj hruns
      refine List.eq_nil_iff_forall_not_mem.mpr fun uid huid => ?_
      rw [← covers_runs_ofList, ← hnil] at huid
      cases huid
    · rintro rfl
      rfl

end MailSync.SequenceSet
