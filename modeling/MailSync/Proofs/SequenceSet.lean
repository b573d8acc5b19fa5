import MailSync.Proofs.Text
import MailSync.SequenceSet

/-!
# Sequence sets are read back

The text of a set of numbers stands for exactly the numbers of the set
(`contains_ofSet`), whatever the server takes for `*`. Two facts carry it:
the runs cover the list they were cut from (`covers_runs`), and each run is
read back from its text (`run_runText`).
-/

namespace MailSync.SequenceSet

/-! ## Runs -/

/-- Whether a number is in one of these runs. -/
def covers (rs : List (Uid × Uid)) (uid : Uid) : Bool := rs.any fun r => r.1 ≤ uid && uid ≤ r.2

theorem covers_cons {r : Uid × Uid} {rs : List (Uid × Uid)} {uid : Uid} :
    covers (r :: rs) uid = true ↔ (r.1 ≤ uid ∧ uid ≤ r.2) ∨ covers rs uid = true := by
  simp [covers]

theorem runs_eq_nil_iff {l : List Uid} : runs l = [] ↔ l = [] := by
  cases l with
  | nil => simp [runs]
  | cons u rest =>
      rw [runs]
      split
      · simp
      · split <;> simp

/-- In an ascending list a run starts with an element and does not go down. -/
theorem mem_runs {l : List Uid} (h : l.Pairwise (· < ·)) {r : Uid × Uid} (hr : r ∈ runs l) :
    r.1 ∈ l ∧ r.1 ≤ r.2 := by
  induction l generalizing r with
  | nil => cases hr
  | cons u rest ih =>
      obtain ⟨hu, hrest⟩ := List.pairwise_cons.mp h
      rw [runs] at hr
      split at hr
      next =>
        obtain rfl := List.mem_singleton.mp hr
        exact ⟨List.mem_cons_self, UInt64.le_refl u⟩
      next first last more hruns =>
        obtain ⟨hfirst, hle⟩ := ih hrest (r := (first, last)) (hruns ▸ List.mem_cons_self)
        have later : ∀ r ∈ (first, last) :: more, r.1 ∈ u :: rest ∧ r.1 ≤ r.2 := fun r hr => by
          obtain ⟨hmem, hle⟩ := ih hrest (hruns ▸ hr)
          exact ⟨List.mem_cons_of_mem u hmem, hle⟩
        split at hr
        · rcases List.mem_cons.mp hr with rfl | hr
          · exact ⟨List.mem_cons_self, UInt64.le_trans (UInt64.le_of_lt (hu first hfirst)) hle⟩
          · exact later r (List.mem_cons_of_mem _ hr)
        · rcases List.mem_cons.mp hr with rfl | hr
          · exact ⟨List.mem_cons_self, UInt64.le_refl u⟩
          · exact later r hr

/-- The runs of an ascending list cover its elements. A run is only extended downwards by the
number below its first one, which is not the largest of all, so nothing wraps around. -/
theorem covers_runs {l : List Uid} (h : l.Pairwise (· < ·)) (uid : Uid) :
    covers (runs l) uid = true ↔ uid ∈ l := by
  induction l with
  | nil => simp [covers, runs]
  | cons u rest ih =>
      obtain ⟨hu, hrest⟩ := List.pairwise_cons.mp h
      rw [List.mem_cons, ← ih hrest, runs]
      split
      next hruns =>
        rw [hruns, covers_cons]
        exact or_congr_left ⟨fun ⟨h₁, h₂⟩ => UInt64.le_antisymm h₂ h₁, by rintro rfl; simp⟩
      next first last more hruns =>
        obtain ⟨hfirst, hle⟩ := mem_runs hrest (r := (first, last)) (hruns ▸ List.mem_cons_self)
        have hlt : u < first := hu first hfirst
        rw [hruns]
        split
        next hnext =>
          rw [covers_cons, covers_cons, ← or_assoc]
          refine or_congr_left ?_
          subst hnext
          simp only [UInt64.le_iff_toNat_le, UInt64.lt_iff_toNat_lt, UInt64.toNat_add,
            ← UInt64.toNat_inj, UInt64.toNat_one] at hlt hle ⊢
          omega
        next =>
          rw [covers_cons]
          exact or_congr_left ⟨fun ⟨h₁, h₂⟩ => UInt64.le_antisymm h₂ h₁, by rintro rfl; simp⟩

theorem pairwise_lt (uids : OrderedSet Uid) : uids.toList.Pairwise (· < ·) :=
  uids.ascending.imp Std.compare_eq_lt.mp

/-! ## Texts of runs -/

/-- The text of a number as it stands in a set. -/
theorem bound_toString (largest uid : Uid) : bound largest (toString uid).toList = uid := by
  have hstar : (toString uid).toList ≠ ['*'] := fun h =>
    Number.not_mem_toString (c := '*') (by decide) uid.toNat (by
      rw [show toString uid.toNat = toString uid from rfl, h]
      exact List.mem_cons_self)
  have hread : Number.natural (UInt64.size - 1) (toString uid.toNat) = .ok uid.toNat :=
    Number.natural_toString (Nat.le_sub_one_of_lt uid.toNat_lt)
  rw [bound, if_neg hstar, String.ofList_toList, show toString uid = toString uid.toNat from rfl,
    hread]
  exact UInt64.ofNat_toNat

theorem not_mem_runText {c : Char} (hc : c.isDigit = false) (hcolon : c ≠ ':') (r : Uid × Uid) :
    c ∉ (runText r).toList := by
  have hnumber : ∀ uid : Uid, c ∉ (toString uid).toList := fun uid =>
    Number.not_mem_toString hc uid.toNat
  rw [runText]
  split
  · exact hnumber r.1
  · simp only [String.toList_append, List.mem_append, not_or]
    exact ⟨⟨hnumber r.1, by simpa using hcolon⟩, hnumber r.2⟩

/-- A run is read back from its text. -/
theorem run_runText (largest : Uid) {r : Uid × Uid} (h : r.1 ≤ r.2) :
    run largest (runText r).toList = r := by
  obtain ⟨first, last⟩ := r
  have hcolon : ∀ uid : Uid, ':' ∉ (toString uid).toList := fun uid =>
    Number.not_mem_toString (by decide) uid.toNat
  rw [runText]
  split
  next heq =>
    obtain rfl : first = last := heq
    rw [run, splitAt_eq_none (hcolon first)]
    simp only [bound_toString]
  next =>
    have htext : (toString first ++ ":" ++ toString last).toList =
        (toString first).toList ++ ':' :: (toString last).toList := by simp
    rw [htext, run, splitAt_append (hcolon first)]
    simp only [bound_toString]
    rw [Prod.mk.injEq]
    exact ⟨if_pos h, if_pos h⟩

/-! ## Texts of sets -/

theorem read_ofSet (largest : Uid) {uids : OrderedSet Uid} (h : uids.toList ≠ []) :
    read largest (ofSet uids) = runs uids.toList := by
  have hcomma : ∀ item ∈ (runs uids.toList).map fun r => (runText r).toList, ',' ∉ item := by
    intro item hitem
    obtain ⟨r, _, rfl⟩ := List.mem_map.mp hitem
    exact not_mem_runText (by decide) (by decide) r
  have hne : (runs uids.toList).map (fun r => (runText r).toList) ≠ [] := by
    rw [Ne, List.map_eq_nil_iff, runs_eq_nil_iff]
    exact h
  have hread : ∀ r ∈ runs uids.toList, run largest (runText r).toList = r := fun r hr =>
    run_runText largest (mem_runs (pairwise_lt uids) hr).2
  rw [read, ofSet, String.toList_intercalate, List.map_map, show ",".toList = [','] from rfl]
  show List.map (run largest) (([','].intercalate
    ((runs uids.toList).map fun r => (runText r).toList)).splitOn ',') = _
  rw [List.splitOn_intercalate ',' hcomma hne, List.map_map]
  exact (List.map_congr_left hread).trans (List.map_id' _)

/-- The text of a set stands for the numbers of the set. -/
theorem contains_ofSet (largest : Uid) {uids : OrderedSet Uid} (h : uids.toList ≠ []) (uid : Uid) :
    contains largest (ofSet uids) uid = true ↔ uid ∈ uids := by
  rw [contains, read_ofSet largest h]
  exact covers_runs (pairwise_lt uids) uid

/-- The text of the numbers in a list stands for these numbers. -/
theorem contains_ofList (largest : Uid) {uids : List Uid} (h : uids ≠ []) (uid : Uid) :
    contains largest (ofList uids) uid = true ↔ uid ∈ uids := by
  have hne : (OrderedSet.ofList uids).toList ≠ [] := by
    obtain ⟨uid, huid⟩ := List.exists_mem_of_ne_nil uids h
    exact List.ne_nil_of_mem (OrderedSet.mem_toList.mpr (OrderedSet.mem_ofList.mpr huid))
  exact (contains_ofSet largest hne uid).trans OrderedSet.mem_ofList

/-- The numbers from one on, as a server reads them: it takes the two ends in either order, so the
largest number is always among them. -/
theorem contains_upwards (largest first uid : Uid) :
    contains largest (toString first ++ ":*") uid = true ↔
      min first largest ≤ uid ∧ uid ≤ max first largest := by
  have htext : (toString first ++ ":*").toList = (toString first).toList ++ ':' :: ['*'] := by simp
  have hdigits : ∀ c : Char, c.isDigit = false → c ∉ (toString first).toList := fun c hc =>
    Number.not_mem_toString hc first.toNat
  have hcomma : ∀ item ∈ [(toString first).toList ++ ':' :: ['*']], ',' ∉ item := by
    simpa using hdigits ',' (by decide)
  have hsplit := List.splitOn_intercalate ',' hcomma (List.cons_ne_nil _ _)
  have hone : [','].intercalate [(toString first).toList ++ ':' :: ['*']] =
      (toString first).toList ++ ':' :: ['*'] := by simp [List.intercalate]
  rw [hone] at hsplit
  have hstar : bound largest ['*'] = largest := if_pos rfl
  rw [contains, read, htext, hsplit, List.map_singleton, run, splitAt_append (hdigits ':' (by decide))]
  simp only [bound_toString, hstar, List.any_cons, List.any_nil, Bool.or_false, Bool.and_eq_true,
    decide_eq_true_eq]

end MailSync.SequenceSet
