/-!
# Ascending sets

A finite set is held as its strictly ascending list of elements, so two
sets with the same elements are equal (`OrderedSet.ext`) and listing one
needs no further sorting.
-/

namespace MailSync

/-- A finite set, listed in strictly ascending order. -/
structure OrderedSet (α : Type) [Ord α] where
  toList : List α
  ascending : toList.Pairwise (fun a b => compare a b = .lt)
deriving DecidableEq

namespace OrderedSet

variable {α : Type} [Ord α]

/-- Puts an element into an ascending list, once. -/
def insertSorted (x : α) : List α → List α
  | [] => [x]
  | y :: rest =>
    match compare x y with
    | .lt => x :: y :: rest
    | .eq => y :: rest
    | .gt => y :: insertSorted x rest

theorem mem_insertSorted_imp {x y : α} {l : List α} (h : y ∈ insertSorted x l) :
    y = x ∨ y ∈ l := by
  induction l with
  | nil => simpa [insertSorted] using h
  | cons z rest ih =>
    simp only [insertSorted] at h
    split at h <;> grind

theorem pairwise_insertSorted [Std.TransOrd α] (x : α) {l : List α}
    (h : l.Pairwise (fun a b => compare a b = .lt)) :
    (insertSorted x l).Pairwise (fun a b => compare a b = .lt) := by
  induction l with
  | nil => simp [insertSorted]
  | cons z rest ih =>
    have ⟨hz, hrest⟩ := List.pairwise_cons.mp h
    simp only [insertSorted]
    split
    next hlt =>
      refine List.pairwise_cons.mpr ⟨fun y hy => ?_, h⟩
      rcases List.mem_cons.mp hy with rfl | hy
      · exact hlt
      · exact Std.TransCmp.lt_trans hlt (hz y hy)
    next => exact h
    next hgt =>
      refine List.pairwise_cons.mpr ⟨fun y hy => ?_, ih hrest⟩
      rcases mem_insertSorted_imp hy with rfl | hy
      · exact Std.OrientedCmp.lt_of_gt hgt
      · exact hz y hy

/-- The set without elements. -/
def empty : OrderedSet α := ⟨[], .nil⟩

instance : EmptyCollection (OrderedSet α) := ⟨empty⟩
instance : Inhabited (OrderedSet α) := ⟨empty⟩
instance : Membership α (OrderedSet α) := ⟨fun s x => x ∈ s.toList⟩

instance [DecidableEq α] (s : OrderedSet α) (x : α) : Decidable (x ∈ s) :=
  inferInstanceAs (Decidable (x ∈ s.toList))

theorem mem_toList {s : OrderedSet α} {x : α} : x ∈ s.toList ↔ x ∈ s := Iff.rfl

@[simp] theorem not_mem_empty (x : α) : x ∉ (∅ : OrderedSet α) := List.not_mem_nil

/-- Adds one element. -/
def insert [Std.TransOrd α] (s : OrderedSet α) (x : α) : OrderedSet α :=
  ⟨insertSorted x s.toList, pairwise_insertSorted x s.ascending⟩

/-- The set of a list's elements. -/
def ofList [Std.TransOrd α] (l : List α) : OrderedSet α :=
  l.foldl insert ∅

/-- The elements that pass a test. -/
def filter (p : α → Bool) (s : OrderedSet α) : OrderedSet α :=
  ⟨s.toList.filter p, s.ascending.filter p⟩

def isEmpty (s : OrderedSet α) : Bool := s.toList.isEmpty

def size (s : OrderedSet α) : Nat := s.toList.length

theorem mem_insertSorted [Std.LawfulEqOrd α] {x y : α} {l : List α} :
    y ∈ insertSorted x l ↔ y = x ∨ y ∈ l := by
  induction l with
  | nil => simp [insertSorted]
  | cons z rest ih =>
    simp only [insertSorted]
    split
    next => simp
    next h => simp [Std.LawfulEqOrd.eq_of_compare h]
    next => simp [ih, or_left_comm]

@[simp] theorem mem_insert [Std.TransOrd α] [Std.LawfulEqOrd α] {s : OrderedSet α} {x y : α} :
    y ∈ s.insert x ↔ y = x ∨ y ∈ s :=
  mem_insertSorted

@[simp] theorem mem_filter {p : α → Bool} {s : OrderedSet α} {x : α} :
    x ∈ s.filter p ↔ x ∈ s ∧ p x = true :=
  List.mem_filter

@[simp] theorem mem_ofList [Std.TransOrd α] [Std.LawfulEqOrd α] {l : List α} {x : α} :
    x ∈ ofList l ↔ x ∈ l := by
  suffices ∀ s : OrderedSet α, x ∈ l.foldl insert s ↔ x ∈ l ∨ x ∈ s by
    simpa [ofList] using this ∅
  induction l with
  | nil => simp
  | cons y rest ih => intro s; simp [ih, or_left_comm, or_assoc]

theorem isEmpty_iff {s : OrderedSet α} : s.isEmpty = true ↔ ∀ x, x ∉ s := by
  rw [isEmpty, List.isEmpty_iff, List.eq_nil_iff_forall_not_mem]
  rfl

/-- A set is determined by its elements. -/
theorem ext [Std.TransOrd α] [Std.LawfulEqOrd α] {s t : OrderedSet α}
    (h : ∀ x, x ∈ s ↔ x ∈ t) : s = t := by
  suffices ∀ l m : List α, l.Pairwise (fun a b => compare a b = .lt) →
      m.Pairwise (fun a b => compare a b = .lt) → (∀ x, x ∈ l ↔ x ∈ m) → l = m by
    cases s; cases t
    simpa using this _ _ ‹_› ‹_› h
  have irrefl : ∀ a : α, compare a a ≠ .lt := fun a h => by
    simp [Std.ReflCmp.compare_self] at h
  have asymm : ∀ a b : α, compare a b = .lt → compare b a ≠ .lt := fun a b h h' =>
    irrefl a (Std.TransCmp.lt_trans h h')
  intro l
  induction l with
  | nil => intro m _ _ h; cases m with
    | nil => rfl
    | cons y m => exact absurd ((h y).mpr (by simp)) (by simp)
  | cons x l ih =>
    intro m hl hm h
    have ⟨hx, hl'⟩ := List.pairwise_cons.mp hl
    cases m with
    | nil => exact absurd ((h x).mp (by simp)) (by simp)
    | cons y m =>
      have ⟨hy, hm'⟩ := List.pairwise_cons.mp hm
      have hxy : x = y := by
        rcases List.mem_cons.mp ((h x).mp (by simp)) with e | hxm
        · exact e
        · rcases List.mem_cons.mp ((h y).mpr (by simp)) with e | hyl
          · exact e.symm
          · exact absurd (hx y hyl) (asymm _ _ (hy x hxm))
      subst hxy
      congr 1
      refine ih m hl' hm' fun z => ⟨fun hz => ?_, fun hz => ?_⟩
      · rcases List.mem_cons.mp ((h z).mp (by simp [hz])) with rfl | hz'
        · exact absurd (hx z hz) (irrefl z)
        · exact hz'
      · rcases List.mem_cons.mp ((h z).mpr (by simp [hz])) with rfl | hz'
        · exact absurd (hy z hz) (irrefl z)
        · exact hz'

end OrderedSet

end MailSync
