/-!
# Ascending maps

A finite map is held as its entries in strictly ascending key order. The
view of a map is `get?`; each operation has one equation through it
(`get?_insert`, `get?_filter`, `get?_modify`), and the entries are what the
view shows (`mem_entries_iff`).
-/

namespace MailSync

/-- A finite map, listed in strictly ascending key order. -/
structure OrderedMap (κ ν : Type) [Ord κ] where
  entries : List (κ × ν)
  ascending : entries.Pairwise (fun a b => compare a.1 b.1 = .lt)
deriving DecidableEq

namespace OrderedMap

variable {κ ν : Type} [Ord κ]

/-- Puts an entry into an ascending list, in place of one with an equal key. -/
def insertSorted (k : κ) (v : ν) : List (κ × ν) → List (κ × ν)
  | [] => [(k, v)]
  | e :: rest =>
    match compare k e.1 with
    | .lt => (k, v) :: e :: rest
    | .eq => (k, v) :: rest
    | .gt => e :: insertSorted k v rest

theorem mem_insertSorted_imp {k : κ} {v : ν} {e : κ × ν} {l : List (κ × ν)}
    (h : e ∈ insertSorted k v l) : e = (k, v) ∨ e ∈ l := by
  induction l with
  | nil => simpa [insertSorted] using h
  | cons z rest ih =>
    simp only [insertSorted] at h
    split at h <;> grind

theorem pairwise_insertSorted [Std.TransOrd κ] (k : κ) (v : ν) {l : List (κ × ν)}
    (h : l.Pairwise (fun a b => compare a.1 b.1 = .lt)) :
    (insertSorted k v l).Pairwise (fun a b => compare a.1 b.1 = .lt) := by
  induction l with
  | nil => simp [insertSorted]
  | cons z rest ih =>
    have ⟨hz, hrest⟩ := List.pairwise_cons.mp h
    simp only [insertSorted]
    split
    next hlt =>
      refine List.pairwise_cons.mpr ⟨fun e he => ?_, h⟩
      rcases List.mem_cons.mp he with rfl | he
      · exact hlt
      · exact Std.TransCmp.lt_trans hlt (hz e he)
    next heq =>
      exact List.pairwise_cons.mpr
        ⟨fun e he => Std.TransCmp.lt_of_eq_of_lt heq (hz e he), hrest⟩
    next hgt =>
      refine List.pairwise_cons.mpr ⟨fun e he => ?_, ih hrest⟩
      rcases mem_insertSorted_imp he with rfl | he
      · exact Std.OrientedCmp.lt_of_gt hgt
      · exact hz e he

/-- The map without entries. -/
def empty : OrderedMap κ ν := ⟨[], .nil⟩

instance : EmptyCollection (OrderedMap κ ν) := ⟨empty⟩
instance : Inhabited (OrderedMap κ ν) := ⟨empty⟩

/-- The value at a key. -/
def get? [DecidableEq κ] (m : OrderedMap κ ν) (k : κ) : Option ν :=
  (m.entries.find? (fun e => e.1 = k)).map (·.2)

def contains [DecidableEq κ] (m : OrderedMap κ ν) (k : κ) : Bool :=
  m.entries.any (fun e => e.1 = k)

/-- Sets the value at a key. -/
def insert [Std.TransOrd κ] (m : OrderedMap κ ν) (k : κ) (v : ν) : OrderedMap κ ν :=
  ⟨insertSorted k v m.entries, pairwise_insertSorted k v m.ascending⟩

/-- The map of a list of entries; of two with one key the later counts. -/
def ofList [Std.TransOrd κ] (l : List (κ × ν)) : OrderedMap κ ν :=
  l.foldl (fun m e => m.insert e.1 e.2) ∅

/-- The entries that pass a test. -/
def filter (p : κ → ν → Bool) (m : OrderedMap κ ν) : OrderedMap κ ν :=
  ⟨m.entries.filter (fun e => p e.1 e.2), m.ascending.filter _⟩

/-- Changes the value at a key that is present. -/
def modify [DecidableEq κ] (m : OrderedMap κ ν) (k : κ) (f : ν → ν) : OrderedMap κ ν :=
  ⟨m.entries.map (fun e => if e.1 = k then (e.1, f e.2) else e), by
    refine List.pairwise_map.mpr (m.ascending.imp fun {a b} h => ?_)
    split <;> split <;> exact h⟩

def keys (m : OrderedMap κ ν) : List κ := m.entries.map (·.1)

def values (m : OrderedMap κ ν) : List ν := m.entries.map (·.2)

def size (m : OrderedMap κ ν) : Nat := m.entries.length

def isEmpty (m : OrderedMap κ ν) : Bool := m.entries.isEmpty

section Lookup

variable [DecidableEq κ]

@[simp] theorem get?_empty (k : κ) : (∅ : OrderedMap κ ν).get? k = none := rfl

theorem contains_eq_isSome (m : OrderedMap κ ν) (k : κ) : m.contains k = (m.get? k).isSome := by
  simp [contains, get?, List.isSome_find?]

theorem get?_insert [Std.TransOrd κ] [Std.LawfulEqOrd κ] (m : OrderedMap κ ν) (k j : κ) (v : ν) :
    (m.insert k v).get? j = if k = j then some v else m.get? j := by
  suffices ∀ l : List (κ × ν), l.Pairwise (fun a b => compare a.1 b.1 = .lt) →
      ((insertSorted k v l).find? (fun e => e.1 = j)).map (·.2) =
        if k = j then some v else (l.find? (fun e => e.1 = j)).map (·.2) from
    this m.entries m.ascending
  intro l
  induction l with
  | nil => intro _; by_cases h : k = j <;> simp [insertSorted, h]
  | cons z rest ih =>
    intro hp
    have ⟨hz, hrest⟩ := List.pairwise_cons.mp hp
    simp only [insertSorted]
    split
    next => by_cases h : k = j <;> simp [h]
    next heq =>
      have e := Std.LawfulEqOrd.eq_of_compare heq
      by_cases h : k = j
      · simp [h]
      · simp [h, ← e]
    next hgt =>
      by_cases hzj : z.1 = j
      · have hkj : k ≠ j := by
          rintro rfl
          have hself : compare k k = .eq := Std.ReflCmp.compare_self
          rw [hzj, hself] at hgt
          cases hgt
        simp [hzj, hkj]
      · simp [hzj, ih hrest]

theorem get?_modify (m : OrderedMap κ ν) (k j : κ) (f : ν → ν) :
    (m.modify k f).get? j = if k = j then (m.get? j).map f else m.get? j := by
  obtain ⟨l, hl⟩ := m
  simp only [get?, modify]
  clear hl
  induction l with
  | nil => simp
  | cons z rest ih =>
    by_cases hzk : z.1 = k <;> by_cases hzj : z.1 = j <;> by_cases hkj : k = j <;>
      simp_all

theorem get?_filter [Std.ReflOrd κ] (m : OrderedMap κ ν) (p : κ → ν → Bool) (k : κ) :
    (m.filter p).get? k = (m.get? k).filter (p k) := by
  obtain ⟨l, hl⟩ := m
  simp only [get?, filter]
  induction l with
  | nil => rfl
  | cons z rest ih =>
    have ⟨hz, hrest⟩ := List.pairwise_cons.mp hl
    by_cases hzk : z.1 = k
    · subst hzk
      by_cases hp : p z.1 z.2
      · simp [hp, Option.filter]
      · have hnone : rest.find? (fun e => e.1 = z.1) = none := by
          simp only [List.find?_eq_none, decide_eq_true_eq]
          intro e he heq
          have hself : compare z.1 z.1 = .eq := Std.ReflCmp.compare_self
          have hlt := hz e he
          rw [heq, hself] at hlt
          cases hlt
        rw [List.filter_cons_of_neg (by simpa using hp), ih hrest, hnone]
        simp [Option.filter, hp]
    · by_cases hp : p z.1 z.2
      · rw [List.filter_cons_of_pos (by simpa using hp),
          List.find?_cons_of_neg (by simpa using hzk), ih hrest,
          List.find?_cons_of_neg (by simpa using hzk)]
      · rw [List.filter_cons_of_neg (by simpa using hp), ih hrest,
          List.find?_cons_of_neg (by simpa using hzk)]

/-- The entries of a map are what it looks up. -/
theorem mem_entries_iff [Std.ReflOrd κ] {m : OrderedMap κ ν} {k : κ} {v : ν} :
    (k, v) ∈ m.entries ↔ m.get? k = some v := by
  obtain ⟨l, hl⟩ := m
  simp only [get?, Option.map_eq_some_iff]
  constructor
  · intro h
    induction l with
    | nil => cases h
    | cons z rest ih =>
      have ⟨hz, hrest⟩ := List.pairwise_cons.mp hl
      rcases List.mem_cons.mp h with rfl | h
      · exact ⟨(k, v), by simp, rfl⟩
      · have hne : z.1 ≠ k := by
          rintro rfl
          have hself : compare z.1 z.1 = .eq := Std.ReflCmp.compare_self
          rw [hz _ h] at hself
          cases hself
        rw [List.find?_cons_of_neg (by simpa using hne)]
        exact ih hrest h
  · rintro ⟨e, he, rfl⟩
    have hk : e.1 = k := by simpa using List.find?_some he
    exact hk ▸ List.mem_of_find?_eq_some he

theorem mem_keys_iff [Std.ReflOrd κ] {m : OrderedMap κ ν} {k : κ} :
    k ∈ m.keys ↔ (m.get? k).isSome := by
  simp only [keys, List.mem_map, Prod.exists, exists_and_right, exists_eq_right, mem_entries_iff,
    Option.isSome_iff_exists]

/-- A map made from a list looks up the last entry with the key. -/
theorem get?_ofList [Std.TransOrd κ] [Std.LawfulEqOrd κ] (l : List (κ × ν)) (k : κ) :
    (ofList l).get? k = (l.reverse.find? (fun e => e.1 = k)).map (·.2) := by
  suffices ∀ m : OrderedMap κ ν, (l.foldl (fun m e => m.insert e.1 e.2) m).get? k =
      ((l.reverse.find? (fun e => e.1 = k)).map (·.2)).or (m.get? k) by
    rw [ofList, this, get?_empty, Option.or_none]
  induction l with
  | nil => exact fun m => rfl
  | cons e rest ih =>
    intro m
    rw [List.foldl_cons, ih, get?_insert, List.reverse_cons, List.find?_append]
    cases rest.reverse.find? (fun e => e.1 = k) with
    | some e' => rfl
    | none => by_cases hk : e.1 = k <;> simp [hk]

/-- A map made from a list looks up nothing that the list does not hold. -/
theorem mem_of_get?_ofList [Std.TransOrd κ] [Std.LawfulEqOrd κ] {l : List (κ × ν)} {k : κ} {v : ν}
    (h : (ofList l).get? k = some v) : (k, v) ∈ l := by
  rw [get?_ofList] at h
  obtain ⟨e, he, rfl⟩ := Option.map_eq_some_iff.mp h
  have hk : e.1 = k := by simpa using List.find?_some he
  exact hk ▸ List.mem_reverse.mp (List.mem_of_find?_eq_some he)

/-- A map made from a list looks up something wherever the list holds an entry. -/
theorem isSome_get?_ofList [Std.TransOrd κ] [Std.LawfulEqOrd κ] {l : List (κ × ν)} {k : κ} {v : ν}
    (h : (k, v) ∈ l) : ((ofList l).get? k).isSome := by
  rw [get?_ofList, Option.isSome_map, List.isSome_find?, List.any_eq_true]
  exact ⟨(k, v), List.mem_reverse.mpr h, by simp⟩

end Lookup

end OrderedMap

end MailSync
