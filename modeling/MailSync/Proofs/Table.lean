import Mathlib.Data.List.Sort
import MailSync.Proofs.Provenance

/-!
# The store as a table

A table keeps a row or nothing under every key, and each call to a store changes
it key by key (`Table.perform`): the last of the rows that are added under a key
is kept there, the last flags that are written for it replace its own, and what
is deleted is gone. A store does the same with one ascending list of rows, and
finds the rows of a folder by what they say of themselves. Both views agree
because a row is never kept under a key but its own (`Table.Keyed`); so after any
calls all that is asked of the store is answered from the table, and calls about
one folder are not noticed in another (`Store.performAll_refines`).
-/

namespace MailSync

theorem OrderedMap.nodup_keys {κ ν : Type} [Ord κ] [Std.ReflOrd κ] (m : OrderedMap κ ν) :
    m.keys.Nodup := by
  refine List.pairwise_map.mpr (m.ascending.imp ?_)
  intro a b hlt heq
  have hself : compare b.1 b.1 = .eq := Std.ReflCmp.compare_self
  rw [heq, hself] at hlt
  cases hlt

/-- What is kept under each key. -/
abbrev Table := RowKey → Option Row

/-- The row with other flags, if there are any. -/
def Row.reflagged (r : Row) : Option String → Row
  | none => r
  | some flags => { r with flags := some flags }

/-- The last flags that are written under a number. -/
def lastFlags (updates : List (Uid × String)) (uid : Uid) : Option String :=
  (updates.reverse.find? fun u => u.1 = uid).map (·.2)

theorem lastFlags_cons (u : Uid × String) (updates : List (Uid × String)) (uid : Uid) :
    lastFlags (u :: updates) uid =
      (lastFlags updates uid).or (if u.1 = uid then some u.2 else none) := by
  rw [lastFlags, lastFlags, List.reverse_cons, List.find?_append]
  cases updates.reverse.find? fun u => u.1 = uid with
  | some _ => rfl
  | none => by_cases h : u.1 = uid <;> simp [h]

namespace Table

def empty : Table := fun _ => none

/-- What a call leaves under each key. -/
def perform (t : Table) : StoreCall → Table
  | .addRows rows => fun key => (rows.reverse.find? fun r => r.key = key).or (t key)
  | .updateFlags account folderName updates => fun key =>
    if key.account = account ∧ key.folderName = folderName then
      (t key).map (·.reflagged (lastFlags updates key.uid))
    else t key
  | .delete account folderName uids => fun key =>
    if key.account = account ∧ key.folderName = folderName ∧ key.uid ∈ uids then none else t key
  | .uidFlags .. | .newRows .. | .unseenUids .. => t

def performAll (t : Table) (calls : List StoreCall) : Table := calls.foldl perform t

/-- Every row is kept under its own key. -/
def Keyed (t : Table) : Prop := ∀ key r, t key = some r → r.key = key

variable {t : Table}

theorem Keyed.perform (h : t.Keyed) (call : StoreCall) : (t.perform call).Keyed := by
  intro key r hr
  cases call with
  | addRows rows =>
      rcases Option.or_eq_some_iff.mp hr with hadded | ⟨-, hkept⟩
      · simpa using List.find?_some hadded
      · exact h key r hkept
  | updateFlags account folderName updates =>
      simp only [Table.perform] at hr
      split at hr
      · obtain ⟨r₀, hr₀, rfl⟩ := Option.map_eq_some_iff.mp hr
        refine Eq.trans ?_ (h key r₀ hr₀)
        cases lastFlags updates key.uid <;> rfl
      · exact h key r hr
  | delete account folderName uids =>
      exact h key r (Option.ite_none_left_eq_some.mp hr).2
  | uidFlags _ _ | newRows _ _ | unseenUids _ _ => exact h key r hr

theorem keyed_performAll (calls : List StoreCall) : (empty.performAll calls).Keyed := by
  suffices ∀ t : Table, t.Keyed → (t.performAll calls).Keyed from this empty nofun
  induction calls with
  | nil => exact fun t h => h
  | cons call calls ih => exact fun t h => ih _ (h.perform call)

end Table

namespace Store

variable {s s' : Store} {account folderName : String}

/-- The table that a store keeps. -/
def table (s : Store) : Table := fun key => s.get? key.account key.folderName key.uid

def performAll (s : Store) (calls : List StoreCall) : Store :=
  calls.foldl (fun s call => (s.perform call).2) s

/-! ## One call -/

theorem table_addRows (s : Store) (rows : List Row) :
    (s.addRows rows).2.table = s.table.perform (.addRows rows) :=
  funext fun _ => get?_addRows s rows

theorem table_setFlags (s : Store) (key : RowKey) (flags : String) (k : RowKey) :
    (s.setFlags key flags).table k =
      if key = k then (s.table k).map (·.reflagged flags) else s.table k :=
  get?_setFlags s key flags

theorem table_updateFlags (s : Store) (account folderName : String)
    (updates : List (Uid × String)) :
    (s.updateFlags account folderName updates).2.table =
      s.table.perform (.updateFlags account folderName updates) := by
  funext key
  induction updates generalizing s with
  | nil =>
      show s.table key = if _ then (s.table key).map (Row.reflagged · none) else _
      split
      · exact (Option.map_id' ..).symm
      · rfl
  | cons u updates ih =>
      rw [updateFlags_cons, ih]
      simp only [Table.perform, table_setFlags]
      by_cases hfolder : key.account = account ∧ key.folderName = folderName
      · have hkey : (⟨account, folderName, u.1⟩ : RowKey) = key ↔ u.1 = key.uid := by
          obtain ⟨rfl, rfl⟩ := hfolder
          exact ⟨congrArg RowKey.uid, fun h => by rw [h]⟩
        simp only [if_pos hfolder, hkey, lastFlags_cons]
        by_cases huid : u.1 = key.uid
        · rw [if_pos huid, if_pos huid, Option.map_map]
          cases lastFlags updates key.uid <;> rfl
        · rw [if_neg huid, if_neg huid, Option.or_none]
      · have hkey : (⟨account, folderName, u.1⟩ : RowKey) ≠ key := fun h => by
          subst h
          exact hfolder ⟨rfl, rfl⟩
        rw [if_neg hfolder, if_neg hfolder, if_neg hkey]

/-- The last flags that are written under a number are found there, if there is a row. -/
theorem get?_updateFlags (s : Store) (updates : List (Uid × String)) {uid : Uid} :
    (s.updateFlags account folderName updates).2.get? account folderName uid =
      (s.get? account folderName uid).map (·.reflagged (lastFlags updates uid)) := by
  refine (congrFun (s.table_updateFlags account folderName updates)
    ⟨account, folderName, uid⟩).trans ?_
  exact if_pos ⟨rfl, rfl⟩

theorem table_delete (s : Store) (account folderName : String) (uids : OrderedSet Uid) :
    (s.delete account folderName uids).2.table =
      s.table.perform (.delete account folderName uids) := by
  funext key
  show (s.rows.filter _).get? key = if _ then none else s.rows.get? key
  rw [OrderedMap.get?_filter]
  split
  next h =>
    cases s.rows.get? key with
    | none => rfl
    | some r => simp [h, Option.filter]
  next h =>
    cases s.rows.get? key with
    | none => rfl
    | some r =>
        refine Option.filter_some_pos ?_
        rw [Bool.not_eq_true', Bool.eq_false_iff]
        simpa [and_assoc] using h

/-- A store does to its table what the call says. -/
theorem table_perform (s : Store) (call : StoreCall) :
    (s.perform call).2.table = s.table.perform call := by
  cases call with
  | addRows rows => exact s.table_addRows rows
  | updateFlags account folderName updates => exact s.table_updateFlags account folderName updates
  | delete account folderName uids => exact s.table_delete account folderName uids
  | uidFlags _ _ | newRows _ _ | unseenUids _ _ => rfl

theorem table_performAll (s : Store) (calls : List StoreCall) :
    (s.performAll calls).table = s.table.performAll calls := by
  induction calls generalizing s with
  | nil => rfl
  | cons call calls ih =>
      rw [performAll, Table.performAll, List.foldl_cons, List.foldl_cons, ← s.table_perform call]
      exact ih (s.perform call).2

/-! ## What is found -/

/-- All that is asked of a store is answered from a table. -/
structure Shows (s : Store) (t : Table) : Prop where
  entries : ∀ key r, (key, r) ∈ s.rows.entries ↔ t key = some r
  get : ∀ account folderName uid, s.get? account folderName uid = t ⟨account, folderName, uid⟩
  size : ∃ keys : List RowKey, keys.Nodup ∧ (∀ key, key ∈ keys ↔ (t key).isSome) ∧
    s.size = keys.length
  /-- One entry for each cached number. -/
  uidFlags : ∀ account folderName, (s.uidFlags account folderName).keys.Nodup ∧
    ∀ uid flags, (uid, flags) ∈ (s.uidFlags account folderName).entries ↔
      ∃ r, t ⟨account, folderName, uid⟩ = some r ∧ r.flags = flags
  newRows : ∀ account folderName, (s.newRows account folderName).Pairwise (·.uid < ·.uid) ∧
    ∀ r, r ∈ s.newRows account folderName ↔
      t ⟨account, folderName, r.uid⟩ = some r ∧ r.isNew = true
  unseenUids : ∀ account folderName, (s.unseenUids account folderName).Pairwise (· < ·) ∧
    ∀ uid, uid ∈ s.unseenUids account folderName ↔
      ∃ r, t ⟨account, folderName, uid⟩ = some r ∧ r.isSeen = false

theorem shows_table (s : Store) : s.Shows s.table where
  entries _ _ := OrderedMap.mem_entries_iff
  get _ _ _ := rfl
  size := ⟨s.rows.keys, s.rows.nodup_keys, fun _ => OrderedMap.mem_keys_iff,
    (List.length_map _).symm⟩
  uidFlags account folderName := by
    refine ⟨OrderedMap.nodup_keys _, fun uid flags => ?_⟩
    rw [OrderedMap.mem_entries_iff, get?_uidFlags, Option.map_eq_some_iff]
    rfl
  newRows account folderName :=
    ⟨(s.pairwise_folderRows account folderName).filter _, fun _ => mem_newRows_iff⟩
  unseenUids account folderName := by
    refine ⟨?_, fun uid => mem_unseenUids_iff⟩
    exact List.pairwise_map.mpr ((s.pairwise_folderRows account folderName).filter _)

/-! ## Folders apart -/

/-- The rows of a folder are determined by what is found in it. -/
theorem folderRows_congr
    (h : ∀ uid, s'.get? account folderName uid = s.get? account folderName uid) :
    s'.folderRows account folderName = s.folderRows account folderName := by
  have irrefl : Std.Irrefl fun r r' : Row => r.uid < r'.uid := ⟨fun r => UInt64.lt_irrefl r.uid⟩
  refine (s'.pairwise_folderRows account folderName).eq_of_mem_iff
    (s.pairwise_folderRows account folderName) fun r => ?_
  rw [mem_folderRows_iff, mem_folderRows_iff, h]

/-- The same is found in a folder of both stores. -/
structure SameIn (s' s : Store) (account folderName : String) : Prop where
  get : ∀ uid, s'.get? account folderName uid = s.get? account folderName uid
  uidFlags : s'.uidFlags account folderName = s.uidFlags account folderName
  newRows : s'.newRows account folderName = s.newRows account folderName
  unseenUids : s'.unseenUids account folderName = s.unseenUids account folderName

theorem sameIn_of_get
    (h : ∀ uid, s'.get? account folderName uid = s.get? account folderName uid) :
    s'.SameIn s account folderName where
  get := h
  uidFlags := by rw [uidFlags, folderRows_congr h, uidFlags]
  newRows := by rw [newRows, folderRows_congr h, newRows]
  unseenUids := by rw [unseenUids, folderRows_congr h, unseenUids]

end Store

/-- Whether a call writes in one folder at most. -/
def StoreCall.Within (account folderName : String) : StoreCall → Prop
  | .addRows rows => ∀ r ∈ rows, r.account = account ∧ r.folderName = folderName
  | .updateFlags account' folderName' _ | .delete account' folderName' _ =>
    account' = account ∧ folderName' = folderName
  | .uidFlags .. | .newRows .. | .unseenUids .. => True

theorem Store.get?_perform_of_within {c : StoreCall} {account folderName : String}
    (hcall : c.Within account folderName) (s : Store) {account' folderName' : String}
    (hother : ¬ (account' = account ∧ folderName' = folderName)) (uid : Uid) :
    (s.perform c).2.get? account' folderName' uid = s.get? account' folderName' uid := by
  refine (congrFun (s.table_perform c) ⟨account', folderName', uid⟩).trans ?_
  cases c with
  | addRows rows =>
      have hnone : (rows.reverse.find? fun r => r.key = ⟨account', folderName', uid⟩) = none := by
        refine List.find?_eq_none.mpr fun r hr => ?_
        rw [decide_eq_true_eq]
        intro hkey
        obtain ⟨rfl, rfl⟩ := hcall r (List.mem_reverse.mp hr)
        cases hkey
        exact hother ⟨rfl, rfl⟩
      simp only [Table.perform, hnone, Option.none_or]
      rfl
  | updateFlags _ _ updates =>
      obtain ⟨rfl, rfl⟩ := hcall
      exact if_neg hother
  | delete _ _ uids =>
      obtain ⟨rfl, rfl⟩ := hcall
      exact if_neg fun h => hother ⟨h.1, h.2.1⟩
  | uidFlags _ _ | newRows _ _ | unseenUids _ _ => rfl

/-- After any calls a row is kept under its own key only, all that is asked of the store is answered
from the table, and a call about one folder changes nothing that is found in another. -/
theorem Store.performAll_refines (calls : List StoreCall) :
    let t := Table.empty.performAll calls
    let s := Store.empty.performAll calls
    t.Keyed ∧ s.Shows t ∧
      ∀ (call : StoreCall) (account folderName : String), call.Within account folderName →
        ∀ account' folderName', ¬ (account' = account ∧ folderName' = folderName) →
          (s.perform call).2.SameIn s account' folderName' := by
  intro t s
  have htable : s.table = t := Store.empty.table_performAll calls
  refine ⟨Table.keyed_performAll calls, htable ▸ s.shows_table, ?_⟩
  intro call account folderName hcall account' folderName' hother
  exact Store.sameIn_of_get (s.get?_perform_of_within hcall hother)

end MailSync
