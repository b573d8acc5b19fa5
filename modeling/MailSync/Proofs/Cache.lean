import Mathlib.Data.List.Basic
import MailSync.Cache.Writer
import MailSync.Proofs.Dialogue

/-!
# The view of the row store

What each write does to `Store.get?`, the view of a store, and how a
snapshot shows the view (`get?_uidFlags`). With these the three writes of a
refresh are read off one after the other (`CacheWriter.applyTo_refreshed`).
Where several messages have one number, the last of them counts (`latest`).
-/

namespace MailSync

namespace Store

variable {s : Store} {account folderName : String} {uid : Uid}

/-! ## Reading -/

theorem key_of_get? {r : Row} (h : s.get? account folderName uid = some r) :
    r.key = ⟨account, folderName, uid⟩ := s.keyed h

/-- The rows of a folder are those that are found in it. -/
theorem mem_folderRows_iff {r : Row} :
    r ∈ s.folderRows account folderName ↔ s.get? account folderName r.uid = some r := by
  rw [folderRows, List.mem_filter, OrderedMap.values, List.mem_map, Bool.and_eq_true,
    decide_eq_true_eq, decide_eq_true_eq]
  constructor
  · rintro ⟨⟨⟨k, r⟩, hr, rfl⟩, rfl, rfl⟩
    rw [OrderedMap.mem_entries_iff] at hr
    rw [get?, ← hr, ← s.keyed hr]
    rfl
  · intro h
    have hkey := s.keyed h
    exact ⟨⟨(_, r), OrderedMap.mem_entries_iff.mpr h, rfl⟩, congrArg RowKey.account hkey,
      congrArg RowKey.folderName hkey⟩

/-- A snapshot shows the stored flags of every row. -/
theorem get?_uidFlags (s : Store) (account folderName : String) (uid : Uid) :
    (s.uidFlags account folderName).get? uid = (s.get? account folderName uid).map (·.flags) := by
  -- What a snapshot shows comes from a row, which is the one found under the number.
  have hmem : ∀ {flags}, (s.uidFlags account folderName).get? uid = some flags →
      (s.get? account folderName uid).map (·.flags) = some flags := by
    intro flags h
    obtain ⟨r, hr, heq⟩ := List.mem_map.mp (OrderedMap.mem_of_get?_ofList h)
    cases heq
    rw [mem_folderRows_iff.mp hr, Option.map_some]
  cases hrow : s.get? account folderName uid with
  | none =>
      cases hsnap : (s.uidFlags account folderName).get? uid with
      | none => rfl
      | some flags =>
          have := hmem hsnap
          rw [hrow] at this
          cases this
  | some r =>
      have huid : r.uid = uid := congrArg RowKey.uid (key_of_get? hrow)
      have hlisted : (uid, r.flags) ∈ (s.folderRows account folderName).map fun r => (r.uid, r.flags) :=
        List.mem_map.mpr ⟨r, mem_folderRows_iff.mpr (huid ▸ hrow), by rw [huid]⟩
      obtain ⟨flags, hflags⟩ := Option.isSome_iff_exists.mp (OrderedMap.isSome_get?_ofList hlisted)
      have hsame := hmem hflags
      rw [hrow] at hsame
      exact hflags.trans hsame.symm

/-! ## Writing -/

theorem get?_insertRow (s : Store) (r : Row) :
    (s.insertRow r).get? account folderName uid =
      if r.key = ⟨account, folderName, uid⟩ then some r else s.get? account folderName uid :=
  OrderedMap.get?_insert ..

/-- The last new row under a key is found there, and where there is none, what was there before. -/
theorem get?_addRows (s : Store) (rows : List Row) :
    (s.addRows rows).2.get? account folderName uid =
      (rows.reverse.find? fun r => r.key = ⟨account, folderName, uid⟩).or
        (s.get? account folderName uid) := by
  show (rows.foldl insertRow s).get? _ _ _ = _
  induction rows generalizing s with
  | nil => rfl
  | cons r rows ih =>
      rw [List.foldl_cons, ih, get?_insertRow, List.reverse_cons, List.find?_append]
      cases rows.reverse.find? (fun r => r.key = ⟨account, folderName, uid⟩) with
      | some r' => rfl
      | none => by_cases hkey : r.key = ⟨account, folderName, uid⟩ <;> simp [hkey]

/-- What no new row is kept under stays as it is. -/
theorem get?_addRows_of_notMem {rows : List Row}
    (h : ∀ r ∈ rows, r.key ≠ ⟨account, folderName, uid⟩) :
    (s.addRows rows).2.get? account folderName uid = s.get? account folderName uid := by
  rw [get?_addRows, List.find?_eq_none.mpr, Option.none_or]
  intro r hr
  simpa using h r (List.mem_reverse.mp hr)

/-- The only new row under a key is found there, whatever was there before. -/
theorem get?_addRows_of_unique {rows : List Row} {r : Row} (hr : r ∈ rows)
    (hkey : r.key = ⟨account, folderName, uid⟩)
    (hunique : ∀ r' ∈ rows, r'.key = ⟨account, folderName, uid⟩ → r' = r) :
    (s.addRows rows).2.get? account folderName uid = some r := by
  rw [get?_addRows]
  cases hlast : rows.reverse.find? (fun r => r.key = ⟨account, folderName, uid⟩) with
  | none => exact absurd hkey (by simpa using List.find?_eq_none.mp hlast r (List.mem_reverse.mpr hr))
  | some r' =>
      have hkey' : r'.key = ⟨account, folderName, uid⟩ := by simpa using List.find?_some hlast
      rw [hunique r' (List.mem_reverse.mp (List.mem_of_find?_eq_some hlast)) hkey', Option.some_or]

theorem get?_setFlags (s : Store) (key : RowKey) (flags : String) :
    (s.setFlags key flags).get? account folderName uid =
      if key = ⟨account, folderName, uid⟩ then
        (s.get? account folderName uid).map fun r => { r with flags := some flags }
      else s.get? account folderName uid :=
  OrderedMap.get?_modify ..

theorem updateFlags_cons (s : Store) (update : Uid × String) (updates : List (Uid × String)) :
    (s.updateFlags account folderName (update :: updates)).2 =
      ((s.setFlags ⟨account, folderName, update.1⟩ update.2).updateFlags account folderName
        updates).2 := rfl

/-- Flags are written to the rows that an update names, and nothing else is. -/
theorem get?_updateFlags_of_notMem {updates : List (Uid × String)}
    (h : ∀ u ∈ updates, u.1 ≠ uid) :
    (s.updateFlags account folderName updates).2.get? account folderName uid =
      s.get? account folderName uid := by
  induction updates generalizing s with
  | nil => rfl
  | cons u updates ih =>
      rw [List.forall_mem_cons] at h
      rw [updateFlags_cons, ih h.2, get?_setFlags, if_neg]
      exact fun hkey => h.1 (congrArg RowKey.uid hkey)

theorem get?_updateFlags_of_unique {updates : List (Uid × String)} {flags : String}
    (hmem : (uid, flags) ∈ updates) (hunique : ∀ u ∈ updates, u.1 = uid → u.2 = flags) :
    (s.updateFlags account folderName updates).2.get? account folderName uid =
      (s.get? account folderName uid).map fun r => { r with flags := some flags } := by
  induction updates generalizing s with
  | nil => cases hmem
  | cons u updates ih =>
      rw [List.forall_mem_cons] at hunique
      obtain ⟨uid', flags'⟩ := u
      rw [updateFlags_cons]
      by_cases hlater : ∃ u ∈ updates, u.1 = uid
      · obtain ⟨⟨_, flags''⟩, hu, rfl⟩ := hlater
        obtain rfl : flags'' = flags := hunique.2 _ hu rfl
        rw [ih hu hunique.2, get?_setFlags]
        split
        · rw [Option.map_map]
          rfl
        · rfl
      · have hhere : (uid, flags) = (uid', flags') :=
          (List.mem_cons.mp hmem).resolve_right fun h => hlater ⟨_, h, rfl⟩
        cases hhere
        rw [get?_updateFlags_of_notMem fun u hu heq => hlater ⟨u, hu, heq⟩, get?_setFlags,
          if_pos rfl]

theorem get?_delete (s : Store) (account folderName : String) (uids : OrderedSet Uid) (uid : Uid) :
    (s.delete account folderName uids).2.get? account folderName uid =
      if uid ∈ uids then none else s.get? account folderName uid := by
  show (s.rows.filter _).get? _ = _
  rw [OrderedMap.get?_filter]
  by_cases h : uid ∈ uids
  · simp [h]
  · rw [if_neg h, get?]
    cases s.rows.get? ⟨account, folderName, uid⟩ with
    | none => rfl
    | some r => simp [h, Option.filter]

theorem delete_empty (s : Store) (account folderName : String) :
    s.delete account folderName ∅ = (0, s) := by
  have hkept : s.without account folderName ∅ = s := by
    obtain ⟨⟨entries, _⟩, _⟩ := s
    rw [without, Store.mk.injEq, OrderedMap.mk.injEq]
    exact List.filter_eq_self.mpr fun e _ => by simp
  rw [delete, hkept, Nat.sub_self]

/-! ### Other folders -/

variable {account' other : String}

theorem get?_delete_of_ne (h : other ≠ folderName) (uids : OrderedSet Uid) :
    (s.delete account folderName uids).2.get? account' other uid = s.get? account' other uid := by
  show (s.rows.filter _).get? _ = _
  rw [OrderedMap.get?_filter, get?]
  cases s.rows.get? ⟨account', other, uid⟩ with
  | none => rfl
  | some r => simp [h, Option.filter]

theorem get?_updateFlags_of_ne (h : other ≠ folderName) (updates : List (Uid × String)) :
    (s.updateFlags account folderName updates).2.get? account' other uid =
      s.get? account' other uid := by
  induction updates generalizing s with
  | nil => rfl
  | cons u updates ih =>
      rw [updateFlags_cons, ih, get?_setFlags, if_neg]
      exact fun hkey => h (congrArg RowKey.folderName hkey).symm

end Store

/-! ## The last message with a number -/

/-- The last of some messages with a number. -/
def latest (uid : Uid) (messages : List RemoteMessage) : Option RemoteMessage :=
  messages.reverse.find? fun m => m.uid = some uid

/-- Of what is made of messages with numbers, the last under a number is made of the last message
with it. -/
theorem find?_numbered {α : Type} {f : RemoteMessage → Uid → α} {p : α → Bool} {uid : Uid}
    (hp : ∀ m uid', p (f m uid') = true ↔ uid' = uid) (messages : List RemoteMessage) :
    (messages.filterMap fun m => m.uid.map (f m)).reverse.find? p =
      (latest uid messages).map (f · uid) := by
  rw [← List.filterMap_reverse, List.find?_filterMap, latest]
  have hsame : (fun m : RemoteMessage => (m.uid.map (f m)).any p) =
      fun m => decide (m.uid = some uid) := by
    funext m
    rw [Bool.eq_iff_iff, decide_eq_true_eq]
    cases m.uid with
    | none => simp
    | some uid' => simp [hp]
  rw [hsame]
  cases hlast : messages.reverse.find? (fun m => decide (m.uid = some uid)) with
  | none => rfl
  | some m =>
      have huid : m.uid = some uid := by simpa using List.find?_some hlast
      rw [Option.bind_some, huid]
      rfl

namespace CacheWriter

/-- Every message with a number has its row. -/
theorem rows_eq (w : CacheWriter) (folder : Folder) (messages : List RemoteMessage)
    (states : EncryptionStates) (isNew : Bool) :
    w.rows folder messages states isNew = messages.filterMap fun m => m.uid.map fun uid =>
      ⟨w.account, folder.shortName, uid, some (FlagSet.text m.flags), states.get? uid, isNew,
        m.envelope⟩ :=
  List.filterMap_congr fun m _ => by
    rw [Row.ofRemote?]
    cases m.uid <;> rfl

/-- The row that new messages leave under a number is made of the last one with it. -/
theorem get?_addRows_rows (w : CacheWriter) (folder : Folder) (messages : List RemoteMessage)
    (states : EncryptionStates) (isNew : Bool) (s : Store) (uid : Uid) :
    (s.addRows (w.rows folder messages states isNew)).2.get? w.account folder.shortName uid =
      ((latest uid messages).map fun m => ⟨w.account, folder.shortName, uid,
        some (FlagSet.text m.flags), states.get? uid, isNew, m.envelope⟩).or
          (s.get? w.account folder.shortName uid) := by
  rw [Store.get?_addRows, rows_eq, find?_numbered fun m uid' => ?_]
  simp [Row.key]

end CacheWriter

/-! ## Applying a refresh -/

namespace CacheWriter

/-- The flags that a refresh writes. -/
def flagUpdates (messages : List RemoteMessage) : List (Uid × String) :=
  messages.filterMap fun m => m.uid.map fun uid => (uid, FlagSet.text m.flags)

/-- A refresh deletes, then adds, then writes flags; what follows only reads. -/
theorem applyTo_refreshed (w : CacheWriter) (s : Store) (tag : RequestTag) (folder : Folder)
    (new updated : List RemoteMessage) (deleted : OrderedSet Uid) (states : EncryptionStates)
    (notify : Bool) :
    let s₁ := s.delete w.account folder.shortName deleted
    let s₂ := s₁.2.addRows (w.rows folder new states notify)
    let s₃ := s₂.2.updateFlags w.account folder.shortName (flagUpdates updated)
    ∃ announced, w.applyTo ⟨tag, .refreshed folder new updated deleted states notify⟩ s =
      (.ok ⟨s₂.1, s₃.1, s₁.1, announced⟩, s₃.2) := by
  cases notify with
  | false => exact ⟨_, rfl⟩
  | true => exact ⟨_, rfl⟩

/-- A refresh that found nothing to do writes nothing. -/
theorem applyTo_refreshed_nothing (w : CacheWriter) (s : Store) (tag : RequestTag)
    (folder : Folder) (states : EncryptionStates) (notify : Bool) :
    ∃ announced, w.applyTo ⟨tag, .refreshed folder [] [] ∅ states notify⟩ s =
      (.ok ⟨0, 0, 0, announced⟩, s) := by
  obtain ⟨announced, h⟩ := w.applyTo_refreshed s tag folder [] [] ∅ states notify
  refine ⟨announced, h.trans ?_⟩
  rw [Store.delete_empty]
  rfl

end CacheWriter

end MailSync
