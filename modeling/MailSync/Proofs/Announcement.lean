import MailSync.Proofs.Replay

/-!
# Announcements

What an event does to the cache is at most three writes in one folder, always
in the same order, and at the end possibly a look for rows to announce
(`CacheWriter.applyTo_eq`). The look reads what is stored then
(`Store.mem_announced_iff`) and changes nothing, so a row that was announced
stays new. Only what deletes the row or writes it anew can change that
(`CacheWriter.replay_new`), and until then each further look finds the row
again as long as it is not seen (`CacheWriter.announces_again`).
-/

namespace MailSync

/-! ## What is found in a store -/

namespace Store

variable {s : Store} {account folderName : String} {r : Row}

/-- The rows of a folder to announce: new ones that are not seen. -/
def announced (s : Store) (account folderName : String) : List Row :=
  (s.newRows account folderName).filter fun r => r.uid ∈ s.unseenUids account folderName

theorem mem_newRows_iff : r ∈ s.newRows account folderName ↔
    s.get? account folderName r.uid = some r ∧ r.isNew = true := by
  rw [newRows, List.mem_filter, mem_folderRows_iff]

theorem mem_unseenUids_iff {uid : Uid} : uid ∈ s.unseenUids account folderName ↔
    ∃ r, s.get? account folderName uid = some r ∧ r.isSeen = false := by
  simp only [unseenUids, List.mem_map, List.mem_filter, mem_folderRows_iff, Bool.not_eq_true']
  constructor
  · rintro ⟨r, ⟨hr, hseen⟩, rfl⟩
    exact ⟨r, hr, hseen⟩
  · rintro ⟨r, hr, hseen⟩
    obtain rfl : r.uid = uid := congrArg RowKey.uid (key_of_get? hr)
    exact ⟨r, ⟨hr, hseen⟩, rfl⟩

theorem mem_announced_iff : r ∈ s.announced account folderName ↔
    s.get? account folderName r.uid = some r ∧ r.isNew = true ∧ r.isSeen = false := by
  simp only [announced, List.mem_filter, mem_newRows_iff, decide_eq_true_eq, mem_unseenUids_iff]
  constructor
  · rintro ⟨⟨hr, hnew⟩, r', hr', hseen⟩
    obtain rfl := Option.some.inj (hr.symm.trans hr')
    exact ⟨hr, hnew, hseen⟩
  · rintro ⟨hr, hnew, hseen⟩
    exact ⟨⟨hr, hnew⟩, r, hr, hseen⟩

/-- Updates of flags leave the row that they find, except for its flags. -/
theorem get?_updateFlags_some {uid : Uid} (updates : List (Uid × String))
    (h : s.get? account folderName uid = some r) :
    ∃ flags, (s.updateFlags account folderName updates).2.get? account folderName uid =
      some { r with flags } := by
  induction updates generalizing s r with
  | nil => exact ⟨r.flags, h⟩
  | cons u updates ih =>
      rw [updateFlags_cons]
      have hset : (s.setFlags ⟨account, folderName, u.1⟩ u.2).get? account folderName uid = _ :=
        get?_setFlags s ⟨account, folderName, u.1⟩ u.2
      rw [h] at hset
      split at hset
      · exact ih (r := { r with flags := some u.2 }) hset
      · exact ih hset

end Store

/-! ## What an event writes -/

/-- What an event has written in one folder, in this order, and whether the folder is announced
after that. -/
structure Writes where
  folderName : String
  deleted : OrderedSet Uid
  inserted : List Row
  flags : List (Uid × String)
  notify : Bool

namespace Writes

def perform (x : Writes) (account : String) (s : Store) : CacheUpdate × Store :=
  let (deleted, s) := s.delete account x.folderName x.deleted
  let (inserted, s) := s.addRows x.inserted
  let (updated, s) := s.updateFlags account x.folderName x.flags
  (⟨inserted, updated, deleted, if x.notify then s.announced account x.folderName else []⟩, s)

/-- Whether a row is deleted or written anew. -/
def Replaces (x : Writes) (key : RowKey) : Prop :=
  x.folderName = key.folderName ∧ key.uid ∈ x.deleted ∨ ∃ r ∈ x.inserted, r.key = key

end Writes

namespace CacheWriter

variable {w : CacheWriter} {s : Store} {r : Row} {event : Event}

/-- What a report has written, if it reaches the cache. -/
def writes? (w : CacheWriter) : Report → Option Writes
  | .messages folder messages =>
    some ⟨folder.shortName, ∅, w.rows folder messages ∅ false, [], false⟩
  | .newMessages folder messages states notify =>
    some ⟨folder.shortName, ∅, w.rows folder messages states notify, [], notify⟩
  | .refreshed folder new updated deleted states notify =>
    some ⟨folder.shortName, deleted, w.rows folder new states notify, flagUpdates updated, notify⟩
  | .moved source _ uids => some ⟨source.shortName, OrderedSet.ofList uids, [], [], false⟩
  | _ => none

theorem applyTo_eq (w : CacheWriter) (event : Event) (s : Store) : w.applyTo event s =
    match w.writes? event.report with
    | none => (.ok .unchanged, s)
    | some x => (.ok (x.perform w.account s).1, (x.perform w.account s).2) := by
  obtain ⟨tag, report⟩ := event
  cases report with
  | messages folder messages =>
      simp only [writes?, Writes.perform, Store.delete_empty]
      rfl
  | newMessages folder messages states notify =>
      simp only [writes?, Writes.perform, Store.delete_empty]
      cases notify <;> rfl
  | refreshed folder new updated deleted states notify => cases notify <;> rfl
  | moved source destination uids => rfl
  | folders _ | details _ _ _ | sent | progress _ | failed _ _ => rfl

/-- Whether an event makes a row known as one to announce. -/
def Announces (w : CacheWriter) (event : Event) (s : Store) (r : Row) : Prop :=
  ∃ update, (w.applyTo event s).1 = .ok update ∧ r ∈ update.notify

/-- What is announced is what is found after the event. -/
theorem announces_iff : w.Announces event s r ↔
    ∃ x, w.writes? event.report = some x ∧ x.notify = true ∧
      (w.applyTo event s).2.get? w.account x.folderName r.uid = some r ∧ r.isNew = true ∧
        r.isSeen = false := by
  rw [Announces, applyTo_eq]
  cases w.writes? event.report with
  | none => simp [CacheUpdate.unchanged]
  | some x =>
      obtain ⟨folderName, deleted, inserted, flags, notify⟩ := x
      cases notify with
      | false => simp [Writes.perform]
      | true => simp [Writes.perform, Store.mem_announced_iff]

/-! ## A row that was announced -/

/-- Whether an event deletes a row or writes it anew. -/
def Replaces (w : CacheWriter) (event : Event) (key : RowKey) : Prop :=
  ∃ x, w.writes? event.report = some x ∧ x.Replaces key

theorem applyTo_new (hr : s.get? w.account r.folderName r.uid = some r)
    (h : ¬ w.Replaces event r.key) :
    ∃ flags, (w.applyTo event s).2.get? w.account r.folderName r.uid = some { r with flags } := by
  rw [applyTo_eq]
  cases hwrites : w.writes? event.report with
  | none => exact ⟨r.flags, hr⟩
  | some x =>
      have hkey : r.key = ⟨w.account, r.folderName, r.uid⟩ := Store.key_of_get? hr
      have hkept : ¬ x.Replaces r.key := fun hx => h ⟨x, hwrites, hx⟩
      rw [Writes.Replaces, not_or, not_and, not_exists] at hkept
      obtain ⟨hdeleted, hinserted⟩ := hkept
      have hfound : ((s.delete w.account x.folderName x.deleted).2.addRows x.inserted).2.get?
          w.account r.folderName r.uid = some r := by
        rw [Store.get?_addRows_of_notMem fun r' hr' hsame => hinserted r' ⟨hr', hsame.trans hkey.symm⟩]
        by_cases hfolder : x.folderName = r.folderName
        · have huid : r.uid ∉ x.deleted := hdeleted hfolder
          rw [hfolder, Store.get?_delete, if_neg huid, hr]
        · rw [Store.get?_delete_of_ne (Ne.symm hfolder), hr]
      show ∃ flags, (Store.updateFlags _ _ _ _).2.get? _ _ _ = _
      by_cases hfolder : x.folderName = r.folderName
      · rw [hfolder] at hfound ⊢
        exact Store.get?_updateFlags_some x.flags hfound
      · rw [Store.get?_updateFlags_of_ne (Ne.symm hfolder)]
        exact ⟨r.flags, hfound⟩

/-- Until a row is deleted or written anew, nothing but its flags changes. -/
theorem replay_new {events : List Event} (hr : s.get? w.account r.folderName r.uid = some r)
    (h : ∀ event ∈ events, ¬ w.Replaces event r.key) :
    ∃ flags, (w.replay events s).get? w.account r.folderName r.uid = some { r with flags } := by
  induction events generalizing s r with
  | nil => exact ⟨r.flags, hr⟩
  | cons event events ih =>
      rw [List.forall_mem_cons] at h
      obtain ⟨flags, hstep⟩ := applyTo_new hr h.1
      exact ih (r := { r with flags }) hstep h.2

/-- A row that was announced once stays new until it is deleted or written anew. An event that comes
before that announces it again exactly if it announces the folder and leaves the row unseen. -/
theorem announces_again {earlier between : List Event} {first last : Event}
    (hfirst : w.Announces first (w.replay earlier .empty) r)
    (hkept : ∀ event ∈ between ++ [last], ¬ w.Replaces event r.key) :
    ∃ r', (w.replay (earlier ++ first :: between ++ [last]) .empty).get? w.account r.folderName
        r.uid = some r' ∧ r'.key = r.key ∧ r'.isNew = true ∧
      (w.Announces last (w.replay (earlier ++ first :: between) .empty) r' ↔
        (∃ x, w.writes? last.report = some x ∧ x.notify = true ∧ x.folderName = r.folderName) ∧
          r'.isSeen = false) := by
  obtain ⟨x, hx, -, hr, hnew, -⟩ := announces_iff.mp hfirst
  have hfolder : r.folderName = x.folderName := congrArg RowKey.folderName (Store.key_of_get? hr)
  rw [← hfolder] at hr
  obtain ⟨flags, hlast⟩ := replay_new hr hkept
  refine ⟨{ r with flags }, ?_, rfl, hnew, ?_⟩
  · rw [List.append_assoc, List.cons_append, replay_append]
    exact hlast
  have hfound : (w.applyTo last (w.replay (earlier ++ first :: between) .empty)).2.get? w.account
      r.folderName r.uid = some { r with flags } := by
    rw [replay_append] at hlast ⊢
    exact hlast
  rw [announces_iff]
  constructor
  · rintro ⟨x', hx', hnotify, hr', -, hseen⟩
    exact ⟨⟨x', hx', hnotify, (congrArg RowKey.folderName (Store.key_of_get? hr')).symm⟩, hseen⟩
  · rintro ⟨⟨x', hx', hnotify, hfolder'⟩, hseen⟩
    refine ⟨x', hx', hnotify, ?_, hnew, hseen⟩
    rw [hfolder']
    exact hfound

/-- A message comes in and is announced; the next look finds nothing new, and announces the same
message. -/
theorem announces_again_nothing_new :
    let w : CacheWriter := ⟨"me"⟩
    let m : RemoteMessage := ⟨some 1, ∅, .empty, none⟩
    let found : Event := ⟨⟨"ui", 1⟩, .newMessages .inbox [m] ∅ true⟩
    let nothing : Event := ⟨⟨"ui", 2⟩, .newMessages .inbox [] ∅ true⟩
    let r : Row := ⟨"me", "INBOX", 1, some "", none, true, .empty⟩
    w.Announces found .empty r ∧ w.Announces nothing (w.replay [found] .empty) r := by
  intro w m found nothing r
  have hwrites : w.writes? nothing.report = some ⟨"INBOX", ∅, [], [], true⟩ := rfl
  have hfirst : w.Announces found .empty r := by
    refine announces_iff.mpr ⟨_, rfl, rfl, ?_, rfl, by decide +kernel⟩
    decide +kernel
  have hkept : ∀ event ∈ [] ++ [nothing], ¬ w.Replaces event r.key := by
    rintro event hevent ⟨x, hx, hreplaces⟩
    obtain rfl := List.mem_singleton.mp hevent
    obtain rfl := Option.some.inj (hwrites.symm.trans hx)
    rcases hreplaces with ⟨-, hdeleted⟩ | ⟨r', hr', -⟩
    · exact OrderedSet.not_mem_empty _ hdeleted
    · cases hr'
  obtain ⟨r', hr', -, -, hagain⟩ := @announces_again w r [] [] found nothing hfirst hkept
  obtain rfl : r' = r := by
    have hr : (w.replay ([] ++ found :: [] ++ [nothing]) .empty).get? w.account r.folderName r.uid =
      some r := by decide +kernel
    exact Option.some.inj (hr'.symm.trans hr)
  refine ⟨hfirst, hagain.mpr ⟨⟨_, hwrites, rfl, rfl⟩, ?_⟩⟩
  decide +kernel

end CacheWriter

end MailSync
