import MailSync.Proofs.Story
import MailSync.Proofs.Sync

/-!
# Reports that are written late

A report says what is to be done to the cache as its task saw it. If it is
written late, others are written before it that the task did not see. What
becomes of one number is then decided by two things: what the last report says
of it, and whether a report that came in between says otherwise
(`Compared.agreesAt_replay`). The last report has the last word where it
deletes or inserts; where it found nothing to do, or flags only, it relies on
the row that it saw.
-/

namespace MailSync

/-! ## One number -/

namespace Reconciliation

variable {cached : Snapshot} {remote remote' : List RemoteMessage} {uid : Uid}

/-- A snapshot agrees with a listing about one number. -/
structure AgreesAt (cached : Snapshot) (remote : List RemoteMessage) (uid : Uid) : Prop where
  listed : (cached.get? uid).isSome ↔ uid ∈ uids remote
  flags : ∀ m ∈ remote, m.uid = some uid → ∀ stored, cached.get? uid = some stored →
    FlagSet.matchesStored m.flags (stored.getD "") = true

theorem agrees_iff : Agrees cached remote ↔ ∀ uid, AgreesAt cached remote uid := by
  constructor
  · intro h uid
    exact ⟨h.uids uid, fun m hm huid => h.flags m hm uid huid⟩
  · intro h
    exact ⟨fun uid => (h uid).listed, fun m hm uid huid => (h uid).flags m hm huid⟩

theorem agreesAt_of_row {s : Store} {account folderName : String} (hdistinct : (uids remote).Nodup)
    {m : RemoteMessage} (hm : m ∈ remote) (huid : m.uid = some uid) {r : Row}
    (hr : s.get? account folderName uid = some r)
    (hflags : FlagSet.matchesStored m.flags (r.flags.getD "") = true) :
    AgreesAt (s.uidFlags account folderName) remote uid := by
  have hsnap := s.get?_uidFlags account folderName uid
  rw [hr, Option.map_some] at hsnap
  refine ⟨?_, ?_⟩
  · rw [hsnap]
    exact iff_of_true rfl (mem_uids_iff.mpr ⟨m, hm, huid⟩)
  · intro m' hm' huid' stored hstored
    obtain rfl := eq_of_uid_eq hdistinct hm hm' huid huid'
    obtain rfl := Option.some.inj (hsnap.symm.trans hstored)
    exact hflags

theorem agreesAt_of_none {s : Store} {account folderName : String} (hunlisted : uid ∉ uids remote)
    (hnone : s.get? account folderName uid = none) :
    AgreesAt (s.uidFlags account folderName) remote uid := by
  have hsnap := s.get?_uidFlags account folderName uid
  rw [hnone, Option.map_none] at hsnap
  refine ⟨?_, ?_⟩
  · rw [hsnap]
    exact iff_of_false nofun hunlisted
  · intro m hm huid
    exact absurd (mem_uids_iff.mpr ⟨m, hm, huid⟩) hunlisted

/-- The first listing shows a number as the second does: both without it, or both with it and
flags that are stored alike. -/
structure Accords (remote' remote : List RemoteMessage) (uid : Uid) : Prop where
  listed : uid ∈ uids remote' ↔ uid ∈ uids remote
  flags : ∀ m' ∈ remote', ∀ m ∈ remote, m'.uid = some uid → m.uid = some uid →
    FlagSet.matchesStored m.flags (FlagSet.text m'.flags) = true

end Reconciliation

/-- Whether a report asks for anything to be done under a number. -/
def Report.Touches (report : Report) (uid : Uid) : Prop :=
  match report with
  | .refreshed _ new updated deleted _ _ => uid ∈ deleted ∨ ∃ m ∈ new ++ updated, m.uid = some uid
  | _ => False

theorem Report.Touches.isResult {report : Report} {uid : Uid} (h : report.Touches uid) :
    report.isResult = true := by
  cases report with
  | refreshed _ _ _ _ _ _ => rfl
  | progress _ | folders _ | messages _ _ | newMessages _ _ _ _ | details _ _ _ | moved _ _ _ | sent
  | failed _ _ => exact h.elim

namespace CacheWriter

variable {w : CacheWriter} {folder : Folder} {uid : Uid}

/-- Writes events in order. -/
def replay (w : CacheWriter) (events : List Event) (s : Store) : Store :=
  events.foldl (fun s event => (w.applyTo event s).2) s

theorem replay_append (w : CacheWriter) (events events' : List Event) (s : Store) :
    w.replay (events ++ events') s = w.replay events' (w.replay events s) :=
  List.foldl_append

theorem applyTo_of_not_result (w : CacheWriter) (s : Store) {event : Event}
    (h : event.report.isResult = false) : (w.applyTo event s).2 = s := by
  obtain ⟨tag, report⟩ := event
  cases report with
  | progress _ | failed _ _ => rfl
  | folders _ | messages _ _ | details _ _ _ | newMessages _ _ _ _ | refreshed _ _ _ _ _ _
  | moved _ _ _ | sent => cases h

theorem replay_of_not_result (w : CacheWriter) {events : List Event} (s : Store)
    (h : ∀ event ∈ events, event.report.isResult = false) : w.replay events s = s := by
  induction events with
  | nil => rfl
  | cons event events ih =>
      rw [List.forall_mem_cons] at h
      rw [replay, List.foldl_cons, w.applyTo_of_not_result s h.1]
      exact ih h.2

theorem get?_applyTo_of_not_touches (w : CacheWriter) (s : Store) (tag : RequestTag)
    (new updated : List RemoteMessage) (deleted : OrderedSet Uid) (states : EncryptionStates)
    (notify : Bool)
    (h : ¬ (Report.refreshed folder new updated deleted states notify).Touches uid) :
    (w.applyTo ⟨tag, .refreshed folder new updated deleted states notify⟩ s).2.get? w.account
      folder.shortName uid = s.get? w.account folder.shortName uid := by
  obtain ⟨announced, happly⟩ := w.applyTo_refreshed s tag folder new updated deleted states notify
  rw [Report.Touches, not_or] at h
  obtain ⟨hdeleted, hmentioned⟩ := h
  rw [happly, Store.get?_updateFlags_of_notMem, Store.get?_addRows_of_notMem, Store.get?_delete,
    if_neg hdeleted]
  · intro r hr hkey
    obtain ⟨m, hm, uid', huid, rfl⟩ := mem_rows_iff.mp hr
    obtain rfl : uid' = uid := congrArg RowKey.uid hkey
    exact hmentioned ⟨m, List.mem_append_left _ hm, huid⟩
  · rintro u hu rfl
    obtain ⟨m, hm, huid, -⟩ := mem_flagUpdates_iff.mp hu
    exact hmentioned ⟨m, List.mem_append_right _ hm, huid⟩

end CacheWriter

open Reconciliation (AgreesAt Accords uids)

namespace Task

variable {w : CacheWriter} {folder : Folder} {remote remote' : List RemoteMessage}
  {cached : Snapshot} {cache s : Store} {report : Report} {event : Event} {uid : Uid}

theorem Compared.applyTo (h : Compared folder remote cached report) (w : CacheWriter)
    (tag : RequestTag) (s : Store) : ∃ new states notify,
      Delivers remote (Reconciliation.diff cached remote).insert new ∧
        (w.applyTo ⟨tag, report⟩ s).2 = w.written folder remote new states notify cached s := by
  obtain ⟨new, states, notify, hnew, -, rfl⟩ := h
  obtain ⟨announced, happly⟩ := w.applyTo_refreshed s tag folder new
    (within (Reconciliation.diff cached remote).update remote)
    (Reconciliation.diff cached remote).delete states notify
  exact ⟨new, states, notify, hnew, congrArg Prod.snd happly⟩

/-- A listing shows every number as it does. -/
theorem Sound.accords (h : Sound remote) (uid : Uid) : Accords remote remote uid where
  listed := Iff.rfl
  flags m' hm' m hm huid' huid := by
    obtain rfl := Reconciliation.eq_of_uid_eq h.distinct hm' hm huid' huid
    exact FlagSet.matchesStored_text (h.flags m' hm)

/-- What may come between a look at the cache and the report that follows from it without
doing harm to a number: reports that do not touch it, or show it as the last listing does. -/
inductive Harmless (folder : Folder) (remote : List RemoteMessage) (uid : Uid) (report : Report) :
    Prop where
  | unwritten : report.isResult = false → Harmless folder remote uid report
  | accords {remote' : List RemoteMessage} {cached : Snapshot} : Sound remote' →
      Compared folder remote' cached report → (report.Touches uid → Accords remote' remote uid) →
      Harmless folder remote uid report

theorem Harmless.get?_of_absent (h : Harmless folder remote uid event.report)
    (hunlisted : uid ∉ uids remote) (hs : s.get? w.account folder.shortName uid = none) :
    (w.applyTo event s).2.get? w.account folder.shortName uid = none := by
  obtain ⟨tag, report⟩ := event
  cases h with
  | unwritten hquiet => rw [w.applyTo_of_not_result s hquiet, hs]
  | accords hsound hcompared haccords =>
      by_cases htouches : report.Touches uid
      · have hunlisted' := mt (haccords htouches).listed.mp hunlisted
        obtain ⟨new, states, notify, hnew, happly⟩ := hcompared.applyTo w tag s
        rw [happly, CacheWriter.get?_written_of_unlisted hnew hunlisted', hs, ite_self]
      · obtain ⟨new, states, notify, -, -, rfl⟩ := hcompared
        rw [w.get?_applyTo_of_not_touches s tag _ _ _ _ _ htouches, hs]

/-- A row that is there, with flags as before or as listed. -/
def Stays (w : CacheWriter) (folder : Folder) (m : RemoteMessage) (uid : Uid) (r : Row)
    (s : Store) : Prop :=
  ∃ r', s.get? w.account folder.shortName uid = some r' ∧
    (r'.flags = r.flags ∨ FlagSet.matchesStored m.flags (r'.flags.getD "") = true)

theorem Harmless.stays (h : Harmless folder remote uid event.report) {m : RemoteMessage}
    (hm : m ∈ remote) (huid : m.uid = some uid) {r : Row} (hs : Stays w folder m uid r s) :
    Stays w folder m uid r (w.applyTo event s).2 := by
  obtain ⟨tag, report⟩ := event
  cases h with
  | unwritten hquiet =>
      rw [w.applyTo_of_not_result s hquiet]
      exact hs
  | @accords remote' cached hsound hcompared haccords =>
      by_cases htouches : report.Touches uid
      · have hlisted := (haccords htouches).listed.mpr (Reconciliation.mem_uids_iff.mpr ⟨m, hm, huid⟩)
        obtain ⟨m', hm', huid'⟩ := Reconciliation.mem_uids_iff.mp hlisted
        have hflags := (haccords htouches).flags m' hm' m hm huid' huid
        obtain ⟨new, states, notify, hnew, happly⟩ := hcompared.applyTo w tag s
        rw [happly]
        cases hcached : cached.get? uid with
        | none =>
            obtain ⟨r', hr', hflags'⟩ :=
              w.get?_written_of_new folder states notify s hnew hm' huid' hcached
            refine ⟨r', hr', .inr ?_⟩
            rw [hflags']
            exact hflags
        | some stored =>
            obtain ⟨r', hr', hflags'⟩ := hs
            rw [Stays, CacheWriter.get?_written_of_cached hsound.distinct hnew hm' huid' hcached, hr']
            split
            · exact ⟨r', rfl, hflags'⟩
            · exact ⟨_, rfl, .inr hflags⟩
      · obtain ⟨new, states, notify, -, -, rfl⟩ := hcompared
        obtain ⟨r', hr', hflags⟩ := hs
        refine ⟨r', ?_, hflags⟩
        rw [w.get?_applyTo_of_not_touches s tag _ _ _ _ _ htouches, hr']

theorem get?_replay_of_absent {events : List Event}
    (h : ∀ event ∈ events, Harmless folder remote uid event.report) (hunlisted : uid ∉ uids remote)
    (hs : s.get? w.account folder.shortName uid = none) :
    (w.replay events s).get? w.account folder.shortName uid = none := by
  induction events generalizing s with
  | nil => exact hs
  | cons event events ih =>
      rw [List.forall_mem_cons] at h
      exact ih h.2 (h.1.get?_of_absent hunlisted hs)

theorem stays_replay {events : List Event}
    (h : ∀ event ∈ events, Harmless folder remote uid event.report) {m : RemoteMessage}
    (hm : m ∈ remote) (huid : m.uid = some uid) {r : Row} (hs : Stays w folder m uid r s) :
    Stays w folder m uid r (w.replay events s) := by
  induction events generalizing s with
  | nil => exact hs
  | cons event events ih =>
      rw [List.forall_mem_cons] at h
      exact ih h.2 (h.1.stays hm huid hs)

/-- Written after other reports, a report still makes the cache agree with its listing about a
number: always where it deletes or inserts the number, else if the others do it no harm. -/
theorem Compared.agreesAt_replay (hsound : Sound remote)
    (h : Compared folder remote (cache.uidFlags w.account folder.shortName) event.report)
    {pending after : List Event}
    (hpending : (((cache.uidFlags w.account folder.shortName).get? uid).isSome ↔
      uid ∈ uids remote) → ∀ event ∈ pending, Harmless folder remote uid event.report)
    (hafter : ∀ event ∈ after, event.report.isResult = false) :
    AgreesAt ((w.replay (pending ++ event :: after) cache).uidFlags w.account folder.shortName)
      remote uid := by
  obtain ⟨tag, report⟩ := event
  obtain ⟨new, states, notify, hnew, happly⟩ := h.applyTo w tag (w.replay pending cache)
  have hend : w.replay (pending ++ ⟨tag, report⟩ :: after) cache = w.written folder remote new states
      notify (cache.uidFlags w.account folder.shortName) (w.replay pending cache) := by
    rw [CacheWriter.replay_append, CacheWriter.replay, List.foldl_cons, happly]
    exact w.replay_of_not_result _ hafter
  rw [hend]
  have hsnap := cache.get?_uidFlags w.account folder.shortName uid
  cases hrow : cache.get? w.account folder.shortName uid with
  | none =>
      rw [hrow, Option.map_none] at hsnap
      rw [hsnap] at hpending
      by_cases hlisted : uid ∈ uids remote
      · -- The number is inserted, whatever came before.
        obtain ⟨m, hm, huid⟩ := Reconciliation.mem_uids_iff.mp hlisted
        obtain ⟨r, hr, hflags⟩ := w.get?_written_of_new folder states notify
          (w.replay pending cache) hnew hm huid hsnap
        refine Reconciliation.agreesAt_of_row hsound.distinct hm huid hr ?_
        rw [hflags]
        exact FlagSet.matchesStored_text (hsound.flags m hm)
      · have hharmless := hpending (iff_of_false nofun hlisted)
        refine Reconciliation.agreesAt_of_none hlisted ?_
        rw [CacheWriter.get?_written_of_unlisted hnew hlisted,
          get?_replay_of_absent hharmless hlisted hrow, ite_self]
  | some r =>
      rw [hrow, Option.map_some] at hsnap
      rw [hsnap] at hpending
      by_cases hlisted : uid ∈ uids remote
      · obtain ⟨m, hm, huid⟩ := Reconciliation.mem_uids_iff.mp hlisted
        have hharmless := hpending (iff_of_true rfl hlisted)
        obtain ⟨r', hr', hflags⟩ := stays_replay hharmless hm huid ⟨r, hrow, .inl rfl⟩
        obtain ⟨r'', hr'', hmatch⟩ : ∃ r'', (w.written folder remote new states notify
            (cache.uidFlags w.account folder.shortName) (w.replay pending cache)).get? w.account
              folder.shortName uid = some r'' ∧
            FlagSet.matchesStored m.flags (r''.flags.getD "") = true := by
          rw [CacheWriter.get?_written_of_cached hsound.distinct hnew hm huid hsnap, hr']
          split
          next hmatch =>
            refine ⟨r', rfl, ?_⟩
            rcases hflags with hsame | hflags
            · rw [hsame]
              exact hmatch
            · exact hflags
          next => exact ⟨_, rfl, FlagSet.matchesStored_text (hsound.flags m hm)⟩
        exact Reconciliation.agreesAt_of_row hsound.distinct hm huid hr'' hmatch
      · -- The number is deleted, whatever came before.
        refine Reconciliation.agreesAt_of_none hlisted ?_
        rw [CacheWriter.get?_written_of_unlisted hnew hlisted, hsnap, Option.isSome_some]
        rfl

end Task

end MailSync
