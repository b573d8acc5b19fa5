import MailSync.Proofs.Table

/-!
# What an event does to the cache

Four kinds of events ask something of the cache, and they all ask for the same
three things in one folder (`CacheChange`): messages to be deleted, then messages
to be cached, then flags to be written. A number may be named in all three lists
and more than once in each. What is found under it in the end, and what was
counted, is said here number by number (`CacheChange.Effect`), and that is what
the writer does (`CacheWriter.applyTo_effect`).
-/

namespace MailSync

/-- What an event asks of the cache. -/
structure CacheChange where
  folder : Folder
  deleted : OrderedSet Uid
  new : List RemoteMessage
  states : EncryptionStates
  /-- Whether the new messages are to be announced. -/
  notify : Bool
  /-- The messages whose flags are to be written. -/
  updated : List RemoteMessage

def Report.change? : Report → Option CacheChange
  | .messages folder new => some ⟨folder, ∅, new, ∅, false, []⟩
  | .newMessages folder new states notify => some ⟨folder, ∅, new, states, notify, []⟩
  | .refreshed folder new updated deleted states notify =>
    some ⟨folder, deleted, new, states, notify, updated⟩
  | .moved source _ uids => some ⟨source, OrderedSet.ofList uids, [], ∅, false, []⟩
  | .folders _ | .details .. | .sent | .progress _ | .failed .. => none

namespace CacheChange

variable {c : CacheChange} {account : String} {before : Store} {uid : Uid}

/-- The row of a new message. -/
def record (c : CacheChange) (account : String) (uid : Uid) (m : RemoteMessage) : Row :=
  ⟨account, c.folder.shortName, uid, some (FlagSet.text m.flags), c.states.get? uid, c.notify,
    m.envelope⟩

/-- The row under a number when flags are about to be written: that of the last new message, and
where there is none, what was there before and is not deleted. -/
def stored (c : CacheChange) (account : String) (before : Store) (uid : Uid) : Option Row :=
  ((latest uid c.new).map (c.record account uid)).or
    (if uid ∈ c.deleted then none else before.get? account c.folder.shortName uid)

/-- A store and an update after the change, by the store before. -/
structure Effect (c : CacheChange) (account : String) (before after : Store)
    (update : CacheUpdate) : Prop where
  elsewhere : ∀ account' folderName uid,
    ¬ (account' = account ∧ folderName = c.folder.shortName) →
      after.get? account' folderName uid = before.get? account' folderName uid
  row : ∀ uid, after.get? account c.folder.shortName uid =
    (c.stored account before uid).map
      (·.reflagged ((latest uid c.updated).map (FlagSet.text ·.flags)))
  inserted : update.inserted = c.new.countP (·.uid.isSome)
  /-- Every message counts that finds a row, also where several have one number. -/
  updated : update.updated =
    c.updated.countP (·.uid.any fun uid => (c.stored account before uid).isSome)
  deleted : ∃ gone : List Uid, gone.Nodup ∧
    (∀ uid, uid ∈ gone ↔
      uid ∈ c.deleted ∧ (before.get? account c.folder.shortName uid).isSome) ∧
    update.deleted = gone.length
  notify : update.notify = if c.notify then after.announced account c.folder.shortName else []

end CacheChange

/-! ## Counts -/

namespace Store

variable {account folderName : String}

/-- A deletion counts the rows that it removes. -/
theorem delete_count (s : Store) (account folderName : String) (uids : OrderedSet Uid) :
    ∃ gone : List Uid, gone.Nodup ∧
      (∀ uid, uid ∈ gone ↔ uid ∈ uids ∧ (s.get? account folderName uid).isSome) ∧
        (s.delete account folderName uids).1 = gone.length := by
  let leaves : RowKey × Row → Bool := fun e =>
    e.1.account = account && e.1.folderName = folderName && e.1.uid ∈ uids
  have hleaves : ∀ {e}, leaves e = true ↔
      (e.1.account = account ∧ e.1.folderName = folderName) ∧ e.1.uid ∈ uids := by
    simp [leaves]
  refine ⟨(s.rows.entries.filter leaves).map (·.1.uid), ?_, fun uid => ?_, ?_⟩
  · refine List.pairwise_map.mpr
      (((List.pairwise_map.mp s.rows.nodup_keys).filter leaves).imp_of_mem ?_)
    -- Two keys of one folder differ in the number.
    intro e e' he he' hne huid
    obtain ⟨⟨haccount, hfolder⟩, -⟩ := hleaves.mp (List.mem_filter.mp he).2
    obtain ⟨⟨haccount', hfolder'⟩, -⟩ := hleaves.mp (List.mem_filter.mp he').2
    refine hne ?_
    cases hkey : e.1
    cases hkey' : e'.1
    simp_all
  · rw [List.mem_map]
    constructor
    · rintro ⟨⟨key, r⟩, he, rfl⟩
      obtain ⟨hmem, hleave⟩ := List.mem_filter.mp he
      obtain ⟨⟨rfl, rfl⟩, huid⟩ := hleaves.mp hleave
      exact ⟨huid, Option.isSome_iff_exists.mpr ⟨r, OrderedMap.mem_entries_iff.mp hmem⟩⟩
    · rintro ⟨huid, hsome⟩
      obtain ⟨r, hr⟩ := Option.isSome_iff_exists.mp hsome
      exact ⟨(_, r), List.mem_filter.mpr ⟨OrderedMap.mem_entries_iff.mpr hr,
        hleaves.mpr ⟨⟨rfl, rfl⟩, huid⟩⟩, rfl⟩
  · have hsplit := s.rows.entries.length_eq_length_filter_add leaves
    rw [List.length_map]
    show s.rows.entries.length - (s.rows.entries.filter (!leaves ·)).length = _
    omega

/-- Updates of flags count those that find a row; none of them makes or removes one. -/
theorem updateFlags_count (s : Store) (account folderName : String)
    (updates : List (Uid × String)) :
    (s.updateFlags account folderName updates).1 =
      updates.countP fun u => (s.get? account folderName u.1).isSome := by
  induction updates generalizing s with
  | nil => rfl
  | cons u updates ih =>
      show (Store.updateFlags _ _ _ updates).1 + (s.rows.contains _).toNat = _
      rw [ih, List.countP_cons, OrderedMap.contains_eq_isSome]
      congr 1
      · refine List.countP_congr fun u' _ => ?_
        rw [get?_setFlags]
        split
        · rw [Option.isSome_map]
        · rfl
      · show (s.get? account folderName u.1).isSome.toNat = _
        cases (s.get? account folderName u.1).isSome <;> rfl

end Store

/-! ## The writer -/

namespace CacheWriter

variable {w : CacheWriter}

/-- What the writer does to the store for a change. -/
def writesOf (w : CacheWriter) (c : CacheChange) : Writes :=
  ⟨c.folder.shortName, c.deleted, w.rows c.folder c.new c.states c.notify, flagUpdates c.updated,
    c.notify⟩

theorem writes?_eq (w : CacheWriter) (report : Report) :
    w.writes? report = report.change?.map w.writesOf := by
  cases report <;> rfl

/-- The deletion and the new rows leave what is to be stored. -/
theorem get?_stored (w : CacheWriter) (c : CacheChange) (s : Store) (uid : Uid) :
    ((s.delete w.account c.folder.shortName c.deleted).2.addRows (w.writesOf c).inserted).2.get?
        w.account c.folder.shortName uid = c.stored w.account s uid := by
  rw [writesOf, get?_addRows_rows, Store.get?_delete]
  rfl

theorem get?_perform_elsewhere (w : CacheWriter) (c : CacheChange) (s : Store)
    {account folderName : String} (h : ¬ (account = w.account ∧ folderName = c.folder.shortName))
    (uid : Uid) : ((w.writesOf c).perform w.account s).2.get? account folderName uid =
      s.get? account folderName uid := by
  let kept := (s.delete w.account c.folder.shortName c.deleted).2
  let added := (kept.addRows (w.writesOf c).inserted).2
  have hinserted : ∀ r ∈ (w.writesOf c).inserted,
      r.account = w.account ∧ r.folderName = c.folder.shortName := by
    intro r hr
    obtain ⟨m, -, uid', -, rfl⟩ := mem_rows_iff.mp hr
    exact ⟨rfl, rfl⟩
  calc ((w.writesOf c).perform w.account s).2.get? account folderName uid
      = added.get? account folderName uid :=
        added.get?_perform_of_within (c := .updateFlags w.account c.folder.shortName _)
          ⟨rfl, rfl⟩ h uid
    _ = kept.get? account folderName uid :=
        kept.get?_perform_of_within (c := .addRows (w.writesOf c).inserted) hinserted h uid
    _ = s.get? account folderName uid :=
        s.get?_perform_of_within (c := .delete w.account c.folder.shortName c.deleted)
          ⟨rfl, rfl⟩ h uid

theorem lastFlags_flagUpdates (updated : List RemoteMessage) (uid : Uid) :
    lastFlags (flagUpdates updated) uid = (latest uid updated).map (FlagSet.text ·.flags) := by
  have hlast := find?_numbered (f := fun m uid' => (uid', FlagSet.text m.flags))
    (p := fun u => u.1 = uid) (fun m uid' => decide_eq_true_iff) updated
  rw [lastFlags, flagUpdates, hlast, Option.map_map]
  rfl

theorem perform_effect (w : CacheWriter) (c : CacheChange) (s : Store) :
    c.Effect w.account s ((w.writesOf c).perform w.account s).2
      ((w.writesOf c).perform w.account s).1 where
  elsewhere _ _ uid h := w.get?_perform_elsewhere c s h uid
  row uid := by
    rw [← w.get?_stored c s uid, ← lastFlags_flagUpdates]
    exact Store.get?_updateFlags _ (flagUpdates c.updated)
  inserted := by
    show (w.rows c.folder c.new c.states c.notify).length = _
    rw [rows_eq, List.length_filterMap_eq_countP]
    simp
  updated := by
    show (Store.updateFlags _ w.account c.folder.shortName (flagUpdates c.updated)).1 = _
    rw [Store.updateFlags_count, flagUpdates, List.countP_filterMap]
    refine List.countP_congr fun m _ => ?_
    cases m.uid with
    | none => simp
    | some uid => exact iff_of_eq (congrArg (·.isSome = true) (w.get?_stored c s uid))
  deleted := s.delete_count ..
  notify := rfl

/-- Whatever the store holds, an event does to it what it asks for, and if it asks for nothing,
nothing. -/
theorem applyTo_effect (w : CacheWriter) (event : Event) (s : Store) :
    match event.report.change? with
    | none => w.applyTo event s = (.ok .unchanged, s)
    | some c => ∃ update after, w.applyTo event s = (.ok update, after) ∧
        c.Effect w.account s after update := by
  rw [applyTo_eq, writes?_eq]
  cases event.report.change? with
  | none => rfl
  | some c => exact ⟨_, _, rfl, w.perform_effect c s⟩

end CacheWriter

end MailSync
