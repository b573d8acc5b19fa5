import MailSync.Reconciliation

/-!
# What a reconciliation finds

Every number falls under one of three cases: it is listed and not cached
(`mem_insert_iff`), cached and not listed (`mem_delete_iff`), or both, and
then its flags are compared (`mem_update_iff`). So nothing is left to do
exactly when the snapshot agrees with the listing (`isEmpty_diff_iff`).

These cases leave nothing open (`Compares.eq_diff`): whatever is said of all
numbers alike, the order of a listing among it, follows from them
(`diff_exact`).
-/

namespace MailSync.Reconciliation

variable {cached : Snapshot} {remote : List RemoteMessage} {uid : Uid}

theorem mem_uids_iff : uid ∈ uids remote ↔ ∃ m ∈ remote, m.uid = some uid :=
  List.mem_filterMap

/-- Where no number is listed twice, a number picks its entry. -/
theorem filter_uid_eq (h : (uids remote).Nodup) {m : RemoteMessage} (hm : m ∈ remote)
    (huid : m.uid = some uid) : remote.filter (fun m => m.uid = some uid) = [m] := by
  induction remote with
  | nil => cases hm
  | cons first rest ih =>
      have hlater : ∀ m ∈ rest, m.uid = some uid → first.uid ≠ some uid := by
        intro m hm huid hfirst
        rw [uids, List.filterMap_cons_some hfirst, List.nodup_cons] at h
        exact h.1 (mem_uids_iff.mpr ⟨m, hm, huid⟩)
      rcases List.mem_cons.mp hm with rfl | hm
      · rw [List.filter_cons_of_pos (by simpa using huid), List.filter_eq_nil_iff.mpr]
        intro m' hm' huid'
        exact hlater m' hm' (of_decide_eq_true huid') huid
      · rw [List.filter_cons_of_neg (by simpa using hlater m hm huid)]
        exact ih (h.sublist ((List.sublist_cons_self _ _).filterMap _)) hm

theorem eq_of_uid_eq (h : (uids remote).Nodup) {m m' : RemoteMessage} (hm : m ∈ remote)
    (hm' : m' ∈ remote) (huid : m.uid = some uid) (huid' : m'.uid = some uid) : m = m' := by
  have hfilter : m ∈ remote.filter (fun m => m.uid = some uid) :=
    List.mem_filter.mpr ⟨hm, decide_eq_true huid⟩
  rw [filter_uid_eq h hm' huid'] at hfilter
  exact List.mem_singleton.mp hfilter

theorem mem_insert_iff :
    uid ∈ (diff cached remote).insert ↔ uid ∈ uids remote ∧ cached.get? uid = none := by
  rw [diff, OrderedSet.mem_ofList, mem_uids_iff, mem_uids_iff]
  constructor
  · rintro ⟨m, hm, huid⟩
    obtain ⟨hm, hnew⟩ := List.mem_filter.mp hm
    rw [huid, Option.any_some, OrderedMap.contains_eq_isSome, Bool.not_eq_true',
      Option.isSome_eq_false_iff, Option.isNone_iff_eq_none] at hnew
    exact ⟨⟨m, hm, huid⟩, hnew⟩
  · rintro ⟨⟨m, hm, huid⟩, hnew⟩
    refine ⟨m, List.mem_filter.mpr ⟨hm, ?_⟩, huid⟩
    rw [huid, Option.any_some, OrderedMap.contains_eq_isSome, hnew]
    rfl

theorem mem_toUpdate_iff {m : RemoteMessage} :
    m ∈ toUpdate cached remote ↔ m ∈ remote ∧ ∃ uid, m.uid = some uid ∧
      ∃ stored, cached.get? uid = some stored ∧
        FlagSet.matchesStored m.flags (stored.getD "") = false := by
  rw [toUpdate, List.mem_filter]
  refine and_congr_right fun _ => ?_
  cases huid : m.uid with
  | none => simp
  | some uid => cases hget : cached.get? uid <;> simp [hget]

theorem mem_toUpdate_iff_of_get? {m : RemoteMessage} {stored : Option String}
    (huid : m.uid = some uid) (hget : cached.get? uid = some stored) :
    m ∈ toUpdate cached remote ↔
      m ∈ remote ∧ FlagSet.matchesStored m.flags (stored.getD "") = false := by
  rw [mem_toUpdate_iff]
  refine and_congr_right fun _ => ⟨?_, fun hstale => ⟨uid, huid, stored, hget, hstale⟩⟩
  rintro ⟨uid', huid', stored', hget', hstale⟩
  obtain rfl := Option.some.inj (huid.symm.trans huid')
  obtain rfl := Option.some.inj (hget.symm.trans hget')
  exact hstale

/-- A number is to be updated if an entry lists it with other flags than are stored. -/
theorem mem_update_iff :
    uid ∈ (diff cached remote).update ↔ ∃ m ∈ remote, m.uid = some uid ∧
      ∃ stored, cached.get? uid = some stored ∧
        FlagSet.matchesStored m.flags (stored.getD "") = false := by
  rw [diff, OrderedSet.mem_ofList, mem_uids_iff]
  constructor
  · rintro ⟨m, hm, huid⟩
    obtain ⟨hm, uid', huid', hstale⟩ := mem_toUpdate_iff.mp hm
    obtain rfl := Option.some.inj (huid.symm.trans huid')
    exact ⟨m, hm, huid, hstale⟩
  · rintro ⟨m, hm, huid, hstale⟩
    exact ⟨m, mem_toUpdate_iff.mpr ⟨hm, uid, huid, hstale⟩, huid⟩

theorem mem_delete_iff :
    uid ∈ (diff cached remote).delete ↔ (cached.get? uid).isSome ∧ uid ∉ uids remote := by
  rw [diff, toDelete, OrderedSet.mem_filter, OrderedSet.mem_ofList, OrderedMap.mem_keys_iff,
    decide_eq_true_eq, OrderedSet.mem_ofList]

/-- A snapshot agrees with a listing if both have the same numbers, and the flags stored under
a number are the listed ones. -/
structure Agrees (cached : Snapshot) (remote : List RemoteMessage) : Prop where
  uids : ∀ uid, (cached.get? uid).isSome ↔ uid ∈ uids remote
  flags : ∀ m ∈ remote, ∀ uid, m.uid = some uid → ∀ stored, cached.get? uid = some stored →
    FlagSet.matchesStored m.flags (stored.getD "") = true

/-- A reconciliation finds nothing to do exactly when the snapshot agrees with the listing. -/
theorem isEmpty_diff_iff : (diff cached remote).isEmpty = true ↔ Agrees cached remote := by
  simp only [Diff.isEmpty, Bool.and_eq_true, OrderedSet.isEmpty_iff, mem_insert_iff, mem_update_iff,
    mem_delete_iff, not_and, not_exists, Decidable.not_not]
  constructor
  · rintro ⟨⟨hinsert, hupdate⟩, hdelete⟩
    refine ⟨fun uid => ⟨hdelete uid, fun hlisted => ?_⟩, fun m hm uid huid stored hget => ?_⟩
    · exact Option.isSome_iff_ne_none.mpr (hinsert uid hlisted)
    · exact Bool.not_eq_false _ ▸ hupdate uid m hm huid stored hget
  · intro h
    refine ⟨⟨fun uid hlisted => ?_, fun uid m hm huid stored hget => ?_⟩, fun uid => (h.uids uid).mp⟩
    · exact Option.isSome_iff_ne_none.mp ((h.uids uid).mpr hlisted)
    · exact Bool.not_eq_false _ ▸ h.flags m hm uid huid stored hget

/-! ## The three sets -/

/-- What a comparison of a snapshot with a listing has to find for every number. No stored flags
count as none. -/
structure Compares (cached : Snapshot) (remote : List RemoteMessage) (d : Diff) : Prop where
  insert : ∀ uid, uid ∈ d.insert ↔ uid ∈ uids remote ∧ cached.get? uid = none
  update : ∀ uid, uid ∈ d.update ↔ ∃ m ∈ remote, m.uid = some uid ∧ ∃ stored,
    cached.get? uid = some stored ∧ FlagSet.matchesStored m.flags (stored.getD "") = false
  delete : ∀ uid, uid ∈ d.delete ↔ (cached.get? uid).isSome ∧ uid ∉ uids remote
  skipped : d.skipped = remote.countP (·.uid.isNone)

theorem compares_diff (cached : Snapshot) (remote : List RemoteMessage) :
    Compares cached remote (diff cached remote) where
  insert _ := mem_insert_iff
  update _ := mem_update_iff
  delete _ := mem_delete_iff
  skipped := List.countP_eq_length_filter.symm

/-- There is one such comparison. -/
theorem Compares.eq_diff {d : Diff} (h : Compares cached remote d) : d = diff cached remote := by
  have hdiff := compares_diff cached remote
  obtain ⟨insert, update, delete, skipped⟩ := d
  rw [diff, Diff.mk.injEq]
  exact ⟨OrderedSet.ext fun uid => (h.insert uid).trans (hdiff.insert uid).symm,
    OrderedSet.ext fun uid => (h.update uid).trans (hdiff.update uid).symm,
    OrderedSet.ext fun uid => (h.delete uid).trans (hdiff.delete uid).symm,
    h.skipped.trans hdiff.skipped.symm⟩

/-- The entries of a listing that have a number. -/
def numbered (remote : List RemoteMessage) : List RemoteMessage := remote.filter (·.uid.isSome)

theorem mem_numbered_iff {m : RemoteMessage} (huid : m.uid = some uid) :
    m ∈ numbered remote ↔ m ∈ remote := by
  rw [numbered, List.mem_filter, huid]
  exact and_iff_left rfl

/-- Two listings with the same numbered entries are compared alike. -/
theorem Compares.congr {remote' : List RemoteMessage} {d : Diff} (h : Compares cached remote d)
    (hnumbered : ∀ m, m ∈ numbered remote' ↔ m ∈ numbered remote) :
    Compares cached remote' { d with skipped := remote'.countP (·.uid.isNone) } := by
  have hentries : ∀ m uid, m.uid = some uid → (m ∈ remote' ↔ m ∈ remote) := fun m uid huid =>
    (mem_numbered_iff huid).symm.trans ((hnumbered m).trans (mem_numbered_iff huid))
  have hlisted : ∀ uid, uid ∈ uids remote' ↔ uid ∈ uids remote := fun uid => by
    rw [mem_uids_iff, mem_uids_iff]
    exact exists_congr fun m => and_congr_left (hentries m uid)
  constructor
  case insert => exact fun uid => (h.insert uid).trans (and_congr_left' (hlisted uid).symm)
  case update =>
    refine fun uid => (h.update uid).trans (exists_congr fun m => ?_)
    exact and_congr_left fun hm => (hentries m uid hm.1).symm
  case delete =>
    exact fun uid => (h.delete uid).trans (and_congr_right' (not_congr (hlisted uid).symm))
  case skipped => rfl

/-- No number is in two of the sets. -/
theorem disjoint_diff (cached : Snapshot) (remote : List RemoteMessage) (uid : Uid) :
    ¬ (uid ∈ (diff cached remote).insert ∧ uid ∈ (diff cached remote).update) ∧
      ¬ (uid ∈ (diff cached remote).insert ∧ uid ∈ (diff cached remote).delete) ∧
      ¬ (uid ∈ (diff cached remote).update ∧ uid ∈ (diff cached remote).delete) := by
  rw [mem_insert_iff, mem_update_iff, mem_delete_iff]
  refine ⟨?_, ?_, ?_⟩
  · rintro ⟨⟨-, hnone⟩, _, _, _, stored, hstored, _⟩
    cases hnone.symm.trans hstored
  · rintro ⟨⟨hlisted, -⟩, -, hunlisted⟩
    exact hunlisted hlisted
  · rintro ⟨⟨m, hm, huid, _⟩, -, hunlisted⟩
    exact hunlisted (mem_uids_iff.mpr ⟨m, hm, huid⟩)

/-- What the three sets of a reconciliation are, and what they have to do with each other and with
the candidates they are made of. -/
structure Exact (cached : Snapshot) (remote : List RemoteMessage) (d : Diff) : Prop where
  /-- For every number it is said what becomes of it, and entries without a number are counted. -/
  compares : Compares cached remote d
  disjoint : ∀ uid, ¬ (uid ∈ d.insert ∧ uid ∈ d.update) ∧ ¬ (uid ∈ d.insert ∧ uid ∈ d.delete) ∧
    ¬ (uid ∈ d.update ∧ uid ∈ d.delete)
  /-- What is inserted and what was there already are all that is listed. -/
  whole : ∀ uid, uid ∈ uids remote ↔
    uid ∈ d.insert ∨ ((cached.get? uid).isSome ∧ uid ∈ uids remote)
  /-- The order of the entries does not matter. -/
  reordered : ∀ remote', remote'.Perm remote → diff cached remote' = d
  /-- Nor do entries without a number, but for their count. -/
  unnumbered : ∀ remote', (numbered remote').Perm (numbered remote) →
    diff cached remote' = { d with skipped := remote'.countP (·.uid.isNone) }
  /-- Found on their own, from the cached numbers or flags, the candidates are the same. -/
  candidates : ∀ known : OrderedSet Uid, (∀ uid, uid ∈ known ↔ (cached.get? uid).isSome) →
    d.insert = OrderedSet.ofList (uids (toInsert (fun uid => uid ∈ known) remote)) ∧
      d.update = OrderedSet.ofList (uids (toUpdate cached remote)) ∧
      d.delete = toDelete known remote

/-- A reconciliation finds the three-way difference of a snapshot and a listing. -/
theorem diff_exact (cached : Snapshot) (remote : List RemoteMessage) :
    Exact cached remote (diff cached remote) := by
  have hcompares := compares_diff cached remote
  constructor
  case compares => exact hcompares
  case disjoint => exact disjoint_diff cached remote
  case whole =>
    intro uid
    rw [mem_insert_iff]
    cases cached.get? uid <;> simp
  case reordered =>
    intro remote' hperm
    have hnumbered : ∀ m, m ∈ numbered remote' ↔ m ∈ numbered remote := fun m =>
      (hperm.filter _).mem_iff
    have hsame := hcompares.congr hnumbered
    rw [hperm.countP_eq, ← hcompares.skipped] at hsame
    exact hsame.eq_diff.symm
  case unnumbered =>
    intro remote' hperm
    exact (hcompares.congr fun m => hperm.mem_iff).eq_diff.symm
  case candidates =>
    intro known hknown
    have hcontains : cached.contains = fun uid => decide (uid ∈ known) := funext fun uid => by
      rw [OrderedMap.contains_eq_isSome, Bool.eq_iff_iff, decide_eq_true_eq, hknown]
    have hkeys : OrderedSet.ofList cached.keys = known := OrderedSet.ext fun uid => by
      rw [OrderedSet.mem_ofList, OrderedMap.mem_keys_iff, hknown]
    rw [diff, hcontains, hkeys]
    exact ⟨rfl, rfl, rfl⟩

end MailSync.Reconciliation
