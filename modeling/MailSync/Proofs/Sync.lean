import MailSync.Proofs.Cache
import MailSync.Proofs.Flag
import MailSync.Proofs.Reconciliation
import MailSync.Proofs.SequenceSet
import MailSync.Task.Sync

/-!
# Synchronising a folder converges

`syncFolder_converges` joins a conversation of the task with the writes of
`CacheWriter`: whatever the cache held, what is written makes it agree with
the listing, and a second synchronisation against the same listing finds
nothing to do.

The argument has two halves. The first goes through the dialogue once and
says what it reports (`syncFolder_ends`). The second reads the three writes
number by number: a number is listed and cached, listed and new, or not
listed (`get?_refreshed_of_cached`, `get?_refreshed_of_new`,
`get?_refreshed_of_unlisted`).
-/

namespace MailSync

open Dialogue

/-! ## What is written -/

/-- New messages with exactly the numbers of a set, each once and with its listed flags. -/
structure Delivers (remote : List RemoteMessage) (uids : OrderedSet Uid)
    (new : List RemoteMessage) : Prop where
  only : ∀ f ∈ new, ∃ uid ∈ uids, f.uid = some uid
  each : ∀ m ∈ remote, ∀ uid ∈ uids, m.uid = some uid →
    ∃ f, new.filter (fun f => f.uid = some uid) = [f] ∧ f.flags = m.flags

theorem Task.mem_within_iff {uids : OrderedSet Uid} {messages : List RemoteMessage}
    {m : RemoteMessage} :
    m ∈ within uids messages ↔ m ∈ messages ∧ ∃ uid ∈ uids, m.uid = some uid := by
  rw [within, List.mem_filter]
  refine and_congr_right fun _ => ?_
  cases m.uid with
  | none => simp
  | some uid => simp

namespace CacheWriter

variable {w : CacheWriter} {folder : Folder} {new remote : List RemoteMessage}
  {states : EncryptionStates} {notify : Bool} {cached : Snapshot} {s cache : Store} {uid : Uid}

/-- A store after a refresh that follows from a reconciliation with a snapshot. What the snapshot
shows may have changed in the store since. -/
def written (w : CacheWriter) (folder : Folder) (remote new : List RemoteMessage)
    (states : EncryptionStates) (notify : Bool) (cached : Snapshot) (s : Store) : Store :=
  let diff := Reconciliation.diff cached remote
  let kept := (s.delete w.account folder.shortName diff.delete).2
  let added := (kept.addRows (w.rows folder new states notify)).2
  (added.updateFlags w.account folder.shortName (flagUpdates (Task.within diff.update remote))).2

/-- The store after a refresh that follows from a reconciliation with what it holds itself. -/
def refreshed (w : CacheWriter) (folder : Folder) (remote new : List RemoteMessage)
    (states : EncryptionStates) (notify : Bool) (cache : Store) : Store :=
  w.written folder remote new states notify (cache.uidFlags w.account folder.shortName) cache

theorem mem_rows_iff {r : Row} :
    r ∈ w.rows folder new states notify ↔ ∃ m ∈ new, ∃ uid, m.uid = some uid ∧
      r = ⟨w.account, folder.shortName, uid, some (FlagSet.text m.flags), states.get? uid, notify,
        m.envelope⟩ := by
  rw [rows_eq, List.mem_filterMap]
  refine exists_congr fun m => and_congr_right fun _ => ?_
  cases m.uid with
  | none => simp
  | some uid => simp [eq_comm]

theorem mem_flagUpdates_iff {messages : List RemoteMessage} {u : Uid × String} :
    u ∈ flagUpdates messages ↔ ∃ m ∈ messages, m.uid = some u.1 ∧ u.2 = FlagSet.text m.flags := by
  obtain ⟨uid, flags⟩ := u
  rw [flagUpdates, List.mem_filterMap]
  refine exists_congr fun m => and_congr_right fun _ => ?_
  cases m.uid with
  | none => simp
  | some uid' => simp [eq_comm]

/-- A cached number is written nothing new. -/
theorem key_ne_of_cached (w : CacheWriter) (folder : Folder) (states : EncryptionStates)
    (notify : Bool) {s : Snapshot} (hnew : Delivers remote (Reconciliation.diff s remote).insert new)
    (h : (s.get? uid).isSome ∨ uid ∉ Reconciliation.uids remote) :
    ∀ r ∈ w.rows folder new states notify, r.key ≠ ⟨w.account, folder.shortName, uid⟩ := by
  intro r hr hkey
  obtain ⟨m, hm, uid', huid, rfl⟩ := mem_rows_iff.mp hr
  obtain rfl : uid' = uid := congrArg RowKey.uid hkey
  obtain ⟨uid'', hmem, heq⟩ := hnew.only m hm
  obtain rfl : uid' = uid'' := Option.some.inj (huid.symm.trans heq)
  obtain ⟨hlisted, hfresh⟩ := Reconciliation.mem_insert_iff.mp hmem
  rcases h with h | h
  · rw [hfresh] at h
    cases h
  · exact h hlisted

/-- A number that is listed and in the snapshot keeps its row, if it still has one; the listed flags
are written if those of the snapshot differ. -/
theorem get?_written_of_cached (hdistinct : (Reconciliation.uids remote).Nodup)
    (hnew : Delivers remote (Reconciliation.diff cached remote).insert new) {m : RemoteMessage}
    (hm : m ∈ remote) (huid : m.uid = some uid) {stored : Option String}
    (hstored : cached.get? uid = some stored) :
    (w.written folder remote new states notify cached s).get? w.account folder.shortName uid =
      if FlagSet.matchesStored m.flags (stored.getD "") then
        s.get? w.account folder.shortName uid
      else (s.get? w.account folder.shortName uid).map fun r =>
        { r with flags := some (FlagSet.text m.flags) } := by
  have hadded : ∀ rows, (∀ row ∈ rows, row.key ≠ ⟨w.account, folder.shortName, uid⟩) →
      (((s.delete w.account folder.shortName (Reconciliation.diff cached remote).delete).2.addRows
        rows).2).get? w.account folder.shortName uid = s.get? w.account folder.shortName uid := by
    intro rows hrows
    rw [Store.get?_addRows_of_notMem hrows, Store.get?_delete, if_neg]
    rw [Reconciliation.mem_delete_iff, not_and, Decidable.not_not]
    exact fun _ => Reconciliation.mem_uids_iff.mpr ⟨m, hm, huid⟩
  have hkeys := key_ne_of_cached w folder states notify hnew (.inl (by rw [hstored]; rfl))
  -- The entry of this number is the only one that can ask for an update of it.
  have hentry : ∀ m' ∈ remote, m'.uid = some uid → m' = m := fun m' hm' huid' =>
    Reconciliation.eq_of_uid_eq hdistinct hm' hm huid' huid
  rw [written]
  split
  next hmatch =>
    rw [Store.get?_updateFlags_of_notMem, hadded _ hkeys]
    rintro u hu rfl
    obtain ⟨m', hm', huid', -⟩ := mem_flagUpdates_iff.mp hu
    obtain ⟨hm', uid', hmem, heq⟩ := Task.mem_within_iff.mp hm'
    obtain rfl := Option.some.inj (huid'.symm.trans heq)
    obtain ⟨m'', hm'', huid'', stored', hstored', hstale⟩ := Reconciliation.mem_update_iff.mp hmem
    obtain rfl := hentry m'' hm'' huid''
    obtain rfl := Option.some.inj (hstored.symm.trans hstored')
    rw [hmatch] at hstale
    cases hstale
  next hmatch =>
    have hupdate : uid ∈ (Reconciliation.diff cached remote).update :=
      Reconciliation.mem_update_iff.mpr
        ⟨m, hm, huid, stored, hstored, by rw [Bool.not_eq_true] at hmatch; exact hmatch⟩
    have hmem : (uid, FlagSet.text m.flags) ∈
        flagUpdates (Task.within (Reconciliation.diff cached remote).update remote) :=
      mem_flagUpdates_iff.mpr ⟨m, Task.mem_within_iff.mpr ⟨hm, uid, hupdate, huid⟩, huid, rfl⟩
    rw [Store.get?_updateFlags_of_unique hmem, hadded _ hkeys]
    rintro u hu rfl
    obtain ⟨m', hm', huid', htext⟩ := mem_flagUpdates_iff.mp hu
    rw [htext, hentry m' (Task.mem_within_iff.mp hm').1 huid']

/-- A number that is listed and not in the snapshot gets a row with the listed flags. -/
theorem get?_written_of_new (w : CacheWriter) (folder : Folder) (states : EncryptionStates)
    (notify : Bool) (s : Store)
    (hnew : Delivers remote (Reconciliation.diff cached remote).insert new) {m : RemoteMessage}
    (hm : m ∈ remote) (huid : m.uid = some uid) (hnone : cached.get? uid = none) :
    ∃ r, (w.written folder remote new states notify cached s).get? w.account folder.shortName uid =
      some r ∧ r.flags = some (FlagSet.text m.flags) := by
  obtain ⟨f, hfilter, hflags⟩ := hnew.each m hm uid
    (Reconciliation.mem_insert_iff.mpr ⟨Reconciliation.mem_uids_iff.mpr ⟨m, hm, huid⟩, hnone⟩) huid
  have hf : ∀ f', f' ∈ new ∧ f'.uid = some uid ↔ f' = f := fun f' => by
    rw [← List.mem_singleton (b := f), ← hfilter, List.mem_filter, decide_eq_true_eq]
  obtain ⟨hfnew, hfuid⟩ := (hf f).mpr rfl
  let row : Row := ⟨w.account, folder.shortName, uid, some (FlagSet.text f.flags), states.get? uid,
    notify, f.envelope⟩
  have hrow : row ∈ w.rows folder new states notify := mem_rows_iff.mpr ⟨f, hfnew, uid, hfuid, rfl⟩
  refine ⟨row, ?_, by rw [← hflags]⟩
  rw [written, Store.get?_updateFlags_of_notMem]
  · refine Store.get?_addRows_of_unique hrow rfl ?_
    intro r' hr' hkey
    obtain ⟨f', hf', uid', huid', rfl⟩ := mem_rows_iff.mp hr'
    obtain rfl : uid' = uid := congrArg RowKey.uid hkey
    obtain rfl := (hf f').mp ⟨hf', huid'⟩
    rfl
  · rintro u hu rfl
    obtain ⟨m', hm', huid', -⟩ := mem_flagUpdates_iff.mp hu
    obtain ⟨-, uid', hmem, heq⟩ := Task.mem_within_iff.mp hm'
    obtain rfl := Option.some.inj (huid'.symm.trans heq)
    obtain ⟨_, _, _, stored, hstored, _⟩ := Reconciliation.mem_update_iff.mp hmem
    rw [hnone] at hstored
    cases hstored

/-- A number that is not listed loses its row if the snapshot has it, and is left alone if not. -/
theorem get?_written_of_unlisted
    (hnew : Delivers remote (Reconciliation.diff cached remote).insert new)
    (h : uid ∉ Reconciliation.uids remote) :
    (w.written folder remote new states notify cached s).get? w.account folder.shortName uid =
      if (cached.get? uid).isSome then none else s.get? w.account folder.shortName uid := by
  have hdelete : uid ∈ (Reconciliation.diff cached remote).delete ↔ (cached.get? uid).isSome :=
    Reconciliation.mem_delete_iff.trans (and_iff_left h)
  rw [written, Store.get?_updateFlags_of_notMem,
    Store.get?_addRows_of_notMem (key_ne_of_cached w folder states notify hnew (.inr h)), Store.get?_delete]
  · simp only [hdelete]
  · rintro u hu rfl
    obtain ⟨m, hm, huid, -⟩ := mem_flagUpdates_iff.mp hu
    exact h (Reconciliation.mem_uids_iff.mpr ⟨m, (Task.mem_within_iff.mp hm).1, huid⟩)

/-- A row that is listed and cached stays, with the listed flags if the stored ones differ. -/
theorem get?_refreshed_of_cached (hdistinct : (Reconciliation.uids remote).Nodup)
    (hnew : Delivers remote
      (Reconciliation.diff (cache.uidFlags w.account folder.shortName) remote).insert new)
    {m : RemoteMessage} (hm : m ∈ remote) (huid : m.uid = some uid) {r : Row}
    (hr : cache.get? w.account folder.shortName uid = some r) :
    (w.refreshed folder remote new states notify cache).get? w.account folder.shortName uid =
      some (if FlagSet.matchesStored m.flags (r.flags.getD "") then r
        else { r with flags := some (FlagSet.text m.flags) }) := by
  have hsnap : (cache.uidFlags w.account folder.shortName).get? uid = some r.flags := by
    rw [Store.get?_uidFlags, hr, Option.map_some]
  refine (get?_written_of_cached hdistinct hnew hm huid hsnap).trans ?_
  rw [hr]
  split <;> rfl

/-- A number that is listed and not cached gets a row with the listed flags. -/
theorem get?_refreshed_of_new (states : EncryptionStates) (notify : Bool)
    (hnew : Delivers remote
      (Reconciliation.diff (cache.uidFlags w.account folder.shortName) remote).insert new)
    {m : RemoteMessage} (hm : m ∈ remote) (huid : m.uid = some uid)
    (hr : cache.get? w.account folder.shortName uid = none) :
    ∃ r, (w.refreshed folder remote new states notify cache).get? w.account folder.shortName uid =
      some r ∧ r.flags = some (FlagSet.text m.flags) :=
  get?_written_of_new w folder states notify cache hnew hm huid (by
    rw [Store.get?_uidFlags, hr, Option.map_none])

/-- A number that is not listed has no row. -/
theorem get?_refreshed_of_unlisted
    (hnew : Delivers remote
      (Reconciliation.diff (cache.uidFlags w.account folder.shortName) remote).insert new)
    (h : uid ∉ Reconciliation.uids remote) :
    (w.refreshed folder remote new states notify cache).get? w.account folder.shortName uid =
      none := by
  refine (get?_written_of_unlisted hnew h).trans ?_
  rw [Store.get?_uidFlags, Option.isSome_map]
  cases cache.get? w.account folder.shortName uid <;> rfl

/-- After a refresh the cache agrees with the listing. -/
theorem refreshed_agrees (states : EncryptionStates) (notify : Bool)
    (hdistinct : (Reconciliation.uids remote).Nodup)
    (hflags : ∀ m ∈ remote, ∀ f ∈ m.flags, f.IsRead)
    (hnew : Delivers remote
      (Reconciliation.diff (cache.uidFlags w.account folder.shortName) remote).insert new) :
    Reconciliation.Agrees ((w.refreshed folder remote new states notify cache).uidFlags w.account
      folder.shortName) remote := by
  constructor
  · intro uid
    rw [Store.get?_uidFlags, Option.isSome_map]
    constructor
    · refine fun hsome => Decidable.byContradiction fun hlisted => ?_
      rw [get?_refreshed_of_unlisted hnew hlisted] at hsome
      cases hsome
    · intro hlisted
      obtain ⟨m, hm, huid⟩ := Reconciliation.mem_uids_iff.mp hlisted
      cases hr : cache.get? w.account folder.shortName uid with
      | none =>
          obtain ⟨r, hr', -⟩ := get?_refreshed_of_new states notify hnew hm huid hr
          rw [hr', Option.isSome_some]
      | some r => rw [get?_refreshed_of_cached hdistinct hnew hm huid hr, Option.isSome_some]
  · intro m hm uid huid stored hstored
    rw [Store.get?_uidFlags] at hstored
    cases hr : cache.get? w.account folder.shortName uid with
    | none =>
        obtain ⟨r, hr', hrflags⟩ := get?_refreshed_of_new states notify hnew hm huid hr
        rw [hr', Option.map_some, hrflags] at hstored
        cases hstored
        exact FlagSet.matchesStored_text (hflags m hm)
    | some r =>
        rw [get?_refreshed_of_cached hdistinct hnew hm huid hr, Option.map_some] at hstored
        cases hstored
        split
        next hmatch => exact hmatch
        next => exact FlagSet.matchesStored_text (hflags m hm)

/-- A row that was cached and is still there differs in its flags at most. -/
theorem refreshed_keeps (hdistinct : (Reconciliation.uids remote).Nodup)
    (hnew : Delivers remote
      (Reconciliation.diff (cache.uidFlags w.account folder.shortName) remote).insert new)
    {r r' : Row} (hr : cache.get? w.account folder.shortName uid = some r)
    (hr' : (w.refreshed folder remote new states notify cache).get? w.account folder.shortName uid =
      some r') : ∃ flags, r' = { r with flags } := by
  by_cases hlisted : uid ∈ Reconciliation.uids remote
  · obtain ⟨m, hm, huid⟩ := Reconciliation.mem_uids_iff.mp hlisted
    rw [get?_refreshed_of_cached hdistinct hnew hm huid hr] at hr'
    cases hr'
    split
    · exact ⟨r.flags, rfl⟩
    · exact ⟨_, rfl⟩
  · rw [get?_refreshed_of_unlisted hnew hlisted] at hr'
    cases hr'

end CacheWriter

/-! ## What is reported -/

namespace Task

/-- The number that `*` stands for. -/
def largestUid (remote : List RemoteMessage) : Uid := (Reconciliation.uids remote).foldl max 0

/-- What a session says of a folder with these entries: whether there are any, which they are,
and each message that is asked for, once and with its listed flags. -/
def Shows (remote : List RemoteMessage) : (c : SessionCall) → c.Value → Prop
  | .select _, status => status.messages = 0 ↔ remote = []
  | .fetchFlags set, listed => set = "1:*" → listed = remote
  | .fetchHeaders set, messages => ∀ m ∈ remote, ∀ uid, m.uid = some uid →
      SequenceSet.contains (largestUid remote) set uid = true →
        ∃ f, messages.filter (fun f => f.uid = some uid) = [f] ∧ f.flags = m.flags
  | _, _ => True

/-- The replies while a folder has these entries and the cache is kept in memory. Every other
call is answered in any way, and every call but those to the cache may fail. -/
def Serves (remote : List RemoteMessage) (cache : Store) : (q : Request) → q.Reply → Prop
  | .outside (.session _ c), .ok value => Shows remote c value
  | .outside (.store c), reply => reply = .ok (cache.perform c).1
  | _, _ => True

/-- The failure of a call. -/
def Refuses : (q : Request) → q.Reply → MailError → Prop
  | .outside _, .error e, e' => e = e'
  | _, _, _ => False

/-- The replies of `Serves`, with the failures among them. -/
def Allowed (remote : List RemoteMessage) (cache : Store) (refused : MailError → Prop)
    (q : Request) (reply : q.Reply) : Prop :=
  Serves remote cache q reply ∧ ∀ e, Refuses q reply e → refused e

/-- Replies that show these entries, and fail with what may be refused only. -/
structure Showing (remote : List RemoteMessage) (allowed : (q : Request) → q.Reply → Prop)
    (refused : MailError → Prop) : Prop where
  shows : ∀ s c value, allowed (.outside (.session s c)) (.ok value) → Shows remote c value
  refuses : ∀ c e, allowed (.outside c) (.error e) → refused e

section Ends

variable {remote : List RemoteMessage} {allowed : (q : Request) → q.Reply → Prop}
  {refused : MailError → Prop}

namespace Showing

theorem ends_call (h : Showing remote allowed refused) {c : OutsideCall} {post : c.Value → Prop}
    (hpost : ∀ value, allowed (.outside c) (.ok value) → post value) :
    Attempt.Ends allowed refused post (Trial.outside c) :=
  Trial.ends_outside fun reply hreply => by
    cases reply with
    | ok value => exact hpost value hreply
    | error e => exact h.refuses c e hreply

theorem ends_session (h : Showing remote allowed refused) (s : SessionId) (c : SessionCall) :
    Attempt.Ends allowed refused (Shows remote c) (Trial.session s c) :=
  h.ends_call fun value => h.shows s c value

end Showing

theorem announces_ends (folder : Folder) :
    Attempt.Ends allowed refused (fun _ => True) (announces folder) :=
  Attempt.Ends.bind_any (Trial.ends_inside fun _ _ => trivial) fun _ => Attempt.Ends.pure trivial

/-- There is nothing to say of no messages. -/
theorem encryptionStates_ends (h : Showing remote allowed refused) (settings : SyncSettings)
    (s : SessionId) (messages : List RemoteMessage) :
    Attempt.Ends allowed refused (fun states => messages = [] → states = ∅)
      (encryptionStates settings s messages) := by
  rw [encryptionStates]
  split
  next =>
    refine Attempt.Ends.pure ?_
    rintro rfl
    rfl
  next =>
    split
    next => exact Attempt.Ends.pure fun _ => rfl
    next hsome =>
      refine Attempt.Ends.bind_any (h.ends_call fun _ _ => trivial) fun _ => ?_
      refine Attempt.Ends.pure ?_
      rintro rfl
      exact absurd rfl hsome

theorem listing_ends (h : Showing remote allowed refused) {s : SessionId} {status : FolderStatus}
    (hstatus : status.messages = 0 ↔ remote = []) :
    Attempt.Ends allowed refused (· = remote) (listing s status) := by
  rw [listing]
  split
  next hzero => exact Attempt.Ends.pure (hstatus.mp hzero).symm
  next => exact (h.ends_session s _).mono fun listed hlisted => hlisted rfl

/-- The text of a set asks for the numbers of the set, so they are what is delivered. -/
theorem headersOf_ends (h : Showing remote allowed refused) (s : SessionId) (uids : OrderedSet Uid) :
    Attempt.Ends allowed refused (Delivers remote uids) (headersOf s uids) := by
  rw [headersOf]
  split
  next hempty =>
    refine Attempt.Ends.pure ⟨fun f hf => absurd hf List.not_mem_nil, fun m _ uid huid _ => ?_⟩
    exact absurd huid (OrderedSet.isEmpty_iff.mp hempty uid)
  next hsome =>
    have hne : uids.toList ≠ [] := fun h => hsome (by rw [OrderedSet.isEmpty, h]; rfl)
    refine Attempt.Ends.bind (h.ends_session s _) fun messages hmessages =>
      Attempt.Ends.pure ⟨fun f hf => (mem_within_iff.mp hf).2, fun m hm uid huid hmuid => ?_⟩
    obtain ⟨f, hfilter, hflags⟩ := hmessages m hm uid hmuid
      ((SequenceSet.contains_ofSet _ hne uid).mpr huid)
    refine ⟨f, ?_, hflags⟩
    -- Of the messages with this number none is lost.
    rw [within, List.filter_filter, ← hfilter]
    refine List.filter_congr fun f _ => ?_
    cases hf : decide (f.uid = some uid) with
    | false => rfl
    | true =>
        rw [of_decide_eq_true hf, Option.any_some, decide_eq_true huid]
        rfl

/-- What a synchronisation reports that found the folder as in a snapshot: the outcome of one
reconciliation. -/
def Compared (folder : Folder) (remote : List RemoteMessage) (cached : Snapshot)
    (report : Report) : Prop :=
  let diff := Reconciliation.diff cached remote
  ∃ new states notify, Delivers remote diff.insert new ∧ (new = [] → states = ∅) ∧
    report = .refreshed folder new (within diff.update remote) diff.delete states notify

/-- What a synchronisation reports that found the folder as it is in the cache. -/
def Reconciled (p : Profile) (folder : Folder) (remote : List RemoteMessage) (cache : Store) :
    Report → Prop :=
  Compared folder remote (cache.uidFlags p.email folder.shortName)

/-- A synchronisation compares what is shown with the snapshot that it is given. -/
theorem syncFolder_compares (h : Showing remote allowed refused) (p : Profile) (s : SessionId)
    (folder : Folder) {looked : Snapshot → Prop}
    (hlooked : ∀ cached, allowed (.outside (.store (.uidFlags p.email folder.shortName)))
      (.ok cached) → looked cached) :
    Attempt.Ends allowed refused
      (fun report => ∃ cached, looked cached ∧ Compared folder remote cached report)
      (syncFolder p s folder) := by
  rw [syncFolder]
  refine Attempt.Ends.bind (h.ends_session s _) fun status hstatus => ?_
  refine Attempt.Ends.bind (listing_ends h hstatus) ?_
  rintro _ rfl
  refine Attempt.Ends.bind (h.ends_call hlooked) fun cached hcached => ?_
  refine Attempt.Ends.bind (headersOf_ends h s _) fun new hnew => ?_
  refine Attempt.Ends.bind (encryptionStates_ends h p.settings s new) fun states hstates => ?_
  refine Attempt.Ends.bind (announces_ends folder) fun notify _ => ?_
  exact Attempt.Ends.pure ⟨cached, hcached, new, states, notify, hnew, hstates, rfl⟩

end Ends

/-- Any listing without a number twice can be shown, with no call failing. -/
theorem exists_allowed {remote : List RemoteMessage}
    (hdistinct : (Reconciliation.uids remote).Nodup) (cache : Store) (q : Request) :
    ∃ reply, Allowed remote cache (fun _ => False) q reply := by
  have shown : ∀ c : SessionCall, ∃ value, Shows remote c value := fun c => by
    cases c with
    | select _ =>
        by_cases hremote : remote = []
        · exact ⟨⟨0, none, none⟩, iff_of_true rfl hremote⟩
        · exact ⟨⟨1, none, none⟩, iff_of_false (by decide) hremote⟩
    | fetchFlags _ => exact ⟨remote, fun _ => rfl⟩
    | fetchHeaders _ =>
        refine ⟨remote, fun m hm uid huid _ => ⟨m, ?_, rfl⟩⟩
        exact Reconciliation.filter_uid_eq hdistinct hm huid
    | noop | move _ _ | logout => exact ⟨(), trivial⟩
    | listFolders | search _ | fetchText _ _ => exact ⟨[], trivial⟩
    | fetchRaw _ => exact ⟨none, trivial⟩
  cases q with
  | inside c =>
      cases c with
      | emit _ | publish _ | release _ => exact ⟨(), trivial, fun _ h => h⟩
      | isCancelled | isForeground => exact ⟨true, trivial, fun _ h => h⟩
  | outside c =>
      cases c with
      | token => exact ⟨.ok "", trivial, fun _ h => h⟩
      | connect _ _ => exact ⟨.ok 0, trivial, fun _ h => h⟩
      | session _ c =>
          obtain ⟨value, hvalue⟩ := shown c
          exact ⟨.ok value, hvalue, fun _ h => h⟩
      | send _ _ _ => exact ⟨.ok (), trivial, fun _ h => h⟩
      | store c => exact ⟨.ok (cache.perform c).1, rfl, fun _ h => h⟩

theorem syncFolder_ends {remote : List RemoteMessage} {cache : Store} {refused : MailError → Prop}
    (p : Profile) (s : SessionId) (folder : Folder) :
    Attempt.Ends (Allowed remote cache refused) refused (Reconciled p folder remote cache)
      (syncFolder p s folder) := by
  have hshowing : Showing remote (Allowed remote cache refused) refused :=
    ⟨fun _ _ _ h => h.1, fun _ e h => h.2 e rfl⟩
  have hlooked : ∀ cached, Allowed remote cache refused
      (.outside (.store (.uidFlags p.email folder.shortName))) (.ok cached) →
        cached = cache.uidFlags p.email folder.shortName := fun _ h => Except.ok.inj h.1
  refine (syncFolder_compares hshowing p s folder hlooked).mono ?_
  rintro report ⟨_, rfl, hcompared⟩
  exact hcompared

/-! ## Convergence -/

/-- What a synchronisation leaves behind in the cache. -/
structure Converged (p : Profile) (folder : Folder) (remote : List RemoteMessage)
    (cache after : Store) : Prop where
  uids : ∀ uid, uid ∈ (after.uidFlags p.email folder.shortName).keys ↔
    uid ∈ Reconciliation.uids remote
  flags : ∀ m ∈ remote, ∀ uid, m.uid = some uid → ∀ stored,
    (after.uidFlags p.email folder.shortName).get? uid = some stored →
      FlagSet.matchesStored m.flags (stored.getD "") = true
  /-- What was cached before differs in its flags at most. -/
  kept : ∀ uid r r', cache.get? p.email folder.shortName uid = some r →
    after.get? p.email folder.shortName uid = some r' →
      r'.envelope = r.envelope ∧ r'.encrypted = r.encrypted ∧ r'.isNew = r.isNew
  done : (Reconciliation.diff (after.uidFlags p.email folder.shortName) remote).isEmpty = true
  /-- A second synchronisation finds nothing to write. -/
  again : ∀ s log report tag, Holds (syncFolder p s folder).run log (.ok report) →
    (∀ x ∈ log, Serves remote after x.question x.reply) → ∃ notify announced,
      report = .refreshed folder [] [] ∅ ∅ notify ∧
        (CacheWriter.mk p.email).applyTo ⟨tag, report⟩ after = (.ok ⟨0, 0, 0, announced⟩, after)

section Convergence

variable {p : Profile} {s : SessionId} {folder : Folder} {remote : List RemoteMessage}
  {cache : Store} {log : List (Exchange Request Request.Reply)}

/-- Served as it should be, a synchronisation that does not fail with a call of its own reports
a reconciliation. -/
theorem syncFolder_outcome {outcome : Except MailError Report}
    (h : Holds (syncFolder p s folder).run log outcome)
    (hlog : ∀ x ∈ log, Serves remote cache x.question x.reply) :
    Attempt.Meets (fun e => ∃ x ∈ log, Refuses x.question x.reply e)
      (Reconciled p folder remote cache) outcome :=
  Attempt.Ends.of_holds (syncFolder_ends p s folder) h fun x hx =>
    ⟨hlog x hx, fun _ he => ⟨x, hx, he⟩⟩

/-- Where the cache agrees with the listing, nothing is reported. -/
theorem Reconciled.eq_of_agrees {report : Report} (h : Reconciled p folder remote cache report)
    (hagrees : Reconciliation.Agrees (cache.uidFlags p.email folder.shortName) remote) :
    ∃ notify, report = .refreshed folder [] [] ∅ ∅ notify := by
  obtain ⟨new, states, notify, hnew, hstates, rfl⟩ := h
  have hempty := Reconciliation.isEmpty_diff_iff.mpr hagrees
  rw [Diff.isEmpty, Bool.and_eq_true, Bool.and_eq_true, OrderedSet.isEmpty_iff,
    OrderedSet.isEmpty_iff, OrderedSet.isEmpty_iff] at hempty
  obtain ⟨⟨hinsert, hupdate⟩, hdelete⟩ := hempty
  have hnil : new = [] := List.eq_nil_iff_forall_not_mem.mpr fun f hf => by
    obtain ⟨uid, hmem, -⟩ := hnew.only f hf
    exact hinsert uid hmem
  have hwithin : within (Reconciliation.diff (cache.uidFlags p.email folder.shortName)
      remote).update remote = [] := List.eq_nil_iff_forall_not_mem.mpr fun m hm => by
    obtain ⟨-, uid, hmem, -⟩ := mem_within_iff.mp hm
    exact hupdate uid hmem
  have hnone : (Reconciliation.diff (cache.uidFlags p.email folder.shortName) remote).delete = ∅ :=
    OrderedSet.ext fun uid => iff_of_false (hdelete uid) (OrderedSet.not_mem_empty uid)
  exact ⟨notify, by rw [hwithin, hnone, hstates hnil, hnil]⟩

/-- A listing that can be brought to the cache: no number is listed twice, and flags are tokens. -/
structure Sound (remote : List RemoteMessage) : Prop where
  distinct : (Reconciliation.uids remote).Nodup
  flags : ∀ m ∈ remote, ∀ f ∈ m.flags, f.IsRead

/-- Written to the cache that it was compared with, a listing agrees with it. -/
theorem Reconciled.agrees (h : Reconciled p folder remote cache report) (hremote : Sound remote)
    (tag : RequestTag) :
    Reconciliation.Agrees (((CacheWriter.mk p.email).applyTo ⟨tag, report⟩ cache).2.uidFlags p.email
      folder.shortName) remote := by
  obtain ⟨new, states, notify, hnew, -, rfl⟩ := h
  obtain ⟨announced, happly⟩ := (CacheWriter.mk p.email).applyTo_refreshed cache tag folder new
    (within (Reconciliation.diff (cache.uidFlags p.email folder.shortName) remote).update remote)
    (Reconciliation.diff (cache.uidFlags p.email folder.shortName) remote).delete states notify
  rw [happly]
  exact CacheWriter.refreshed_agrees (w := ⟨p.email⟩) states notify hremote.distinct hremote.flags
    hnew

/-- A synchronisation ends with the failure of one of its calls, or with a report whose writing
makes the cache converge, whatever the cache held. -/
theorem syncFolder_converges (hdistinct : (Reconciliation.uids remote).Nodup)
    (hflags : ∀ m ∈ remote, ∀ f ∈ m.flags, f.IsRead) {outcome : Except MailError Report}
    (h : Holds (syncFolder p s folder).run log outcome)
    (hlog : ∀ x ∈ log, Serves remote cache x.question x.reply) (tag : RequestTag) :
    (∃ e, outcome = .error e ∧ ∃ x ∈ log, Refuses x.question x.reply e) ∨
      ∃ report update after, outcome = .ok report ∧
        (CacheWriter.mk p.email).applyTo ⟨tag, report⟩ cache = (.ok update, after) ∧
          Converged p folder remote cache after := by
  have hmeets := syncFolder_outcome h hlog
  cases outcome with
  | error e => exact .inl ⟨e, rfl, hmeets⟩
  | ok report =>
      obtain ⟨new, states, notify, hnew, -, rfl⟩ := hmeets
      obtain ⟨announced, happly⟩ := (CacheWriter.mk p.email).applyTo_refreshed cache tag folder new
        (within (Reconciliation.diff (cache.uidFlags p.email folder.shortName) remote).update remote)
        (Reconciliation.diff (cache.uidFlags p.email folder.shortName) remote).delete states notify
      have hagrees := CacheWriter.refreshed_agrees (w := ⟨p.email⟩) states notify hdistinct hflags hnew
      refine .inr ⟨_, _, _, rfl, happly, ?_, hagrees.flags, ?_,
        Reconciliation.isEmpty_diff_iff.mpr hagrees, ?_⟩
      · exact fun uid => OrderedMap.mem_keys_iff.trans (hagrees.uids uid)
      · intro uid r r' hr hr'
        obtain ⟨flags, rfl⟩ := CacheWriter.refreshed_keeps (w := ⟨p.email⟩) hdistinct hnew hr hr'
        exact ⟨rfl, rfl, rfl⟩
      · intro s' log' report' tag' h' hlog'
        obtain ⟨notify', rfl⟩ := Reconciled.eq_of_agrees (syncFolder_outcome h' hlog') hagrees
        obtain ⟨announced', happly'⟩ :=
          (CacheWriter.mk p.email).applyTo_refreshed_nothing _ tag' folder ∅ notify'
        exact ⟨notify', announced', rfl, happly'⟩

/-- Of a listing with an entry that has no number, `1` is new, `2` has lost its flag and `3` is
gone from the cache. -/
theorem syncFolder_converges_stale :
    let listing : List RemoteMessage := [⟨some 1, .ofText "\\Seen", .empty, none⟩,
      ⟨none, .ofText "", .empty, none⟩, ⟨some 2, .ofText "", .empty, none⟩]
    let cached : Store := (Store.empty.addRows
      [⟨"me", "INBOX", 2, some "\\Flagged", some true, true, .empty⟩,
        ⟨"me", "INBOX", 3, none, none, false, .empty⟩]).2
    ∃ log report update after,
      Holds (syncFolder ⟨"me", .default⟩ 0 .inbox).run log (.ok report) ∧
      (∀ x ∈ log, Serves listing cached x.question x.reply) ∧
      (CacheWriter.mk "me").applyTo ⟨⟨"me", 1⟩, report⟩ cached = (.ok update, after) ∧
      Converged ⟨"me", .default⟩ .inbox listing cached after := by
  intro listing cached
  have hdistinct : (Reconciliation.uids listing).Nodup := by decide
  have hflags : ∀ m ∈ listing, ∀ f ∈ m.flags, f.IsRead := by
    simp only [listing, List.forall_mem_cons]
    exact ⟨fun f => FlagSet.isRead_of_mem_ofText, fun f => FlagSet.isRead_of_mem_ofText,
      fun f => FlagSet.isRead_of_mem_ofText, nofun⟩
  obtain ⟨log, outcome, h, hlog⟩ := exists_holds (exists_allowed hdistinct cached)
    (syncFolder ⟨"me", .default⟩ 0 .inbox).run
  rcases syncFolder_converges hdistinct hflags h (fun x hx => (hlog x hx).1) ⟨"me", 1⟩ with
    ⟨e, rfl, x, hx, he⟩ | ⟨report, update, after, rfl, hafter⟩
  · exact ((hlog x hx).2 e he).elim
  · exact ⟨log, report, update, after, h, fun x hx => (hlog x hx).1, hafter⟩

end Convergence

end Task

end MailSync
