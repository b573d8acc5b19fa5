import Mathlib.Data.List.Induction
import MailSync.Proofs.Announcement

/-!
# Where a row comes from

Three kinds of events insert messages, and each replaces what was cached of
them before. A cached row is therefore what the last event that inserted its
message made of it, except for its flags (`CacheWriter.replay_origin`): the
history decides whether the row is to be announced and what is known of its
encryption.

So an update announces exactly the unseen rows that came in last with a wish
to be announced (`CacheWriter.announces_exactly`); and what was known of the
encryption of a message is forgotten exactly when an event inserts the message
again and does not know it (`CacheWriter.forgets_iff`).
-/

namespace MailSync

/-! ## Rows before and after a write -/

theorem Row.isSeen_eq_false_iff {r : Row} : r.isSeen = false ↔
    ∀ text, r.flags = some text → Flag.seen ∉ FlagSet.ofText text := by
  rw [Row.isSeen, Option.any_eq_false]
  simp [FlagSet.isSeen]

namespace Store

variable {s : Store} {account folderName other : String} {uid : Uid} {r : Row}

/-- The rows of a folder are listed in the order of their numbers. -/
theorem pairwise_folderRows (s : Store) (account folderName : String) :
    (s.folderRows account folderName).Pairwise (·.uid < ·.uid) := by
  have hkeys : s.rows.values.Pairwise fun a b => compare a.key b.key = .lt := by
    rw [OrderedMap.values, List.pairwise_map]
    refine s.rows.ascending.imp_of_mem fun {a b} ha hb hlt => ?_
    rwa [s.keyed (OrderedMap.mem_entries_iff.mp ha), s.keyed (OrderedMap.mem_entries_iff.mp hb)]
  refine (hkeys.filter _).imp_of_mem fun {a b} ha hb hlt => ?_
  have ha : a.key = ⟨account, folderName, a.uid⟩ := key_of_get? (mem_folderRows_iff.mp ha)
  have hb : b.key = ⟨account, folderName, b.uid⟩ := key_of_get? (mem_folderRows_iff.mp hb)
  have hself : ∀ text : String, compare text text = .eq := fun _ => Std.ReflCmp.compare_self
  rw [ha, hb, RowKey.compare_def, hself, hself] at hlt
  exact Std.compare_eq_lt.mp hlt

theorem pairwise_announced (s : Store) (account folderName : String) :
    (s.announced account folderName).Pairwise (·.uid < ·.uid) :=
  ((s.pairwise_folderRows account folderName).filter _).filter _

/-- What is there after a deletion was there before. -/
theorem get?_of_delete {uids : OrderedSet Uid}
    (h : (s.delete account folderName uids).2.get? account other uid = some r) :
    s.get? account other uid = some r := by
  by_cases hfolder : other = folderName
  · subst hfolder
    rw [get?_delete] at h
    exact (Option.ite_none_left_eq_some.mp h).2
  · rwa [get?_delete_of_ne hfolder] at h

/-- What is there after updates of flags was there before, perhaps with other flags. -/
theorem get?_of_updateFlags {updates : List (Uid × String)}
    (h : (s.updateFlags account folderName updates).2.get? account other uid = some r) :
    ∃ r₀, s.get? account other uid = some r₀ ∧ r = { r₀ with flags := r.flags } := by
  induction updates generalizing s with
  | nil => exact ⟨r, h, rfl⟩
  | cons u updates ih =>
      rw [updateFlags_cons] at h
      obtain ⟨r₁, hr₁, hr⟩ := ih h
      rw [get?_setFlags] at hr₁
      split at hr₁
      · obtain ⟨r₀, hr₀, rfl⟩ := Option.map_eq_some_iff.mp hr₁
        exact ⟨r₀, hr₀, hr⟩
      · exact ⟨r₁, hr₁, hr⟩

end Store

/-! ## What a report inserts -/

namespace Report

variable {report : Report} {folderName : String} {uid : Uid}

/-- Whether a report has a message inserted in a folder. -/
def Inserts (folderName : String) (uid : Uid) : Report → Prop
  | .messages folder new | .newMessages folder new _ _ | .refreshed folder new _ _ _ _ =>
    folder.shortName = folderName ∧ ∃ m ∈ new, m.uid = some uid
  | _ => False

/-- Whether what a report inserts is to be announced. -/
def notifies : Report → Bool
  | .newMessages _ _ _ notify | .refreshed _ _ _ _ _ notify => notify
  | _ => false

/-- What a report knows of the encryption of messages. -/
def states : Report → EncryptionStates
  | .newMessages _ _ states _ | .refreshed _ _ _ _ states _ => states
  | _ => ∅

/-- The folder whose rows are to be announced after a report. -/
def announced? : Report → Option Folder
  | .newMessages folder _ _ true | .refreshed folder _ _ _ _ true => some folder
  | _ => none

end Report

namespace CacheWriter

variable {w : CacheWriter} {s : Store} {event : Event} {folderName : String} {uid : Uid} {r : Row}

theorem exists_mem_rows_iff {folder : Folder} {messages : List RemoteMessage}
    {states : EncryptionStates} {notify : Bool} :
    (∃ r ∈ w.rows folder messages states notify, r.key = ⟨w.account, folderName, uid⟩) ↔
      folder.shortName = folderName ∧ ∃ m ∈ messages, m.uid = some uid := by
  constructor
  · rintro ⟨r, hr, hkey⟩
    obtain ⟨m, hm, uid', huid, rfl⟩ := mem_rows_iff.mp hr
    obtain rfl : uid' = uid := congrArg RowKey.uid hkey
    exact ⟨congrArg RowKey.folderName hkey, m, hm, huid⟩
  · rintro ⟨rfl, m, hm, huid⟩
    exact ⟨_, mem_rows_iff.mpr ⟨m, hm, uid, huid, rfl⟩, rfl⟩

/-- A report inserts a message if it has a row written for it. -/
theorem inserts_iff (w : CacheWriter) {report : Report} : report.Inserts folderName uid ↔
    ∃ x, w.writes? report = some x ∧ ∃ r ∈ x.inserted, r.key = ⟨w.account, folderName, uid⟩ := by
  have written : ∀ {folder : Folder} {messages : List RemoteMessage} {states : EncryptionStates}
      {notify : Bool} {x : Writes}, x.inserted = w.rows folder messages states notify →
      ((folder.shortName = folderName ∧ ∃ m ∈ messages, m.uid = some uid) ↔
        ∃ x', some x = some x' ∧ ∃ r ∈ x'.inserted, r.key = ⟨w.account, folderName, uid⟩) := by
    intro folder messages states notify x hx
    simp only [Option.some.injEq, exists_eq_left', hx, exists_mem_rows_iff]
  cases report with
  | messages folder messages => exact written rfl
  | newMessages folder messages states notify => exact written rfl
  | refreshed folder new updated deleted states notify => exact written rfl
  | moved source destination uids => simp [Report.Inserts, writes?]
  | folders _ | details _ _ _ | sent | progress _ | failed _ _ => simp [Report.Inserts, writes?]

/-- What is written in a row, beside the message itself, comes from the report. -/
theorem inserted_eq {report : Report} {x : Writes} (hx : w.writes? report = some x)
    (hr : r ∈ x.inserted) : r.isNew = report.notifies ∧ r.encrypted = report.states.get? r.uid := by
  cases report with
  | messages _ _ | newMessages _ _ _ _ | refreshed _ _ _ _ _ _ =>
      cases hx
      obtain ⟨m, -, uid, -, rfl⟩ := mem_rows_iff.mp hr
      exact ⟨rfl, rfl⟩
  | moved source destination uids =>
      cases hx
      cases hr
  | folders _ | details _ _ _ | sent | progress _ | failed _ _ => cases hx

/-- A row that is found after an event was written by it, or was there before, except for its
flags. -/
theorem get?_of_applyTo (h : (w.applyTo event s).2.get? w.account folderName uid = some r) :
    event.report.Inserts folderName uid ∧ r.isNew = event.report.notifies ∧
        r.encrypted = event.report.states.get? uid ∨
      ¬ event.report.Inserts folderName uid ∧
        ∃ r₀, s.get? w.account folderName uid = some r₀ ∧ r = { r₀ with flags := r.flags } := by
  rw [applyTo_eq] at h
  rw [w.inserts_iff]
  cases hx : w.writes? event.report with
  | none =>
      rw [hx] at h
      exact .inr ⟨by simp, r, h, rfl⟩
  | some x =>
      rw [hx] at h
      have hupdated : (((s.delete w.account x.folderName x.deleted).2.addRows x.inserted).2.updateFlags
          w.account x.folderName x.flags).2.get? w.account folderName uid = some r := h
      obtain ⟨r₁, hr₁, hr⟩ := Store.get?_of_updateFlags hupdated
      rw [Store.get?_addRows] at hr₁
      cases hlast : x.inserted.reverse.find? fun r => r.key = ⟨w.account, folderName, uid⟩ with
      | some r₀ =>
          rw [hlast, Option.some_or] at hr₁
          obtain rfl := Option.some.inj hr₁
          have hmem : r₀ ∈ x.inserted := List.mem_reverse.mp (List.mem_of_find?_eq_some hlast)
          have hkey : r₀.key = ⟨w.account, folderName, uid⟩ := by simpa using List.find?_some hlast
          obtain ⟨hnew, hencrypted⟩ := inserted_eq hx hmem
          obtain rfl : r₀.uid = uid := congrArg RowKey.uid hkey
          refine .inl ⟨⟨x, rfl, r₀, hmem, hkey⟩, ?_, ?_⟩
          · rw [hr]
            exact hnew
          · rw [hr]
            exact hencrypted
      | none =>
          rw [hlast, Option.none_or] at hr₁
          refine .inr ⟨?_, r₁, Store.get?_of_delete hr₁, hr⟩
          rintro ⟨x', hx', r', hr', hkey⟩
          cases hx'
          simpa [hkey] using List.find?_eq_none.mp hlast r' (List.mem_reverse.mpr hr')

end CacheWriter

/-! ## Histories -/

/-- The last event of a history that inserted a message in a folder. -/
def LastInserted (history : List Event) (folderName : String) (uid : Uid) (event : Event) : Prop :=
  ∃ before after, history = before ++ event :: after ∧ event.report.Inserts folderName uid ∧
    ∀ later ∈ after, ¬ later.report.Inserts folderName uid

namespace LastInserted

variable {history earlier later : List Event} {folderName : String} {uid : Uid} {e e' : Event}

theorem append_left (h : LastInserted later folderName uid e) (earlier : List Event) :
    LastInserted (earlier ++ later) folderName uid e := by
  obtain ⟨before, after, rfl, hinserts, hafter⟩ := h
  exact ⟨earlier ++ before, after, (List.append_assoc ..).symm, hinserts, hafter⟩

theorem append_right (h : LastInserted earlier folderName uid e)
    (hlater : ∀ event ∈ later, ¬ event.report.Inserts folderName uid) :
    LastInserted (earlier ++ later) folderName uid e := by
  obtain ⟨before, after, rfl, hinserts, hafter⟩ := h
  refine ⟨before, after ++ later, by simp, hinserts, fun event hevent => ?_⟩
  rcases List.mem_append.mp hevent with hevent | hevent
  · exact hafter event hevent
  · exact hlater event hevent

theorem singleton (h : e.report.Inserts folderName uid) : LastInserted [e] folderName uid e :=
  ⟨[], [], rfl, h, nofun⟩

/-- There is one last event: of two, neither comes after the other. -/
theorem unique (h : LastInserted history folderName uid e)
    (h' : LastInserted history folderName uid e') : e = e' := by
  obtain ⟨before, after, rfl, hinserts, hafter⟩ := h
  obtain ⟨before', after', hsplit, hinserts', hafter'⟩ := h'
  rcases List.append_eq_append_iff.mp hsplit with ⟨mid, -, hmid⟩ | ⟨mid, -, hmid⟩
  · cases mid with
    | nil => exact (List.cons.inj hmid).1
    | cons x mid =>
        obtain ⟨-, rfl⟩ := List.cons.inj hmid
        exact absurd hinserts' (hafter e' (by simp))
  · cases mid with
    | nil => exact (List.cons.inj hmid).1.symm
    | cons x mid =>
        obtain ⟨-, rfl⟩ := List.cons.inj hmid
        exact absurd hinserts (hafter' e (by simp))

/-- The last event of a history in two parts is one of the second part, if that has one. -/
theorem of_append (h : LastInserted (earlier ++ later) folderName uid e) :
    LastInserted later folderName uid e ∨ LastInserted earlier folderName uid e ∧
      ∀ event ∈ later, ¬ event.report.Inserts folderName uid := by
  obtain ⟨before, after, hsplit, hinserts, hafter⟩ := h
  rcases List.append_eq_append_iff.mp hsplit with ⟨mid, -, rfl⟩ | ⟨mid, rfl, hmid⟩
  · exact .inl ⟨mid, after, rfl, hinserts, hafter⟩
  · cases mid with
    | nil =>
        obtain rfl : later = e :: after := hmid.symm
        exact .inl ⟨[], after, rfl, hinserts, hafter⟩
    | cons x mid =>
        obtain ⟨rfl, rfl⟩ := List.cons.inj hmid
        have hafter := List.forall_mem_append.mp hafter
        exact .inr ⟨⟨before, mid, rfl, hinserts, hafter.1⟩, hafter.2⟩

end LastInserted

namespace CacheWriter

variable {w : CacheWriter} {folderName : String} {uid : Uid} {r r' : Row}

/-- What a cached row says beside its flags is what the last event said that inserted its
message. -/
theorem replay_origin {history : List Event}
    (h : (w.replay history .empty).get? w.account folderName uid = some r) :
    ∃ e, LastInserted history folderName uid e ∧ r.isNew = e.report.notifies ∧
      r.encrypted = e.report.states.get? uid := by
  induction history using List.reverseRecOn generalizing r with
  | nil => cases h
  | append_singleton history event ih =>
      rw [replay_append] at h
      rcases get?_of_applyTo h with ⟨hinserts, hnew, hencrypted⟩ | ⟨hnot, r₀, hr₀, hr⟩
      · exact ⟨event, (LastInserted.singleton hinserts).append_left history, hnew, hencrypted⟩
      · obtain ⟨e, hlast, hnew, hencrypted⟩ := ih hr₀
        refine ⟨e, hlast.append_right (List.forall_mem_singleton.mpr hnot), ?_, ?_⟩
        · rw [hr]
          exact hnew
        · rw [hr]
          exact hencrypted

/-! ## What is announced -/

/-- What is to be announced in a folder after a history: its unseen rows that came in last with a
wish to be announced. -/
structure Due (w : CacheWriter) (history : List Event) (folder : Folder) (notify : List Row) : Prop where
  ascending : notify.Pairwise (·.uid < ·.uid)
  mem_iff : ∀ r, r ∈ notify ↔
    (w.replay history .empty).get? w.account folder.shortName r.uid = some r ∧
      (∀ text, r.flags = some text → Flag.seen ∉ FlagSet.ofText text) ∧
        ∃ e, LastInserted history folder.shortName r.uid e ∧ e.report.notifies = true
  /-- What came in without that wish waits until it is inserted again. -/
  unwished : ∀ uid e, LastInserted history folder.shortName uid e → e.report.notifies = false →
    ∀ r ∈ notify, r.uid ≠ uid

theorem due_announced (w : CacheWriter) (history : List Event) (folder : Folder) :
    w.Due history folder ((w.replay history .empty).announced w.account folder.shortName) := by
  have hnotifies : ∀ r ∈ (w.replay history .empty).announced w.account folder.shortName,
      ∃ e, LastInserted history folder.shortName r.uid e ∧ e.report.notifies = true := by
    intro r hr
    obtain ⟨hfound, hnew, -⟩ := Store.mem_announced_iff.mp hr
    obtain ⟨e, hlast, horigin, -⟩ := replay_origin hfound
    exact ⟨e, hlast, horigin.symm.trans hnew⟩
  refine ⟨Store.pairwise_announced .., fun r => ⟨fun hr => ?_, ?_⟩, ?_⟩
  · obtain ⟨hfound, -, hunseen⟩ := Store.mem_announced_iff.mp hr
    exact ⟨hfound, Row.isSeen_eq_false_iff.mp hunseen, hnotifies r hr⟩
  · rintro ⟨hfound, hunseen, e, hlast, hwish⟩
    obtain ⟨e', hlast', horigin, -⟩ := replay_origin hfound
    obtain rfl := hlast.unique hlast'
    exact Store.mem_announced_iff.mpr
      ⟨hfound, horigin.trans hwish, Row.isSeen_eq_false_iff.mpr hunseen⟩
  · rintro uid e hlast hunwished r hr rfl
    obtain ⟨e', hlast', hwish⟩ := hnotifies r hr
    obtain rfl := hlast.unique hlast'
    rw [hunwished] at hwish
    cases hwish

/-- The rows that an update announces are those that are stored then. -/
theorem notify_eq (w : CacheWriter) (event : Event) (s : Store) : ∃ update,
    (w.applyTo event s).1 = .ok update ∧ update.notify =
      match event.report.announced? with
      | none => []
      | some folder => (w.applyTo event s).2.announced w.account folder.shortName := by
  obtain ⟨tag, report⟩ := event
  rw [applyTo_eq]
  cases report with
  | newMessages folder messages states notify => cases notify <;> exact ⟨_, rfl, rfl⟩
  | refreshed folder new updated deleted states notify => cases notify <;> exact ⟨_, rfl, rfl⟩
  | messages _ _ | moved _ _ _ | folders _ | details _ _ _ | sent | progress _ | failed _ _ =>
      exact ⟨_, rfl, rfl⟩

/-- Whatever was written before, an update announces exactly what is due in the folder of its event,
and nothing if the event does not ask for it. -/
theorem announces_exactly (w : CacheWriter) (history : List Event) (event : Event) : ∃ update,
    (w.applyTo event (w.replay history .empty)).1 = .ok update ∧
      match event.report.announced? with
      | none => update.notify = []
      | some folder => w.Due (history ++ [event]) folder update.notify := by
  obtain ⟨update, hupdate, hnotify⟩ := w.notify_eq event (w.replay history .empty)
  refine ⟨update, hupdate, ?_⟩
  have hdue := w.due_announced (history ++ [event])
  rw [replay_append] at hdue
  split
  next hnone =>
    rw [hnone] at hnotify
    exact hnotify
  next folder hfolder =>
    rw [hfolder] at hnotify
    rw [hnotify]
    exact hdue folder

/-- One message comes in while the user looks at the mail, and another one later, while the user does
not: only the second is announced. -/
theorem announces_exactly_background :
    let w : CacheWriter := ⟨"me"⟩
    let m (uid : Uid) : RemoteMessage := ⟨some uid, ∅, .empty, none⟩
    let shown : Event := ⟨⟨"ui", 1⟩, .newMessages .inbox [m 1] ∅ false⟩
    let arrived : Event := ⟨⟨"ui", 2⟩, .refreshed .inbox [m 2] [] ∅ ∅ true⟩
    let r : Row := ⟨"me", "INBOX", 2, some "", none, true, .empty⟩
    (w.applyTo arrived (w.replay [shown] .empty)).1 = .ok ⟨1, 0, 0, [r]⟩ ∧
      w.Due ([shown] ++ [arrived]) .inbox [r] := by
  intro w m shown arrived r
  have hupdate : (w.applyTo arrived (w.replay [shown] .empty)).1 = .ok ⟨1, 0, 0, [r]⟩ := by
    decide +kernel
  obtain ⟨update, hupdate', hdue⟩ := w.announces_exactly [shown] arrived
  obtain rfl := Except.ok.inj (hupdate'.symm.trans hupdate)
  exact ⟨hupdate, hdue⟩

/-! ## What is forgotten -/

/-- What was known of the encryption of a message is no longer known exactly if the message was
inserted since, the last time by an event that does not know it. -/
theorem forgets_iff {history later : List Event} {known : Bool}
    (hbefore : (w.replay history .empty).get? w.account folderName uid = some r)
    (hknown : r.encrypted = some known)
    (hafter : (w.replay (history ++ later) .empty).get? w.account folderName uid = some r') :
    r'.encrypted = none ↔
      ∃ e, LastInserted later folderName uid e ∧ e.report.states.get? uid = none := by
  obtain ⟨e, hlast, -, hencrypted⟩ := replay_origin hbefore
  obtain ⟨e', hlast', -, hencrypted'⟩ := replay_origin hafter
  rw [hencrypted']
  constructor
  · intro hunknown
    rcases hlast'.of_append with hlater | ⟨hearlier, -⟩
    · exact ⟨e', hlater, hunknown⟩
    · obtain rfl := hlast.unique hearlier
      rw [← hencrypted, hknown] at hunknown
      cases hunknown
  · rintro ⟨e₁, hlater, hunknown⟩
    obtain rfl := hlast'.unique (hlater.append_left history)
    exact hunknown

/-- A message is found to be encrypted; loading it once more with its page forgets that. -/
theorem forgets_iff_page :
    let w : CacheWriter := ⟨"me"⟩
    let m : RemoteMessage := ⟨some 1, ∅, .empty, none⟩
    let found : Event := ⟨⟨"ui", 1⟩, .newMessages .inbox [m] (OrderedMap.ofList [(1, true)]) false⟩
    let page : Event := ⟨⟨"ui", 2⟩, .messages .inbox [m]⟩
    let r : Row := ⟨"me", "INBOX", 1, some "", some true, false, .empty⟩
    (w.replay [found] .empty).get? "me" "INBOX" 1 = some r ∧
      ∃ r', (w.replay ([found] ++ [page]) .empty).get? "me" "INBOX" 1 = some r' ∧
        r'.encrypted = none := by
  intro w m found page r
  have hbefore : (w.replay [found] .empty).get? "me" "INBOX" 1 = some r := by decide +kernel
  have hafter : (w.replay ([found] ++ [page]) .empty).get? "me" "INBOX" 1 =
    some { r with encrypted := none } := by decide +kernel
  have hinserts : page.report.Inserts "INBOX" 1 := ⟨rfl, m, List.mem_singleton_self m, rfl⟩
  refine ⟨hbefore, _, hafter, ?_⟩
  exact (forgets_iff (w := w) hbefore rfl hafter).mpr ⟨page, .singleton hinserts, rfl⟩

end CacheWriter

end MailSync
