import MailSync.Proofs.Sync

/-!
# What a refresh reports

A synchronisation puts its report together from a listing, a snapshot of the
cache and two fetches, each of another moment. `Findings` are these replies,
and `syncFolder_holds_iff` says which conversation and which report come of
them. Since only the headers that were wanted are taken from what was fetched,
the parts of the report fit together whatever the replies were
(`syncFolder_consistent`).
-/

namespace MailSync

open Dialogue

/-! ## The parts of a synchronisation -/

theorem Trial.holds_inside_iff {c : InsideCall} {log : List (Exchange Request Request.Reply)}
    {reply : c.Reply} :
    Holds (ExceptT.lift (Work.inside c) : Trial c.Reply).run log (.ok reply) ↔
      log = [⟨.inside c, reply⟩] := by
  show Holds (.ask (Request.inside c) fun r => .done (.ok r : Except MailError c.Reply)) log
    (.ok reply) ↔ _
  rw [holds_ask_iff]
  constructor
  · rintro ⟨r, rest, rfl, h⟩
    obtain ⟨rfl, hreply⟩ := holds_done_iff.mp h
    rw [Except.ok.inj hreply]
  · rintro rfl
    exact ⟨reply, [], rfl, .done _⟩

namespace Task

variable {p : Profile} {s : SessionId} {folder : Folder} {messages : List RemoteMessage}
  {log : List (Exchange Request Request.Reply)}

theorem listing_holds_iff {status : FolderStatus} {remote : List RemoteMessage} :
    Holds (listing s status).run log (.ok remote) ↔
      ∃ listed, log = (if status.messages = 0 then []
          else [⟨.outside (.session s (.fetchFlags "1:*")), .ok listed⟩]) ∧
        remote = if status.messages = 0 then [] else listed := by
  rw [listing]
  split
  next => exact Trial.holds_pure_ok_iff.trans (exists_const _).symm
  next =>
    rw [exists_eq_right', ← Trial.holds_outside_iff]
    rfl

theorem within_eq_nil {uids : OrderedSet Uid} (h : uids.isEmpty = true) :
    within uids messages = [] := by
  refine List.eq_nil_iff_forall_not_mem.mpr fun m hm => ?_
  obtain ⟨-, uid, hmem, -⟩ := mem_within_iff.mp hm
  exact OrderedSet.isEmpty_iff.mp h uid hmem

theorem headersOf_holds_iff {uids : OrderedSet Uid} :
    Holds (headersOf s uids).run log (.ok messages) ↔
      ∃ headers, log = (if uids.isEmpty then []
          else [⟨.outside (.session s (.fetchHeaders (SequenceSet.ofSet uids))), .ok headers⟩]) ∧
        messages = within uids headers := by
  rw [headersOf]
  split
  next hnone =>
    simp only [within_eq_nil hnone]
    exact Trial.holds_pure_ok_iff.trans (exists_const _).symm
  next => exact Trial.holds_outside_last_iff

/-- What is known of the encryption of messages, given the snippets that are asked for unless all
messages count as encrypted. -/
def classified (settings : SyncSettings) (messages : List RemoteMessage)
    (snippets : List (Uid × Bytes)) : EncryptionStates :=
  if settings.showOnlyEncrypted then
    OrderedMap.ofList ((Reconciliation.uids messages).map fun uid => (uid, true))
  else if (Reconciliation.uids messages).isEmpty then ∅
  else OrderedMap.ofList (snippets.map fun (uid, snippet) => (uid, looksEncrypted snippet))

/-- The call for these snippets. -/
def snippetCalls (settings : SyncSettings) (s : SessionId) (messages : List RemoteMessage)
    (snippets : List (Uid × Bytes)) : List (Exchange Request Request.Reply) :=
  if settings.showOnlyEncrypted || (Reconciliation.uids messages).isEmpty then []
  else [⟨.outside (.session s (.fetchText (SequenceSet.ofList (Reconciliation.uids messages))
    snippetLength)), .ok snippets⟩]

theorem encryptionStates_holds_iff {settings : SyncSettings} {states : EncryptionStates} :
    Holds (encryptionStates settings s messages).run log (.ok states) ↔
      ∃ snippets, log = snippetCalls settings s messages snippets ∧
        states = classified settings messages snippets := by
  rw [encryptionStates]
  unfold classified snippetCalls
  split
  next hall =>
    simp only [hall, Bool.true_or, if_true]
    exact Trial.holds_pure_ok_iff.trans (exists_const _).symm
  next hall =>
    simp only [hall, Bool.false_or]
    split
    next hnone =>
      simp only [Reconciliation.uids, hnone, if_true]
      exact Trial.holds_pure_ok_iff.trans (exists_const _).symm
    next hsome =>
      simp only [Reconciliation.uids, hsome]
      exact Trial.holds_outside_last_iff

/-! ## What a synchronisation gets to know -/

/-- The replies to a synchronisation, call by call. One that is not asked for plays no part. -/
structure Findings where
  status : FolderStatus
  listed : List RemoteMessage
  cached : Snapshot
  headers : List RemoteMessage
  snippets : List (Uid × Bytes)
  foreground : Bool

namespace Findings

variable (t : Findings)

/-- The listing of the folder. An empty folder is not asked for one. -/
def remote : List RemoteMessage := if t.status.messages = 0 then [] else t.listed

/-- How the listing and the snapshot differ. -/
def diff : Diff := Reconciliation.diff t.cached t.remote

/-- The messages whose headers were wanted and have come. -/
def new : List RemoteMessage := within t.diff.insert t.headers

/-- The entries of the listing whose flags are to be written. -/
def updated : List RemoteMessage := within t.diff.update t.remote

/-- The conversation in which these are the replies. -/
def conversation (p : Profile) (s : SessionId) (folder : Folder) :
    List (Exchange Request Request.Reply) :=
  [⟨.outside (.session s (.select folder.fullName)), .ok t.status⟩] ++
    ((if t.status.messages = 0 then []
      else [⟨.outside (.session s (.fetchFlags "1:*")), .ok t.listed⟩]) ++
    ([⟨.outside (.store (.uidFlags p.email folder.shortName)), .ok t.cached⟩] ++
    ((if t.diff.insert.isEmpty then []
      else [⟨.outside (.session s (.fetchHeaders (SequenceSet.ofSet t.diff.insert))),
        .ok t.headers⟩]) ++
    (snippetCalls p.settings s t.new t.snippets ++ [⟨.inside .isForeground, t.foreground⟩]))))

/-- The report in which it ends. -/
def report (p : Profile) (folder : Folder) : Report :=
  .refreshed folder t.new t.updated t.diff.delete (classified p.settings t.new t.snippets)
    (!t.foreground && folder.isInbox)

end Findings

theorem announces_holds_iff {notify : Bool} : Holds (announces folder).run log (.ok notify) ↔
    ∃ foreground : Bool, log = [⟨.inside .isForeground, foreground⟩] ∧
      notify = (!foreground && folder.isInbox) := by
  rw [announces, Attempt.holds_bind_ok_iff]
  constructor
  · rintro ⟨before, after, foreground, rfl, hask, hrest⟩
    obtain ⟨rfl, rfl⟩ := Trial.holds_pure_ok_iff.mp hrest
    obtain rfl := Trial.holds_inside_iff.mp hask
    exact ⟨foreground, rfl, rfl⟩
  · rintro ⟨foreground, rfl, rfl⟩
    exact ⟨_, [], foreground, rfl, Trial.holds_inside_iff.mpr rfl, .done _⟩

/-- A synchronisation that succeeds had one of these conversations, and each of them can be had. -/
theorem syncFolder_holds_iff {report : Report} :
    Holds (syncFolder p s folder).run log (.ok report) ↔
      ∃ t : Findings, log = t.conversation p s folder ∧ report = t.report p folder := by
  rw [syncFolder]
  constructor
  · intro h
    obtain ⟨_, _, status, rfl, hselect, h⟩ := Attempt.holds_bind_ok_iff.mp h
    obtain ⟨_, _, remote, rfl, hlisting, h⟩ := Attempt.holds_bind_ok_iff.mp h
    obtain ⟨_, _, cached, rfl, hsnapshot, h⟩ := Attempt.holds_bind_ok_iff.mp h
    obtain ⟨_, _, new, rfl, hheaders, h⟩ := Attempt.holds_bind_ok_iff.mp h
    obtain ⟨_, _, states, rfl, hstates, h⟩ := Attempt.holds_bind_ok_iff.mp h
    obtain ⟨_, _, notify, rfl, hannounces, h⟩ := Attempt.holds_bind_ok_iff.mp h
    obtain ⟨rfl, rfl⟩ := Trial.holds_pure_ok_iff.mp h
    obtain rfl := Trial.holds_outside_iff.mp hselect
    obtain ⟨listed, rfl, rfl⟩ := listing_holds_iff.mp hlisting
    obtain rfl := Trial.holds_outside_iff.mp hsnapshot
    obtain ⟨headers, rfl, rfl⟩ := headersOf_holds_iff.mp hheaders
    obtain ⟨snippets, rfl, rfl⟩ := encryptionStates_holds_iff.mp hstates
    obtain ⟨foreground, rfl, rfl⟩ := announces_holds_iff.mp hannounces
    exact ⟨⟨status, listed, cached, headers, snippets, foreground⟩,
      by rw [List.append_nil]; rfl, rfl⟩
  · rintro ⟨t, rfl, rfl⟩
    refine Attempt.holds_bind_ok_iff.mpr
      ⟨_, _, t.status, rfl, Trial.holds_outside_iff.mpr rfl, ?_⟩
    refine Attempt.holds_bind_ok_iff.mpr
      ⟨_, _, t.remote, rfl, listing_holds_iff.mpr ⟨t.listed, rfl, rfl⟩, ?_⟩
    refine Attempt.holds_bind_ok_iff.mpr
      ⟨_, _, t.cached, rfl, Trial.holds_outside_iff.mpr rfl, ?_⟩
    refine Attempt.holds_bind_ok_iff.mpr
      ⟨_, _, t.new, rfl, headersOf_holds_iff.mpr ⟨t.headers, rfl, rfl⟩, ?_⟩
    refine Attempt.holds_bind_ok_iff.mpr
      ⟨_, _, _, rfl, encryptionStates_holds_iff.mpr ⟨t.snippets, rfl, rfl⟩, ?_⟩
    exact Attempt.holds_bind_ok_iff.mpr ⟨_, [], _, (List.append_nil _).symm,
      announces_holds_iff.mpr ⟨t.foreground, rfl, rfl⟩, .done _⟩

/-! ## A report that fits together -/

/-- The sets of numbers whose headers are fetched. -/
def headerSets (log : List (Exchange Request Request.Reply)) : List String :=
  log.filterMap fun x => match x.question with
    | .outside (.session _ (.fetchHeaders set)) => some set
    | _ => none

/-- The sets of numbers whose snippets are fetched. -/
def snippetSets (log : List (Exchange Request Request.Reply)) : List String :=
  log.filterMap fun x => match x.question with
    | .outside (.session _ (.fetchText set _)) => some set
    | _ => none

/-- A report that fits together, and the fetches made for it. -/
structure Consistent (settings : SyncSettings) (t : Findings)
    (log : List (Exchange Request Request.Reply)) (new updated : List RemoteMessage)
    (deleted : OrderedSet Uid) (states : EncryptionStates) : Prop where
  deletes : deleted = t.diff.delete
  inserts : ∀ m ∈ new, ∃ uid ∈ t.diff.insert, m.uid = some uid
  /-- What is updated are entries of the listing, flags and all, with just these numbers. -/
  updates : (∀ m ∈ updated, m ∈ t.remote) ∧
    ∀ uid, uid ∈ Reconciliation.uids updated ↔ uid ∈ t.diff.update
  disjoint : ∀ uid, ¬ (uid ∈ Reconciliation.uids new ∧ uid ∈ Reconciliation.uids updated) ∧
    ¬ (uid ∈ Reconciliation.uids new ∧ uid ∈ deleted) ∧
    ¬ (uid ∈ Reconciliation.uids updated ∧ uid ∈ deleted)
  /-- Headers are fetched once, or not at all if nothing is new. -/
  headers : headerSets log =
    if t.diff.insert.isEmpty then [] else [SequenceSet.ofSet t.diff.insert]
  /-- The fetch is for the new numbers, whatever the server takes for `*`. -/
  wanted : ∀ set ∈ headerSets log, ∀ largest uid,
    SequenceSet.contains largest set uid = true ↔ uid ∈ t.diff.insert
  /-- Where all messages count as encrypted, none is looked into. -/
  encrypted : settings.showOnlyEncrypted = true → snippetSets log = [] ∧
    ∀ uid, states.get? uid = if uid ∈ Reconciliation.uids new then some true else none

section Consistency

variable (t : Findings)

theorem mem_uids_within_iff {uids : OrderedSet Uid} {uid : Uid} :
    uid ∈ Reconciliation.uids (within uids messages) ↔
      uid ∈ uids ∧ uid ∈ Reconciliation.uids messages := by
  rw [Reconciliation.mem_uids_iff, Reconciliation.mem_uids_iff]
  constructor
  · rintro ⟨m, hm, huid⟩
    obtain ⟨hm, uid', hmem, huid'⟩ := mem_within_iff.mp hm
    obtain rfl := Option.some.inj (huid.symm.trans huid')
    exact ⟨hmem, m, hm, huid⟩
  · rintro ⟨hmem, m, hm, huid⟩
    exact ⟨m, mem_within_iff.mpr ⟨hm, uid, hmem, huid⟩, huid⟩

theorem headerSets_conversation (p : Profile) (s : SessionId) (folder : Folder) :
    headerSets (t.conversation p s folder) =
      if t.diff.insert.isEmpty then [] else [SequenceSet.ofSet t.diff.insert] := by
  have hlisting : headerSets (if t.status.messages = 0 then []
      else [⟨.outside (.session s (.fetchFlags "1:*")), .ok t.listed⟩]) = [] := by
    split <;> rfl
  have hsnippets : headerSets (snippetCalls p.settings s t.new t.snippets) = [] := by
    rw [snippetCalls]
    split <;> rfl
  unfold headerSets at hlisting hsnippets ⊢
  rw [Findings.conversation, List.filterMap_append, List.filterMap_append, hlisting,
    List.filterMap_append, List.filterMap_append, List.filterMap_append, hsnippets]
  split <;> rfl

theorem snippetSets_conversation {p : Profile} (s : SessionId) (folder : Folder)
    (h : p.settings.showOnlyEncrypted = true) :
    snippetSets (t.conversation p s folder) = [] := by
  have hsnippets : snippetCalls p.settings s t.new t.snippets = [] := by
    rw [snippetCalls, h, Bool.true_or, if_pos rfl]
  rw [Findings.conversation, hsnippets]
  split <;> split <;> rfl

theorem get?_classified {settings : SyncSettings} (h : settings.showOnlyEncrypted = true)
    (messages : List RemoteMessage) (snippets : List (Uid × Bytes)) (uid : Uid) :
    (classified settings messages snippets).get? uid =
      if uid ∈ Reconciliation.uids messages then some true else none := by
  rw [classified, if_pos h]
  split
  next hmem =>
    have hentry : (uid, true) ∈ (Reconciliation.uids messages).map fun uid => (uid, true) :=
      List.mem_map_of_mem hmem
    obtain ⟨state, hstate⟩ := Option.isSome_iff_exists.mp (OrderedMap.isSome_get?_ofList hentry)
    obtain ⟨_, _, heq⟩ := List.mem_map.mp (OrderedMap.mem_of_get?_ofList hstate)
    rw [hstate, ← (Prod.mk.inj heq).2]
  next hmem =>
    refine Option.eq_none_iff_forall_ne_some.mpr fun state hstate => hmem ?_
    obtain ⟨uid', huid', heq⟩ := List.mem_map.mp (OrderedMap.mem_of_get?_ofList hstate)
    rwa [← (Prod.mk.inj heq).1]

/-- Whatever a synchronisation gets to know, its report fits together. -/
theorem syncFolder_consistent {report : Report}
    (h : Holds (syncFolder p s folder).run log (.ok report)) :
    ∃ t : Findings, log = t.conversation p s folder ∧
      ∃ new updated deleted states notify,
        report = .refreshed folder new updated deleted states notify ∧
        Consistent p.settings t log new updated deleted states := by
  obtain ⟨t, rfl, rfl⟩ := syncFolder_holds_iff.mp h
  refine ⟨t, rfl, t.new, t.updated, t.diff.delete, _, _, rfl, ?_⟩
  have hinsert : ∀ uid, uid ∈ Reconciliation.uids t.new → uid ∈ t.diff.insert := fun uid huid =>
    (mem_uids_within_iff.mp huid).1
  have hupdate : ∀ uid, uid ∈ Reconciliation.uids t.updated ↔ uid ∈ t.diff.update := fun uid => by
    refine mem_uids_within_iff.trans (and_iff_left_of_imp fun hmem => ?_)
    obtain ⟨m, hm, huid, -⟩ := Reconciliation.mem_update_iff.mp hmem
    exact Reconciliation.mem_uids_iff.mpr ⟨m, hm, huid⟩
  constructor
  case deletes => rfl
  case inserts => exact fun m hm => (mem_within_iff.mp hm).2
  case updates => exact ⟨fun m hm => (mem_within_iff.mp hm).1, hupdate⟩
  case disjoint =>
    intro uid
    obtain ⟨hiu, hid, hud⟩ := Reconciliation.disjoint_diff t.cached t.remote uid
    exact ⟨fun h => hiu ⟨hinsert uid h.1, (hupdate uid).mp h.2⟩,
      fun h => hid ⟨hinsert uid h.1, h.2⟩, fun h => hud ⟨(hupdate uid).mp h.1, h.2⟩⟩
  case headers => exact headerSets_conversation t p s folder
  case wanted =>
    intro set hset largest uid
    rw [headerSets_conversation] at hset
    split at hset
    next => cases hset
    next hsome =>
      obtain rfl := List.mem_singleton.mp hset
      refine SequenceSet.contains_ofSet largest (fun hnil => hsome ?_) uid
      rw [OrderedSet.isEmpty, hnil]
      rfl
  case encrypted =>
    exact fun hall => ⟨snippetSets_conversation t s folder hall, get?_classified hall t.new t.snippets⟩

/-- The listing repeats a number and lacks one. Of the two new messages the headers of one are
missing and those of the other come twice, with headers that nobody asked for. -/
theorem syncFolder_consistent_torn :
    let p : Profile := ⟨"me", ⟨20, true⟩⟩
    let t : Findings :=
      { status := ⟨5, none, none⟩
        listed := [⟨some 1, .ofText "\\Seen", .empty, none⟩, ⟨none, ∅, .empty, none⟩,
          ⟨some 2, ∅, .empty, none⟩, ⟨some 2, .ofText "\\Seen", .empty, none⟩,
          ⟨some 4, ∅, .empty, none⟩]
        cached := OrderedMap.ofList [(2, some ""), (3, none)]
        headers := [⟨some 1, ∅, .empty, some 7⟩, ⟨some 9, ∅, .empty, none⟩,
          ⟨none, ∅, .empty, none⟩, ⟨some 1, ∅, .empty, none⟩]
        snippets := []
        foreground := false }
    Holds (syncFolder p 0 .inbox).run (t.conversation p 0 .inbox) (.ok (t.report p .inbox)) ∧
      ∃ (t' : Findings) (new updated : List RemoteMessage) (deleted : OrderedSet Uid)
        (states : EncryptionStates),
        t.conversation p 0 .inbox = t'.conversation p 0 .inbox ∧
        new.map (·.uid) = [some 1, some 1] ∧ updated.map (·.uid) = [some 2, some 2] ∧
        deleted.toList = [3] ∧
        Consistent p.settings t' (t.conversation p 0 .inbox) new updated deleted states := by
  intro p t
  have h : Holds (syncFolder p 0 .inbox).run (t.conversation p 0 .inbox)
      (.ok (t.report p .inbox)) := syncFolder_holds_iff.mpr ⟨t, rfl, rfl⟩
  obtain ⟨t', hlog, new, updated, deleted, states, notify, hreport, hconsistent⟩ :=
    syncFolder_consistent h
  rw [Findings.report, Report.refreshed.injEq] at hreport
  obtain ⟨-, rfl, rfl, rfl, -, -⟩ := hreport
  exact ⟨h, t', _, _, _, states, hlog, by decide +kernel, by decide +kernel, by decide +kernel,
    hconsistent⟩

end Consistency

end Task

end MailSync
