import Mathlib.Data.Bool.AllAny
import Mathlib.Data.List.Pairwise
import MailSync.Proofs.Paging
import MailSync.Proofs.Reconciliation

/-!
# Looking for new messages

The search for the numbers after the last one known is bounded by the numbers
there can be, is answered with the largest number of the folder in any case, and
what it finds may be cached already. Each step of the task is a lemma that says
what it has of this (`Task.uidsAfter_succeeds`, `Task.uncached_succeeds`), and
`NewSearch.findsNew` puts the three filters together: what is reported are the
messages above the last number that are not cached, and where there are none,
nothing is fetched.
-/

namespace MailSync

open Dialogue

/-- Counting on from a number that a message can have does not overflow. -/
theorem toNat_add_one {uid : Uid} (h : uid.toNat < UInt32.size) :
    (uid + 1).toNat = uid.toNat + 1 := by
  rw [UInt64.toNat_add, UInt64.toNat_one]
  exact Nat.mod_eq_of_lt (Nat.lt_of_le_of_lt h (by decide))

namespace FolderContent

/-! ## A session that keeps to the protocol -/

section Definitions

variable (content : FolderContent)

/-- The numbers of the folder that the text of a set stands for. -/
def found (set : String) : List Uid :=
  content.uids.filter (SequenceSet.contains (content.uids.getLastD 0) set)

/-- Replies to a worker whose session has this folder open: a search finds the numbers that it asks
for, and a fetch brings each message that it asks for once, both in any order. The cache is as in
a snapshot. -/
def Finds (p : Profile) (folder : Folder) (cached : Snapshot) : (q : Request) → q.Reply → Prop
  | .outside (.session _ (.select name)), reply => name = folder.fullName →
    ∃ status, reply = .ok status
  | .outside (.session _ (.search query)), reply => ∀ set, query = "UID " ++ set →
    ∃ uids, reply = .ok uids ∧ uids.Perm (content.found set)
  | .outside (.session _ (.fetchHeaders set)), reply =>
    ∃ messages, reply = .ok messages ∧ messages.Perm (content.asked set)
  | .outside (.session _ (.fetchText set _)), reply =>
    ∃ snippets, reply = .ok snippets ∧ (snippets.map (·.1)).Perm (content.found set)
  | .outside (.store (.uidFlags account name)), reply => account = p.email →
    name = folder.shortName → reply = .ok cached
  | _, _ => True

/-- The messages above a number. -/
def above (lastUid : Uid) : List RemoteMessage :=
  content.messages.filter fun m => m.uid.any (lastUid < ·)

/-- The messages above a number that are not cached. -/
def newer (lastUid : Uid) (cached : Snapshot) : List RemoteMessage :=
  content.messages.filter fun m => m.uid.any fun uid => lastUid < uid && !cached.contains uid

/-- The text of a set of numbers of the folder above the last one, with at least one of them.
Counting on from such a number does not overflow. -/
def Wanted (lastUid : Uid) (set : String) : Prop :=
  ∃ uids : List Uid, uids ≠ [] ∧ set = SequenceSet.ofList uids ∧
    ∀ uid ∈ uids, uid ∈ content.uids ∧ lastUid < uid ∧ (uid + 1).toNat = uid.toNat + 1

/-- What may be asked in search of the messages above a number. The search starts with the number
after it, which is one that a message can have, and what is fetched is wanted. -/
def Seeks (lastUid : Uid) : Request → Prop
  | .outside (.session _ (.search query)) => ∃ first : Uid, first.toNat = lastUid.toNat + 1 ∧
    first.toNat < UInt32.size ∧ query = "UID " ++ toString first ++ ":*"
  | .outside (.session _ (.fetchHeaders set)) | .outside (.session _ (.fetchText set _)) =>
    content.Wanted lastUid set
  | .outside (.session _ (.select _)) | .outside (.store (.uidFlags _ _))
  | .inside .isForeground => True
  | _ => False

end Definitions

theorem exists_finds (content : FolderContent) (p : Profile) (folder : Folder) (cached : Snapshot)
    (q : Request) : ∃ reply, content.Finds p folder cached q reply := by
  cases q with
  | inside c =>
      cases c with
      | emit _ | publish _ | release _ => exact ⟨(), trivial⟩
      | isCancelled | isForeground => exact ⟨true, trivial⟩
  | outside c =>
      cases c with
      | token | connect _ _ | send _ _ _ => exact ⟨.error default, trivial⟩
      | store c =>
          cases c with
          | uidFlags account name => exact ⟨.ok cached, fun _ _ => rfl⟩
          | addRows _ | updateFlags _ _ _ | delete _ _ _ | newRows _ _ | unseenUids _ _ =>
              exact ⟨.error default, trivial⟩
      | session _ c =>
          cases c with
          | select _ => exact ⟨.ok .blank, fun _ => ⟨_, rfl⟩⟩
          | search query =>
              by_cases hset : ∃ set, query = "UID " ++ set
              · obtain ⟨set, rfl⟩ := hset
                refine ⟨.ok (content.found set), fun set' heq => ⟨_, rfl, ?_⟩⟩
                rw [(String.append_right_inj _).mp heq]
              · exact ⟨.error default, fun set heq => absurd ⟨set, heq⟩ hset⟩
          | fetchHeaders set => exact ⟨.ok (content.asked set), _, rfl, .refl _⟩
          | fetchText set _ =>
              refine ⟨.ok ((content.found set).map fun uid => (uid, [])), _, rfl, ?_⟩
              rw [List.map_map]
              exact .of_eq (List.map_id _)
          | noop | listFolders | fetchFlags _ | fetchRaw _ | move _ _ | logout =>
              exact ⟨.error default, trivial⟩

variable {content : FolderContent} {p : Profile} {folder : Folder} {cached : Snapshot}
  {lastUid : Uid}

theorem Wanted.exists_above {set : String} (h : content.Wanted lastUid set) :
    ∃ uid ∈ content.uids, lastUid < uid := by
  obtain ⟨uids, hne, -, huids⟩ := h
  obtain ⟨uid, huid⟩ := List.exists_mem_of_ne_nil uids hne
  exact ⟨uid, (huids uid huid).1, (huids uid huid).2.1⟩

theorem le_getLastD {uid : Uid} (h : uid ∈ content.uids) : uid ≤ content.uids.getLastD 0 := by
  have hle : content.uids.Pairwise (· ≤ ·) := content.ascending.imp UInt64.le_of_lt
  rw [List.getLastD_eq_getLast?, List.getLast?_eq_some_getLast (List.ne_nil_of_mem h)]
  exact hle.rel_getLast h

/-- Of what is found from the next number on, the numbers above the last one are taken. -/
theorem filter_found {first : Uid} (hfirst : first.toNat = lastUid.toNat + 1) :
    (content.found (toString first ++ ":*")).filter (lastUid < ·) =
      content.uids.filter (lastUid < ·) := by
  rw [found, List.filter_filter]
  refine List.filter_congr fun uid huid => ?_
  rw [Bool.and_eq_left_iff_imp, decide_eq_true_eq, SequenceSet.contains_upwards]
  intro habove
  have hle : first ≤ uid := by
    rw [UInt64.le_iff_toNat_le, hfirst]
    exact UInt64.lt_iff_toNat_lt.mp habove
  refine ⟨UInt64.le_trans Std.min_le_left hle, ?_⟩
  rw [UInt64.max_def]
  split
  next => exact le_getLastD huid
  next hlast => exact UInt64.le_trans (le_getLastD huid) (UInt64.le_of_lt (UInt64.not_le.mp hlast))

theorem map_uid_above (content : FolderContent) (lastUid : Uid) :
    (content.above lastUid).map (·.uid) = (content.uids.filter (lastUid < ·)).map some := by
  have hfilter := List.filter_map (f := (·.uid)) (l := content.messages)
    (p := fun uid : Option Uid => uid.any (lastUid < ·))
  rw [content.numbered, List.filter_map] at hfilter
  exact hfilter.symm

theorem toInsert_above (content : FolderContent) (lastUid : Uid) (cached : Snapshot) :
    Reconciliation.toInsert cached.contains (content.above lastUid) =
      content.newer lastUid cached := by
  rw [Reconciliation.toInsert, above, newer, List.filter_filter]
  refine List.filter_congr fun m _ => ?_
  cases m.uid with
  | none => rfl
  | some uid => exact Bool.and_comm _ _

/-- Asked for the numbers above the last one, in any order, a session has all messages above it. -/
theorem asked_above {uids : List Uid} (huids : uids.Perm (content.uids.filter (lastUid < ·)))
    (hne : uids ≠ []) : content.asked (SequenceSet.ofList uids) = content.above lastUid := by
  have hset : OrderedSet.ofList uids = OrderedSet.ofList (content.uids.filter (lastUid < ·)) :=
    OrderedSet.ext fun uid => by
      rw [OrderedSet.mem_ofList, OrderedSet.mem_ofList]
      exact huids.mem_iff
  have hfilter : content.uids.filter (lastUid < ·) ≠ [] := fun hnil =>
    hne (List.perm_nil.mp (hnil ▸ huids))
  rw [SequenceSet.ofList, hset]
  exact asked_ofList List.filter_sublist (content.map_uid_above lastUid) hfilter

theorem mem_uids_newer {uid : Uid} (h : uid ∈ Reconciliation.uids (content.newer lastUid cached)) :
    uid ∈ content.uids ∧ lastUid < uid := by
  obtain ⟨m, hm, huid⟩ := Reconciliation.mem_uids_iff.mp h
  obtain ⟨hm, hnew⟩ := List.mem_filter.mp hm
  have hnumber : m.uid ∈ content.messages.map (·.uid) := List.mem_map_of_mem hm
  rw [content.numbered, huid] at hnumber
  rw [huid, Option.any_some, Bool.and_eq_true, decide_eq_true_eq] at hnew
  exact ⟨(List.mem_map_of_injective (Option.some_injective _)).mp hnumber, hnew.1⟩

end FolderContent

namespace Task

open Attempt (Succeeds)

variable {content : FolderContent} {p : Profile} {s : SessionId} {folder : Folder}
  {cached : Snapshot} {lastUid : Uid}

theorem uidAfter?_cases (uid : Uid) :
    (uidAfter? uid = none ∧ UInt32.size ≤ uid.toNat + 1) ∨
      ∃ first, uidAfter? uid = some first ∧ first.toNat = uid.toNat + 1 ∧
        first.toNat < UInt32.size := by
  rw [uidAfter?]
  split
  next h =>
    have hfirst := toNat_add_one (Nat.lt_of_succ_lt h)
    exact .inr ⟨uid + 1, rfl, hfirst, hfirst ▸ h⟩
  next h => exact .inl ⟨rfl, Nat.le_of_not_lt h⟩

theorem uidsAfter_succeeds (hsmall : ∀ uid ∈ content.uids, uid.toNat < UInt32.size) :
    Succeeds (content.Finds p folder cached) (content.Seeks lastUid)
      (·.Perm (content.uids.filter (lastUid < ·))) (uidsAfter s lastUid) := by
  rw [uidsAfter]
  rcases uidAfter?_cases lastUid with ⟨hlast, hsize⟩ | ⟨first, hnext, hfirst, hsize⟩
  · rw [hlast]
    refine Succeeds.pure (.of_eq (List.filter_eq_nil_iff.mpr fun uid huid habove => ?_).symm)
    have hlt := UInt64.lt_iff_toNat_lt.mp (of_decide_eq_true habove)
    have := hsmall uid huid
    omega
  · rw [hnext]
    have hsearch : Succeeds (content.Finds p folder cached) (content.Seeks lastUid)
        (·.Perm (content.found (toString first ++ ":*")))
        (Trial.session s (.search ("UID " ++ toString first ++ ":*"))) :=
      Trial.succeeds_outside (c := .session s (.search ("UID " ++ toString first ++ ":*")))
        ⟨first, hfirst, hsize, rfl⟩ fun reply hreply => hreply _ (String.append_assoc ..)
    refine hsearch.bind fun found hfound => Succeeds.pure ?_
    rw [← FolderContent.filter_found hfirst]
    exact hfound.filter _

theorem uncached_succeeds (hsmall : ∀ uid ∈ content.uids, uid.toNat < UInt32.size) {uids : List Uid}
    (huids : uids.Perm (content.uids.filter (lastUid < ·))) :
    Succeeds (content.Finds p folder cached) (content.Seeks lastUid)
      (·.Perm (content.newer lastUid cached)) (uncached p s folder uids) := by
  rw [uncached]
  split
  next hnone =>
    refine Succeeds.pure (.of_eq ?_)
    have habove := content.map_uid_above lastUid
    rw [List.isEmpty_iff.mp hnone] at huids
    rw [List.nil_perm.mp huids, List.map_nil, List.map_eq_nil_iff] at habove
    rw [← content.toInsert_above, habove]
    rfl
  next hsome =>
    have hsnapshot : Succeeds (content.Finds p folder cached) (content.Seeks lastUid) (· = cached)
        (snapshot p folder) :=
      Trial.succeeds_outside (c := .store (.uidFlags p.email folder.shortName)) trivial
        fun reply hreply => ⟨cached, hreply rfl rfl, rfl⟩
    have hfetch : Succeeds (content.Finds p folder cached) (content.Seeks lastUid)
        (·.Perm (content.above lastUid))
        (Trial.session s (.fetchHeaders (SequenceSet.ofList uids))) := by
      have hne : uids ≠ [] := fun hnil => hsome (List.isEmpty_iff.mpr hnil)
      rw [← FolderContent.asked_above huids hne]
      refine Trial.succeeds_outside (c := .session s (.fetchHeaders (SequenceSet.ofList uids)))
        ⟨uids, hne, rfl, fun uid huid => ?_⟩ fun _ hreply => hreply
      obtain ⟨hmem, habove⟩ := List.mem_filter.mp (huids.mem_iff.mp huid)
      exact ⟨hmem, of_decide_eq_true habove, toNat_add_one (hsmall _ hmem)⟩
    refine hsnapshot.bind ?_
    rintro _ rfl
    refine hfetch.bind fun found hfound => Succeeds.pure ?_
    rw [← content.toInsert_above]
    exact hfound.filter _

theorem encryptionStates_succeeds {settings : SyncSettings} {messages : List RemoteMessage}
    (hsmall : ∀ uid ∈ content.uids, uid.toNat < UInt32.size)
    (hmessages : messages.Perm (content.newer lastUid cached)) :
    Succeeds (content.Finds p folder cached) (content.Seeks lastUid) (fun _ => True)
      (encryptionStates settings s messages) := by
  rw [encryptionStates]
  dsimp only
  split
  next => exact Succeeds.pure trivial
  split
  next => exact Succeeds.pure trivial
  next hsome =>
    have hfetch : Succeeds (content.Finds p folder cached) (content.Seeks lastUid) (fun _ => True)
        (Trial.session s (.fetchText (SequenceSet.ofList (Reconciliation.uids messages))
          snippetLength)) := by
      refine Trial.succeeds_outside (c := .session s (.fetchText _ snippetLength))
        ⟨_, fun hnil => hsome (List.isEmpty_iff.mpr hnil), rfl, fun uid huid => ?_⟩
        fun _ hreply => ?_
      · obtain ⟨hmem, habove⟩ :=
          FolderContent.mem_uids_newer ((hmessages.filterMap _).mem_iff.mp huid)
        exact ⟨hmem, habove, toNat_add_one (hsmall _ hmem)⟩
      · obtain ⟨snippets, rfl, -⟩ := hreply
        exact ⟨snippets, rfl, trivial⟩
    exact hfetch.bind fun _ _ => Succeeds.pure trivial

theorem announces_succeeds : Succeeds (content.Finds p folder cached) (content.Seeks lastUid)
    (fun _ => True) (announces folder) :=
  (Trial.succeeds_inside trivial).bind fun _ _ => Succeeds.pure trivial

/-- The whole search succeeds, with the messages above the last number that are not cached. -/
theorem loadNew_succeeds (hsmall : ∀ uid ∈ content.uids, uid.toNat < UInt32.size) :
    Succeeds (content.Finds p folder cached) (content.Seeks lastUid)
      (fun report => ∃ messages states notify, report = .newMessages folder messages states notify ∧
        messages.Perm (content.newer lastUid cached)) (loadNew p s folder lastUid) := by
  have hselect : Succeeds (content.Finds p folder cached) (content.Seeks lastUid) (fun _ => True)
      (Trial.session s (.select folder.fullName)) :=
    Trial.succeeds_outside (c := .session s (.select folder.fullName)) trivial
      fun reply hreply => by
        obtain ⟨status, rfl⟩ := hreply rfl
        exact ⟨status, rfl, trivial⟩
  rw [loadNew]
  refine hselect.bind fun _ _ => (uidsAfter_succeeds hsmall).bind fun uids huids =>
    (uncached_succeeds hsmall huids).bind fun messages hmessages =>
      (encryptionStates_succeeds hsmall hmessages).bind fun states _ =>
        announces_succeeds.bind fun notify _ => Succeeds.pure ?_
  exact ⟨messages, states, notify, rfl, hmessages⟩

end Task

/-! ## What a search for new messages comes to -/

/-- A search for the messages above a number that came to its end in a session that keeps to the
protocol. -/
def NewSearch (p : Profile) (s : SessionId) (folder : Folder) (content : FolderContent)
    (cached : Snapshot) (lastUid : Uid) (log : List (Exchange Request Request.Reply))
    (o : Except MailError Report) : Prop :=
  (∀ x ∈ log, content.Finds p folder cached x.question x.reply) ∧
    Holds (Task.inSession p s (.loadNew folder lastUid)).run log o

/-- What every search for the messages above a number comes to. -/
structure FindsNew (p : Profile) (s : SessionId) (folder : Folder) (content : FolderContent)
    (cached : Snapshot) (lastUid : Uid) : Prop where
  /-- It can come to its end. -/
  ends : ∃ log o, NewSearch p s folder content cached lastUid log o
  /-- It does with just the messages that are above the number and not cached. -/
  reports : ∀ log o, NewSearch p s folder content cached lastUid log o →
    ∃ messages states notify, o = .ok (.newMessages folder messages states notify) ∧
      messages.Perm (content.newer lastUid cached)
  /-- It asks for no more than it needs for that, and counting does not overflow. -/
  seeks : ∀ log o, NewSearch p s folder content cached lastUid log o →
    ∀ x ∈ log, content.Seeks lastUid x.question
  /-- Where no message is above the number, neither headers nor snippets are fetched. -/
  spares : (∀ uid ∈ content.uids, uid ≤ lastUid) →
    ∀ log o, NewSearch p s folder content cached lastUid log o → ∀ x ∈ log, ∀ s' set,
      x.question ≠ .outside (.session s' (.fetchHeaders set)) ∧
        ∀ length, x.question ≠ .outside (.session s' (.fetchText set length))
  /-- Where no message can be above the number, nothing is searched for. -/
  leaves : UInt32.size ≤ lastUid.toNat + 1 →
    ∀ log o, NewSearch p s folder content cached lastUid log o → ∀ x ∈ log, ∀ s' query,
      x.question ≠ .outside (.session s' (.search query))

namespace NewSearch

variable {p : Profile} {s : SessionId} {folder : Folder} {content : FolderContent}
  {cached : Snapshot} {lastUid : Uid} {log : List (Exchange Request Request.Reply)}
  {o : Except MailError Report}

theorem outcome (hsmall : ∀ uid ∈ content.uids, uid.toNat < UInt32.size)
    (h : NewSearch p s folder content cached lastUid log o) :
    (∃ messages states notify, o = .ok (.newMessages folder messages states notify) ∧
      messages.Perm (content.newer lastUid cached)) ∧
      ∀ x ∈ log, content.Seeks lastUid x.question := by
  obtain ⟨⟨_, rfl, messages, states, notify, rfl, hperm⟩, hseeks⟩ :=
    (Task.loadNew_succeeds hsmall).of_holds h.2 h.1
  exact ⟨⟨messages, states, notify, rfl, hperm⟩, hseeks⟩

/-- A search for new messages finds them all and nothing else. -/
theorem findsNew (hsmall : ∀ uid ∈ content.uids, uid.toNat < UInt32.size) :
    FindsNew p s folder content cached lastUid where
  ends := by
    obtain ⟨log, o, h, hlog⟩ := Dialogue.exists_holds (content.exists_finds p folder cached)
      (Task.inSession p s (.loadNew folder lastUid)).run
    exact ⟨log, o, hlog, h⟩
  reports _ _ h := (h.outcome hsmall).1
  seeks _ _ h := (h.outcome hsmall).2
  spares hlast _ _ h x hx s' set := by
    have hseeks := (h.outcome hsmall).2 x hx
    have hnone : ¬ content.Wanted lastUid set := fun hwanted => by
      obtain ⟨uid, hmem, habove⟩ := hwanted.exists_above
      exact UInt64.not_lt.mpr (hlast uid hmem) habove
    refine ⟨fun heq => hnone ?_, fun length heq => hnone ?_⟩
    · rwa [heq] at hseeks
    · rwa [heq] at hseeks
  leaves hlast _ _ h x hx s' query heq := by
    have hseeks := (h.outcome hsmall).2 x hx
    rw [heq] at hseeks
    obtain ⟨first, hfirst, hsize, -⟩ := hseeks
    omega

/-- Of the two messages above the last number one is cached already. -/
theorem findsNew_cached : ∃ content : FolderContent,
    let cached : Snapshot := OrderedMap.ofList [(4, none), (7, none)]
    content.uids = [4, 7, 9] ∧ (∀ uid ∈ content.uids, uid.toNat < UInt32.size) ∧
      (content.newer 4 cached).map (·.uid) = [some 9] ∧
      FindsNew ⟨"me@example.com", ⟨20, true⟩⟩ 0 .inbox content cached 4 := by
  let content : FolderContent :=
    { messages := [4, 7, 9].map fun uid => ⟨some uid, ∅, .empty, none⟩
      uids := [4, 7, 9]
      numbered := rfl
      ascending := by decide
      countable := by decide }
  have hsmall : ∀ uid ∈ content.uids, uid.toNat < UInt32.size :=
    List.all_iff_forall_prop.mp (by decide)
  exact ⟨content, rfl, hsmall, by decide +kernel, findsNew hsmall⟩

end NewSearch

end MailSync
