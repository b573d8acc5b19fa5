import MailSync.Proofs.Paging

/-!
# Loading a range of positions

Positions are counted from 1 and may lie outside the folder on either side.
`Task.slice_eq_atPositions` says which elements a range stands for, and
`Task.checkedSlice?_eq` that it is cut out with bounds that lie in the list, in
arithmetic that does not overflow. The session is told of the numbers at these
positions and answers in any order; `RangeLoad.loads_range` puts together what
is asked, what is answered, and what is listed in the end.
-/

namespace MailSync

open Dialogue

/-! ## Positions -/

namespace Task

section Ranges

variable {α : Type}

/-- The elements at the positions from `first` to `last`, counted from 1, as far as there are
such. -/
def atPositions (first last : Nat) (items : List α) : List α :=
  ((items.zipIdx 1).filter fun x => max first 1 ≤ x.2 && x.2 ≤ min last items.length).map (·.1)

theorem map_filter_zipIdx (first last k : Nat) (items : List α) :
    ((items.zipIdx k).filter fun x => first ≤ x.2 && x.2 ≤ last).map (·.1) =
      (items.take (last + 1 - k)).drop (first - k) := by
  induction items generalizing k with
  | nil => rw [List.take_nil, List.drop_nil, List.zipIdx_nil, List.filter_nil, List.map_nil]
  | cons x items ih =>
      rw [List.zipIdx_cons]
      rcases Nat.lt_or_ge last k with hpast | hlast
      · have hnone : last + 1 - k = 0 := by omega
        have hnone' : last + 1 - (k + 1) = 0 := by omega
        rw [List.filter_cons_of_neg (by simp; omega), ih, hnone, hnone', List.take_zero,
          List.take_zero, List.drop_nil, List.drop_nil]
      · have hsome : last + 1 - k = last + 1 - (k + 1) + 1 := by omega
        rw [hsome, List.take_succ_cons]
        rcases Nat.lt_or_ge k first with hbefore | hfirst
        · have hdrop : first - k = first - (k + 1) + 1 := by omega
          rw [List.filter_cons_of_neg (by simp; omega), ih, hdrop, List.drop_succ_cons]
        · have hdrop : first - k = 0 := by omega
          have hdrop' : first - (k + 1) = 0 := by omega
          rw [List.filter_cons_of_pos (by simp; omega), List.map_cons, ih, hdrop, hdrop',
            List.drop_zero, List.drop_zero]

/-- A range is what stands at its positions. -/
theorem slice_eq_atPositions (first last : Nat) (items : List α) :
    slice first last items = atPositions first last items := by
  have hfirst : (max (first : Int) 1 - 1).toNat = max first 1 - 1 := by omega
  rw [atPositions, map_filter_zipIdx, slice, hfirst, Int.toNat_natCast, Nat.add_sub_cancel]
  congr 1
  rw [List.take_eq_take_iff]
  omega

/-! ### Bounds -/

/-- The value of a calculation with signed numbers of 64 bits, unless it overflows. -/
def int64? (n : Int) : Option Int :=
  if Int64.minValue.toInt ≤ n ∧ n ≤ Int64.maxValue.toInt then some n else none

/-- An index, unless it is negative. -/
def index? (n : Int) : Option Nat := if 0 ≤ n then some n.toNat else none

/-- The elements from one index up to another, unless these are no bounds of the list. -/
def between? (start stop : Nat) (items : List α) : Option (List α) :=
  if start ≤ stop ∧ stop ≤ items.length then some ((items.take stop).drop start) else none

/-- The elements at the positions from `first` to `last`, in numbers of 64 bits. Each step gives
nothing where it would overflow or leave the list. -/
def checkedSlice? (first last : Int) (items : List α) : Option (List α) := do
  let count := min (items.length : Int) Int64.maxValue.toInt
  let first := max first 1
  let last := min last count
  if last < first then return []
  let start ← index? (← int64? (first - 1))
  let stop ← index? last
  between? start stop items

/-- With positions of 32 bits no step goes wrong. -/
theorem checkedSlice?_eq (first last : UInt32) (items : List α) :
    checkedSlice? first.toNat last.toNat items = some (slice first.toNat last.toNat items) := by
  have hfirst := first.toNat_lt
  have hlast := last.toNat_lt
  have hmin : Int64.minValue.toInt = -9223372036854775808 := rfl
  have hmax : Int64.maxValue.toInt = 9223372036854775807 := rfl
  rw [checkedSlice?, slice]
  split
  next hempty =>
    refine congrArg some (List.drop_eq_nil_of_le ?_).symm
    rw [List.length_take]
    omega
  next hrange =>
    have hstart : int64? (max (first.toNat : Int) 1 - 1) = some (max (first.toNat : Int) 1 - 1) :=
      if_pos (by omega)
    have hindex : index? (max (first.toNat : Int) 1 - 1) =
        some (max (first.toNat : Int) 1 - 1).toNat := if_pos (by omega)
    have hlast' : min (last.toNat : Int) (min (items.length : Int) Int64.maxValue.toInt) =
        ((min last.toNat items.length : Nat) : Int) := by omega
    have hstop : index? ((min last.toNat items.length : Nat) : Int) =
        some (min last.toNat items.length) := if_pos (Int.natCast_nonneg _)
    have hbounds : (max (first.toNat : Int) 1 - 1).toNat ≤ min last.toNat items.length ∧
        min last.toNat items.length ≤ items.length := by omega
    simp only [hstart, hindex, hlast', hstop, Option.bind_eq_bind, Option.bind_some]
    rw [between?, if_pos hbounds, Int.toNat_natCast, ← List.take_eq_take_min]

end Ranges

/-! ## What is asked and what is listed -/

/-- Whatever order they come in, messages are put in the order of their numbers. -/
theorem map_uid_mergeSort {found : List RemoteMessage} {uids : List Uid}
    (hascending : uids.Pairwise (· < ·)) (hfound : (found.map (·.uid)).Perm (uids.map some)) :
    (found.mergeSort RemoteMessage.uidLe).map (·.uid) = uids.map some := by
  have hsorted : ((found.mergeSort RemoteMessage.uidLe).map (·.uid)).Pairwise
      fun a b => ∀ x y, a = some x → b = some y → x ≤ y := by
    refine List.pairwise_map.mpr ((List.pairwise_mergeSort RemoteMessage.uidLe_trans
      RemoteMessage.uidLe_total found).imp fun {m m'} hle x y hx hy => ?_)
    rwa [RemoteMessage.uidLe, hx, hy, decide_eq_true_eq] at hle
  have hperm := ((List.mergeSort_perm found RemoteMessage.uidLe).map (·.uid)).trans hfound
  refine List.Perm.eq_of_pairwise (fun a b ha hb hab hba => ?_) hsorted
    (hascending.map some fun x y hlt => ?_) hperm
  · obtain ⟨x, -, rfl⟩ := List.mem_map.mp (hperm.mem_iff.mp ha)
    obtain ⟨y, -, rfl⟩ := List.mem_map.mp hb
    exact congrArg some (UInt64.le_antisymm (hab x y rfl rfl) (hba y x rfl rfl))
  · rintro _ _ ⟨⟩ ⟨⟩
    exact UInt64.le_of_lt hlt

end Task

/-- Replies to a worker whose session has a folder open in which a search finds these numbers. A
fetch brings one message for each of them that it asks for, in any order. -/
def ListsNumbers (folder : Folder) (uids : List Uid) : (q : Request) → q.Reply → Prop
  | .outside (.session _ (.select name)), reply => name = folder.fullName →
    ∃ status, reply = .ok status
  | .outside (.session _ (.search query)), reply => query = "ALL" → reply = .ok uids
  | .outside (.session _ (.fetchHeaders set)), reply => ∃ found, reply = .ok found ∧
    (found.map (·.uid)).Perm
      ((uids.filter (SequenceSet.contains (uids.getLastD 0) set)).map some)
  | _, _ => True

/-- A task for a range of positions that came to its end in such a session. -/
def RangeLoad (p : Profile) (s : SessionId) (folder : Folder) (uids : List Uid)
    (first last : UInt32) (log : List (Exchange Request Request.Reply))
    (o : Except MailError Report) : Prop :=
  (∀ x ∈ log, ListsNumbers folder uids x.question x.reply) ∧
    Holds (Task.inSession p s (.loadMessages folder first last)).run log o

/-- All of a conversation about the messages with certain numbers. Where there are none, nothing is
fetched; otherwise just these numbers are asked for, and what comes is listed in their order. -/
inductive Listed (s : SessionId) (folder : Folder) (uids : List Uid) :
    List Uid → List (Exchange Request Request.Reply) → Except MailError Report → Prop where
  | nothing (status : FolderStatus) : Listed s folder uids []
      [⟨.outside (.session s (.select folder.fullName)), .ok status⟩,
        ⟨.outside (.session s (.search "ALL")), .ok uids⟩]
      (.ok (.messages folder []))
  | fetched {wanted : List Uid} {set : String} {found messages : List RemoteMessage}
    (status : FolderStatus) (nonempty : wanted ≠ [])
    (asked : ∀ largest uid, SequenceSet.contains largest set uid = true ↔ uid ∈ wanted)
    (all : messages.Perm found) (ordered : messages.map (·.uid) = wanted.map some) :
    Listed s folder uids wanted
      [⟨.outside (.session s (.select folder.fullName)), .ok status⟩,
        ⟨.outside (.session s (.search "ALL")), .ok uids⟩,
        ⟨.outside (.session s (.fetchHeaders set)), .ok found⟩]
      (.ok (.messages folder messages))

/-- What a task for a range of positions comes to. -/
structure LoadsRange (p : Profile) (s : SessionId) (folder : Folder) (uids : List Uid)
    (first last : UInt32) : Prop where
  /-- The range is cut out without overflow and within the list. -/
  bounded : Task.checkedSlice? first.toNat last.toNat uids =
    some (Task.atPositions first.toNat last.toNat uids)
  /-- The task can come to its end. -/
  ends : ∃ log o, RangeLoad p s folder uids first last log o
  /-- However it does, the numbers at the positions are asked for, and their messages listed. -/
  lists : ∀ log o, RangeLoad p s folder uids first last log o →
    Listed s folder uids (Task.atPositions first.toNat last.toNat uids) log o

theorem ListsNumbers.exists_reply (folder : Folder) (uids : List Uid) (q : Request) :
    ∃ reply, ListsNumbers folder uids q reply := by
  cases q with
  | inside c =>
      cases c with
      | emit _ | publish _ | release _ => exact ⟨(), trivial⟩
      | isCancelled | isForeground => exact ⟨true, trivial⟩
  | outside c =>
      cases c with
      | token | connect _ _ | send _ _ _ | store _ => exact ⟨.error default, trivial⟩
      | session _ c =>
          cases c with
          | select _ => exact ⟨.ok .blank, fun _ => ⟨_, rfl⟩⟩
          | search _ => exact ⟨.ok uids, fun _ => rfl⟩
          | fetchHeaders set =>
              let asked := uids.filter (SequenceSet.contains (uids.getLastD 0) set)
              refine ⟨.ok (asked.map fun uid => ⟨some uid, ∅, .empty, none⟩), _, rfl, ?_⟩
              rw [List.map_map]
              exact .refl _
          | noop | listFolders | fetchFlags _ | fetchText _ _ | fetchRaw _ | move _ _ | logout =>
              exact ⟨.error default, trivial⟩

namespace RangeLoad

variable {p : Profile} {s : SessionId} {folder : Folder} {uids : List Uid} {first last : UInt32}
  {log : List (Exchange Request Request.Reply)} {o : Except MailError Report}

/-- Against such a session a range is loaded as a whole. -/
theorem listed (hascending : uids.Pairwise (· < ·))
    (h : RangeLoad p s folder uids first last log o) :
    Listed s folder uids (Task.atPositions first.toNat last.toNat uids) log o := by
  obtain ⟨hlog, hload⟩ := h
  change Holds (Task.loadMessages s folder first last).run log o at hload
  rw [Task.loadMessages] at hload
  obtain ⟨status, rest, rfl, -, hlog, hload⟩ :=
    Trial.holds_answered (c := .session s (.select folder.fullName)) (P := fun _ => True)
      (fun reply hreply => (hreply rfl).imp fun _ hok => ⟨hok, trivial⟩) hlog hload
  obtain ⟨o, hmessages, rfl⟩ := Attempt.holds_map_iff.mp hload
  rw [Task.messagesAt] at hmessages
  obtain ⟨_, rest, rfl, rfl, hlog, hmessages⟩ :=
    Trial.holds_answered (c := .session s (.search "ALL")) (P := (uids = ·))
      (fun reply hreply => ⟨uids, hreply rfl, rfl⟩) hlog hmessages
  rw [← Task.slice_eq_atPositions]
  dsimp only at hmessages
  generalize hwanted : Task.slice first.toNat last.toNat uids = wanted at hmessages ⊢
  split at hmessages
  next hnone =>
    obtain ⟨rfl, rfl⟩ := holds_pure_iff.mp hmessages
    rw [List.isEmpty_iff.mp hnone]
    exact .nothing status
  next hsome =>
    have hne : wanted ≠ [] := fun hnil => hsome (List.isEmpty_iff.mpr hnil)
    have hsub : wanted.Sublist uids := hwanted ▸ Task.slice_sublist uids
    have hnodup : uids.Nodup := hascending.imp UInt64.ne_of_lt
    have hasked := fun largest => SequenceSet.contains_ofList largest hne
    -- no wanted number is missing, and no number is there twice: the fetch brings just these
    have hfound : (uids.filter (SequenceSet.contains (uids.getLastD 0)
        (SequenceSet.ofList wanted))).Perm wanted := by
      refine (List.perm_ext_iff_of_nodup (hnodup.filter _) (hsub.nodup hnodup)).mpr fun uid => ?_
      rw [List.mem_filter, hasked]
      exact and_iff_right_of_imp fun huid => hsub.subset huid
    obtain ⟨found, rest, rfl, hreply, -, hmessages⟩ :=
      Trial.holds_answered (c := .session s (.fetchHeaders (SequenceSet.ofList wanted)))
        (fun _ hreply => hreply) hlog hmessages
    obtain ⟨rfl, rfl⟩ := holds_pure_iff.mp hmessages
    exact .fetched status hne hasked (List.mergeSort_perm found _)
      (Task.map_uid_mergeSort (hascending.sublist hsub) (hreply.trans (hfound.map some)))

/-- What a task for a range of positions asks for and lists, whatever the range. -/
theorem loads_range (hascending : uids.Pairwise (· < ·)) :
    LoadsRange p s folder uids first last where
  bounded := by rw [Task.checkedSlice?_eq, Task.slice_eq_atPositions]
  ends := by
    obtain ⟨log, o, h, hlog⟩ := Dialogue.exists_holds (ListsNumbers.exists_reply folder uids)
      (Task.inSession p s (.loadMessages folder first last)).run
    exact ⟨log, o, hlog, h⟩
  lists _ _ h := h.listed hascending

/-- Of three messages those at positions 2 to 5 are the last two. -/
theorem loads_range_past_end :
    [4, 7, 9].Pairwise (fun a b : Uid => a < b) ∧ Task.atPositions 2 5 [4, 7, 9] = [7, 9] ∧
      LoadsRange ⟨"me@example.com", ⟨20, false⟩⟩ 0 .inbox [4, 7, 9] 2 5 :=
  ⟨by decide, by decide, loads_range (by decide)⟩

end RangeLoad

end MailSync
