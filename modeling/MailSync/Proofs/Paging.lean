import Mathlib.Data.List.Nodup
import Mathlib.Data.List.Sort
import MailSync.Proofs.Dialogue
import MailSync.Proofs.SequenceSet
import MailSync.Task.Perform

/-!
# Paging through a folder

A folder that does not change is listed page by page, the newest messages
first, by telling each task how many messages were received so far. Against
a session that answers as it should, a range of positions is loaded exactly
(`Task.messagesAt_ends`), so a page is what ends before the messages already
loaded (`Task.loadPage_ends`). Put together, the pages are the folder: every
message comes once, and then nothing more is asked for
(`Browsed.visits`).
-/

namespace MailSync

open Dialogue

/-! ## Folders and sessions -/

/-- Messages that have numbers, in ascending order. -/
def Ascending (messages : List RemoteMessage) : Prop :=
  ∃ uids : List Uid, messages.map (·.uid) = uids.map some ∧ uids.Pairwise (· < ·)

/-- What is in a folder: its messages in the order of their numbers, of which no two are the
same; positions have 32 bits. -/
structure FolderContent where
  messages : List RemoteMessage
  uids : List Uid
  numbered : messages.map (·.uid) = uids.map some
  ascending : uids.Pairwise (· < ·)
  countable : messages.length < UInt32.size

namespace FolderContent

variable (content : FolderContent)

/-- The number of messages. -/
def size : Nat := content.messages.length

/-- The messages that the text of a set asks for. -/
def asked (set : String) : List RemoteMessage :=
  content.messages.filter fun m => m.uid.any (SequenceSet.contains (content.uids.getLastD 0) set)

/-- What a session replies that has this folder open: how many messages there are, their numbers
in ascending order, and each message that is asked for, once and in any order. -/
def Answers (folder : Folder) : (c : SessionCall) → c.Reply → Prop
  | .select name, reply => name = folder.fullName →
    ∃ status, reply = .ok status ∧ status.messages.toNat = content.size
  | .search query, reply => query = "ALL" → reply = .ok content.uids
  | .fetchHeaders set, reply => ∃ messages, reply = .ok messages ∧ messages.Perm (content.asked set)
  | _, _ => True

/-- Replies to a worker whose session has this folder open; nothing is said of other replies. -/
def Serves (folder : Folder) : (q : Request) → q.Reply → Prop
  | .outside (.session _ c), reply => content.Answers folder c reply
  | _, _ => True

theorem exists_serves (folder : Folder) (q : Request) : ∃ reply, content.Serves folder q reply := by
  cases q with
  | inside c =>
      cases c with
      | emit _ | publish _ | release _ => exact ⟨(), trivial⟩
      | isCancelled | isForeground => exact ⟨true, trivial⟩
  | outside c =>
      cases c with
      | token | connect _ _ | send _ _ _ | store _ => exact ⟨.error default, trivial⟩
      | session _ c =>
          cases c with
          | select _ =>
              refine ⟨.ok ⟨.ofNat content.size, none, none⟩, fun _ => ⟨_, rfl, ?_⟩⟩
              exact UInt32.toNat_ofNat_of_lt content.countable
          | search _ => exact ⟨.ok content.uids, fun _ => rfl⟩
          | fetchHeaders set => exact ⟨.ok (content.asked set), _, rfl, .refl _⟩
          | noop | listFolders | fetchFlags _ | fetchText _ _ | fetchRaw _ | move _ _ | logout =>
              exact ⟨.error default, trivial⟩

/-! ## Parts of a folder -/

variable {content} {part : List RemoteMessage}

theorem nodup_uids (content : FolderContent) : (content.messages.map (·.uid)).Nodup := by
  rw [content.numbered]
  exact (content.ascending.imp UInt64.ne_of_lt).map some fun _ _ hne heq => hne (Option.some.inj heq)

theorem nodup (content : FolderContent) : content.messages.Nodup := .of_map _ content.nodup_uids

theorem length_messages (content : FolderContent) : content.messages.length = content.size := rfl

theorem toNat_ofNat (content : FolderContent) {n : Nat} (h : n ≤ content.size) :
    (UInt32.ofNat n).toNat = n :=
  UInt32.toNat_ofNat_of_lt (lt_of_le_of_lt h content.countable)

theorem eq_of_uid_eq {m m' : RemoteMessage} (hm : m ∈ content.messages)
    (hm' : m' ∈ content.messages) (h : m.uid = m'.uid) : m = m' :=
  List.inj_on_of_nodup_map content.nodup_uids hm hm' h

/-- The numbers of a part are some of the numbers of the folder. -/
theorem ascending_of_sublist (h : part.Sublist content.messages) : Ascending part := by
  have hmap := h.map (·.uid)
  rw [content.numbered, List.sublist_map_iff] at hmap
  obtain ⟨uids, hsub, heq⟩ := hmap
  exact ⟨uids, heq, content.ascending.sublist hsub⟩

/-- The messages of a part are what is asked for by the text of their numbers. -/
theorem asked_ofList {wanted : List Uid} (h : part.Sublist content.messages)
    (hwanted : part.map (·.uid) = wanted.map some) (hne : wanted ≠ []) :
    content.asked (SequenceSet.ofList wanted) = part := by
  have hcontains := SequenceSet.contains_ofList (content.uids.getLastD 0) hne
  have hnodup := content.nodup
  refine (hnodup.perm_iff_eq_of_sublist List.filter_sublist h).mp ?_
  refine (List.perm_ext_iff_of_nodup (hnodup.filter _) (h.nodup hnodup)).mpr fun m => ?_
  rw [List.mem_filter, Option.any_eq_true]
  constructor
  · rintro ⟨hm, uid, huid, hin⟩
    have hnumber : some uid ∈ part.map (·.uid) := by
      rw [hwanted]
      exact List.mem_map_of_mem ((hcontains uid).mp hin)
    obtain ⟨m', hm', huid'⟩ := List.mem_map.mp hnumber
    rwa [eq_of_uid_eq hm (h.subset hm') (huid.trans huid'.symm)]
  · intro hm
    have hnumber : m.uid ∈ wanted.map some := hwanted ▸ List.mem_map_of_mem hm
    obtain ⟨uid, huid, heq⟩ := List.mem_map.mp hnumber
    exact ⟨h.subset hm, uid, heq.symm, (hcontains uid).mpr huid⟩

/-- A part in any order is put in order. -/
theorem mergeSort_eq {found : List RemoteMessage} (h : part.Sublist content.messages)
    (hfound : found.Perm part) : found.mergeSort RemoteMessage.uidLe = part := by
  obtain ⟨uids, hnumbered, hascending⟩ := ascending_of_sublist h
  have hsorted : part.Pairwise fun m m' => ∃ x y, m.uid = some x ∧ m'.uid = some y ∧ x < y := by
    have hpairwise : (part.map (·.uid)).Pairwise fun a b =>
        ∃ x y, a = some x ∧ b = some y ∧ x < y := by
      rw [hnumbered]
      exact hascending.map some fun x y hlt => ⟨x, y, rfl, rfl, hlt⟩
    exact List.pairwise_map.mp hpairwise
  have hperm : (found.mergeSort RemoteMessage.uidLe).Perm part :=
    (List.mergeSort_perm found _).trans hfound
  refine List.Perm.eq_of_pairwise (fun m m' hm hm' hle hle' => ?_)
    (List.pairwise_mergeSort RemoteMessage.uidLe_trans RemoteMessage.uidLe_total found)
    (hsorted.imp fun ⟨x, y, hx, hy, hlt⟩ => ?_) hperm
  · refine eq_of_uid_eq (h.subset (hperm.mem_iff.mp hm)) (h.subset hm') ?_
    obtain ⟨x, -, hx⟩ := List.mem_map.mp (hnumbered ▸ List.mem_map_of_mem (hperm.mem_iff.mp hm))
    obtain ⟨y, -, hy⟩ := List.mem_map.mp (hnumbered ▸ List.mem_map_of_mem hm')
    simp only [RemoteMessage.uidLe, ← hx, ← hy, decide_eq_true_eq] at hle hle'
    rw [← hx, ← hy, UInt64.le_antisymm hle hle']
  · simpa [RemoteMessage.uidLe, hx, hy] using UInt64.le_of_lt hlt

/-! ### Pages -/

section Pages

variable (content : FolderContent) (pageSize alreadyLoaded : Nat)

/-- The page that ends before the messages already loaded. -/
def page : List RemoteMessage :=
  (content.messages.take (content.size - alreadyLoaded)).drop
    (content.size - alreadyLoaded - pageSize)

theorem page_sublist : (content.page pageSize alreadyLoaded).Sublist content.messages :=
  (List.drop_sublist ..).trans (List.take_sublist ..)

theorem length_page :
    (content.page pageSize alreadyLoaded).length = min pageSize (content.size - alreadyLoaded) := by
  rw [page, List.length_drop, List.length_take, length_messages]
  omega

/-- A page comes right before what is already loaded. -/
theorem page_append : content.page pageSize alreadyLoaded ++
    content.messages.drop (content.size - alreadyLoaded) =
      content.messages.drop (content.size - alreadyLoaded - pageSize) := by
  have hlength : content.size - alreadyLoaded - pageSize ≤
      (content.messages.take (content.size - alreadyLoaded)).length := by
    rw [List.length_take, length_messages]
    omega
  rw [page, ← List.drop_append_of_le_length hlength, List.take_append_drop]

end Pages

end FolderContent

/-! ## Loading a page -/

namespace Task

section Slices

variable {α β : Type} {first last : Int}

theorem slice_sublist (items : List α) : (slice first last items).Sublist items :=
  (List.drop_sublist ..).trans (List.take_sublist ..)

theorem slice_map (f : α → β) (items : List α) :
    slice first last (items.map f) = (slice first last items).map f := by
  rw [slice, slice, List.map_drop, List.map_take]

end Slices

variable {content : FolderContent} {folder : Folder}

/-- The messages at positions `first` to `last` are loaded, as far as there are such. -/
theorem messagesAt_ends (s : SessionId) (first last : Int) :
    Attempt.Ends (content.Serves folder) (fun _ => False) (· = slice first last content.messages)
      (messagesAt s first last) := by
  have hsub : (slice first last content.messages).Sublist content.messages := slice_sublist _
  have hnumbered : (slice first last content.messages).map (·.uid) =
      (slice first last content.uids).map some := by
    rw [← slice_map, content.numbered, slice_map]
  rw [messagesAt]
  have hsearched : Attempt.Ends (content.Serves folder) (fun _ => False) (· = content.uids)
      (Trial.session s (.search "ALL")) :=
    Trial.ends_outside fun reply hreply => by
      rw [hreply rfl]
      rfl
  refine hsearched.bind ?_
  rintro _ rfl
  dsimp only
  split
  next hnone =>
    refine Attempt.Ends.pure ?_
    rw [List.isEmpty_iff.mp hnone] at hnumbered
    exact (List.map_eq_nil_iff.mp hnumbered).symm
  next hsome =>
    have hfetched : Attempt.Ends (content.Serves folder) (fun _ => False)
        (·.Perm (slice first last content.messages))
        (Trial.session s (.fetchHeaders (SequenceSet.ofList (slice first last content.uids)))) :=
      Trial.ends_outside fun reply hreply => by
        obtain ⟨messages, rfl, hperm⟩ := hreply
        rwa [FolderContent.asked_ofList hsub hnumbered fun hnil => hsome (List.isEmpty_iff.mpr hnil)]
          at hperm
    exact hfetched.bind fun found hfound =>
      Attempt.Ends.pure (FolderContent.mergeSort_eq hsub hfound)

theorem select_ends (s : SessionId) : Attempt.Ends (content.Serves folder) (fun _ => False)
    (·.messages.toNat = content.size) (Trial.session s (.select folder.fullName)) :=
  Trial.ends_outside fun reply hreply => by
    obtain ⟨status, rfl, hstatus⟩ := hreply rfl
    exact hstatus

theorem loadPage_ends (pageSize : UInt32) (s : SessionId) (alreadyLoaded : UInt32) :
    Attempt.Ends (content.Serves folder) (fun _ => False)
      (· = .messages folder (content.page pageSize.toNat alreadyLoaded.toNat))
      (loadPage pageSize s folder alreadyLoaded) := by
  rw [loadPage]
  refine (select_ends s).bind fun status hstatus => ?_
  dsimp only
  rw [hstatus]
  split
  next hlast =>
    refine Attempt.Ends.pure ?_
    have hzero : content.size - alreadyLoaded.toNat = 0 := by omega
    rw [FolderContent.page, hzero, List.take_zero, List.drop_nil]
  next hlast =>
    refine (messagesAt_ends s _ _).bind ?_
    rintro _ rfl
    refine Attempt.Ends.pure ?_
    have hlast' : ((content.size : Int) - alreadyLoaded.toNat).toNat =
        content.size - alreadyLoaded.toNat := by omega
    have hfirst :
        (max ((content.size : Int) - alreadyLoaded.toNat - pageSize.toNat + 1) 1 - 1).toNat =
          content.size - alreadyLoaded.toNat - pageSize.toNat := by omega
    rw [FolderContent.page, slice, hlast', hfirst]

/-- Nothing but the selection is asked for once all messages are loaded. -/
theorem loadPage_past {pageSize : UInt32} {s : SessionId} {alreadyLoaded : UInt32}
    {log : List (Exchange Request Request.Reply)} {o : Except MailError Report}
    (hpast : content.size ≤ alreadyLoaded.toNat)
    (hlog : ∀ x ∈ log, content.Serves folder x.question x.reply)
    (h : Holds (loadPage pageSize s folder alreadyLoaded).run log o) :
    log.map (·.question) = [.outside (.session s (.select folder.fullName))] := by
  rw [loadPage] at h
  obtain ⟨status, rest, rfl, hstatus, -, hrest⟩ :=
    Trial.holds_answered (c := .session s (.select folder.fullName)) (fun _ hreply => hreply rfl)
      hlog h
  have hlast : (status.messages.toNat : Int) - alreadyLoaded.toNat < 1 := by omega
  dsimp only at hrest
  rw [if_pos hlast] at hrest
  obtain ⟨rfl, -⟩ := holds_pure_iff.mp hrest
  rfl

end Task

/-! ## Page after page -/

/-- A task for a page that came to its end in a session that answers as it should. -/
def PageTurn (p : Profile) (s : SessionId) (folder : Folder) (content : FolderContent)
    (alreadyLoaded : UInt32) (log : List (Exchange Request Request.Reply))
    (o : Except MailError Report) : Prop :=
  (∀ x ∈ log, content.Serves folder x.question x.reply) ∧
    Holds (Task.inSession p s (.loadPage folder alreadyLoaded)).run log o

/-- The pages received in turn, where each task is told how many messages were received before. -/
inductive Browsed (p : Profile) (s : SessionId) (folder : Folder) (content : FolderContent) :
    List (List RemoteMessage) → Prop where
  | start : Browsed p s folder content []
  | next {pages : List (List RemoteMessage)} {page : List RemoteMessage}
    {log : List (Exchange Request Request.Reply)} (h : Browsed p s folder content pages)
    (turn : PageTurn p s folder content (.ofNat pages.flatten.length) log
      (.ok (.messages folder page))) : Browsed p s folder content (pages ++ [page])

/-- What the pages received so far have in common with the folder, and what comes of the next
one. -/
structure Visits (p : Profile) (s : SessionId) (folder : Folder) (content : FolderContent)
    (pages : List (List RemoteMessage)) : Prop where
  /-- A page has no more messages than it may have, in ascending order, and as long as messages
  are left it has some. -/
  each : ∀ before page after, pages = before ++ page :: after →
    page.length ≤ p.settings.pageSize.toNat ∧ Ascending page ∧
      (before.flatten.length < content.size → page ≠ [])
  /-- From the last page to the first, they are the newest messages of the folder, each once. -/
  newest : pages.reverse.flatten = content.messages.drop (content.size - pages.flatten.length)
  /-- With as many pages as the folder takes, they are all of it. -/
  complete : (content.size + p.settings.pageSize.toNat - 1) / p.settings.pageSize.toNat ≤
    pages.length → pages.flatten.length = content.size ∧ pages.reverse.flatten = content.messages
  /-- The task for the next page can come to its end. -/
  ends : ∃ log o, PageTurn p s folder content (.ofNat pages.flatten.length) log o
  /-- However it comes to its end, it is with a page. -/
  next : ∀ log o, PageTurn p s folder content (.ofNat pages.flatten.length) log o →
    ∃ page, o = .ok (.messages folder page) ∧ Browsed p s folder content (pages ++ [page])
  /-- A task that is told of all messages ends with an empty page, and selects the folder but
  asks for nothing more. -/
  past : ∀ alreadyLoaded log o, content.size ≤ alreadyLoaded.toNat →
    PageTurn p s folder content alreadyLoaded log o → o = .ok (.messages folder []) ∧
      log.map (·.question) = [.outside (.session s (.select folder.fullName))]

namespace PageTurn

variable {p : Profile} {s : SessionId} {folder : Folder} {content : FolderContent}
  {alreadyLoaded : UInt32} {log : List (Exchange Request Request.Reply)}
  {o : Except MailError Report}

theorem outcome (h : PageTurn p s folder content alreadyLoaded log o) :
    o = .ok (.messages folder (content.page p.settings.pageSize.toNat alreadyLoaded.toNat)) := by
  have hmeets := (Task.loadPage_ends p.settings.pageSize s alreadyLoaded).of_holds h.2 h.1
  cases o with
  | ok report => exact congrArg Except.ok hmeets
  | error e => exact hmeets.elim

theorem page_eq {page : List RemoteMessage}
    (h : PageTurn p s folder content alreadyLoaded log (.ok (.messages folder page))) :
    page = content.page p.settings.pageSize.toNat alreadyLoaded.toNat := by
  have hreport := h.outcome
  rw [Except.ok.injEq, Report.messages.injEq] at hreport
  exact hreport.2

/-- The session answers whatever a task asks. -/
theorem exists_log (p : Profile) (s : SessionId) (folder : Folder) (content : FolderContent)
    (alreadyLoaded : UInt32) : ∃ log o, PageTurn p s folder content alreadyLoaded log o := by
  obtain ⟨log, o, h, hlog⟩ := Dialogue.exists_holds (content.exists_serves folder)
    (Task.inSession p s (.loadPage folder alreadyLoaded)).run
  exact ⟨log, o, hlog, h⟩

end PageTurn

namespace Browsed

variable {p : Profile} {s : SessionId} {folder : Folder} {content : FolderContent}
  {pages : List (List RemoteMessage)}

/-- What has been received are the newest messages, in order, as many as the pages have room
for. -/
theorem received (h : Browsed p s folder content pages) :
    pages.flatten.length = min content.size (pages.length * p.settings.pageSize.toNat) ∧
      pages.reverse.flatten = content.messages.drop (content.size - pages.flatten.length) := by
  induction h with
  | start =>
      have hall : content.messages.drop content.size = [] := List.drop_length
      exact ⟨by simp, hall.symm⟩
  | @next pages page log h turn ih =>
      obtain ⟨hlength, hcontent⟩ := ih
      have hcount := content.toNat_ofNat (hlength ▸ Nat.min_le_left _ _)
      obtain rfl := turn.page_eq
      rw [hcount]
      have htotal : (pages ++
          [content.page p.settings.pageSize.toNat pages.flatten.length]).flatten.length =
            pages.flatten.length +
              min p.settings.pageSize.toNat (content.size - pages.flatten.length) := by
        rw [List.flatten_append, List.length_append, List.flatten_singleton, content.length_page]
      rw [htotal]
      constructor
      · rw [hlength, List.length_append, List.length_singleton, Nat.succ_mul]
        omega
      · rw [List.reverse_append, List.reverse_singleton, List.singleton_append, List.flatten_cons,
          hcontent, content.page_append]
        congr 1
        omega

/-- The number of messages received is told as it is. -/
theorem count (h : Browsed p s folder content pages) :
    (UInt32.ofNat pages.flatten.length).toNat = pages.flatten.length :=
  content.toNat_ofNat (h.received.1 ▸ Nat.min_le_left _ _)

/-- Each page is the one that ends before what was received. -/
theorem page_eq (h : Browsed p s folder content pages) {before after : List (List RemoteMessage)}
    {page : List RemoteMessage} (hpages : pages = before ++ page :: after) :
    page = content.page p.settings.pageSize.toNat before.flatten.length := by
  induction h generalizing after with
  | start => simp at hpages
  | next h turn ih =>
      rcases List.eq_nil_or_concat after with rfl | ⟨after, last, rfl⟩
      · obtain ⟨rfl, rfl⟩ := List.append_singleton_inj.mp hpages
        rw [← h.count]
        exact turn.page_eq
      · rw [List.concat_eq_append, ← List.cons_append, ← List.append_assoc] at hpages
        exact ih (List.append_singleton_inj.mp hpages).1

/-- There is always a next page. -/
theorem exists_next (h : Browsed p s folder content pages) : Browsed p s folder content
    (pages ++ [content.page p.settings.pageSize.toNat pages.flatten.length]) := by
  obtain ⟨log, o, turn⟩ := PageTurn.exists_log p s folder content (.ofNat pages.flatten.length)
  rw [← h.count]
  exact h.next (turn.outcome ▸ turn)

/-- With enough pages everything has been received. -/
theorem complete (hsize : 0 < p.settings.pageSize.toNat) (h : Browsed p s folder content pages)
    (henough : (content.size + p.settings.pageSize.toNat - 1) / p.settings.pageSize.toNat ≤
      pages.length) :
    pages.flatten.length = content.size ∧ pages.reverse.flatten = content.messages := by
  obtain ⟨hlength, hcontent⟩ := h.received
  have hall : content.size ≤ pages.length * p.settings.pageSize.toNat := by
    have hlt := Nat.lt_mul_of_div_lt (Nat.lt_succ_of_le henough) hsize
    rw [Nat.succ_mul] at hlt
    omega
  rw [Nat.min_eq_left hall] at hlength
  rw [hlength, Nat.sub_self] at hcontent
  exact ⟨hlength, hcontent⟩

/-- A folder that does not change is visited page by page. -/
theorem visits (hsize : 0 < p.settings.pageSize.toNat) (h : Browsed p s folder content pages) :
    Visits p s folder content pages where
  each before page after hpages := by
    obtain rfl := h.page_eq hpages
    have hlength := content.length_page p.settings.pageSize.toNat before.flatten.length
    refine ⟨hlength ▸ Nat.min_le_left _ _,
      FolderContent.ascending_of_sublist (content.page_sublist ..), fun hleft hnil => ?_⟩
    rw [hnil, List.length_nil] at hlength
    omega
  newest := h.received.2
  complete := h.complete hsize
  ends := PageTurn.exists_log p s folder content _
  next log o turn := by
    obtain rfl := turn.outcome
    exact ⟨_, rfl, h.next turn⟩
  past alreadyLoaded log o hpast turn := by
    have hnone : content.page p.settings.pageSize.toNat alreadyLoaded.toNat = [] := by
      rw [← List.length_eq_zero_iff, content.length_page]
      omega
    exact ⟨hnone ▸ turn.outcome, Task.loadPage_past hpast turn.1 turn.2⟩

/-- Three messages take two pages of two. -/
theorem visits_three : ∃ (content : FolderContent) (pages : List (List RemoteMessage)),
    let p : Profile := ⟨"me@example.com", ⟨2, false⟩⟩
    content.messages.map (·.uid) = [some 4, some 7, some 9] ∧
      pages.map (·.map (·.uid)) = [[some 7, some 9], [some 4]] ∧ 0 < p.settings.pageSize.toNat ∧
      Browsed p 0 ⟨"INBOX", "INBOX", []⟩ content pages ∧
      Visits p 0 ⟨"INBOX", "INBOX", []⟩ content pages := by
  let content : FolderContent :=
    { messages := [4, 7, 9].map fun uid => ⟨some uid, ∅, .empty, none⟩
      uids := [4, 7, 9]
      numbered := rfl
      ascending := by decide
      countable := by decide }
  have browsed : Browsed ⟨"me@example.com", ⟨2, false⟩⟩ 0 ⟨"INBOX", "INBOX", []⟩ content _ :=
    Browsed.start.exists_next.exists_next
  exact ⟨content, _, rfl, rfl, by decide, browsed, browsed.visits (by decide)⟩

end Browsed

end MailSync
