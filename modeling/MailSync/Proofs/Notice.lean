import Mathlib.Data.List.Forall2
import MailSync.Proofs.Cache
import MailSync.Proofs.Mailbox
import MailSync.Task.Range
import MailSync.Task.Sync

/-!
# Responses that nobody asked for

A server may send a response with the number and the flags of a message at any
time, also while it answers a fetch. Such a notice is read like an answer that
misses what was asked for, and what comes of it depends on where it stands: a
message is loaded from the first response that names it (`forestalled`), its
snippet and its entry in a listing come from the last one (`overtaken`). The
main statement says what notices change, and that nothing else changes
(`Arrival.answers_overtaken`).
-/

namespace MailSync

open Dialogue

/-! ## Notices -/

namespace FetchItem

/-- Whether a response says no more than a number and flags. -/
def isNotice (f : FetchItem) : Bool :=
  f.data.all fun d => match d with
    | .uid _ | .flags _ => true
    | _ => false

variable {f : FetchItem}

theorem part?_of_isNotice (h : f.isNotice = true) (p : MessagePart) : f.part? p = none := by
  rw [part?, List.findSome?_eq_none_iff]
  intro d hd
  have hdata := List.all_eq_true.mp h d hd
  cases d with
  | uid n | flags tokens => rfl
  | size n | part q data | other => cases hdata

theorem message_of_isNotice (h : f.isNotice = true) : f.message.envelope = .empty := by
  rw [message, part?_of_isNotice h]
  rfl

end FetchItem

/-- What arrives while a fetch is answered. -/
inductive Arrival where
  /-- A response that was asked for, unless it could not be read. -/
  | answer (item : Except ImapError FetchItem)
  | notice (f : FetchItem) (h : f.isNotice = true)

namespace Arrival

def item : Arrival → Except ImapError FetchItem
  | answer item => item
  | notice f _ => .ok f

def isNotice : Arrival → Bool
  | answer _ => false
  | notice .. => true

/-- The response that could be read. -/
def item? (a : Arrival) : Option FetchItem := a.item.toOption

def names (uid : Uid) (a : Arrival) : Bool := a.item?.any fun f => f.keptUid? = some uid

def items (l : List Arrival) : List (Except ImapError FetchItem) := l.map (·.item)

/-- What would have arrived without the notices. -/
def asked (l : List Arrival) : List Arrival := l.filter fun a => !a.isNotice

/-- A notice comes before all other responses that name the message. -/
def forestalled (uid : Uid) (l : List Arrival) : Bool := (l.find? (·.names uid)).any (·.isNotice)

/-- A notice comes after all other responses that name the message. -/
def overtaken (uid : Uid) (l : List Arrival) : Bool := forestalled uid l.reverse

variable {uid : Uid} {l : List Arrival}

theorem names_iff {a : Arrival} :
    a.names uid = true ↔ ∃ f, a.item? = some f ∧ f.keptUid? = some uid := by
  simp [names, Option.any_eq_true]

theorem readable_items (l : List Arrival) : readable (items l) = l.filterMap (·.item?) := by
  rw [readable, items, List.filterMap_map]
  rfl

theorem asked_reverse (l : List Arrival) : asked l.reverse = (asked l).reverse :=
  List.filter_reverse

/-- Where no notice comes first, the first response that names the message was asked for. -/
theorem find?_asked (h : forestalled uid l = false) :
    (asked l).find? (·.names uid) = l.find? (·.names uid) := by
  induction l with
  | nil => rfl
  | cons a l ih =>
      cases hnames : a.names uid with
      | false =>
          rw [forestalled, List.find?_cons_of_neg (by simp [hnames])] at h
          rw [List.find?_cons_of_neg (by simp [hnames]), ← ih h, asked, List.filter_cons]
          split
          · rw [List.find?_cons_of_neg (by simp [hnames])]
            rfl
          · rfl
      | true =>
          rw [forestalled, List.find?_cons_of_pos hnames, Option.any_some] at h
          rw [asked, List.filter_cons_of_pos (by simp [h]), List.find?_cons_of_pos hnames,
            List.find?_cons_of_pos hnames]

theorem find?_of_forestalled (h : forestalled uid l = true) :
    ∃ f hf, l.find? (·.names uid) = some (.notice f hf) ∧ f.keptUid? = some uid := by
  rw [forestalled] at h
  cases hfirst : l.find? (·.names uid) with
  | none =>
      rw [hfirst] at h
      cases h
  | some a =>
      rw [hfirst, Option.any_some] at h
      cases a with
      | answer item => cases h
      | notice f hf =>
          have hnames : (notice f hf).names uid = true := by simpa using List.find?_some hfirst
          exact ⟨f, hf, rfl, of_decide_eq_true hnames⟩

/-! ## What the first and the last response bring -/

theorem overtaken_asked (h : overtaken uid l = false) :
    (asked l).reverse.find? (·.names uid) = l.reverse.find? (·.names uid) := by
  rw [← asked_reverse, find?_asked h]

end Arrival

theorem latest_filter (p : Uid → Bool) (uid : Uid) (messages : List RemoteMessage) :
    latest uid (messages.filter fun m => m.uid.any p) =
      if p uid then latest uid messages else none := by
  rw [latest, ← List.filter_reverse, List.find?_filter]
  split
  next hp =>
    refine congrArg (fun q => List.find? q _) (funext fun m => ?_)
    cases hm : m.uid with
    | none => simp
    | some uid' => by_cases huid : uid' = uid <;> simp [huid, hp]
  next hp =>
    rw [List.find?_eq_none]
    intro m _ hm
    simp only [decide_eq_true_eq] at hm
    rw [hm.2, Option.any_some] at hm
    exact hp hm.1

/-- Sorting a listing leaves the entries of one number in their order. -/
theorem latest_mergeSort (uid : Uid) (messages : List RemoteMessage) :
    latest uid (messages.mergeSort RemoteMessage.uidLe) = latest uid messages := by
  let ofUid : RemoteMessage → Bool := fun m => m.uid = some uid
  have hsorted : (messages.filter ofUid).Pairwise fun a b => a.uidLe b = true := by
    refine List.pairwise_of_forall_mem_list fun a ha b hb => ?_
    have huid : ∀ m ∈ messages.filter ofUid, m.uid = some uid := fun m hm => by
      simpa [ofUid] using (List.mem_filter.mp hm).2
    simp [RemoteMessage.uidLe, huid a ha, huid b hb]
  have hsub : (messages.filter ofUid).Sublist
      ((messages.mergeSort RemoteMessage.uidLe).filter ofUid) := by
    have h := List.sublist_mergeSort RemoteMessage.uidLe_trans RemoteMessage.uidLe_total hsorted List.filter_sublist
    simpa using h.filter ofUid
  have heq : messages.filter ofUid = (messages.mergeSort RemoteMessage.uidLe).filter ofUid :=
    hsub.eq_of_length ((List.mergeSort_perm messages _).filter ofUid).length_eq.symm
  rw [latest, latest, ← List.getLast?_filter, ← List.getLast?_filter, ← heq]

/-- The listing that is made of what arrives. -/
def Arrival.listed (l : List Arrival) : List RemoteMessage := (readable (items l)).map (·.message)

/-- The snippets that are made of what arrives. -/
def Arrival.snippets (l : List Arrival) : List (Uid × Bytes) :=
  (readable (items l)).filterMap (·.snippet?)

/-- What is said about encryption, going by snippets. -/
def statesOf (snippets : List (Uid × Bytes)) : EncryptionStates :=
  OrderedMap.ofList (snippets.map fun (uid, snippet) => (uid, looksEncrypted snippet))

namespace Arrival

theorem latest_listed (uid : Uid) (l : List Arrival) :
    latest uid (listed l) = ((l.reverse.find? (·.names uid)).bind (·.item?)).map (·.message) := by
  rw [listed, readable_items, latest, ← List.map_reverse, List.find?_map, ← List.filterMap_reverse,
    List.find?_filterMap]
  rfl

theorem get?_statesOf_snippets (uid : Uid) (l : List Arrival) :
    (statesOf (snippets l)).get? uid = ((l.reverse.find? (·.names uid)).bind (·.item?)).map fun f =>
      looksEncrypted ((f.part? .text).getD []) := by
  have hnames : (fun f : FetchItem => f.snippet?.any fun e => decide (e.1 = uid)) =
      fun f => decide (f.keptUid? = some uid) := by
    funext f
    cases hf : f.keptUid? with
    | none => simp [FetchItem.snippet?, hf]
    | some uid' => simp [FetchItem.snippet?, hf]
  rw [statesOf, OrderedMap.get?_ofList, ← List.map_reverse, List.find?_map, snippets,
    ← List.filterMap_reverse, List.find?_filterMap, readable_items, ← List.filterMap_reverse]
  show ((((l.reverse.filterMap (·.item?)).find? fun f =>
    f.snippet?.any fun e => decide (e.1 = uid)).bind _).map _).map _ = _
  rw [hnames, List.find?_filterMap]
  show ((((l.reverse.find? (·.names uid)).bind _).bind _).map _).map _ = _
  cases hlast : l.reverse.find? (·.names uid) with
  | none => rfl
  | some a =>
      obtain ⟨f, hf, huid⟩ := names_iff.mp (List.find?_some hlast)
      simp [hf, FetchItem.snippet?, huid]

end Arrival

/-! ## Conversations with and without notices -/

/-- Whether a session has to fetch something to answer. -/
def SessionCall.fetches : SessionCall → Bool
  | .fetchFlags _ | .fetchHeaders _ | .fetchText .. | .fetchRaw _ => true
  | _ => false

def Request.fetches : Request → Bool
  | .outside (.session _ c) => c.fetches
  | _ => false

def fetched (log : List (Exchange Request Request.Reply)) : Bool := log.any (·.question.fetches)

open Arrival

/-- An exchange of a worker as it is without notices, and as it is with them. -/
inductive Interrupted (l : List Arrival) :
    Exchange Request Request.Reply → Exchange Request Request.Reply → Prop where
  | fetch {s : SessionId} {c : SessionCall} {set : String} {query : FetchQuery} {r r' : c.Reply}
      (hc : c.fetches = true)
      (h : Holds (ImapMailbox.perform c).run [⟨.uidFetch set query, .ok (items (asked l))⟩] r)
      (h' : Holds (ImapMailbox.perform c).run [⟨.uidFetch set query, .ok (items l)⟩] r') :
      Interrupted l ⟨.outside (.session s c), r⟩ ⟨.outside (.session s c), r'⟩
  | other {x : Exchange Request Request.Reply} (h : x.question.fetches = false) : Interrupted l x x

variable {l : List Arrival} {s : SessionId} {set : String} {limit : UInt32}
  {x' : Exchange Request Request.Reply}

theorem interrupted_fetchHeaders {found : List RemoteMessage}
    (h : Interrupted l ⟨.outside (.session s (.fetchHeaders set)), .ok found⟩ x') :
    found = listed (asked l) ∧
      x' = ⟨.outside (.session s (.fetchHeaders set)), .ok (listed l)⟩ := by
  cases h with
  | fetch _ h h' =>
      obtain ⟨reply, hlog, ho⟩ := ImapMailbox.holds_fetchHeaders_iff.mp h
      obtain ⟨reply', hlog', ho'⟩ := ImapMailbox.holds_fetchHeaders_iff.mp h'
      cases hlog
      cases hlog'
      subst ho'
      exact ⟨Except.ok.inj ho, rfl⟩
  | other h => cases h

theorem interrupted_fetchText {found : List (Uid × Bytes)}
    (h : Interrupted l ⟨.outside (.session s (.fetchText set limit)), .ok found⟩ x') :
    found = snippets (asked l) ∧
      x' = ⟨.outside (.session s (.fetchText set limit)), .ok (snippets l)⟩ := by
  cases h with
  | fetch _ h h' =>
      obtain ⟨reply, hlog, ho⟩ := ImapMailbox.holds_fetchText_iff.mp h
      obtain ⟨reply', hlog', ho'⟩ := ImapMailbox.holds_fetchText_iff.mp h'
      cases hlog
      cases hlog'
      subst ho'
      exact ⟨Except.ok.inj ho, rfl⟩
  | other h => cases h

theorem interrupted_other {x : Exchange Request Request.Reply} (h : Interrupted l x x')
    (hx : x.question.fetches = false) : x' = x := by
  cases h with
  | other => rfl
  | fetch hc => exact absurd hc (by simpa [Request.fetches] using hx)

/-! ## The parts of a task that fetch -/

variable {log log' : List (Exchange Request Request.Reply)} {messages : List RemoteMessage}

/-- Up to the first fetch, notices change nothing. -/
theorem interrupted_append {before rest : List (Exchange Request Request.Reply)}
    (hbefore : fetched before = false) (hlog : List.Forall₂ (Interrupted l) (before ++ rest) log') :
    ∃ rest', log' = before ++ rest' ∧ List.Forall₂ (Interrupted l) rest rest' := by
  induction before generalizing log' with
  | nil => exact ⟨log', rfl, hlog⟩
  | cons x before ih =>
      rw [fetched, List.any_cons, Bool.or_eq_false_iff] at hbefore
      obtain ⟨x', _, hx, hmore, rfl⟩ := List.forall₂_cons_left_iff.mp hlog
      obtain ⟨rest', rfl, hrest⟩ := ih hbefore.2 hmore
      rw [interrupted_other hx hbefore.1]
      exact ⟨rest', rfl, hrest⟩

theorem eq_of_not_fetched (h : fetched log = false) (hlog : List.Forall₂ (Interrupted l) log log') :
    log' = log := by
  rw [← List.append_nil log] at hlog
  obtain ⟨rest, rfl, hrest⟩ := interrupted_append h hlog
  rw [List.forall₂_nil_left_iff.mp hrest, List.append_nil]

/-- A log ends with the headers that were fetched, and the result is chosen from what they say. -/
def FetchesLast (load : Trial (List RemoteMessage)) (s : SessionId)
    (choose : List RemoteMessage → List RemoteMessage) (log : List (Exchange Request Request.Reply))
    (messages : List RemoteMessage) : Prop :=
  ∃ before set found, fetched before = false ∧
    log = before ++ [⟨.outside (.session s (.fetchHeaders set)), .ok found⟩] ∧
    messages = choose found ∧
    ∀ found', Holds load.run (before ++ [⟨.outside (.session s (.fetchHeaders set)), .ok found'⟩])
      (.ok (choose found'))

theorem FetchesLast.interrupted {load : Trial (List RemoteMessage)}
    {choose : List RemoteMessage → List RemoteMessage}
    (h : FetchesLast load s choose log messages) (hlog : List.Forall₂ (Interrupted l) log log') :
    fetched log = true ∧ messages = choose (listed (asked l)) ∧
      Holds load.run log' (.ok (choose (listed l))) := by
  obtain ⟨before, set, found, hbefore, rfl, rfl, hload⟩ := h
  obtain ⟨last', rfl, hlast⟩ := interrupted_append hbefore hlog
  obtain ⟨x', _, hx', hrest, rfl⟩ := List.forall₂_cons_left_iff.mp hlast
  obtain rfl := List.forall₂_nil_left_iff.mp hrest
  obtain ⟨rfl, rfl⟩ := interrupted_fetchHeaders hx'
  exact ⟨by simp [fetched, Request.fetches, SessionCall.fetches], rfl, hload _⟩

namespace Task

theorem headersOf_fetches {uids : OrderedSet Uid}
    (h : Holds (headersOf s uids).run log (.ok messages)) :
    (uids.isEmpty = true ∧ log = [] ∧ messages = []) ∨
      FetchesLast (headersOf s uids) s (within uids) log messages := by
  unfold FetchesLast
  rw [headersOf] at h ⊢
  split at h
  next hnone => exact .inl ⟨hnone, Trial.holds_pure_ok_iff.mp h⟩
  next hsome =>
    obtain ⟨found, rfl, rfl⟩ := Trial.holds_outside_last_iff.mp h
    refine .inr ⟨[], _, found, rfl, rfl, rfl, fun found' => ?_⟩
    rw [if_neg hsome]
    exact Trial.holds_outside_last_iff.mpr ⟨found', rfl, rfl⟩

theorem uncached_fetches {p : Profile} {folder : Folder} {uids : List Uid}
    (h : Holds (uncached p s folder uids).run log (.ok messages)) :
    (log = [] ∧ messages = []) ∨
      ∃ cached, (∀ cached',
          ⟨.outside (.store (.uidFlags p.email folder.shortName)), .ok cached'⟩ ∈ log ↔
            cached' = cached) ∧
        FetchesLast (uncached p s folder uids) s (Reconciliation.toInsert cached.contains) log
          messages := by
  unfold FetchesLast
  rw [uncached] at h ⊢
  split at h
  next => exact .inl (Trial.holds_pure_ok_iff.mp h)
  next hsome =>
    obtain ⟨cached, _, rfl, hfetch⟩ := Trial.holds_outside_bind_ok_iff.mp h
    obtain ⟨found, rfl, rfl⟩ := Trial.holds_outside_last_iff.mp hfetch
    refine .inr ⟨cached, fun cached' => by simp, [_], _, found, rfl, rfl, rfl, fun found' => ?_⟩
    rw [if_neg hsome]
    refine Trial.holds_outside_bind_ok_iff.mpr ⟨cached, _, rfl, ?_⟩
    exact Trial.holds_outside_last_iff.mpr ⟨found', rfl, rfl⟩

theorem messagesAt_fetches {first last : Int}
    (h : Holds (messagesAt s first last).run log (.ok messages)) :
    (fetched log = false ∧ messages = []) ∨
      FetchesLast (messagesAt s first last) s (·.mergeSort RemoteMessage.uidLe) log messages := by
  unfold FetchesLast
  rw [messagesAt] at h ⊢
  obtain ⟨uids, _, rfl, hslice⟩ := Trial.holds_outside_bind_ok_iff.mp h
  dsimp only at hslice
  split at hslice
  next =>
    obtain ⟨rfl, rfl⟩ := Trial.holds_pure_ok_iff.mp hslice
    exact .inl ⟨rfl, rfl⟩
  next hsome =>
    obtain ⟨found, rfl, rfl⟩ := Trial.holds_outside_last_iff.mp hslice
    refine .inr ⟨[_], _, found, rfl, rfl, rfl, fun found' => ?_⟩
    refine Trial.holds_outside_bind_ok_iff.mpr ⟨uids, _, rfl, ?_⟩
    rw [if_neg hsome]
    exact Trial.holds_outside_last_iff.mpr ⟨found', rfl, rfl⟩

theorem encryptionStates_fetches {settings : SyncSettings} {states : EncryptionStates}
    (h : Holds (encryptionStates settings s messages).run log (.ok states)) :
    log = [] ∨ ∃ set found,
      log = [⟨.outside (.session s (.fetchText set snippetLength)), .ok found⟩] ∧
      states = statesOf found ∧
      ∀ found', Holds (encryptionStates settings s messages).run
        [⟨.outside (.session s (.fetchText set snippetLength)), .ok found'⟩]
        (.ok (statesOf found')) := by
  rw [encryptionStates] at h ⊢
  split at h
  next => exact .inl (Trial.holds_pure_ok_iff.mp h).1
  next honly =>
    split at h
    next => exact .inl (Trial.holds_pure_ok_iff.mp h).1
    next hsome =>
      obtain ⟨found, rfl, rfl⟩ := Trial.holds_outside_last_iff.mp h
      refine .inr ⟨_, found, rfl, rfl, fun found' => ?_⟩
      rw [if_neg honly, if_neg hsome]
      exact Trial.holds_outside_last_iff.mpr ⟨found', rfl, rfl⟩

end Task

/-! ## What notices change -/

namespace Arrival

/-- How the rows of a listing with notices differ from those of the listing without: a number that a
notice overtakes is left without an envelope, if it is one that is taken. -/
def Overtakes (l : List Arrival) (takes : Uid → Prop) (messages messages' : List RemoteMessage) :
    Prop :=
  ∀ (w : CacheWriter) (folder : Folder) (states states' : EncryptionStates) (notify : Bool)
    (cache : Store) (uid : Uid),
    let row := fun messages states => (cache.addRows (w.rows folder messages states notify)).2.get?
      w.account folder.shortName uid
    (overtaken uid l = true ∧ takes uid → ∃ flags, row messages' states' =
      some ⟨w.account, folder.shortName, uid, some flags, states'.get? uid, notify, .empty⟩) ∧
    (¬ (overtaken uid l = true ∧ takes uid) → states'.get? uid = states.get? uid →
      row messages' states' = row messages states)

variable {takes : Uid → Prop} {messages' : List RemoteMessage}

theorem overtakes_of_latest
    (hlost : ∀ uid, overtaken uid l = true → takes uid →
      ∃ m, latest uid messages' = some m ∧ m.envelope = .empty)
    (hkept : ∀ uid, ¬ (overtaken uid l = true ∧ takes uid) →
      latest uid messages' = latest uid messages) :
    Overtakes l takes messages messages' := by
  intro w folder states states' notify cache uid row
  simp only [row, CacheWriter.get?_addRows_rows]
  constructor
  · rintro ⟨hover, htakes⟩
    obtain ⟨m, hm, henvelope⟩ := hlost uid hover htakes
    rw [hm, Option.map_some, Option.some_or, henvelope]
    exact ⟨_, rfl⟩
  · intro h hstates
    rw [hkept uid h, hstates]

theorem latest_listed_of_overtaken {uid : Uid} (h : overtaken uid l = true) :
    ∃ m, latest uid (listed l) = some m ∧ m.envelope = .empty := by
  obtain ⟨f, hf, hlast, huid⟩ := find?_of_forestalled h
  rw [latest_listed, hlast]
  exact ⟨f.message, rfl, FetchItem.message_of_isNotice hf⟩

theorem latest_listed_asked {uid : Uid} (h : overtaken uid l = false) :
    latest uid (listed (asked l)) = latest uid (listed l) := by
  rw [latest_listed, latest_listed, overtaken_asked h]

theorem rawIn_items (uid : Uid) (l : List Arrival) :
    ImapMailbox.rawIn uid (readable (items l)) =
      ((l.find? (·.names uid)).bind (·.item?)).bind (·.part? .whole) := by
  rw [ImapMailbox.rawIn, readable_items, List.find?_filterMap]
  rfl

theorem fetchRaw_forestalled {uid : Uid} {set : String} {query : FetchQuery}
    {o : Except MailError (Option Bytes)}
    (h : Holds (ImapMailbox.perform (.fetchRaw uid)).run
      [⟨.uidFetch set query, .ok (items (asked l))⟩] o) :
    Holds (ImapMailbox.perform (.fetchRaw uid)).run [⟨.uidFetch set query, .ok (items l)⟩]
      (if forestalled uid l then .ok none else o) := by
  obtain ⟨e, -, hlog, -⟩ | ⟨n, hn, reply, hlog, rfl⟩ := ImapMailbox.holds_fetchRaw_iff.mp h
  · cases hlog
  · cases hlog
    refine ImapMailbox.holds_fetchRaw_iff.mpr (.inr ⟨n, hn, _, rfl, ?_⟩)
    show _ = Except.ok (ImapMailbox.rawIn uid _)
    rw [rawIn_items]
    split
    next hfirst =>
      obtain ⟨f, hf, hnotice, -⟩ := find?_of_forestalled hfirst
      rw [hnotice]
      exact congrArg Except.ok (FetchItem.part?_of_isNotice hf .whole).symm
    next hfirst =>
      show Except.ok (ImapMailbox.rawIn uid _) = _
      rw [rawIn_items, find?_asked (eq_false_of_ne_true hfirst)]

theorem encryptionStates_overtaken {settings : SyncSettings} {states : EncryptionStates}
    (h : Holds (Task.encryptionStates settings s messages).run log (.ok states))
    (hlog : List.Forall₂ (Interrupted l) log log') :
    ∃ states', Holds (Task.encryptionStates settings s messages).run log' (.ok states') ∧
      ∀ uid, states'.get? uid =
        if fetched log && overtaken uid l then some false else states.get? uid := by
  obtain rfl | ⟨set, found, rfl, rfl, hstates⟩ := Task.encryptionStates_fetches h
  · obtain rfl := List.forall₂_nil_left_iff.mp hlog
    exact ⟨states, h, fun uid => rfl⟩
  obtain ⟨x', _, hx', hrest, rfl⟩ := List.forall₂_cons_left_iff.mp hlog
  obtain rfl := List.forall₂_nil_left_iff.mp hrest
  obtain ⟨rfl, rfl⟩ := interrupted_fetchText hx'
  refine ⟨_, hstates _, fun uid => ?_⟩
  show _ = if overtaken uid l then _ else _
  rw [get?_statesOf_snippets, get?_statesOf_snippets]
  split
  next hover =>
    obtain ⟨f, hf, hlast, -⟩ := find?_of_forestalled hover
    rw [hlast]
    show some (looksEncrypted ((f.part? .text).getD [])) = _
    rw [FetchItem.part?_of_isNotice hf]
    rfl
  next hover => rw [overtaken_asked (eq_false_of_ne_true hover)]

theorem overtakes_of_fetchesLast {load : Trial (List RemoteMessage)}
    {choose : List RemoteMessage → List RemoteMessage} (takes : Uid → Bool)
    (hchoose : ∀ uid messages, latest uid (choose messages) =
      if takes uid then latest uid messages else none)
    (h : FetchesLast load s choose log messages) (hlog : List.Forall₂ (Interrupted l) log log') :
    ∃ messages', Holds load.run log' (.ok messages') ∧
      Overtakes l (takes · = true) messages messages' := by
  obtain ⟨-, rfl, hload⟩ := h.interrupted hlog
  refine ⟨_, hload, overtakes_of_latest (fun uid hover htakes => ?_) fun uid h => ?_⟩
  · obtain ⟨m, hm, henvelope⟩ := latest_listed_of_overtaken hover
    exact ⟨m, by rw [hchoose, if_pos htakes, hm], henvelope⟩
  · rw [hchoose, hchoose]
    split
    next htakes =>
      have hover : overtaken uid l = false := eq_false_of_ne_true fun hover => h ⟨hover, htakes⟩
      rw [latest_listed_asked hover]
    next => rfl

theorem overtakes_nothing (h : ∀ uid, ¬ takes uid) : Overtakes l takes messages messages :=
  overtakes_of_latest (fun uid _ htakes => absurd htakes (h uid)) fun _ _ => rfl

theorem headersOf_overtaken {uids : OrderedSet Uid}
    (h : Holds (Task.headersOf s uids).run log (.ok messages))
    (hlog : List.Forall₂ (Interrupted l) log log') :
    ∃ messages', Holds (Task.headersOf s uids).run log' (.ok messages') ∧
      Overtakes l (· ∈ uids) messages messages' := by
  obtain ⟨hnone, rfl, rfl⟩ | hfetch := Task.headersOf_fetches h
  · obtain rfl := List.forall₂_nil_left_iff.mp hlog
    exact ⟨[], h, overtakes_nothing (OrderedSet.isEmpty_iff.mp hnone)⟩
  · simpa using overtakes_of_fetchesLast (· ∈ uids) (latest_filter (· ∈ uids)) hfetch hlog

theorem uncached_overtaken {p : Profile} {folder : Folder} {uids : List Uid}
    (h : Holds (Task.uncached p s folder uids).run log (.ok messages))
    (hlog : List.Forall₂ (Interrupted l) log log') :
    ∃ messages', Holds (Task.uncached p s folder uids).run log' (.ok messages') ∧
      Overtakes l (fun uid => ∃ cached,
        ⟨.outside (.store (.uidFlags p.email folder.shortName)), .ok cached⟩ ∈ log ∧
          cached.get? uid = none) messages messages' := by
  obtain ⟨rfl, rfl⟩ | ⟨cached, hcached, hfetch⟩ := Task.uncached_fetches h
  · obtain rfl := List.forall₂_nil_left_iff.mp hlog
    exact ⟨[], h, overtakes_nothing fun uid ⟨_, hmem, _⟩ => List.not_mem_nil hmem⟩
  · obtain ⟨messages', hload, hovertakes⟩ :=
      overtakes_of_fetchesLast (fun uid => !cached.contains uid) (latest_filter _) hfetch hlog
    refine ⟨messages', hload, ?_⟩
    simpa [hcached, OrderedMap.contains_eq_isSome] using hovertakes

theorem messagesAt_overtaken {first last : Int}
    (h : Holds (Task.messagesAt s first last).run log (.ok messages))
    (hlog : List.Forall₂ (Interrupted l) log log') :
    ∃ messages', Holds (Task.messagesAt s first last).run log' (.ok messages') ∧
      Overtakes l (fun _ => fetched log = true) messages messages' := by
  obtain ⟨hsilent, rfl⟩ | hfetch := Task.messagesAt_fetches h
  · obtain rfl := eq_of_not_fetched hsilent hlog
    exact ⟨[], h, overtakes_nothing fun uid => by simp [hsilent]⟩
  · have hfetched := (hfetch.interrupted hlog).1
    have hchoose : ∀ uid messages, latest uid (messages.mergeSort RemoteMessage.uidLe) =
        if true then latest uid messages else none := fun uid messages =>
      latest_mergeSort uid messages
    simpa [hfetched] using overtakes_of_fetchesLast (fun _ => true) hchoose hfetch hlog

/-- What notices change in the answers to a fetch. A message that a notice forestalls is not found,
one that a notice overtakes is taken for plain and stored without its envelope, and nothing else
changes. -/
theorem answers_overtaken (l : List Arrival) :
    (∀ (uid : Uid) (set : String) (query : FetchQuery) (o : Except MailError (Option Bytes)),
      Holds (ImapMailbox.perform (.fetchRaw uid)).run
        [⟨.uidFetch set query, .ok (items (asked l))⟩] o →
      Holds (ImapMailbox.perform (.fetchRaw uid)).run [⟨.uidFetch set query, .ok (items l)⟩]
        (if forestalled uid l then .ok none else o)) ∧
    ∀ (s : SessionId) (log log' : List (Exchange Request Request.Reply)),
      List.Forall₂ (Interrupted l) log log' →
      (∀ (settings : SyncSettings) (messages : List RemoteMessage) (states : EncryptionStates),
        Holds (Task.encryptionStates settings s messages).run log (.ok states) →
        ∃ states', Holds (Task.encryptionStates settings s messages).run log' (.ok states') ∧
          ∀ uid, states'.get? uid =
            if fetched log && overtaken uid l then some false else states.get? uid) ∧
      (∀ (uids : OrderedSet Uid) (messages : List RemoteMessage),
        Holds (Task.headersOf s uids).run log (.ok messages) →
        ∃ messages', Holds (Task.headersOf s uids).run log' (.ok messages') ∧
          Overtakes l (· ∈ uids) messages messages') ∧
      (∀ (p : Profile) (folder : Folder) (uids : List Uid) (messages : List RemoteMessage),
        Holds (Task.uncached p s folder uids).run log (.ok messages) →
        ∃ messages', Holds (Task.uncached p s folder uids).run log' (.ok messages') ∧
          Overtakes l (fun uid => ∃ cached,
            ⟨.outside (.store (.uidFlags p.email folder.shortName)), .ok cached⟩ ∈ log ∧
              cached.get? uid = none) messages messages') ∧
      (∀ (first last : Int) (messages : List RemoteMessage),
        Holds (Task.messagesAt s first last).run log (.ok messages) →
        ∃ messages', Holds (Task.messagesAt s first last).run log' (.ok messages') ∧
          Overtakes l (fun _ => fetched log = true) messages messages') := by
  refine ⟨fun uid set query o h => fetchRaw_forestalled h, fun s log log' hlog => ?_⟩
  refine ⟨fun settings messages states h => encryptionStates_overtaken h hlog,
    fun uids messages h => headersOf_overtaken h hlog,
    fun p folder uids messages h => uncached_overtaken h hlog,
    fun first last messages h => messagesAt_overtaken h hlog⟩

/-- One notice is enough: before the answer it hides a message, and after the answer it makes an
encrypted message a plain one, and takes its subject away. -/
theorem answers_overtaken_one_notice :
    let notice : Arrival := .notice ⟨[.uid 7, .flags ["\\Seen"]]⟩ rfl
    let raw : Arrival := .answer (.ok ⟨[.uid 7, .part .whole (some [104, 105])]⟩)
    let snippet : Arrival := .answer (.ok ⟨[.uid 7, .part .text (some (utf8 pgpMarker))]⟩)
    let header : Arrival :=
      .answer (.ok ⟨[.uid 7, .part .header (some (utf8 "Subject: x\r\n\r\n"))]⟩)
    let subject := fun messages => ((Store.empty.addRows
      ((⟨"me"⟩ : CacheWriter).rows .inbox messages ∅ false)).2.get? "me" "INBOX" 7).map
        (·.envelope.subject)
    (Holds (ImapMailbox.perform (.fetchRaw 7)).run [⟨.uidFetch "7" .whole, .ok (items [raw])⟩]
        (.ok (some [104, 105])) ∧
      Holds (ImapMailbox.perform (.fetchRaw 7)).run
        [⟨.uidFetch "7" .whole, .ok (items [notice, raw])⟩] (.ok none)) ∧
    ((statesOf (snippets [snippet])).get? 7 = some true ∧
      ∃ states, Holds (Task.encryptionStates .default 0 [⟨some 7, ∅, .empty, none⟩]).run
        [⟨.outside (.session 0 (.fetchText "7" Task.snippetLength)),
          .ok (snippets [snippet, notice])⟩] (.ok states) ∧ states.get? 7 = some false) ∧
    subject (listed [header]) = some "x" ∧
      ∃ messages, Holds (Task.headersOf 0 (OrderedSet.ofList [7])).run
        [⟨.outside (.session 0 (.fetchHeaders "7")), .ok (listed [header, notice])⟩]
          (.ok messages) ∧ subject messages = some "" := by
  intro notice raw snippet header subject
  have hraw : Holds (ImapMailbox.perform (.fetchRaw 7)).run
      [⟨.uidFetch "7" .whole, .ok (items [raw])⟩] (.ok (some [104, 105])) :=
    ImapMailbox.holds_fetchRaw_iff.mpr (.inr ⟨7, rfl, .ok (items [raw]), rfl, rfl⟩)
  have htext : Interrupted [snippet, notice]
      ⟨.outside (.session 0 (.fetchText "7" Task.snippetLength)), .ok (snippets [snippet])⟩
      ⟨.outside (.session 0 (.fetchText "7" Task.snippetLength)),
        .ok (snippets [snippet, notice])⟩ :=
    .fetch rfl (ImapMailbox.holds_fetchText_iff.mpr ⟨.ok (items [snippet]), rfl, rfl⟩)
      (ImapMailbox.holds_fetchText_iff.mpr ⟨.ok (items [snippet, notice]), rfl, rfl⟩)
  have hheaders : Interrupted [header, notice]
      ⟨.outside (.session 0 (.fetchHeaders "7")), .ok (listed [header])⟩
      ⟨.outside (.session 0 (.fetchHeaders "7")), .ok (listed [header, notice])⟩ :=
    .fetch rfl (ImapMailbox.holds_fetchHeaders_iff.mpr ⟨.ok (items [header]), rfl, rfl⟩)
      (ImapMailbox.holds_fetchHeaders_iff.mpr ⟨.ok (items [header, notice]), rfl, rfl⟩)
  refine ⟨⟨hraw, (answers_overtaken [notice, raw]).1 7 "7" .whole _ hraw⟩,
    ⟨by decide +kernel, ?_⟩, by decide +kernel, ?_⟩
  · obtain ⟨states, hstates, hlooks⟩ := ((answers_overtaken [snippet, notice]).2 0 _ _
      (.cons htext .nil)).1 .default [⟨some 7, ∅, .empty, none⟩] (statesOf (snippets [snippet])) (by
        exact Trial.holds_outside_last_iff.mpr ⟨_, rfl, rfl⟩)
    exact ⟨states, hstates, hlooks 7⟩
  · obtain ⟨messages, hmessages, hrows⟩ := ((answers_overtaken [header, notice]).2 0 _ _
      (.cons hheaders .nil)).2.1 (OrderedSet.ofList [7]) (listed [header]) (by
        exact Trial.holds_outside_last_iff.mpr ⟨_, rfl, rfl⟩)
    obtain ⟨flags, hrow⟩ := (hrows ⟨"me"⟩ .inbox ∅ ∅ false .empty 7).1 ⟨rfl, by decide⟩
    exact ⟨messages, hmessages, congrArg (Option.map (·.envelope.subject)) hrow⟩

end Arrival

end MailSync
