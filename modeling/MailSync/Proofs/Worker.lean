import MailSync.Proofs.Connection
import MailSync.Worker

/-!
# The events of one task

`Worker.process_tells` says what a worker reports of one task, for all
replies: the start; the opening of a connection, if one is opened; and one
ending, which follows from the outcome of the task. The opening and the
ending are read off the conversation (`Task.opening`, `Task.Ending`), so
the statement is about each conversation and not only about the possible
lists of events.
-/

namespace MailSync

open Dialogue

/-- Whether a call is about the folder that was selected last. -/
def SessionCall.inFolder : SessionCall → Bool
  | .noop | .listFolders | .select _ | .logout => false
  | .search _ | .fetchFlags _ | .fetchHeaders _ | .fetchText .. | .fetchRaw _ | .move .. => true

/-- The folder that a task works in. -/
def TaskKind.folder? : TaskKind → Option Folder
  | .updateLabels | .send _ => none
  | .loadMessages folder .. | .loadDetails folder _ | .loadPage folder _ | .loadNew folder _
  | .move folder .. | .syncFolder folder => some folder

/-! ## What an exchange says -/

namespace WorkLog

/-- The event that an exchange reports, if it reports one. -/
def event? : Exchange Request Request.Reply → Option Event
  | ⟨.inside (.emit event), _⟩ => some event
  | _ => none

/-- The events that were reported. -/
def events (log : WorkLog) : List Event := log.filterMap event?

/-- Whether a new session was asked for. -/
def reconnects (log : WorkLog) : Bool :=
  log.any fun x => match x with
    | ⟨.inside (.publish .connecting), _⟩ => true
    | _ => false

/-- Whether a new session was given. -/
def reconnected (log : WorkLog) : Bool :=
  log.any fun x => match x with
    | ⟨.outside (.connect _ _), .ok _⟩ => true
    | _ => false

/-- Whether the worker was found to be told to stop. -/
def stopped (log : WorkLog) : Bool :=
  log.any fun x => match x with
    | ⟨.inside .isCancelled, true⟩ => true
    | _ => false

variable {log log' : WorkLog}

@[simp] theorem events_append : events (log ++ log') = events log ++ events log' :=
  List.filterMap_append

@[simp] theorem reconnects_append :
    reconnects (log ++ log') = (reconnects log || reconnects log') := List.any_append

@[simp] theorem reconnected_append :
    reconnected (log ++ log') = (reconnected log || reconnected log') := List.any_append

end WorkLog

/-- A question that neither reports nor concerns the opening of a session. -/
def Request.IsAside : Request → Prop
  | .outside (.connect _ _) | .inside (.emit _) | .inside (.publish _) => False
  | _ => True

/-- A question that a task asks while it has a live session. -/
def Request.IsMailbox : Request → Prop
  | .outside (.session _ _) | .outside (.store _) | .inside .isForeground => True
  | _ => False

/-- A question about the folder that a session has selected, or about none. -/
def Request.InFolder (s : SessionId) : Request → Prop
  | .outside (.session id call) => id = s ∧ call.inFolder = true
  | .outside (.store _) | .inside .isForeground => True
  | _ => False

theorem Request.InFolder.isMailbox {s : SessionId} {q : Request} (h : q.InFolder s) :
    q.IsMailbox := by
  cases q with
  | outside call => cases call with
    | session _ _ | store _ => trivial
    | token | connect _ _ | send _ _ _ => exact h
  | inside call => cases call with
    | isForeground => trivial
    | emit _ | publish _ | release _ | isCancelled => exact h

theorem Request.IsMailbox.isAside {q : Request} (h : q.IsMailbox) : q.IsAside := by
  cases q with
  | outside call => cases call with
    | connect _ _ => exact h
    | token | session _ _ | send _ _ _ | store _ => trivial
  | inside call => cases call with
    | emit _ | publish _ => exact h
    | release _ | isCancelled | isForeground => trivial

/-- A question that a task asks to submit a message. -/
def Request.IsSubmission : Request → Prop
  | .outside .token | .outside (.send _ _ _) | .inside .isCancelled => True
  | _ => False

theorem Request.IsSubmission.isAside {q : Request} (h : q.IsSubmission) : q.IsAside := by
  cases q with
  | outside call => cases call with
    | connect _ _ => exact h
    | token | session _ _ | send _ _ _ | store _ => trivial
  | inside call => cases call with
    | emit _ | publish _ => exact h
    | release _ | isCancelled | isForeground => trivial

namespace WorkLog

/-- Asides leave no trace in what is said of a conversation. -/
theorem of_asides {log : WorkLog} (h : ∀ x ∈ log, x.question.IsAside) :
    events log = [] ∧ reconnects log = false ∧ reconnected log = false := by
  refine ⟨List.filterMap_eq_nil_iff.mpr fun x hx => ?_, List.any_eq_false.mpr fun x hx => ?_,
    List.any_eq_false.mpr fun x hx => ?_⟩
  all_goals have haside := h x hx
  · unfold event?
    split
    · exact haside.elim
    · rfl
  all_goals
    split
    · exact haside.elim
    · simp

end WorkLog

/-! ## What a task asks -/

namespace Trial

variable {may : Request → Prop}

theorem asks_outside {c : OutsideCall} (h : may (.outside c)) : (Trial.outside c).run.Asks may :=
  ⟨h, fun _ => trivial⟩

theorem asks_inside {c : InsideCall} (h : may (.inside c)) :
    (ExceptT.lift (Work.inside c) : Trial c.Reply).run.Asks may :=
  ⟨h, fun _ => trivial⟩

end Trial

namespace Task

open Attempt (asks_pure asks_bind asks_throw)

variable {s : SessionId}

theorem announces_asks (folder : Folder) : (announces folder).run.Asks (Request.InFolder s) :=
  asks_bind (Trial.asks_inside trivial) fun _ => asks_pure _

theorem snapshot_asks (p : Profile) (folder : Folder) :
    (snapshot p folder).run.Asks (Request.InFolder s) :=
  Trial.asks_outside trivial

theorem folderCall_asks {call : SessionCall} (h : call.inFolder = true) :
    (Trial.session s call).run.Asks (Request.InFolder s) :=
  Trial.asks_outside ⟨rfl, h⟩

theorem encryptionStates_asks (settings : SyncSettings) (messages : List RemoteMessage) :
    (encryptionStates settings s messages).run.Asks (Request.InFolder s) := by
  rw [encryptionStates]
  split
  · exact asks_pure _
  · split
    · exact asks_pure _
    · exact asks_bind (folderCall_asks rfl) fun _ => asks_pure _

theorem uidsAfter_asks (uid : Uid) : (uidsAfter s uid).run.Asks (Request.InFolder s) := by
  rw [uidsAfter]
  split
  · exact asks_pure _
  · exact asks_bind (folderCall_asks rfl) fun _ => asks_pure _

theorem uncached_asks (p : Profile) (folder : Folder) (uids : List Uid) :
    (uncached p s folder uids).run.Asks (Request.InFolder s) := by
  rw [uncached]
  split
  · exact asks_pure _
  · exact asks_bind (snapshot_asks p folder) fun _ =>
      asks_bind (folderCall_asks rfl) fun _ => asks_pure _

theorem messagesAt_asks (first last : Int) :
    (messagesAt s first last).run.Asks (Request.InFolder s) := by
  refine asks_bind (folderCall_asks rfl) fun uids => ?_
  dsimp only
  split
  · exact asks_pure _
  · exact asks_bind (folderCall_asks rfl) fun _ => asks_pure _

theorem headersOf_asks (uids : OrderedSet Uid) :
    (headersOf s uids).run.Asks (Request.InFolder s) := by
  rw [headersOf]
  split
  · exact asks_pure _
  · exact asks_bind (folderCall_asks rfl) fun _ => asks_pure _

theorem listing_asks (status : FolderStatus) : (listing s status).run.Asks (Request.InFolder s) := by
  rw [listing]
  split
  · exact asks_pure _
  · exact folderCall_asks rfl

/-- A task that works in a folder first selects it; everything else follows in the folder. Only a
move of no messages asks nothing at all. -/
theorem inSession_selects (p : Profile) (s : SessionId) {kind : TaskKind} {folder : Folder}
    (h : kind.folder? = some folder) : (∃ report, inSession p s kind = pure report) ∨
      ∃ f : FolderStatus → Trial Report,
        inSession p s kind = Trial.session s (.select folder.fullName) >>= f ∧
          ∀ status, (f status).run.Asks (Request.InFolder s) := by
  cases kind with
  | updateLabels | send raw => cases h
  | loadMessages folder' first last =>
      cases h
      exact .inr ⟨_, rfl, fun _ => asks_bind (messagesAt_asks _ _) fun _ => asks_pure _⟩
  | loadDetails folder' uid =>
      cases h
      refine .inr ⟨_, rfl, fun _ => asks_bind (folderCall_asks rfl) fun raw => ?_⟩
      cases raw with
      | some raw => exact asks_pure _
      | none => exact asks_throw _
  | loadPage folder' alreadyLoaded =>
      cases h
      refine .inr ⟨_, rfl, fun status => ?_⟩
      dsimp only
      split
      · exact asks_pure _
      · exact asks_bind (messagesAt_asks _ _) fun _ => asks_pure _
  | loadNew folder' lastUid =>
      cases h
      exact .inr ⟨_, rfl, fun _ => asks_bind (uidsAfter_asks lastUid) fun _ =>
        asks_bind (uncached_asks p folder _) fun _ =>
          asks_bind (encryptionStates_asks p.settings _) fun _ =>
            asks_bind (announces_asks folder) fun _ => asks_pure _⟩
  | move source destination uids =>
      cases h
      cases uids with
      | nil => exact .inl ⟨_, rfl⟩
      | cons uid uids =>
          refine .inr ⟨fun _ => do
            Trial.session s (.move (SequenceSet.ofList (uid :: uids)) destination.fullName)
            return .moved folder destination (uid :: uids), ?_, fun _ => ?_⟩
          · rfl
          · exact asks_bind (folderCall_asks rfl) fun _ => asks_pure _
  | syncFolder folder' =>
      cases h
      refine .inr ⟨_, rfl, fun status => ?_⟩
      exact asks_bind (listing_asks status) fun _ =>
          asks_bind (snapshot_asks p folder) fun _ =>
            asks_bind (headersOf_asks _) fun _ =>
              asks_bind (encryptionStates_asks p.settings _) fun _ =>
                asks_bind (announces_asks folder) fun _ => asks_pure _

/-- What a task asks with a live session: the folders, or the selection of a folder and then what
concerns that folder. -/
theorem inSession_asks_of {may : Request → Prop} (p : Profile) (s : SessionId) {kind : TaskKind}
    (h : kind.needsMailbox = true) (hlist : may (.outside (.session s .listFolders)))
    (hselect : ∀ name, may (.outside (.session s (.select name))))
    (hfolder : ∀ q, Request.InFolder s q → may q) : (inSession p s kind).run.Asks may := by
  cases hkind : kind.folder? with
  | none =>
      cases kind with
      | updateLabels => exact asks_bind (Trial.asks_outside hlist) fun _ => asks_pure _
      | send raw => cases h
      | loadMessages _ _ _ | loadDetails _ _ | loadPage _ _ | loadNew _ _ | move _ _ _
      | syncFolder _ => cases hkind
  | some folder =>
      obtain ⟨report, hreport⟩ | ⟨f, hf, hrest⟩ := inSession_selects p s hkind
      · rw [hreport]
        exact asks_pure report
      · rw [hf]
        exact asks_bind (Trial.asks_outside (hselect folder.fullName)) fun status =>
          (hrest status).mono hfolder

/-- With a live session a task asks the session and the store, and whether the user looks on. -/
theorem inSession_asks (p : Profile) (s : SessionId) {kind : TaskKind}
    (h : kind.needsMailbox = true) : (inSession p s kind).run.Asks Request.IsMailbox :=
  inSession_asks_of p s h trivial (fun _ => trivial) fun _ => Request.InFolder.isMailbox

theorem sendMessage_asks (p : Profile) (raw : Bytes) :
    (sendMessage p raw).run.Asks Request.IsSubmission := by
  refine asks_bind (Trial.asks_outside trivial) fun token =>
    asks_bind (asks_bind (Trial.asks_inside trivial) fun stopped => ?_) fun _ =>
      asks_bind (Trial.asks_outside trivial) fun _ => asks_pure _
  cases stopped with
  | true => exact asks_throw _
  | false => exact asks_pure _

/-! ## Opening a session -/

section Opening

variable {p : Profile} {t : Task} {c : Connection} {log : WorkLog}

/-- The event of a task that tells of its progress. -/
def progressed (t : Task) (progress : Progress) : Event := ⟨t.tag, .progress progress⟩

theorem holds_note_iff {progress : Progress} {u : Unit} :
    Holds (t.note progress) log u ↔ log = [⟨.inside (.emit (t.progressed progress)), ()⟩] :=
  holds_call_iff (q := Request.inside (.emit (t.progressed progress)))

/-- What a task reports of its connection: that one is being opened, and that it was. -/
def opening (log : WorkLog) : List Progress :=
  if WorkLog.reconnects log then
    .connecting :: if WorkLog.reconnected log then [.connected] else []
  else []

theorem opening_of_asides {log : WorkLog} (h : ∀ x ∈ log, x.question.IsAside) : opening log = [] := by
  rw [opening, (WorkLog.of_asides h).2.1, if_neg (by decide)]

theorem opening_append_asides (log : WorkLog) {rest : WorkLog}
    (h : ∀ x ∈ rest, x.question.IsAside) : opening (log ++ rest) = opening log := by
  obtain ⟨-, hreconnects, hreconnected⟩ := WorkLog.of_asides h
  rw [opening, WorkLog.reconnects_append, WorkLog.reconnected_append, hreconnects, hreconnected,
    Bool.or_false, Bool.or_false, opening]

/-- The part of the opening that `Connection.ensure` reports itself: what it reports, what was
asked for and what was given agree. -/
structure Ensures (t : Task) (log : WorkLog) (ensured : Connection.Ensured) : Prop where
  events : WorkLog.events log = if ensured.reopened then [t.progressed .connecting] else []
  reconnects : WorkLog.reconnects log = ensured.reopened
  reconnected : WorkLog.reconnected log = (ensured.reopened && ensured.session.isOk)
  kept : ensured.reopened = false → ensured.session.isOk = true

theorem ensure_ensures {ensured : Connection.Ensured}
    (h : Connection.Ensuring p.email (t.note .connecting) c log ensured) :
    t.Ensures log ensured := by
  cases h with
  | alive id => exact ⟨rfl, rfl, rfl, fun _ => rfl⟩
  | reopened hlost hnoticed htried =>
      obtain rfl := holds_note_iff.mp hnoticed
      -- A probe and a release are asides.
      cases hlost <;> cases htried <;> exact ⟨rfl, rfl, rfl, nofun⟩

/-- The conversation of a task that makes sure of a session: the worker is to stop, no session is
to be had, or there is one, which is given out unless the worker is to stop by now. -/
inductive OpensSession (p : Profile) (t : Task) (c : Connection) :
    WorkLog → Except MailError SessionId × Connection → Prop where
  | stopped : OpensSession p t c [⟨.inside .isCancelled, true⟩] (.error .cancelled, c)
  | failed {made : WorkLog} {ensured : Connection.Ensured} {e : MailError}
    (h : Connection.Ensuring p.email (t.note .connecting) c made ensured)
    (he : ensured.session = .error e) :
    OpensSession p t c (⟨.inside .isCancelled, false⟩ :: made) (.error e, ensured.connection)
  | made {made : WorkLog} {ensured : Connection.Ensured} {id : SessionId} (stopped : Bool)
    (h : Connection.Ensuring p.email (t.note .connecting) c made ensured)
    (hid : ensured.session = .ok id) :
    OpensSession p t c (⟨.inside .isCancelled, false⟩ :: (made ++
        ((if ensured.reopened then [⟨.inside (.emit (t.progressed .connected)), ()⟩] else []) ++
          [⟨.inside .isCancelled, stopped⟩])))
      (if stopped then .error .cancelled else .ok id, ensured.connection)

theorem openSession_log {o : Except MailError SessionId × Connection}
    (h : Holds (t.openSession p c) log o) : OpensSession p t c log o := by
  obtain ⟨asked, log₁, stopped, rfl, hasked, h₁⟩ := holds_bind_iff.mp h
  obtain rfl := (holds_call_iff (q := Request.inside .isCancelled)).mp hasked
  cases stopped with
  | true =>
      obtain ⟨rfl, rfl⟩ := holds_pure_iff.mp h₁
      exact .stopped
  | false =>
      obtain ⟨made, log₂, ensured, rfl, hmade, h₂⟩ := holds_bind_iff.mp h₁
      have hensuring := Connection.ensure_log hmade
      obtain ⟨session, reopened, c'⟩ := ensured
      cases session with
      | error e =>
          obtain ⟨rfl, rfl⟩ := holds_pure_iff.mp h₂
          rw [List.append_nil]
          exact .failed hensuring rfl
      | ok id =>
          have last : ∀ {log₃}, Holds (do
              if ← Work.inside .isCancelled then return (.error .cancelled, c')
              return (.ok id, c')) log₃ o → ∃ stopped, log₃ = [⟨.inside .isCancelled, stopped⟩] ∧
                o = (if stopped then .error .cancelled else .ok id, c') := by
            intro log₃ h₃
            obtain ⟨asked, log₄, stopped, rfl, hasked, h₄⟩ := holds_bind_iff.mp h₃
            obtain rfl := (holds_call_iff (q := Request.inside .isCancelled)).mp hasked
            cases stopped with
            | true | false =>
                obtain ⟨rfl, rfl⟩ := holds_pure_iff.mp h₄
                exact ⟨_, rfl, rfl⟩
          cases reopened with
          | false =>
              obtain ⟨stopped, rfl, rfl⟩ := last h₂
              exact .made stopped hensuring rfl
          | true =>
              obtain ⟨noted, log₃, _, rfl, hnoted, h₃⟩ := holds_bind_iff.mp h₂
              obtain rfl := holds_note_iff.mp hnoted
              obtain ⟨stopped, rfl, rfl⟩ := last h₃
              exact .made stopped hensuring rfl

/-- What a task reports while it opens a session is its `opening`. -/
theorem openSession_tells {o : Except MailError SessionId × Connection}
    (h : Holds (t.openSession p c) log o) :
    WorkLog.events log = (opening log).map t.progressed := by
  cases openSession_log h with
  | stopped => rfl
  | @failed made ensured e hmade he =>
      obtain ⟨hevents, hreconnects, hreconnected, hkept⟩ := ensure_ensures hmade
      obtain ⟨session, reopened, c'⟩ := ensured
      obtain rfl : session = .error e := he
      have hreopened : reopened = true := by
        cases reopened with
        | true => rfl
        | false => cases hkept rfl
      subst hreopened
      show WorkLog.events made = (opening made).map t.progressed
      rw [opening, hevents, hreconnects, hreconnected]
      rfl
  | @made made ensured id stopped hmade hid =>
      obtain ⟨hevents, hreconnects, hreconnected, -⟩ := ensure_ensures hmade
      obtain ⟨session, reopened, c'⟩ := ensured
      obtain rfl : session = .ok id := hid
      cases reopened with
      | false =>
          show WorkLog.events (made ++ _) = (opening (made ++ _)).map t.progressed
          rw [opening, WorkLog.events_append, WorkLog.reconnects_append, hevents, hreconnects]
          rfl
      | true =>
          show WorkLog.events (made ++ _) = (opening (made ++ _)).map t.progressed
          rw [opening, WorkLog.events_append, WorkLog.reconnects_append, WorkLog.reconnected_append,
            hevents, hreconnects, hreconnected]
          rfl

end Opening

end Task

/-! ## Answers -/

/-- The reports that answer a task. -/
def TaskKind.Answers : TaskKind → Report → Prop
  | .updateLabels, .folders _ => True
  | .loadMessages folder _ _, .messages folder' _ => folder' = folder
  | .loadDetails folder uid, .details folder' uid' _ => folder' = folder ∧ uid' = uid
  | .loadPage folder _, .messages folder' _ => folder' = folder
  | .loadNew folder _, .newMessages folder' _ _ _ => folder' = folder
  | .move source destination uids, .moved source' destination' uids' =>
    source' = source ∧ destination' = destination ∧ uids' = uids
  | .send _, .sent => True
  | .syncFolder folder, .refreshed folder' _ _ _ _ _ => folder' = folder
  | _, _ => False

namespace Task

open Attempt (Ends)

/-- Whatever is replied, a task that succeeds answers what was asked. -/
theorem inSession_ends (allowed : (q : Request) → q.Reply → Prop) (p : Profile) (s : SessionId)
    (kind : TaskKind) : Ends allowed (fun _ => True) kind.Answers (inSession p s kind) := by
  cases kind with
  | updateLabels => exact Ends.bind_last fun _ => Ends.pure trivial
  | loadMessages folder first last =>
      exact Ends.bind_last fun _ => Ends.bind_last fun _ => Ends.pure rfl
  | loadDetails folder uid =>
      refine Ends.bind_last fun _ => Ends.bind_last fun raw => ?_
      cases raw with
      | some raw => exact Ends.pure ⟨rfl, rfl⟩
      | none => exact Ends.throw trivial
  | loadPage folder alreadyLoaded =>
      refine Ends.bind_last fun status => ?_
      dsimp only
      split
      · exact Ends.pure rfl
      · exact Ends.bind_last fun _ => Ends.pure rfl
  | loadNew folder lastUid =>
      exact Ends.bind_last fun _ => Ends.bind_last fun _ => Ends.bind_last fun _ =>
        Ends.bind_last fun _ => Ends.bind_last fun _ => Ends.pure rfl
  | move source destination uids =>
      rw [inSession, moveMessages]
      split
      · exact Ends.pure ⟨rfl, rfl, rfl⟩
      · exact Ends.bind_last fun _ => Ends.bind_last fun _ => Ends.pure ⟨rfl, rfl, rfl⟩
  | send raw =>
      exact Ends.bind_last fun _ => Ends.bind_last fun _ => Ends.bind_last fun _ => Ends.pure trivial
  | syncFolder folder =>
      exact Ends.bind_last fun _ => Ends.bind_last fun _ => Ends.bind_last fun _ =>
        Ends.bind_last fun _ => Ends.bind_last fun _ => Ends.bind_last fun _ => Ends.pure rfl

/-! ## The whole of a task -/

theorem needsMailbox_eq_false {kind : TaskKind} (h : kind.needsMailbox = false) :
    ∃ raw, kind = .send raw := by
  cases kind with
  | send raw => exact ⟨raw, rfl⟩
  | updateLabels | loadMessages _ _ _ | loadDetails _ _ | loadPage _ _ | loadNew _ _ | move _ _ _
  | syncFolder _ => cases h

section Whole

variable {p : Profile} {t : Task} {c : Connection} {log : WorkLog}

theorem perform_of_needsMailbox (p : Profile) (c : Connection) (h : t.kind.needsMailbox = true) :
    t.perform p c = (do
      let (session, c) ← t.openSession p c
      match session with
      | .error e => return (.error e, c)
      | .ok id => return (← (inSession p id t.kind).run, c)) := by
  obtain ⟨tag, kind⟩ := t
  cases kind with
  | send raw => cases h
  | updateLabels | loadMessages _ _ _ | loadDetails _ _ | loadPage _ _ | loadNew _ _ | move _ _ _
  | syncFolder _ => rfl

/-- The conversation of a task that needs the mailbox: the opening of a session, and with a
session the part that has one. -/
theorem perform_log (h : t.kind.needsMailbox = true) {o : Except MailError Report × Connection}
    (hd : Holds (t.perform p c) log o) :
    ∃ opened rest session c', log = opened ++ rest ∧ Holds (t.openSession p c) opened (session, c') ∧
      ((∃ e, session = .error e ∧ rest = [] ∧ o = (.error e, c')) ∨
        ∃ id, session = .ok id ∧ Holds (inSession p id t.kind).run rest o.1 ∧ o.2 = c') := by
  rw [perform_of_needsMailbox p c h] at hd
  obtain ⟨opened, rest, ⟨session, c'⟩, rfl, hopened, hrest⟩ := holds_bind_iff.mp hd
  refine ⟨opened, rest, session, c', rfl, hopened, ?_⟩
  cases session with
  | error e =>
      obtain ⟨rfl, rfl⟩ := holds_pure_iff.mp hrest
      exact .inl ⟨e, rfl, rfl, rfl⟩
  | ok id =>
      obtain ⟨worked, last, outcome, rfl, hworked, hlast⟩ := holds_bind_iff.mp hrest
      obtain ⟨rfl, rfl⟩ := holds_pure_iff.mp hlast
      exact .inr ⟨id, rfl, by simpa using hworked, rfl⟩

theorem perform_send {raw : Bytes} (h : t.kind = .send raw)
    {o : Except MailError Report × Connection} (hd : Holds (t.perform p c) log o) :
    Holds (sendMessage p raw).run log o.1 ∧ o.2 = c := by
  obtain ⟨tag, kind⟩ := t
  obtain rfl : kind = .send raw := h
  obtain ⟨worked, last, outcome, rfl, hworked, hlast⟩ := holds_bind_iff.mp hd
  obtain ⟨rfl, rfl⟩ := holds_pure_iff.mp hlast
  exact ⟨by simpa using hworked, rfl⟩

/-- While it is performed, a task reports the opening of its session and nothing else, and only
a task that needs the mailbox opens one. -/
theorem perform_tells {o : Except MailError Report × Connection}
    (h : Holds (t.perform p c) log o) :
    WorkLog.events log = (opening log).map t.progressed ∧
      (t.kind.needsMailbox = false → opening log = []) := by
  cases hmailbox : t.kind.needsMailbox with
  | false =>
      obtain ⟨raw, hkind⟩ := needsMailbox_eq_false hmailbox
      have hasides : ∀ x ∈ log, x.question.IsAside := fun x hx =>
        ((sendMessage_asks p raw).of_holds (perform_send hkind h).1 x hx).isAside
      rw [opening_of_asides hasides, (WorkLog.of_asides hasides).1]
      exact ⟨rfl, fun _ => rfl⟩
  | true =>
      refine ⟨?_, nofun⟩
      obtain ⟨opened, rest, session, c', rfl, hopened, hrest⟩ := perform_log hmailbox h
      have hasides : ∀ x ∈ rest, x.question.IsAside := by
        obtain ⟨e, -, rfl, -⟩ | ⟨id, -, hworked, -⟩ := hrest
        · exact fun x hx => absurd hx List.not_mem_nil
        · exact fun x hx => ((inSession_asks p id hmailbox).of_holds hworked x hx).isAside
      rw [opening_append_asides opened hasides, WorkLog.events_append, (WorkLog.of_asides hasides).1,
        List.append_nil]
      exact openSession_tells hopened

/-- What a task that succeeds reports answers it. -/
theorem perform_answers {o : Except MailError Report × Connection}
    (h : Holds (t.perform p c) log o) : Attempt.Meets (fun _ => True) t.kind.Answers o.1 := by
  have answers : ∀ id rest, Holds (inSession p id t.kind).run rest o.1 →
      Attempt.Meets (fun _ => True) t.kind.Answers o.1 := fun id rest hworked =>
    Attempt.Ends.of_holds (inSession_ends (fun _ _ => True) p id t.kind) hworked fun _ _ => trivial
  cases hmailbox : t.kind.needsMailbox with
  | false =>
      obtain ⟨raw, hkind⟩ := needsMailbox_eq_false hmailbox
      refine answers 0 log ?_
      rw [hkind]
      exact (perform_send hkind h).1
  | true =>
      obtain ⟨opened, rest, session, c', rfl, hopened, ⟨e, -, -, rfl⟩ | ⟨id, -, hworked, -⟩⟩ :=
        perform_log hmailbox h
      · trivial
      · exact answers id rest hworked

/-- The reports that end a task, from its outcome and whether the worker found itself stopped:
the answer and a final mark; the mark alone if the message has gone; the failure; or nothing, of
a task that was cancelled with its worker. -/
inductive Ending (t : Task) : Except MailError Report → Bool → List Report → Prop where
  | reported {report : Report} {stopped : Bool} (h : t.kind.Answers report) :
    Ending t (.ok report) stopped [report, .progress .taskCompleted]
  | removed (uid : Uid) (stopped : Bool) :
    Ending t (.error (.messageRemoved uid)) stopped [.progress .taskCompleted]
  | failed {e : MailError} {stopped : Bool} (hkind : e.kind ≠ .messageRemovedRace)
    (hstopped : e = .cancelled → stopped = false) : Ending t (.error e) stopped [.failed e.kind e]
  | abandoned : Ending t (.error .cancelled) true []

/-- The last part of `settle`, for a failure that is not the worker's own stop. -/
def tellFailure (t : Task) (e : MailError) (c : Connection) : Work Connection :=
  match e.kind with
  | .messageRemovedRace => do
    t.note .taskCompleted
    return c
  | .auth => do
    let c ← c.invalidate
    Work.inside (.emit ⟨t.tag, .failed .auth e⟩)
    return c
  | kind => do
    Work.inside (.emit ⟨t.tag, .failed kind e⟩)
    return c

theorem settle_cancelled (t : Task) (c : Connection) :
    t.settle (.error .cancelled) c = (do
      if ← Work.inside .isCancelled then return c else t.tellFailure .cancelled c) := rfl

theorem settle_failed (t : Task) {e : MailError} (c : Connection) (h : e ≠ .cancelled) :
    t.settle (.error e) c = t.tellFailure e c := by
  rw [settle]
  exact if_neg h

/-- Dropping a session reports nothing. -/
theorem invalidate_tells {c' : Connection} (h : Holds c.invalidate log c') :
    WorkLog.events log = [] ∧ WorkLog.stopped log = false := by
  obtain ⟨-, ⟨-, rfl⟩ | ⟨id, -, rfl⟩⟩ := Connection.invalidate_log h
  · exact ⟨rfl, rfl⟩
  · exact ⟨rfl, rfl⟩

theorem tellFailure_tells {e : MailError} {c' : Connection} (h : Holds (t.tellFailure e c) log c') :
    ∃ ending, t.Ending (.error e) false ending ∧ WorkLog.events log = ending.map (Event.mk t.tag) ∧
      WorkLog.stopped log = false := by
  rw [tellFailure] at h
  split at h
  next hkind =>
    obtain ⟨noted, log₁, _, rfl, hnoted, h₁⟩ := holds_bind_iff.mp h
    obtain rfl := holds_note_iff.mp hnoted
    obtain ⟨rfl, rfl⟩ := holds_pure_iff.mp h₁
    obtain ⟨uid, rfl⟩ : ∃ uid, e = .messageRemoved uid := by
      cases e with
      | messageRemoved uid => exact ⟨uid, rfl⟩
      | imap _ | auth _ | protocol _ | smtp _ | config _ | store _ | crypto _ | cancelled | io _
      | tls _ => cases hkind
    exact ⟨_, .removed uid false, rfl, rfl⟩
  next hkind =>
    obtain ⟨dropped, log₁, _, rfl, hdropped, h₁⟩ := holds_bind_iff.mp h
    obtain ⟨told, log₂, _, rfl, htold, h₂⟩ := holds_bind_iff.mp h₁
    obtain rfl := (holds_call_iff (q := Request.inside (.emit ⟨t.tag, .failed .auth e⟩))).mp htold
    obtain ⟨rfl, rfl⟩ := holds_pure_iff.mp h₂
    obtain ⟨hevents, hstopped⟩ := invalidate_tells hdropped
    refine ⟨_, .failed (by rw [hkind]; decide) fun _ => rfl, ?_, ?_⟩
    · rw [WorkLog.events_append, hevents, hkind]
      rfl
    · rw [WorkLog.stopped, List.any_append]
      exact Bool.or_eq_false_iff.mpr ⟨hstopped, rfl⟩
  next hrace hauth =>
    obtain ⟨told, log₁, _, rfl, htold, h₁⟩ := holds_bind_iff.mp h
    obtain rfl := (holds_call_iff (q := Request.inside (.emit ⟨t.tag, .failed e.kind e⟩))).mp htold
    obtain ⟨rfl, rfl⟩ := holds_pure_iff.mp h₁
    exact ⟨_, .failed hrace fun _ => rfl, rfl, rfl⟩

/-- Settling reports one ending of the task, and only what belongs to it. -/
theorem settle_tells {outcome : Except MailError Report} {c' : Connection}
    (h : Holds (t.settle outcome c) log c')
    (hanswers : Attempt.Meets (fun _ => True) t.kind.Answers outcome) :
    ∃ ending, t.Ending outcome (WorkLog.stopped log) ending ∧
      WorkLog.events log = ending.map (Event.mk t.tag) := by
  cases outcome with
  | ok report =>
      obtain ⟨told, log₁, _, rfl, htold, h₁⟩ := holds_bind_iff.mp h
      obtain ⟨noted, log₂, _, rfl, hnoted, h₂⟩ := holds_bind_iff.mp h₁
      obtain rfl := (holds_call_iff (q := Request.inside (.emit ⟨t.tag, report⟩))).mp htold
      obtain rfl := holds_note_iff.mp hnoted
      obtain ⟨rfl, rfl⟩ := holds_pure_iff.mp h₂
      exact ⟨_, .reported hanswers, rfl⟩
  | error e =>
      by_cases he : e = .cancelled
      · subst he
        rw [settle_cancelled] at h
        obtain ⟨asked, log₁, stopped, rfl, hasked, h₁⟩ := holds_bind_iff.mp h
        obtain rfl := (holds_call_iff (q := Request.inside .isCancelled)).mp hasked
        cases stopped with
        | true =>
            obtain ⟨rfl, rfl⟩ := holds_pure_iff.mp h₁
            exact ⟨_, .abandoned, rfl⟩
        | false =>
            rw [if_neg Bool.false_ne_true] at h₁
            obtain ⟨ending, hending, hevents, hstopped⟩ := tellFailure_tells h₁
            refine ⟨ending, ?_, hevents⟩
            show t.Ending _ (WorkLog.stopped log₁) ending
            rw [hstopped]
            exact hending
      · rw [settle_failed t c he] at h
        obtain ⟨ending, hending, hevents, hstopped⟩ := tellFailure_tells h
        rw [hstopped]
        exact ⟨ending, hending, hevents⟩

/-- What is said of one task: its conversation is the start, the performing and the settling; it
reports the start, the opening and one ending, all under the tag of the task. -/
structure Story (p : Profile) (t : Task) (c : Connection) (log : WorkLog) (c' : Connection)
    (performed settled : WorkLog) (outcome : Except MailError Report) (ending : List Report) :
    Prop where
  log_eq : log = ⟨.inside (.emit (t.progressed .taskStarted)), ()⟩ :: performed ++ settled
  performs : ∃ c₁, Holds (t.perform p c) performed (outcome, c₁) ∧
    Holds (t.settle outcome c₁) settled c'
  /-- A message is submitted without the mailbox. -/
  opens : t.kind.needsMailbox = false → opening performed = []
  ends : t.Ending outcome (WorkLog.stopped settled) ending
  events : WorkLog.events log = (Report.progress .taskStarted ::
    ((opening performed).map Report.progress ++ ending)).map (Event.mk t.tag)

end Whole

end Task

/-- Every conversation about a task is such a story. -/
theorem Worker.process_tells {p : Profile} {t : Task} {c c' : Connection} {log : WorkLog}
    (h : Holds (Worker.process p t c) log c') :
    ∃ performed settled outcome ending,
      t.Story p c log c' performed settled outcome ending := by
  obtain ⟨noted, log₁, _, rfl, hnoted, h₁⟩ := holds_bind_iff.mp h
  obtain ⟨performed, settled, ⟨outcome, c₁⟩, rfl, hperformed, hsettled⟩ := holds_bind_iff.mp h₁
  obtain rfl := Task.holds_note_iff.mp hnoted
  obtain ⟨hopening, hsend⟩ := Task.perform_tells hperformed
  obtain ⟨ending, hending, hevents⟩ := Task.settle_tells hsettled (Task.perform_answers hperformed)
  refine ⟨performed, settled, outcome, ending, rfl, ⟨c₁, hperformed, hsettled⟩, hsend, hending, ?_⟩
  rw [WorkLog.events_append, WorkLog.events_append, hopening, hevents, List.map_cons,
    List.map_append, List.map_map]
  rfl

end MailSync
