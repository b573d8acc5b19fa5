import MailSync.Proofs.Move
import MailSync.Proofs.Replay
import MailSync.Proofs.Selection

/-!
# Tasks that move messages

A worker among mailboxes: every session is a connection to the server, and a
call of a session is a conversation of commands (`World.Change`). Of all that
is said for a task that moves messages, one call can change a mailbox, and it
is made with the source selected (`Worker.process_relocates`).

So whatever is refused and wherever a connection breaks, either nothing was
done or everything was copied (`Worker.process_secures`).
-/

namespace MailSync

open Dialogue StoredMessage ListEntry Server

/-- The mailboxes of an account, and its connections by session. -/
structure World where
  mail : Mail
  line : SessionId → Line

namespace World

def state (w : World) (id : SessionId) : State := ⟨w.mail, w.line id⟩

def after (w : World) (id : SessionId) (s : State) : World := ⟨s.mail, Function.update w.line id s.line⟩

theorem after_line (w : World) (id : SessionId) (s : State) : (w.after id s).line id = s.line :=
  Function.update_self ..

/-- What an exchange of a worker changes, where commands are answered as `serves` says. -/
inductive Change (serves : State → Exchange ImapCommand ImapCommand.Reply → State → Prop) (w : World) :
    Exchange Request Request.Reply → World → Prop where
  | opened (email token : String) (id : SessionId) :
    Change serves w ⟨.outside (.connect email token), .ok id⟩ (w.after id ⟨w.mail, none, false⟩)
  | unopened (email token : String) (e : MailError) :
    Change serves w ⟨.outside (.connect email token), .error e⟩ w
  | called {id : SessionId} {call : SessionCall} {reply : call.Reply}
    {commands : List (Exchange ImapCommand ImapCommand.Reply)} {s : State}
    (hcall : Holds (ImapMailbox.perform call).run commands reply)
    (hserved : Along serves (w.state id) commands s) :
    Change serves w ⟨.outside (.session id call), reply⟩ (w.after id s)
  | apart {x : Exchange Request Request.Reply} (h : x.question.ofSession = false) : Change serves w x w

end World

/-- Whatever the state of the world, a task comes to an end in it. -/
theorem Worker.exists_process (p : Profile) (t : Task) (c : Connection) (w : World) :
    ∃ log c' w', Holds (Worker.process p t c) log c' ∧ Along (World.Change Serves) w log w' := by
  refine exists_along (fun w q => ?_) (Worker.process p t c) w
  cases q with
  | inside call => cases call with
    | emit _ | publish _ | release _ => exact ⟨(), w, .apart rfl⟩
    | isCancelled | isForeground => exact ⟨false, w, .apart rfl⟩
  | outside call => cases call with
    | connect email token => exact ⟨_, w, .unopened email token default⟩
    | token | send _ _ _ | store _ => exact ⟨.error default, w, .apart rfl⟩
    | session id call =>
        obtain ⟨commands, reply, s, hcall, hserved⟩ :=
          exists_along exists_serves (ImapMailbox.perform call).run (w.state id)
        exact ⟨reply, w.after id s, .called hcall hserved⟩

/-! ## What leaves the mailboxes as they are -/

namespace ImapMailbox

open Attempt (asks_pure asks_bind)

variable {may : ImapCommand → Prop}

theorem send_asks {context : String} {c : ImapCommand} (h : may c) : (send context c).run.Asks may := by
  refine ⟨h, fun reply => ?_⟩
  cases reply <;> trivial

theorem fetch_asks {set : String} {query : FetchQuery} (h : may (.uidFetch set query)) :
    (fetch set query).run.Asks may :=
  asks_bind (send_asks h) fun _ => asks_pure _

theorem perform_asks {call : SessionCall} (h : ∀ set destination, call ≠ .move set destination) :
    (perform call).run.Asks fun c => c.keepsMail = true := by
  cases call with
  | noop | logout => exact send_asks rfl
  | listFolders | select _ | search _ => exact asks_bind (send_asks rfl) fun _ => asks_pure _
  | fetchFlags _ | fetchHeaders _ | fetchText _ _ => exact asks_bind (fetch_asks rfl) fun _ => asks_pure _
  | fetchRaw uid =>
      refine asks_bind ?_ fun _ => asks_bind (fetch_asks rfl) fun _ => asks_pure _
      cases uid.wire? <;> trivial
  | move set destination => exact absurd rfl (h set destination)

end ImapMailbox

def Request.KeepsMail : Request → Prop
  | .outside (.session _ (.move _ _)) => False
  | _ => True

theorem Request.IsRoutine.keepsMail {q : Request} (h : q.IsRoutine) : q.KeepsMail := by
  unfold Request.KeepsMail
  split
  · cases h
  · trivial

theorem Request.keepsMail_of_apart {q : Request} (h : q.ofSession = false) : q.KeepsMail := by
  unfold Request.KeepsMail
  split
  · cases h
  · trivial

section Changes

variable {serves : State → Exchange ImapCommand ImapCommand.Reply → State → Prop}
  {w w' : World} {log : WorkLog}

theorem World.Change.mono {serves' : State → Exchange ImapCommand ImapCommand.Reply → State → Prop}
    {x : Exchange Request Request.Reply} (h : Change serves w x w')
    (hmono : ∀ {s x s'}, serves s x s' → serves' s x s') : Change serves' w x w' := by
  cases h with
  | opened email token id => exact .opened email token id
  | unopened email token e => exact .unopened email token e
  | called hcall hserved => exact .called hcall (hserved.mono hmono)
  | apart h => exact .apart h

theorem World.Change.keeps_mail (hserves : ∀ {s x s'}, serves s x s' → Serves s x s')
    {x : Exchange Request Request.Reply} (h : Change serves w x w') (hx : x.question.KeepsMail) :
    w'.mail = w.mail := by
  cases h with
  | opened _ _ _ | unopened _ _ _ | apart _ => rfl
  | @called id call reply commands s hcall hserved =>
      have hmove : ∀ set destination, call ≠ .move set destination := by
        rintro set destination rfl
        exact hx
      exact hserved.keeps (f := State.mail) fun y hy s s' hys =>
        (hserves hys).keeps_mail ((ImapMailbox.perform_asks hmove).of_holds hcall y hy)

theorem World.keeps_mail (hserves : ∀ {s x s'}, serves s x s' → Serves s x s')
    (h : Along (Change serves) w log w') (hlog : ∀ x ∈ log, x.question.KeepsMail) :
    w'.mail = w.mail :=
  h.keeps (f := World.mail) fun x hx _ _ hchange => hchange.keeps_mail hserves (hlog x hx)

/-- A folder that was selected on a session is selected in the server, unless the connection has
broken. -/
theorem World.Change.selects (hserves : ∀ {s x s'}, serves s x s' → Serves s x s') {id : SessionId}
    {folder : String} {status : FolderStatus}
    (h : Change serves w ⟨.outside (.session id (.select folder)), .ok status⟩ w') :
    w'.mail = w.mail ∧
      ((w'.line id).cut = true ∨ (w'.line id).selected = some (spelled folder)) := by
  refine ⟨h.keeps_mail hserves trivial, ?_⟩
  cases h with
  | apart h => cases h
  | @called _ _ _ commands s hcall hserved =>
      obtain ⟨reply, rfl, hreply⟩ := ImapMailbox.holds_select_iff.mp hcall
      obtain ⟨-, hselected⟩ := (hserves (along_singleton_iff.mp hserved)).select
      rw [after_line]
      cases reply with
      | error e => cases hreply
      | ok status' => exact hselected status' rfl

/-! ## The conversation of a task -/

/-- What is said on a session to move messages. -/
inductive Relocating (id : SessionId) (source destination : Folder) (uids : List Uid) :
    WorkLog → Except MailError Report → Prop where
  | nothing (h : uids = []) :
    Relocating id source destination uids [] (.ok (.moved source destination uids))
  | unselected (e : MailError) : Relocating id source destination uids
      [⟨.outside (.session id (.select source.fullName)), .error e⟩] (.error e)
  | called (h : uids ≠ []) (status : FolderStatus) (reply : Except MailError Unit) :
    Relocating id source destination uids
      [⟨.outside (.session id (.select source.fullName)), .ok status⟩,
        ⟨.outside (.session id (.move (SequenceSet.ofList uids) destination.fullName)), reply⟩]
      (reply.map fun _ => .moved source destination uids)

theorem Task.moveMessages_log {id : SessionId} {source destination : Folder} {uids : List Uid}
    {o : Except MailError Report}
    (h : Holds (Task.moveMessages id source destination uids).run log o) :
    Relocating id source destination uids log o := by
  cases uids with
  | nil =>
      obtain ⟨rfl, rfl⟩ := holds_pure_iff.mp h
      exact .nothing rfl
  | cons uid uids =>
      have hmove : Holds (do
          let _ ← Trial.session id (.select source.fullName)
          Trial.session id (.move (SequenceSet.ofList (uid :: uids)) destination.fullName)
          return .moved source destination (uid :: uids) : Trial Report).run log o := h
      rcases Attempt.holds_bind_iff.mp hmove with ⟨e, hselect, rfl⟩ |
        ⟨selected, rest, status, rfl, hselect, hrest⟩
      · obtain rfl := Trial.holds_outside_iff.mp hselect
        exact .unselected e
      · obtain rfl := Trial.holds_outside_iff.mp hselect
        obtain ⟨reply, hcall, rfl⟩ := Attempt.holds_map_iff.mp hrest
        obtain rfl := Trial.holds_outside_iff.mp hcall
        exact .called (List.cons_ne_nil uid uids) status reply

/-- What a task that moves messages comes to: nothing was to be done, or it failed before it could
do anything, or the move was called with the source selected. -/
inductive Relocated (serves : State → Exchange ImapCommand ImapCommand.Reply → State → Prop)
    (source destination : Folder) (uids : List Uid) (mail : Mail) :
    Except MailError Report → Mail → Prop where
  | nothing (h : uids = []) :
    Relocated serves source destination uids mail (.ok (.moved source destination uids)) mail
  | untouched (e : MailError) : Relocated serves source destination uids mail (.error e) mail
  | called (h : uids ≠ []) {line : Line} {s : State} {reply : Except MailError Unit}
    {commands : List (Exchange ImapCommand ImapCommand.Reply)}
    (hline : line.cut = true ∨ line.selected = some (spelled source.fullName))
    (hcall : Holds (ImapMailbox.move (SequenceSet.ofList uids) destination.fullName).run commands reply)
    (hserved : Along serves ⟨mail, line⟩ commands s) :
    Relocated serves source destination uids mail
      (reply.map fun _ => .moved source destination uids) s.mail

theorem Relocating.relocated (hserves : ∀ {s x s'}, serves s x s' → Serves s x s') {id : SessionId}
    {source destination : Folder} {uids : List Uid} {o : Except MailError Report}
    (h : Relocating id source destination uids log o) (hlog : Along (World.Change serves) w log w') :
    Relocated serves source destination uids w.mail o w'.mail := by
  cases h with
  | nothing huids =>
      obtain rfl := along_nil_iff.mp hlog
      exact .nothing huids
  | unselected e =>
      rw [(along_singleton_iff.mp hlog).keeps_mail hserves trivial]
      exact .untouched e
  | called huids status reply =>
      obtain ⟨w₁, hselect, hrest⟩ := along_cons_iff.mp hlog
      obtain ⟨hmail, hline⟩ := hselect.selects hserves
      cases along_singleton_iff.mp hrest with
      | apart h => cases h
      | called hcall hserved =>
          rw [World.state, hmail] at hserved
          exact .called huids hline hcall hserved

variable {p : Profile} {t : Task} {c c' : Connection} {source destination : Folder} {uids : List Uid}

/-- Around the move itself nothing changes a mailbox. -/
theorem Worker.process_relocates (hserves : ∀ {s x s'}, serves s x s' → Serves s x s')
    (hkind : t.kind = .move source destination uids) (h : Holds (Worker.process p t c) log c')
    (hlog : Along (World.Change serves) w log w') :
    ∃ performed settled outcome ending, t.Story p c log c' performed settled outcome ending ∧
      Relocated serves source destination uids w.mail outcome w'.mail := by
  obtain ⟨performed, settled, outcome, ending, hstory⟩ := Worker.process_tells h
  refine ⟨performed, settled, outcome, ending, hstory, ?_⟩
  obtain ⟨c₁, hperformed, hsettled⟩ := hstory.performs
  have hmailbox : t.kind.needsMailbox = true := by rw [hkind]; rfl
  rw [hstory.log_eq] at hlog
  obtain ⟨w₁, hnoted, hlog⟩ := along_cons_iff.mp hlog
  obtain ⟨w₂, hlog, hlast⟩ := along_append_iff.mp hlog
  -- Before the part in a session there are probes and logins only, and after it no session is asked.
  rw [World.keeps_mail hserves hlast fun x hx =>
      Request.keepsMail_of_apart ((t.settle_apart outcome c₁).of_holds hsettled x hx),
    ← hnoted.keeps_mail hserves trivial]
  obtain ⟨opened, rest, session, c₂, rfl, hopened, hrest⟩ := Task.perform_log hmailbox hperformed
  obtain ⟨w₃, hopening, hworking⟩ := along_append_iff.mp hlog
  rw [← World.keeps_mail hserves hopening fun x hx =>
    ((Task.openSession_asks p t c).of_holds hopened x hx).keepsMail]
  obtain ⟨e, -, rfl, ho⟩ | ⟨id, -, hworked, -⟩ := hrest
  · obtain rfl := along_nil_iff.mp hworking
    obtain rfl : outcome = .error e := congrArg Prod.fst ho
    exact .untouched e
  · rw [hkind] at hworked
    exact (Task.moveMessages_log hworked).relocated hserves hworking

theorem Worker.process_transfers (hkind : t.kind = .move source destination uids)
    (h : Holds (Worker.process p t c) log c') (hlog : Along (World.Change Obeys) w log w')
    (hresult : ⟨t.tag, .moved source destination uids⟩ ∈ WorkLog.events log) :
    (uids = [] ∧ w'.mail = w.mail) ∨ ∃ ms ds copies, Mail.Transferred uids (spelled source.fullName)
      (spelled destination.fullName) w.mail w'.mail ms ds copies := by
  obtain ⟨performed, settled, outcome, ending, hstory, hrelocated⟩ :=
    Worker.process_relocates Obeys.serves hkind h hlog
  have hdone : ∀ e, outcome ≠ .error e := fun e he => by cases hstory.no_result he _ hresult
  generalize w'.mail = mail' at hrelocated ⊢
  cases hrelocated with
  | nothing huids => exact .inl ⟨huids, rfl⟩
  | untouched e => exact absurd rfl (hdone e)
  | @called _ line s reply commands hline hcall hserved =>
      cases reply with
      | error e => exact absurd rfl (hdone e)
      | ok _ =>
          obtain ⟨source', ms, ds, copies, hcut, hselected, htransferred⟩ :=
            ImapMailbox.move_transfers hcall hserved
          -- On a broken connection nothing is copied, so the source is what was selected.
          obtain rfl : source' = spelled source.fullName := by
            rcases hline with hbroken | hchosen
            · cases hcut.symm.trans hbroken
            · exact Option.some.inj (hselected.symm.trans hchosen)
          exact .inr ⟨ms, ds, copies, htransferred⟩

end Changes

/-! ## A move that is carried out -/

section Possible

variable {serves : State → Exchange ImapCommand ImapCommand.Reply → State → Prop} {w : World}
  {id : SessionId} {selected : Option String} {log : WorkLog}

theorem World.along_apart (w : World) (h : ∀ x ∈ log, x.question.ofSession = false) :
    Along (Change serves) w log w := by
  induction log with
  | nil => exact .nil w
  | cons x log ih =>
      rw [List.forall_mem_cons] at h
      exact .cons (.apart h.1) (ih h.2)

theorem World.Change.probe (hserves : ∀ {s x s'}, Obeys s x s' → serves s x s')
    (hlive : w.line id = ⟨selected, false⟩) : Change serves w ⟨.outside (.session id .noop), .ok ()⟩ w := by
  have hnoop : Effect w.mail selected .noop w.mail selected := .look rfl
  have hcall : Holds (ImapMailbox.perform .noop).run [⟨.noop, .ok ()⟩] (.ok ()) := .ask (.done _)
  have hserved : Along serves (w.state id) [⟨.noop, .ok ()⟩] (w.state id) := by
    rw [state, hlive]
    exact along_singleton_iff.mpr (hserves (hnoop.obeys rfl))
  have hsame : w.after id (w.state id) = w := by rw [after, state, Function.update_eq_self]
  have hcalled := Change.called hcall hserved
  rwa [hsame] at hcalled

theorem World.Change.select (hserves : ∀ {s x s'}, Obeys s x s' → serves s x s')
    (hlive : w.line id = ⟨selected, false⟩) {folder : String} {ms : List StoredMessage}
    (hname : ∃ text, ImapClient.quoted folder = .ok text) (hfolder : w.mail (spelled folder) = some ms) :
    Change serves w ⟨.outside (.session id (.select folder)), .ok .blank⟩
      (w.after id ⟨w.mail, some (spelled folder), false⟩) := by
  obtain ⟨text, hname⟩ := hname
  have hsent : (ImapCommand.select folder).line = .ok ("SELECT " ++ text) := by
    rw [ImapCommand.line, hname]
    rfl
  have hcall : Holds (ImapMailbox.perform (.select folder)).run
      [⟨.select folder, .ok ⟨0, none, none⟩⟩] (.ok .blank) :=
    ImapMailbox.holds_select_iff.mpr ⟨_, rfl, rfl⟩
  have hserved : Along serves (w.state id) [⟨.select folder, .ok ⟨0, none, none⟩⟩]
      ⟨w.mail, some (spelled folder), false⟩ := by
    rw [state, hlive]
    exact along_singleton_iff.mpr (hserves ((Effect.select hfolder).obeys hsent))
  exact .called hcall hserved

section Moves

variable {uids : List Uid} {ms : List StoredMessage}
  {commands : List (Exchange ImapCommand ImapCommand.Reply)} {reply : Except MailError Unit} {s : State}

theorem Task.exists_perform_move (hserves : ∀ {s x s'}, Obeys s x s' → serves s x s') (p : Profile)
    (tag : RequestTag) (source destination : Folder) (huids : uids ≠ []) (hlive : w.line id = ⟨selected, false⟩)
    (hname : ∃ text, ImapClient.quoted source.fullName = .ok text)
    (hsource : w.mail (spelled source.fullName) = some ms)
    (hcall : Holds (ImapMailbox.move (SequenceSet.ofList uids) destination.fullName).run commands reply)
    (hserved : Along serves ⟨w.mail, some (spelled source.fullName), false⟩ commands s) :
    ∃ log w', Along (World.Change serves) w log w' ∧ w'.mail = s.mail ∧
      Holds (Task.perform p ⟨tag, .move source destination uids⟩ ⟨some id⟩) log
        (reply.map fun _ => .moved source destination uids, ⟨some id⟩) := by
  have hselect := World.Change.select hserves hlive hname hsource
  have hmove : World.Change serves (w.after id ⟨w.mail, some (spelled source.fullName), false⟩)
      ⟨.outside (.session id (.move (SequenceSet.ofList uids) destination.fullName)), reply⟩ _ :=
    .called hcall (by rwa [World.state, World.after_line])
  have hstopped : World.Change serves w ⟨.inside .isCancelled, false⟩ w := .apart rfl
  refine ⟨_, _, .cons hstopped (.cons (.probe hserves hlive) (.cons hstopped (.cons hselect
    (.cons hmove (.nil _))))), rfl, ?_⟩
  cases uids with
  | nil => exact absurd rfl huids
  | cons uid uids =>
      cases reply with
      | ok _ | error _ => exact .ask (.ask (.ask (.ask (.ask (.done _)))))

theorem Worker.exists_process_move (hserves : ∀ {s x s'}, Obeys s x s' → serves s x s') (p : Profile)
    (tag : RequestTag) (source destination : Folder) (huids : uids ≠ []) (hlive : w.line id = ⟨selected, false⟩)
    (hname : ∃ text, ImapClient.quoted source.fullName = .ok text)
    (hsource : w.mail (spelled source.fullName) = some ms)
    (hcall : Holds (ImapMailbox.move (SequenceSet.ofList uids) destination.fullName).run commands reply)
    (hserved : Along serves ⟨w.mail, some (spelled source.fullName), false⟩ commands s) :
    ∃ log c' w', Holds (Worker.process p ⟨tag, .move source destination uids⟩ ⟨some id⟩) log c' ∧
      Along (World.Change serves) w log w' ∧ w'.mail = s.mail ∧
      (reply = .ok () → ⟨tag, .moved source destination uids⟩ ∈ WorkLog.events log) := by
  obtain ⟨performed, w', hworking, hmail, hperformed⟩ := Task.exists_perform_move hserves p tag
    source destination huids hlive hname hsource hcall hserved
  obtain ⟨settled, c', hsettled⟩ := Work.exists_holds (Task.settle
    ⟨tag, .move source destination uids⟩ (reply.map fun _ => .moved source destination uids) ⟨some id⟩)
  have hapart := (Task.settle_apart _ _ _).of_holds hsettled
  have hprocessed : Holds (Worker.process p ⟨tag, .move source destination uids⟩ ⟨some id⟩)
      (⟨.inside (.emit ⟨tag, .progress .taskStarted⟩), ()⟩ :: (performed ++ settled)) c' :=
    holds_bind_iff.mpr ⟨_, _, (), rfl, Task.holds_note_iff.mpr rfl,
      holds_bind_iff.mpr ⟨_, _, _, rfl, hperformed, hsettled⟩⟩
  refine ⟨_, c', w', hprocessed, .cons (.apart rfl) (along_append_iff.mpr
    ⟨w', hworking, World.along_apart w' hapart⟩), hmail, ?_⟩
  rintro rfl
  obtain ⟨ending, hending, hevents⟩ := Task.settle_tells hsettled ⟨rfl, rfl, rfl⟩
  cases hending
  show _ ∈ _ :: WorkLog.events (performed ++ settled)
  rw [WorkLog.events_append, hevents]
  simp

/-- A worker with a live session may come to move all messages of a set. -/
theorem Worker.exists_process_transfer (p : Profile) (tag : RequestTag) (source destination : Folder)
    {ds copies : List StoredMessage} (hlive : w.line id = ⟨selected, false⟩)
    (hsource : ∃ text, ImapClient.quoted source.fullName = .ok text)
    (hdestination : ∃ text, ImapClient.quoted destination.fullName = .ok text)
    (h : Copied ⟨w.mail, some (spelled source.fullName), false⟩ (SequenceSet.ofList uids)
      destination.fullName (spelled source.fullName) ms ds copies) :
    ∃ log c' w', Holds (Worker.process p ⟨tag, .move source destination uids⟩ ⟨some id⟩) log c' ∧
      Along (World.Change Obeys) w log w' ∧
      ⟨tag, .moved source destination uids⟩ ∈ WorkLog.events log ∧
      w'.mail = w.mail.moved (SequenceSet.ofList uids) (spelled source.fullName)
        (spelled destination.fullName) copies true true := by
  obtain ⟨commands, hmove, hserved⟩ := ImapMailbox.exists_moved h hdestination
  obtain ⟨log, c', w', hprocessed, hlog, hmail, hevent⟩ :=
    Worker.exists_process_move (fun h => h) p tag source destination h.nonempty hlive hsource h.hsource
      hmove hserved
  exact ⟨log, c', w', hprocessed, hlog, hevent rfl, hmail⟩

end Moves

def World.ofBoxes (boxes : List (String × List StoredMessage)) : World :=
  ⟨.ofList boxes, fun _ => ⟨none, false⟩⟩

/-- The first of two messages in the inbox may be copied to an archive. -/
theorem Server.copied_first {second : StoredMessage} (hsecond : second.uid = 2) : Copied
    ⟨.ofList [("INBOX", [⟨1, .empty, []⟩, second]), ("Archive", [])], some (spelled "INBOX"), false⟩
    (SequenceSet.ofList [1]) "Archive" (spelled "INBOX") [⟨1, .empty, []⟩, second] []
    [⟨1, .empty, []⟩] where
  hline := rfl
  hset := by decide +kernel
  hselected := rfl
  hsource := by rw [show spelled "INBOX" = "INBOX" by decide +kernel]; rfl
  hdestination := by rw [show spelled "Archive" = "Archive" by decide +kernel]; rfl
  hcopies := by
    have hfirst : [⟨1, .empty, []⟩, second].filter ([1].contains ·.uid) = [⟨1, .empty, []⟩] := by
      simp [hsecond]
    rw [filter_inSet_ofList (List.cons_ne_nil _ _), hfirst]
    exact .cons ⟨rfl, id⟩ .nil
  hnumbers := by simp

end Possible

/-! ## A move that reports success -/

/-- With a server that removes what it is asked to, a move that succeeds has copied exactly the
messages of the set, and removed them and what was marked before. A task reports its result only
after such a move, unless it had nothing to move. -/
theorem moves_exactly (uids : List Uid) :
    (∀ {destination : String} {log : List (Exchange ImapCommand ImapCommand.Reply)}
      {s s' : State},
      Holds (ImapMailbox.perform (.move (SequenceSet.ofList uids) destination)).run log (.ok ()) →
      Along Obeys s log s' → ∃ source ms ds copies, s.line.selected = some source ∧
        Mail.Transferred uids source (spelled destination) s.mail s'.mail ms ds copies) ∧
    ∀ {p : Profile} {t : Task} {c c' : Connection} {log : WorkLog} {w w' : World}
      {source destination : Folder}, t.kind = .move source destination uids →
      Holds (Worker.process p t c) log c' → Along (World.Change Obeys) w log w' →
      ⟨t.tag, .moved source destination uids⟩ ∈ WorkLog.events log →
        (uids = [] ∧ w'.mail = w.mail) ∨ ∃ ms ds copies, Mail.Transferred uids (spelled source.fullName)
          (spelled destination.fullName) w.mail w'.mail ms ds copies := by
  refine ⟨fun h hlog => ?_, fun hkind h hlog hresult => ?_⟩
  · obtain ⟨source, ms, ds, copies, -, hselected, htransferred⟩ := ImapMailbox.move_transfers h hlog
    exact ⟨source, ms, ds, copies, hselected, htransferred⟩
  · exact Worker.process_transfers hkind h hlog hresult

theorem moves_exactly_first : ∃ log c' w',
    Holds (Worker.process ⟨"me", .default⟩
      ⟨⟨"ui", 1⟩, .move .inbox ⟨"Archive", "Archive", []⟩ [1]⟩ ⟨some 7⟩) log c' ∧
    Along (World.Change Obeys)
      (.ofBoxes [("INBOX", [⟨1, .empty, []⟩, ⟨2, .empty, []⟩]), ("Archive", [])]) log w' ∧
    ∃ ms ds copies, Mail.Transferred [1] (spelled "INBOX") (spelled "Archive")
      (.ofList [("INBOX", [⟨1, .empty, []⟩, ⟨2, .empty, []⟩]), ("Archive", [])]) w'.mail
      ms ds copies := by
  obtain ⟨log, c', w', hprocessed, hlog, hevent, -⟩ := Worker.exists_process_transfer
    (w := .ofBoxes [("INBOX", [⟨1, .empty, []⟩, ⟨2, .empty, []⟩]), ("Archive", [])])
    ⟨"me", .default⟩ ⟨"ui", 1⟩ .inbox ⟨"Archive", "Archive", []⟩ rfl
    (ImapClient.quoted_ok (by simp [Folder.inbox]) (by simp [Folder.inbox]))
    (ImapClient.quoted_ok (by simp) (by simp)) (Server.copied_first rfl)
  refine ⟨log, c', w', hprocessed, hlog, ?_⟩
  exact ((moves_exactly [1]).2 rfl hprocessed hlog hevent).resolve_left fun h =>
    List.cons_ne_nil 1 [] h.1

/-- Only the first of two messages is to be moved, but the second was marked before, and both are
gone. -/
theorem ImapMailbox.move_takes_marked : ∃ log s',
    Holds (perform (.move (SequenceSet.ofList [1]) "Archive")).run log (.ok ()) ∧
    Along Obeys ⟨.ofList [("INBOX", [⟨1, .empty, []⟩, marked ⟨2, .empty, []⟩]), ("Archive", [])],
      some (spelled "INBOX"), false⟩ log s' ∧ s'.mail (spelled "INBOX") = some [] := by
  have hcopied : Copied _ _ _ _ [⟨1, .empty, []⟩, marked ⟨2, .empty, []⟩] _ _ := Server.copied_first rfl
  obtain ⟨log, hmove, hserved⟩ :=
    exists_moved hcopied (ImapClient.quoted_ok (by simp) (by simp))
  refine ⟨log, _, hmove, hserved, hcopied.transferred.left.trans ?_⟩
  rw [show spelled "INBOX" = "INBOX" by decide +kernel,
    show spelled "Archive" = "Archive" by decide +kernel]
  rfl

/-! ## No message is lost -/

section Losses

variable {w w' : World} {p : Profile} {t : Task} {c c' : Connection} {log : WorkLog}
  {source destination : Folder} {uids : List Uid}

/-- The messages of a set have copies in another mailbox, which stay there. In their own mailbox
those stay that are not marked and have numbers outside the set. -/
structure Mail.Secured (uids : List Uid) (source destination : String) (mail mail' : Mail)
    (ms ds ds' copies : List StoredMessage) : Prop where
  hsource : mail source = some ms
  hdestination : mail destination = some ds
  hdestination' : mail' destination = some ds'
  hcopies : List.Forall₂ IsCopy (ms.filter (uids.contains ·.uid)) copies
  /-- The copies are new. -/
  hnumbers : (ds ++ copies).Pairwise (·.uid < ·.uid)
  kept : (copies.filter fun copy => source ≠ destination || copy.stays uids).Sublist ds'

theorem Server.Copied.secured {s : State} {source destination : String}
    {ms ds copies : List StoredMessage}
    (h : Copied s (SequenceSet.ofList uids) destination source ms ds copies) (stored expunged : Bool) :
    ∃ ds', Mail.Secured uids source (spelled destination) s.mail
      (s.mail.moved (SequenceSet.ofList uids) source (spelled destination) copies stored expunged)
      ms ds ds' copies := by
  have hcopies := h.hcopies
  rw [filter_inSet_ofList h.nonempty] at hcopies
  by_cases hsame : source = spelled destination
  · subst hsame
    obtain rfl : ms = ds := Option.some.inj (h.hsource.symm.trans h.hdestination)
    refine ⟨_, h.hsource, h.hsource, Mail.moved_source stored expunged h.hsource, hcopies, h.hnumbers, ?_⟩
    rw [if_pos rfl]
    refine List.Sublist.trans ?_ (sublist_leave h.nonempty stored expunged _)
    rw [List.filter_append]
    simp
  · refine ⟨ds ++ copies, h.hsource, h.hdestination,
      Mail.moved_destination stored expunged hsame h.hdestination, hcopies, h.hnumbers, ?_⟩
    exact List.filter_sublist.trans (List.sublist_append_right ds copies)

/-- Whatever is refused and wherever a connection breaks, a task that moves messages leaves the
mail as it was, or the messages have copies. If it reports a failure, it reports no result, and
nothing is deleted from the cache. -/
theorem Worker.process_secures (hkind : t.kind = .move source destination uids)
    (h : Holds (Worker.process p t c) log c') (hlog : Along (World.Change Serves) w log w') :
    (w'.mail = w.mail ∨ ∃ ms ds ds' copies, Mail.Secured uids (spelled source.fullName)
      (spelled destination.fullName) w.mail w'.mail ms ds ds' copies) ∧
    ∀ tag kind e, ⟨tag, .failed kind e⟩ ∈ WorkLog.events log →
      (∀ event ∈ WorkLog.events log, event.report.isResult = false) ∧
        ∀ writer rows, CacheWriter.replay writer (WorkLog.events log) rows = rows := by
  obtain ⟨performed, settled, outcome, ending, hstory, hrelocated⟩ :=
    Worker.process_relocates id hkind h hlog
  refine ⟨?_, fun tag kind e hfailed => ?_⟩
  · generalize w'.mail = mail' at hrelocated ⊢
    cases hrelocated with
    | nothing _ | untouched _ => exact .inl rfl
    | @called _ line s reply commands hline hcall hserved =>
        have houtcome := ImapMailbox.move_outcome hcall hserved
        generalize s.mail = mail' at houtcome ⊢
        cases houtcome with
        | kept e => exact .inl rfl
        | copied stored expunged hcopied =>
            obtain rfl : _ = spelled source.fullName := by
              rcases hline with hcut | hselected
              · cases hcopied.hline.symm.trans hcut
              · exact Option.some.inj (hcopied.hselected.symm.trans hselected)
            obtain ⟨ds', hsecured⟩ := hcopied.secured stored expunged
            exact .inr ⟨_, _, _, _, hsecured⟩
  · have hresult := hstory.no_result (hstory.outcome_of_failed hfailed)
    exact ⟨hresult, fun writer rows => CacheWriter.replay_of_not_result writer rows hresult⟩

end Losses

/-- The first of two messages is copied to an archive, and then the connection breaks. -/
theorem Worker.process_secures_first : ∃ log c' w',
    Holds (Worker.process ⟨"me", .default⟩
      ⟨⟨"ui", 1⟩, .move .inbox ⟨"Archive", "Archive", []⟩ [1]⟩ ⟨some 7⟩) log c' ∧
    Along (World.Change Serves)
      (.ofBoxes [("INBOX", [⟨1, .empty, []⟩, ⟨2, .empty, []⟩]), ("Archive", [])]) log w' ∧
    w'.mail (spelled "Archive") = some [⟨1, .empty, []⟩] ∧
    (w'.mail = .ofList [("INBOX", [⟨1, .empty, []⟩, ⟨2, .empty, []⟩]), ("Archive", [])] ∨
      ∃ ms ds ds' copies, Mail.Secured [1] (spelled "INBOX") (spelled "Archive")
        (.ofList [("INBOX", [⟨1, .empty, []⟩, ⟨2, .empty, []⟩]), ("Archive", [])]) w'.mail
        ms ds ds' copies) := by
  have hcopied : Copied _ _ _ _ [⟨1, .empty, []⟩, ⟨2, .empty, []⟩] _ _ := Server.copied_first rfl
  obtain ⟨commands, e, s, hmove, hserved, hmail⟩ :=
    ImapMailbox.exists_broken hcopied (ImapClient.quoted_ok (by simp) (by simp))
  obtain ⟨log, c', w', hprocessed, hlog, hmail', -⟩ := Worker.exists_process_move
    (w := .ofBoxes [("INBOX", [⟨1, .empty, []⟩, ⟨2, .empty, []⟩]), ("Archive", [])])
    Obeys.serves ⟨"me", .default⟩ ⟨"ui", 1⟩ .inbox ⟨"Archive", "Archive", []⟩ (List.cons_ne_nil 1 [])
    rfl (ImapClient.quoted_ok (by simp [Folder.inbox]) (by simp [Folder.inbox])) hcopied.hsource hmove
    hserved
  obtain ⟨hsecured, -⟩ := Worker.process_secures rfl hprocessed hlog
  refine ⟨log, c', w', hprocessed, hlog, ?_, hsecured⟩
  rw [hmail', hmail, Mail.moved_copied, Mail.modify_self, hcopied.hdestination]
  rfl

/-- A message is moved to the mailbox where it is, in a set with the number that its copy gets. -/
theorem Worker.process_loses : ∃ log c' w',
    Holds (Worker.process ⟨"me", .default⟩ ⟨⟨"ui", 1⟩, .move .inbox .inbox [1, 2]⟩ ⟨some 7⟩) log c' ∧
    Along (World.Change Serves) (.ofBoxes [("INBOX", [⟨1, .empty, []⟩])]) log w' ∧
    w'.mail (spelled "INBOX") = some [] := by
  have hmail : Mail.ofList [("INBOX", [⟨1, .empty, []⟩])] (spelled "INBOX") = some [⟨1, .empty, []⟩] := by
    rw [show spelled "INBOX" = "INBOX" by decide +kernel]
    rfl
  have hcopied : Copied ⟨.ofList [("INBOX", [⟨1, .empty, []⟩])], some (spelled "INBOX"), false⟩
      (SequenceSet.ofList [1, 2]) "INBOX" (spelled "INBOX") [⟨1, .empty, []⟩] [⟨1, .empty, []⟩]
      [⟨2, .empty, []⟩] := by
    refine ⟨rfl, by decide +kernel, rfl, hmail, hmail, ?_, by simp⟩
    rw [filter_inSet_ofList (List.cons_ne_nil _ _)]
    exact .cons ⟨rfl, id⟩ .nil
  have hname : ∃ text, ImapClient.quoted Folder.inbox.fullName = .ok text :=
    ImapClient.quoted_ok (by simp [Folder.inbox]) (by simp [Folder.inbox])
  obtain ⟨log, c', w', hprocessed, hlog, -, hmoved⟩ := Worker.exists_process_transfer
    (w := .ofBoxes [("INBOX", [⟨1, .empty, []⟩])]) ⟨"me", .default⟩ ⟨"ui", 1⟩ .inbox .inbox
    rfl hname hname hcopied
  refine ⟨log, c', w', hprocessed, hlog.mono fun h => h.mono Obeys.serves, ?_⟩
  rw [hmoved]
  refine hcopied.transferred.left.trans ?_
  rw [if_pos rfl]
  rfl

end MailSync
