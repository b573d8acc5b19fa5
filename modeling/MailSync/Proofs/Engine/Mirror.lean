import MailSync.Proofs.Engine.Ledger
import MailSync.Proofs.Replay
import MailSync.Proofs.Routine

/-!
# A cache that is written late

One folder is synchronised again and again while its events are written to the
cache in order, but each at any later time. Every result that is received
follows from one look that its task took at the cache (`Mirror.Runs.vouched`),
and the events between that look and the report are written in between. What
the last report writes is in the end as its task was shown it; what it leaves
alone is so unless a report that came in between says otherwise
(`Mirror.Runs.settles`). No task waits for the writer, so this can happen
(`Mirror.update_lost`).
-/

namespace MailSync

open Dialogue Engine
open Reconciliation (Accords Agrees AgreesAt agrees_iff diff mem_delete_iff mem_insert_iff uids)

/-! ## What a worker reports -/

/-- A question that reports no result but those that are `vouched` for. -/
def Request.Reports (vouched : Report → Prop) : Request → Prop
  | .inside (.emit event) => event.report.isResult = true → vouched event.report
  | _ => True

section Reports

variable {vouched : Report → Prop} {q : Request}

theorem Request.IsRoutine.reports (h : q.IsRoutine) : q.Reports vouched := by
  unfold Request.Reports
  split
  · intro hresult
    cases hresult.symm.trans h
  · trivial

theorem Request.IsMailbox.reports (h : q.IsMailbox) : q.Reports vouched := by
  unfold Request.Reports
  split
  · exact h.elim
  · trivial

theorem Request.Reports.of_event? {x : Exchange Request Request.Reply} {event : Event}
    (h : x.question.Reports vouched) (hevent : WorkLog.event? x = some event)
    (hresult : event.report.isResult = true) : vouched event.report := by
  obtain ⟨q, reply⟩ := x
  cases q with
  | outside call => cases hevent
  | inside call =>
      cases call with
      | emit event' =>
          cases hevent
          exact h hresult
      | publish _ | release _ | isCancelled | isForeground => cases hevent

variable {allowed : (q : Request) → q.Reply → Prop} {p : Profile} {t : Task}

namespace Task

theorem perform_asks (hmailbox : t.kind.needsMailbox = true) (p : Profile) (c : Connection) :
    (t.perform p c).Asks (Request.Reports vouched) := by
  rw [perform_of_needsMailbox p c hmailbox]
  refine ((t.openSession_asks p c).mono fun _ => Request.IsRoutine.reports).bind ?_
  rintro ⟨session, c'⟩
  cases session with
  | error e => trivial
  | ok id =>
      have hasks : (inSession p id t.kind).run.Asks (Request.Reports vouched) :=
        (inSession_asks p id hmailbox).mono fun _ => Request.IsMailbox.reports
      exact hasks.bind fun _ => trivial

theorem perform_ends (hmailbox : t.kind.needsMailbox = true)
    (hsession : ∀ id, Attempt.Ends allowed (fun _ => True) vouched (inSession p id t.kind))
    (c : Connection) :
    (t.perform p c).Ends allowed fun o => Attempt.Meets (fun _ => True) vouched o.1 := by
  rw [perform_of_needsMailbox p c hmailbox]
  refine Ends.bind_rest ?_
  rintro ⟨session, c'⟩
  cases session with
  | error e => trivial
  | ok id => exact Ends.bind (hsession id) fun _ houtcome => houtcome

theorem settle_poses {outcome : Except MailError Report}
    (h : Attempt.Meets (fun _ => True) vouched outcome) (c : Connection) :
    (t.settle outcome c).Poses allowed (Request.Reports vouched) := by
  cases outcome with
  | ok report => exact ⟨fun _ => h, fun _ _ => ⟨nofun, fun _ _ => trivial⟩⟩
  | error e => exact ((t.settle_error_asks e c).mono fun _ h => h.isRoutine.reports).poses

end Task

/-- A worker reports a result only after it was come to. -/
theorem Worker.process_poses (hmailbox : t.kind.needsMailbox = true)
    (hsession : ∀ id, Attempt.Ends allowed (fun _ => True) vouched (Task.inSession p id t.kind))
    (c : Connection) :
    (Worker.process p t c).Poses allowed (Request.Reports vouched) := by
  have hstart : (t.note .taskStarted).Asks (Request.Reports vouched) :=
    (t.note_asks .taskStarted).mono fun _ h => h.isRoutine.reports
  refine hstart.poses.bind_any fun _ => ?_
  refine (Task.perform_asks hmailbox p c).poses.bind (Task.perform_ends hmailbox hsession c) ?_
  rintro ⟨outcome, c'⟩ houtcome
  exact Task.settle_poses houtcome c'

end Reports

/-! ## Runs with a cache -/

/-- What is the same throughout such a run. -/
structure Mirror where
  profile : Profile
  folder : Folder
  /-- What the folder shows to each task. -/
  listing : Nat → List RemoteMessage
  /-- What is cached before. -/
  cached : Store

namespace Mirror

/-- The cache once these events were written. -/
def cache (v : Mirror) (events : List Event) : Store :=
  (CacheWriter.mk v.profile.email).replay events v.cached

/-- What may happen while `written` events were written: the folder is to be synchronised, the
server shows it to a task as it is listed for this task, and the cache says what it holds. -/
def May (v : Mirror) (e : Engine) (l : Ledger) (written : Nat) : Action → Prop
  | .call (.enqueue t) => t.kind = .syncFolder v.folder
  | .move (.answer id (.session _ c) (.ok value)) =>
    ∀ n, l.held id = some n → Task.Shows (v.listing n) c value
  | .move (.answer _ (.store c) reply) =>
    reply = .ok ((v.cache (e.board.events.take written)).perform c).1
  | _ => True

/-- The look at the cache that an action is, with the number of events written by then. -/
def look (l : Ledger) (written : Nat) : Action → List (Nat × Nat)
  | .move (.answer id (.store _) _) => (l.held id).toList.map (·, written)
  | _ => []

/-- `v.Runs e l written looks`: a run came to the engine `e` with its ledger `l`; the first
`written` events are written to the cache, and these are the looks that tasks took at it. -/
inductive Runs (v : Mirror) : Engine → Ledger → Nat → List (Nat × Nat) → Prop where
  | here : Runs v (.fresh v.profile) .blank 0 []
  | next {e e' : Engine} {l : Ledger} {written : Nat} {looks : List (Nat × Nat)} {a : Action}
    (run : Runs v e l written looks) (hmay : v.May e l written a) (hact : e.act a = some e') :
    Runs v e' (l.record e a) written (looks ++ look l written a)
  | write {e : Engine} {l : Ledger} {written : Nat} {looks : List (Nat × Nat)}
    (run : Runs v e l written looks) (hmore : written < e.board.events.length) :
    Runs v e l (written + 1) looks

/-- The replies to a task, with the looks that it took. -/
def Hears (v : Mirror) (events : List Event) (looks : List (Nat × Nat)) (n : Nat) :
    (q : Request) → q.Reply → Prop
  | .outside (.session _ c), .ok value => Task.Shows (v.listing n) c value
  | .outside (.store c), reply => ∃ k ≤ events.length, (n, k) ∈ looks ∧
      reply = .ok ((v.cache (events.take k)).perform c).1
  | _, _ => True

/-- A result that follows from a look at the cache. -/
def Vouches (v : Mirror) (events : List Event) (looks : List (Nat × Nat)) (n : Nat)
    (report : Report) : Prop :=
  ∃ k ≤ events.length, (n, k) ∈ looks ∧ Task.Reconciled v.profile v.folder (v.listing n)
    (v.cache (events.take k)) report

variable {v : Mirror} {e : Engine} {l : Ledger} {written : Nat} {looks : List (Nat × Nat)}

theorem Hears.mono {events events' : List Event} {looks' : List (Nat × Nat)} {n : Nat} {q : Request}
    {reply : q.Reply} (h : v.Hears events looks n q reply) (hevents : events <+: events')
    (hlooks : looks ⊆ looks') : v.Hears events' looks' n q reply := by
  unfold Hears at h ⊢
  split at h
  · exact h
  · obtain ⟨more, rfl⟩ := hevents
    obtain ⟨k, hk, hlook, hreply⟩ := h
    refine ⟨k, ?_, hlooks hlook, ?_⟩
    · rw [List.length_append]
      omega
    · rw [List.take_append_of_le_length hk]
      exact hreply
  · trivial

theorem Vouches.mono {events : List Event} {looks' : List (Nat × Nat)} {n : Nat} {report : Report}
    (h : v.Vouches events looks n report) (hlooks : looks ⊆ looks') :
    v.Vouches events looks' n report := by
  obtain ⟨k, hk, hlook, hreconciled⟩ := h
  exact ⟨k, hk, hlooks hlook, hreconciled⟩

/-- A task that is answered like this comes to no result but one that follows from a look. -/
theorem inSession_vouches (events : List Event) (looks : List (Nat × Nat)) (n : Nat) (id : SessionId) :
    Attempt.Ends (v.Hears events looks n) (fun _ => True) (v.Vouches events looks n)
      (Task.inSession v.profile id (.syncFolder v.folder)) := by
  have hshowing : Task.Showing (v.listing n) (v.Hears events looks n) fun _ => True :=
    ⟨fun _ _ _ h => h, fun _ _ _ => trivial⟩
  have hlooked : ∀ cached, v.Hears events looks n
      (.outside (.store (.uidFlags v.profile.email v.folder.shortName))) (.ok cached) →
        ∃ k ≤ events.length, (n, k) ∈ looks ∧
          cached = (v.cache (events.take k)).uidFlags v.profile.email v.folder.shortName := by
    rintro cached ⟨k, hk, hlook, hreply⟩
    exact ⟨k, hk, hlook, Except.ok.inj hreply⟩
  refine (Task.syncFolder_compares hshowing v.profile id v.folder hlooked).mono ?_
  rintro report ⟨_, ⟨k, hk, hlook, rfl⟩, hcompared⟩
  exact ⟨k, hk, hlook, hcompared⟩

theorem hears_of_may (looks : List (Nat × Nat)) {m : Move} (hmay : v.May e l written (.move m)) {n : Nat}
    (hheld : l.held m.worker = some n) {w : Worker} {x : Exchange Request Request.Reply}
    {board : Board} (hreplies : Replies e w m x board) (hwritten : written ≤ e.board.events.length) :
    v.Hears e.board.events (looks ++ look l written (.move m)) n x.question x.reply := by
  cases hreplies with
  | tell id call => trivial
  | answer id call reply =>
      cases call with
      | token | connect _ _ | send _ _ _ => trivial
      | session s c =>
          cases reply with
          | error e => trivial
          | ok value => exact hmay n hheld
      | store c =>
          have hworker : l.held id = some n := hheld
          refine ⟨written, hwritten, List.mem_append_right _ ?_, hmay⟩
          rw [look, hworker]
          exact List.mem_singleton_self _

namespace Runs

theorem run (h : v.Runs e l written looks) : Run v.profile (fun _ _ => True) e l := by
  induction h with
  | here => exact .here
  | next _ _ hact ih => exact .next ih trivial hact
  | write _ _ ih => exact ih

theorem faithful (h : v.Runs e l written looks) : Faithful v.profile e l := Run.faithful h.run

theorem written_le (h : v.Runs e l written looks) : written ≤ e.board.events.length := by
  induction h with
  | here => exact Nat.le_refl 0
  | write _ hmore _ => exact hmore
  | @next e e' l written looks a run hmay hact ih =>
      cases a with
      | call c =>
          cases hact
          rw [(e.obey_called c).events]
          exact ih
      | move m =>
          obtain ⟨w, phase, board, queue, hw, hmoved, rfl⟩ := step_eq_some hact
          obtain ⟨more, hevents⟩ := hmoved.events
          show written ≤ board.events.length
          rw [hevents, List.length_append]
          omega

/-- Whatever was received can be written. -/
theorem written_all (h : v.Runs e l written looks) : v.Runs e l e.board.events.length looks := by
  have hmore : ∀ n, written + n ≤ e.board.events.length → v.Runs e l (written + n) looks := by
    intro n hn
    induction n with
    | zero => exact h
    | succ n ih => exact .write (ih (by omega)) hn
  have hle := h.written_le
  have hall := hmore (e.board.events.length - written) (by omega)
  rwa [Nat.add_sub_cancel' hle] at hall

/-- Every task is to synchronise the folder. -/
theorem kind (h : v.Runs e l written looks) : ∀ t ∈ l.arrived, t.kind = .syncFolder v.folder := by
  induction h with
  | here => nofun
  | write _ _ ih => exact ih
  | @next e e' l written looks a run hmay hact ih =>
      cases a with
      | call c =>
          cases c with
          | enqueue t =>
              intro t' ht'
              rcases List.mem_append.mp ht' with hold | hnew
              · exact ih t' hold
              · rw [List.mem_singleton.mp hnew]
                exact hmay
          | cancelAll | halt | disconnect | look _ => exact ih
          | start reset => cases reset <;> exact ih
      | move m =>
          rw [Ledger.record, (l.recordMove_kept e m).1]
          exact ih

/-- Every reply to a task is as its listing and one of its looks have it. -/
theorem heard (h : v.Runs e l written looks) :
    ∀ n, ∀ x ∈ l.exchanges n, v.Hears (l.stream.map (·.2)) looks n x.question x.reply := by
  induction h with
  | here =>
      intro n x hx
      cases hx
  | write _ _ ih => exact ih
  | @next e e' l written looks a run hmay hact ih =>
      have hlogged := run.faithful.logged hact
      generalize l.record e a = l' at hlogged ⊢
      have hlooks : looks ⊆ looks ++ look l written a := List.subset_append_left ..
      cases hlogged with
      | quiet hlog =>
          intro n x hx
          rw [Ledger.exchanges_congr hlog] at hx
          rw [Ledger.stream_congr hlog]
          exact (ih n x hx).mono (List.prefix_refl _) hlooks
      | @adds m w x _ _ _ n hphase hheld hreplies =>
          have hlater : l.stream.map (·.2) <+:
              ({ l with log := l.log ++ [(n, x)] } : Ledger).stream.map (·.2) := by
            rw [Ledger.stream_append, List.map_append]
            exact List.prefix_append ..
          intro k y hy
          rw [Ledger.exchanges_append] at hy
          rcases List.mem_append.mp hy with hy | hy
          · exact (ih k y hy).mono hlater hlooks
          · by_cases hk : n = k
            · subst hk
              rw [if_pos rfl, List.mem_singleton] at hy
              subst hy
              have hnow := hears_of_may looks hmay hheld hreplies run.written_le
              rw [run.faithful.reporting.events] at hnow
              exact hnow.mono hlater (List.Subset.refl _)
            · rw [if_neg hk] at hy
              cases hy

/-- Every result that is received follows from a look at the cache. -/
theorem vouched (h : v.Runs e l written looks) : ∀ i n event, l.stream[i]? = some (n, event) →
    event.report.isResult = true →
      v.Vouches ((l.stream.take i).map (·.2)) looks n event.report := by
  induction h with
  | here => nofun
  | write _ _ ih => exact ih
  | @next e e' l written looks a run hmay hact ih =>
      have hfaithful := run.faithful
      have hlogged := hfaithful.logged hact
      generalize l.record e a = l' at hlogged ⊢
      have hlooks : looks ⊆ looks ++ look l written a := List.subset_append_left ..
      cases hlogged with
      | quiet hlog =>
          intro i n event hevent hresult
          rw [Ledger.stream_congr hlog] at hevent ⊢
          exact (ih i n event hevent hresult).mono hlooks
      | @adds m w x _ t next n hphase hheld hreplies =>
          intro i k event hevent hresult
          rcases Ledger.of_getElem?_stream_append hevent with hold | ⟨rfl, rfl, hx⟩
          · have hi := (List.getElem?_eq_some_iff.mp hold).1
            rw [Ledger.stream_append, List.take_append_of_le_length (Nat.le_of_lt hi)]
            exact (ih i k event hold hresult).mono hlooks
          · -- What is said last is what the worker that is at the task came to.
            obtain ⟨n, c, hheld', harrived, hleads⟩ := hfaithful.conversing.working hphase
            obtain rfl := Option.some.inj (hheld.symm.trans hheld')
            have hkind := run.kind t (List.mem_of_getElem? harrived)
            have hsession : ∀ id, Attempt.Ends (v.Hears (l.stream.map (·.2)) looks k)
                (fun _ => True) (v.Vouches (l.stream.map (·.2)) looks k)
                (Task.inSession v.profile id t.kind) := by
              rw [hkind]
              exact inSession_vouches _ _ k
            have hposes := Worker.process_poses (by rw [hkind]; rfl) hsession c
            rw [hfaithful.profile] at hleads
            have hnow := (hposes.of_leads hleads (run.heard k)).1
            rw [Ledger.stream_append, List.take_left]
            exact (hnow.of_event? hx hresult).mono hlooks

end Runs

/-! ## The last result -/

/-- What is cached of the folder once these events were written. -/
def snapshot (v : Mirror) (events : List Event) : Snapshot :=
  (v.cache events).uidFlags v.profile.email v.folder.shortName

/-- What is in the cache once everything is written, where the last result is the event `event`
of the task `n`, which came at place `i` and saw the cache with `k` events written. -/
structure Settled (v : Mirror) (e : Engine) (l : Ledger) (i n k : Nat) (event : Event) : Prop where
  received : e.board.events = l.stream.map (·.2)
  seen : k ≤ i
  reported : Task.Compared v.folder (v.listing n) (v.snapshot (e.board.events.take k)) event.report
  /-- What the report inserts or deletes is as listed, whatever came in between. -/
  decided : ∀ uid, uid ∈ (diff (v.snapshot (e.board.events.take k)) (v.listing n)).insert ∨
    uid ∈ (diff (v.snapshot (e.board.events.take k)) (v.listing n)).delete →
      AgreesAt (v.snapshot e.board.events) (v.listing n) uid
  /-- So is what no report that came in between touches, but those that were shown it alike. -/
  spared : ∀ uid, (∀ j m earlier, k ≤ j → j < i → l.stream[j]? = some (m, earlier) →
    earlier.report.Touches uid → Accords (v.listing m) (v.listing n) uid) →
      AgreesAt (v.snapshot e.board.events) (v.listing n) uid
  /-- If no result came in between, or only those of tasks that were shown the same listing, then
  everything is as listed. -/
  steady : (∀ j m earlier, k ≤ j → j < i → l.stream[j]? = some (m, earlier) →
    earlier.report.isResult = true → v.listing m = v.listing n) →
      Agrees (v.snapshot e.board.events) (v.listing n)

/-- The cache after all events, from what it was after the first `k`. -/
theorem cache_events (v : Mirror) {events : List Event} {i k : Nat} {event : Event}
    (hevent : events[i]? = some event) (hk : k ≤ i) :
    v.cache events = (CacheWriter.mk v.profile.email).replay
      ((events.take i).drop k ++ event :: events.drop (i + 1)) (v.cache (events.take k)) := by
  obtain ⟨hi, hget⟩ := List.getElem?_eq_some_iff.mp hevent
  have hlast : events = events.take i ++ event :: events.drop (i + 1) := by
    rw [← hget, ← List.drop_eq_getElem_cons hi, List.take_append_drop]
  have hfirst : events.take i = events.take k ++ (events.take i).drop k := by
    rw [← Nat.min_eq_left hk, ← List.take_take, Nat.min_eq_left hk, List.take_append_drop]
  have hsplit : events = events.take k ++ ((events.take i).drop k ++ event :: events.drop (i + 1)) := by
    rw [← List.append_assoc, ← hfirst, ← hlast]
  conv => lhs; rw [cache, hsplit, CacheWriter.replay_append]
  rfl

namespace Runs

variable {i n k : Nat} {event : Event} {uid : Uid}

/-- What came between the look and the last result does no harm to a number, if those of its
reports that touch the number were shown it alike. -/
theorem harmless (h : v.Runs e l written looks) (hsound : ∀ m, Task.Sound (v.listing m))
    (haccords : ∀ j m earlier, k ≤ j → j < i → l.stream[j]? = some (m, earlier) →
      earlier.report.Touches uid → Accords (v.listing m) (v.listing n) uid) :
    ∀ event ∈ (e.board.events.take i).drop k,
      Task.Harmless v.folder (v.listing n) uid event.report := by
  intro event hevent
  obtain ⟨j, hj⟩ := List.mem_iff_getElem?.mp hevent
  rw [List.getElem?_drop, List.getElem?_take] at hj
  obtain ⟨hlt, hj⟩ := Option.ite_none_right_eq_some.mp hj
  rw [h.faithful.reporting.events, List.getElem?_map] at hj
  obtain ⟨⟨m, earlier⟩, hplace, rfl⟩ := Option.map_eq_some_iff.mp hj
  cases hresult : earlier.report.isResult with
  | false => exact .unwritten hresult
  | true =>
      obtain ⟨_, -, -, hreconciled⟩ := h.vouched (k + j) m earlier hplace hresult
      exact .accords (hsound m) hreconciled
        (haccords (k + j) m earlier (Nat.le_add_right k j) hlt hplace)

/-- One number in the end, which is as listed unless it was left alone and is touched otherwise. -/
theorem agreesAt (h : v.Runs e l written looks) (hsound : ∀ m, Task.Sound (v.listing m))
    (hevent : l.stream[i]? = some (n, event))
    (hlast : ∀ j x, i < j → l.stream[j]? = some x → x.2.report.isResult = false) (hk : k ≤ i)
    (hcompared : Task.Compared v.folder (v.listing n) (v.snapshot (e.board.events.take k))
      event.report)
    (haccords : (((v.snapshot (e.board.events.take k)).get? uid).isSome ↔ uid ∈ uids (v.listing n)) →
      ∀ j m earlier, k ≤ j → j < i → l.stream[j]? = some (m, earlier) →
        earlier.report.Touches uid → Accords (v.listing m) (v.listing n) uid) :
    AgreesAt (v.snapshot e.board.events) (v.listing n) uid := by
  have hreceived := h.faithful.reporting.events
  have hplace : e.board.events[i]? = some event := by
    rw [hreceived, List.getElem?_map, hevent, Option.map_some]
  have hafter : ∀ event ∈ e.board.events.drop (i + 1), event.report.isResult = false := by
    intro event' hevent'
    obtain ⟨j, hj⟩ := List.mem_iff_getElem?.mp hevent'
    rw [List.getElem?_drop, hreceived, List.getElem?_map] at hj
    obtain ⟨x, hx, rfl⟩ := Option.map_eq_some_iff.mp hj
    exact hlast (i + 1 + j) x (by omega) hx
  rw [snapshot, v.cache_events hplace hk]
  exact Task.Compared.agreesAt_replay (w := CacheWriter.mk v.profile.email) (hsound n) hcompared
    (fun hkept => h.harmless hsound (haccords hkept)) hafter

/-- However late the events are written, in the end the cache is as the last task saw the folder
wherever it wrote or was not overtaken by a report that was shown it otherwise. -/
theorem settles (h : v.Runs e l written looks) (hsound : ∀ m, Task.Sound (v.listing m))
    (hevent : l.stream[i]? = some (n, event)) (hresult : event.report.isResult = true)
    (hlast : ∀ j x, i < j → l.stream[j]? = some x → x.2.report.isResult = false) :
    ∃ k, (n, k) ∈ looks ∧ v.Settled e l i n k event := by
  have hreceived := h.faithful.reporting.events
  obtain ⟨k, hk, hlook, hcompared⟩ := h.vouched i n event hevent hresult
  rw [List.map_take, List.length_take] at hk
  rw [List.map_take, ← hreceived, List.take_take, Nat.min_eq_left (by omega)] at hcompared
  have hki : k ≤ i := by omega
  refine ⟨k, hlook, hreceived, hki, hcompared, ?_, ?_, ?_⟩
  · intro uid hwritten
    refine h.agreesAt hsound hevent hlast hki hcompared fun hkept => ?_
    rcases hwritten with hinsert | hdelete
    · obtain ⟨hlisted, hnone⟩ := mem_insert_iff.mp hinsert
      rw [hnone] at hkept
      cases hkept.mpr hlisted
    · obtain ⟨hcached, hunlisted⟩ := mem_delete_iff.mp hdelete
      exact absurd (hkept.mp hcached) hunlisted
  · intro uid haccords
    exact h.agreesAt hsound hevent hlast hki hcompared fun _ => haccords
  · intro hsame
    rw [agrees_iff]
    intro uid
    refine h.agreesAt hsound hevent hlast hki hcompared fun _ j m earlier hkj hji hj htouches => ?_
    rw [hsame j m earlier hkj hji hj htouches.isResult]
    exact (hsound n).accords uid

end Runs

/-! ## An update that is lost -/

/-- A listing of one message. -/
def flagged (text : String) : List RemoteMessage := [⟨some 1, .ofText text, .empty, none⟩]

/-- A message is marked as seen before the first task, and unmarked before the second; another one
is gone. -/
def unmarked : Mirror where
  profile := ⟨"me", .default⟩
  folder := .inbox
  listing
    | 0 => flagged "\\Seen"
    | _ + 1 => flagged ""
  cached := (Store.empty.addRows [⟨"me", "INBOX", 1, some "", none, false, .empty⟩,
    ⟨"me", "INBOX", 2, none, none, false, .empty⟩]).2

theorem unmarked_sound (n : Nat) : Task.Sound (unmarked.listing n) := by
  have hflagged : ∀ text, Task.Sound (flagged text) := fun text =>
    ⟨List.pairwise_singleton .., List.forall_mem_singleton.mpr fun _ => FlagSet.isRead_of_mem_ofText⟩
  cases n <;> exact hflagged _

/-- What a task reports that saw the cache before anything was written. -/
def unmarkedReport (n : Nat) : Report :=
  let difference := diff (unmarked.snapshot []) (unmarked.listing n)
  .refreshed .inbox [] (Task.within difference.update (unmarked.listing n)) difference.delete ∅ false

def unmarkedStream : List (Nat × Event) :=
  [(0, ⟨⟨"ui", 1⟩, .progress .taskStarted⟩), (0, ⟨⟨"ui", 1⟩, .progress .connecting⟩),
    (0, ⟨⟨"ui", 1⟩, .progress .connected⟩), (0, ⟨⟨"ui", 1⟩, unmarkedReport 0⟩),
    (0, ⟨⟨"ui", 1⟩, .progress .taskCompleted⟩), (1, ⟨⟨"ui", 2⟩, .progress .taskStarted⟩),
    (1, ⟨⟨"ui", 2⟩, unmarkedReport 1⟩), (1, ⟨⟨"ui", 2⟩, .progress .taskCompleted⟩)]

/-- Everything may be written after both tasks are done. -/
theorem exists_unmarked : ∃ e l, unmarked.Runs e l e.board.events.length [(0, 0), (1, 0)] ∧
    l.stream = unmarkedStream := by
  have hselect : ∀ m n, some m = some n →
      Task.Shows (unmarked.listing n) (.select "INBOX") ⟨1, none, none⟩ := by
    intro _ n _
    refine iff_of_false (by decide) ?_
    cases n <;> exact List.cons_ne_nil _ _
  have hlist : ∀ m n, some m = some n →
      Task.Shows (unmarked.listing n) (.fetchFlags "1:*") (unmarked.listing m) := by
    rintro m _ ⟨⟩ _
    rfl
  have first : unmarked.Runs _ _ _ _ :=
    .next (a := .call (.enqueue ⟨⟨"ui", 1⟩, .syncFolder .inbox⟩)) .here rfl rfl
  have second := Runs.next (a := .call (.enqueue ⟨⟨"ui", 2⟩, .syncFolder .inbox⟩)) first rfl rfl
  have looking := Runs.next (a := .call (.look true)) second trivial rfl
  have started := Runs.next (a := .call (.start false)) looking trivial rfl
  have begun := Runs.next (a := .move (.begin 0)) started trivial rfl
  have taken := Runs.next (a := .move (.take 0)) begun trivial rfl
  have noted := Runs.next (a := .move (.tell 0)) taken trivial rfl
  have checked := Runs.next (a := .move (.tell 0)) noted trivial rfl
  have connecting := Runs.next (a := .move (.tell 0)) checked trivial rfl
  have published := Runs.next (a := .move (.tell 0)) connecting trivial rfl
  have given := Runs.next (a := .move (.answer 0 .token (.ok "token"))) published trivial rfl
  have opened := Runs.next (a := .move (.answer 0 (.connect "me" "token") (.ok 5))) given trivial rfl
  have connected := Runs.next (a := .move (.tell 0)) opened trivial rfl
  have told := Runs.next (a := .move (.tell 0)) connected trivial rfl
  have live := Runs.next (a := .move (.tell 0)) told trivial rfl
  have selected := Runs.next (a := .move (.answer 0 (.session 5 (.select "INBOX"))
    (.ok ⟨1, none, none⟩))) live (hselect 0) rfl
  have listed := Runs.next (a := .move (.answer 0 (.session 5 (.fetchFlags "1:*"))
    (.ok (unmarked.listing 0)))) selected (hlist 0) rfl
  have seen := Runs.next (a := .move (.answer 0 (.store (.uidFlags "me" "INBOX"))
    (.ok (unmarked.cached.perform (.uidFlags "me" "INBOX")).1))) listed rfl rfl
  have watched := Runs.next (a := .move (.tell 0)) seen trivial rfl
  have reported := Runs.next (a := .move (.tell 0)) watched trivial rfl
  have completed := Runs.next (a := .move (.tell 0)) reported trivial rfl
  have done := Runs.next (a := .move (.finish 0)) completed trivial rfl
  -- The second task finds the cache as the first did.
  have taken₁ := Runs.next (a := .move (.take 0)) done trivial rfl
  have noted₁ := Runs.next (a := .move (.tell 0)) taken₁ trivial rfl
  have checked₁ := Runs.next (a := .move (.tell 0)) noted₁ trivial rfl
  have probed₁ := Runs.next (a := .move (.answer 0 (.session 5 .noop) (.ok ()))) checked₁
    (fun _ _ => trivial) rfl
  have live₁ := Runs.next (a := .move (.tell 0)) probed₁ trivial rfl
  have selected₁ := Runs.next (a := .move (.answer 0 (.session 5 (.select "INBOX"))
    (.ok ⟨1, none, none⟩))) live₁ (hselect 1) rfl
  have listed₁ := Runs.next (a := .move (.answer 0 (.session 5 (.fetchFlags "1:*"))
    (.ok (unmarked.listing 1)))) selected₁ (hlist 1) rfl
  have seen₁ := Runs.next (a := .move (.answer 0 (.store (.uidFlags "me" "INBOX"))
    (.ok (unmarked.cached.perform (.uidFlags "me" "INBOX")).1))) listed₁ rfl rfl
  have watched₁ := Runs.next (a := .move (.tell 0)) seen₁ trivial rfl
  have reported₁ := Runs.next (a := .move (.tell 0)) watched₁ trivial rfl
  have completed₁ := Runs.next (a := .move (.tell 0)) reported₁ trivial rfl
  exact ⟨_, _, completed₁.written_all, rfl⟩

theorem unmarkedStream_last (j : Nat) (x : Nat × Event) (hj : 6 < j)
    (hx : unmarkedStream[j]? = some x) : x.2.report.isResult = false := by
  have hlt : j < 8 := (List.getElem?_eq_some_iff.mp hx).1
  obtain rfl : j = 7 := by omega
  cases hx
  rfl

/-- Both tasks saw the cache as it was before, so what is gone is deleted twice. -/
theorem Runs.settles_unmarked : ∃ e l, unmarked.Runs e l e.board.events.length [(0, 0), (1, 0)] ∧
    l.stream = unmarkedStream ∧ unmarked.Settled e l 6 1 0 ⟨⟨"ui", 2⟩, unmarkedReport 1⟩ ∧
    2 ∈ (diff (unmarked.snapshot []) (unmarked.listing 1)).delete := by
  obtain ⟨e, l, h, hstream⟩ := exists_unmarked
  have hevent : l.stream[6]? = some (1, ⟨⟨"ui", 2⟩, unmarkedReport 1⟩) := by
    rw [hstream]
    rfl
  obtain ⟨k, hlook, hsettled⟩ := h.settles unmarked_sound hevent rfl (hstream ▸ unmarkedStream_last)
  have hk : k = 0 := by simpa using hlook
  rw [hk] at hsettled
  exact ⟨e, l, h, hstream, hsettled, by decide +kernel⟩

/-- The second task finds nothing to do, and then the mark is written. -/
theorem update_lost : ¬ ∀ (v : Mirror) (e : Engine) (l : Ledger) (looks : List (Nat × Nat))
    (i n : Nat) (event : Event), v.Runs e l e.board.events.length looks →
      (∀ m, Task.Sound (v.listing m)) → l.stream[i]? = some (n, event) →
        event.report.isResult = true →
          (∀ (j : Nat) (x : Nat × Event), i < j → l.stream[j]? = some x →
            x.2.report.isResult = false) →
              Agrees (v.snapshot e.board.events) (v.listing n) := by
  intro hagrees
  obtain ⟨e, l, h, hstream⟩ := exists_unmarked
  have hevent : l.stream[6]? = some (1, ⟨⟨"ui", 2⟩, unmarkedReport 1⟩) := by
    rw [hstream]
    rfl
  have hlisted := hagrees unmarked e l _ 6 1 _ h unmarked_sound hevent rfl
    (hstream ▸ unmarkedStream_last)
  rw [h.faithful.reporting.events, hstream] at hlisted
  have hmark : (unmarked.snapshot (unmarkedStream.map (·.2))).get? 1 = some (some "\\Seen") := by
    decide +kernel
  have hmatch := hlisted.flags _ (List.mem_singleton_self _) 1 rfl _ hmark
  have hdiffers : FlagSet.matchesStored (.ofText "") "\\Seen" = false := by decide +kernel
  cases hmatch.symm.trans hdiffers

end Mirror

end MailSync
