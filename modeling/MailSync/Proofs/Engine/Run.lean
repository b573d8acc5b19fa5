import MailSync.Engine
import MailSync.Proofs.Worker

/-!
# Runs of the engine

A run is any interleaving of calls of the user and moves of the workers.
Beside the engine it keeps a ledger: every task that arrives gets the next
number, and the ledger says which numbers wait, were dropped or were taken,
by which worker, and which exchange belongs to which number. The ledger is
written down from outside and never read by the engine.

`Engine.step_eq_some` says once what a move can do; every invariant of runs
is proved from it, one case for each move.
-/

namespace MailSync

open Dialogue

namespace Engine

/-! ## Calls -/

inductive Call where
  | enqueue (task : Task)
  | cancelAll
  | start (reset : Bool)
  | disconnect
  /-- Parts with the current worker. That the caller then waits for the end of this worker is
  no part of the call: other calls may come before. -/
  | halt
  | look (foreground : Bool)
deriving DecidableEq

def obey (e : Engine) : Call → Engine
  | .enqueue t => e.enqueue t
  | .cancelAll => e.cancelAll.2
  | .start reset => e.start reset
  | .disconnect => e.disconnect
  | .halt => e.halt.2
  | .look foreground => { e with board := { e.board with foreground } }

inductive Action where
  | call (call : Call)
  | move (move : Move)

def act (e : Engine) : Action → Option Engine
  | .call c => some (e.obey c)
  | .move m => e.step m

/-- A reset is three calls in a row, so others that come between them make a run as well. -/
theorem start_reset (e : Engine) : e.start true = e.cancelAll.2.disconnect.start false := rfl

/-! ## What a call does to the workers -/

/-- What a call leaves of a worker: at most, the worker is told to stop. -/
structure Kept (w w' : Worker) : Prop where
  predecessor : w'.predecessor = w.predecessor
  phase : w'.phase = w.phase
  cancelled : w.cancelled = true → w'.cancelled = true

theorem Kept.refl (w : Worker) : Kept w w := ⟨rfl, rfl, id⟩

theorem Kept.trans {w w' w'' : Worker} (h : Kept w w') (h' : Kept w' w'') : Kept w w'' :=
  ⟨h'.predecessor.trans h.predecessor, h'.phase.trans h.phase, h'.cancelled ∘ h.cancelled⟩

/-- A call may tell workers to stop and may start new ones. It interferes with nothing that a
worker is doing, and reports nothing. -/
structure Called (e e' : Engine) : Prop where
  profile : e'.profile = e.profile
  attended : e'.board.attended = e.board.attended
  events : e'.board.events = e.board.events
  old : ∀ {id : WorkerId} {w : Worker}, e.workers[id]? = some w →
    ∃ w', e'.workers[id]? = some w' ∧ Kept w w'
  new : ∀ {id : WorkerId} {w : Worker}, e.workers[id]? = none → e'.workers[id]? = some w →
    w.phase = .waiting

namespace Called

variable {e e' e'' : Engine}

theorem of_workers (hprofile : e'.profile = e.profile) (hattended : e'.board.attended = e.board.attended)
    (hevents : e'.board.events = e.board.events) (hworkers : e'.workers = e.workers) :
    Called e e' where
  profile := hprofile
  attended := hattended
  events := hevents
  old h := ⟨_, hworkers ▸ h, .refl _⟩
  new h h' := by
    rw [hworkers, h] at h'
    cases h'

theorem refl (e : Engine) : Called e e := of_workers rfl rfl rfl rfl

theorem trans (h : Called e e') (h' : Called e' e'') : Called e e'' where
  profile := h'.profile.trans h.profile
  attended := h'.attended.trans h.attended
  events := h'.events.trans h.events
  old hw := by
    obtain ⟨w', hw', hkept⟩ := h.old hw
    obtain ⟨w'', hw'', hkept'⟩ := h'.old hw'
    exact ⟨w'', hw'', hkept.trans hkept'⟩
  new {id w} hnone hw := by
    cases hmid : e'.workers[id]? with
    | none => exact h'.new hmid hw
    | some w' =>
        obtain ⟨w'', hw'', hkept⟩ := h'.old hmid
        obtain rfl := Option.some.inj (hw.symm.trans hw'')
        exact hkept.phase.trans (h.new hnone hmid)

end Called

/-- Where a worker is in its life. -/
def phase? (e : Engine) (id : WorkerId) : Option Phase := (e.workers[id]?).map (·.phase)

theorem phase?_of_worker {e : Engine} {id : WorkerId} {w : Worker} (hw : e.workers[id]? = some w) :
    e.phase? id = some w.phase := by
  rw [phase?, hw, Option.map_some]

/-- A call changes no phase; what it starts waits. -/
theorem Called.phase?_eq_some_iff {e e' : Engine} (h : Called e e') {id : WorkerId} {phase : Phase}
    (hphase : phase ≠ .waiting) : e'.phase? id = some phase ↔ e.phase? id = some phase := by
  rw [phase?, phase?]
  cases hw : e.workers[id]? with
  | some w =>
      obtain ⟨w', hw', hkept⟩ := h.old hw
      rw [hw', Option.map_some, Option.map_some, hkept.phase]
  | none =>
      refine iff_of_false (fun hnew => ?_) (by simp)
      obtain ⟨w', hw', rfl⟩ := Option.map_eq_some_iff.mp hnew
      exact hphase (h.new hw hw')

theorem disconnect_queue (e : Engine) : e.disconnect.queue = e.queue := by
  rw [disconnect]
  split <;> rfl

theorem disconnect_current (e : Engine) : e.disconnect.current = e.current := by
  rw [disconnect]
  split <;> rfl

theorem disconnect_length (e : Engine) : e.disconnect.workers.length = e.workers.length := by
  rw [disconnect]
  split
  · rfl
  · exact List.length_modify ..

theorem start_queue (e : Engine) (reset : Bool) :
    (e.start reset).queue = if reset then [] else e.queue := by
  have started : ∀ e : Engine, (if e.isRunning then e else e.launch).queue = e.queue := fun e => by
    split <;> rfl
  cases reset with
  | false => exact started e
  | true => exact (started _).trans (disconnect_queue _)

theorem disconnect_called (e : Engine) : Called e e.disconnect := by
  rw [disconnect]
  split
  · exact .refl e
  next current _ =>
    refine ⟨rfl, rfl, rfl, fun {id w} hw => ?_, fun {id w} hnone hw => ?_⟩
    · refine ⟨if current = id then { w with cancelled := true } else w, ?_, ?_⟩
      · rw [List.getElem?_modify, hw]
        rfl
      · split
        · exact ⟨rfl, rfl, fun _ => rfl⟩
        · exact .refl w
    · rw [List.getElem?_modify, hnone] at hw
      cases hw

theorem launch_called (e : Engine) : Called e e.launch where
  profile := rfl
  attended := rfl
  events := rfl
  old hw := ⟨_, (List.getElem?_append_left (List.getElem?_eq_some_iff.mp hw).1).trans hw, .refl _⟩
  new {id w} hnone hw := by
    rw [launch, List.getElem?_append_right (List.getElem?_eq_none_iff.mp hnone),
      List.getElem?_singleton] at hw
    split at hw
    · cases hw
      rfl
    · cases hw

theorem start_called (e : Engine) (reset : Bool) : Called e (e.start reset) := by
  have started : ∀ e : Engine, Called e (if e.isRunning then e else e.launch) := fun e => by
    split
    · exact .refl e
    · exact e.launch_called
  cases reset with
  | false => exact started e
  | true =>
      have dropped : Called e e.cancelAll.2 := .of_workers rfl rfl rfl rfl
      exact (dropped.trans e.cancelAll.2.disconnect_called).trans (started _)

theorem obey_called (e : Engine) (c : Call) : Called e (e.obey c) := by
  cases c with
  | enqueue _ | cancelAll | look _ => exact .of_workers rfl rfl rfl rfl
  | start reset => exact e.start_called reset
  | disconnect => exact e.disconnect_called
  | halt =>
      obtain ⟨hprofile, hattended, hevents, hold, hnew⟩ := e.cancelAll.2.disconnect_called
      exact ⟨hprofile, hattended, hevents, hold, hnew⟩

/-! ## What a move does -/

/-- The reply that a move gives to a worker, and the board after it. -/
inductive Replies (e : Engine) (w : Worker) : Move → Exchange Request Request.Reply → Board → Prop where
  | tell (id : WorkerId) (call : InsideCall) :
    Replies e w (.tell id) ⟨.inside call, (e.board.answer w.cancelled call).1⟩
      (e.board.answer w.cancelled call).2
  | answer (id : WorkerId) (call : OutsideCall) (reply : call.Reply) :
    Replies e w (.answer id call reply) ⟨.outside call, reply⟩ e.board

theorem Replies.ne_take {e : Engine} {w : Worker} {m : Move} {x : Exchange Request Request.Reply}
    {board : Board} (h : Replies e w m x board) (id : WorkerId) : m ≠ .take id := by
  cases h <;> nofun

/-- `Moved e w m phase board queue`: the worker `w` can make the move `m`, which takes it to
`phase` and leaves this board and this queue. -/
inductive Moved (e : Engine) (w : Worker) : Move → Phase → Board → List Task → Prop where
  | begins (id : WorkerId) (hphase : w.phase = .waiting) (hmay : e.mayBegin w = true) :
    Moved e w (.begin id) (.idle .closed) e.board e.queue
  | takes (id : WorkerId) {c : Connection} {t : Task} {queue : List Task}
    (hphase : w.phase = .idle c) (hactive : w.cancelled = false) (hqueue : e.queue = t :: queue) :
    Moved e w (.take id) (.working t (Worker.process e.profile t c)) e.board queue
  | leaves (id : WorkerId) {c : Connection} (hphase : w.phase = .idle c)
    (hstopped : w.cancelled = true) : Moved e w (.leave id) (.leaving c.disconnect) e.board e.queue
  | works {m : Move} {x : Exchange Request Request.Reply} {board : Board} {t : Task}
    {next : x.question.Reply → Work Connection} (hphase : w.phase = .working t (.ask x.question next))
    (hreplies : Replies e w m x board) : Moved e w m (.working t (next x.reply)) board e.queue
  | closes {m : Move} {x : Exchange Request Request.Reply} {board : Board}
    {next : x.question.Reply → Work Connection} (hphase : w.phase = .leaving (.ask x.question next))
    (hreplies : Replies e w m x board) : Moved e w m (.leaving (next x.reply)) board e.queue
  | finishes (id : WorkerId) {t : Task} {c : Connection} (hphase : w.phase = .working t (.done c)) :
    Moved e w (.finish id) (.idle c) e.board e.queue
  | ends (id : WorkerId) {c : Connection} (hphase : w.phase = .leaving (.done c)) :
    Moved e w (.finish id) .finished e.board e.queue

/-- The engine with a worker, the board and the queue replaced. -/
def put (e : Engine) (id : WorkerId) (w : Worker) (board : Board) (queue : List Task) : Engine :=
  { e with board, queue, workers := e.workers.set id w }

/-- A worker that is answered goes on at its task, or with closing its connection. -/
theorem Replies.moved {e : Engine} {w : Worker} {m : Move} {x : Exchange Request Request.Reply}
    {board : Board} {next : x.question.Reply → Work Connection} (h : Replies e w m x board)
    (hrest : w.rest? = some (.ask x.question next)) :
    ∃ phase, Moved e w m phase board e.queue ∧ w.continued (next x.reply) = { w with phase } := by
  obtain ⟨predecessor, cancelled, phase⟩ := w
  cases phase with
  | waiting | idle _ | finished => cases hrest
  | working t rest =>
      cases hrest
      exact ⟨_, .works rfl h, rfl⟩
  | leaving rest =>
      cases hrest
      exact ⟨_, .closes rfl h, rfl⟩

/-- Events that were received stay so. -/
theorem Moved.events {e : Engine} {w : Worker} {m : Move} {phase : Phase} {board : Board}
    {queue : List Task} (h : Moved e w m phase board queue) :
    ∃ more, board.events = e.board.events ++ more := by
  have replied : ∀ {m x board}, Replies e w m x board →
      ∃ more, board.events = e.board.events ++ more := by
    intro m x board hreplies
    cases hreplies with
    | answer id call reply => exact ⟨[], (List.append_nil _).symm⟩
    | tell id call =>
        cases call with
        | emit event =>
            rw [Board.answer]
            split
            · exact ⟨[event], rfl⟩
            · exact ⟨[], (List.append_nil _).symm⟩
        | publish _ | release _ | isCancelled | isForeground =>
            exact ⟨[], (List.append_nil _).symm⟩
  cases h with
  | begins _ _ _ | takes _ _ _ _ | leaves _ _ _ | finishes _ _ | ends _ _ =>
      exact ⟨[], (List.append_nil _).symm⟩
  | works _ hreplies | closes _ hreplies => exact replied hreplies

theorem stepWorker_eq_some {e e' : Engine} {w : Worker} {m : Move}
    (h : e.stepWorker w m = some e') : ∃ phase board queue, Moved e w m phase board queue ∧
      e' = e.put m.worker { w with phase } board queue := by
  cases m with
  | begin id =>
      simp only [stepWorker] at h
      split at h
      next hphase =>
        obtain ⟨hmay, he⟩ := Option.ite_none_right_eq_some.mp h
        cases he
        exact ⟨_, _, _, .begins id hphase hmay, rfl⟩
      next => cases h
  | take id =>
      simp only [stepWorker] at h
      split at h
      next hphase hactive hqueue =>
        cases h
        exact ⟨_, _, _, .takes id hphase hactive hqueue, rfl⟩
      next => cases h
  | leave id =>
      simp only [stepWorker] at h
      split at h
      next hphase hstopped =>
        cases h
        exact ⟨_, _, _, .leaves id hphase hstopped, rfl⟩
      next => cases h
  | tell id =>
      simp only [stepWorker] at h
      split at h
      next call next hrest =>
        cases h
        obtain ⟨phase, hmoved, hcontinued⟩ := (Replies.tell (e := e) id call).moved hrest
        rw [hcontinued]
        exact ⟨phase, _, _, hmoved, rfl⟩
      next => cases h
  | answer id call reply =>
      simp only [stepWorker] at h
      split at h
      next asked next hrest =>
        split at h
        next heq =>
          subst heq
          cases h
          obtain ⟨phase, hmoved, hcontinued⟩ := (Replies.answer (e := e) id call reply).moved hrest
          rw [hcontinued]
          exact ⟨phase, _, _, hmoved, rfl⟩
        next => cases h
      next => cases h
  | finish id =>
      simp only [stepWorker] at h
      split at h
      next hphase =>
        cases h
        exact ⟨_, _, _, .finishes id hphase, rfl⟩
      next hphase =>
        cases h
        exact ⟨_, _, _, .ends id hphase, rfl⟩
      next => cases h

/-- What a step can do: the worker that moves exists, and nothing but its phase, the board and
the queue changes. -/
theorem step_eq_some {e e' : Engine} {m : Move} (h : e.step m = some e') :
    ∃ w phase board queue, e.workers[m.worker]? = some w ∧ Moved e w m phase board queue ∧
      e' = e.put m.worker { w with phase } board queue := by
  obtain ⟨w, hw, hstep⟩ := Option.bind_eq_some_iff.mp h
  obtain ⟨phase, board, queue, hmoved, rfl⟩ := stepWorker_eq_some hstep
  exact ⟨w, phase, board, queue, hw, hmoved, rfl⟩

theorem phase?_put {e : Engine} {w w' : Worker} {id : WorkerId} (hw : e.workers[id]? = some w)
    (board : Board) (queue : List Task) (i : WorkerId) :
    (e.put id w' board queue).phase? i = if i = id then some w'.phase else e.phase? i := by
  rw [phase?, put, List.getElem?_set, phase?]
  split
  next heq =>
    subst heq
    rw [if_pos rfl, if_pos (List.getElem?_eq_some_iff.mp hw).1, Option.map_some]
  next hne => rw [if_neg (Ne.symm hne)]

/-- The exchange that a move is part of. -/
def exchange? (e : Engine) : Move → Option (Exchange Request Request.Reply)
  | .tell id =>
    match e.workers[id]? >>= Worker.rest? with
    | some (.ask (.inside call) _) =>
      some ⟨.inside call, (e.board.answer (e.workers[id]?.any (·.cancelled)) call).1⟩
    | _ => none
  | .answer _ call reply => some ⟨.outside call, reply⟩
  | .begin _ | .take _ | .leave _ | .finish _ => none

theorem exchange?_of_replies {e : Engine} {w : Worker} {m : Move}
    {x : Exchange Request Request.Reply} {board : Board} {next : x.question.Reply → Work Connection}
    (hw : e.workers[m.worker]? = some w) (hrest : w.rest? = some (.ask x.question next))
    (h : Replies e w m x board) : e.exchange? m = some x := by
  cases h with
  | tell id call =>
      have hw : e.workers[id]? = some w := hw
      rw [exchange?, hw, Option.bind_eq_bind, Option.bind_some, hrest, Option.any_some]
  | answer id call reply => rfl

end Engine

/-! ## The ledger -/

/-- What has become of the tasks that arrived, each known by its number. -/
structure Ledger where
  /-- The tasks in the order in which they arrived; the number of a task is its place. -/
  arrived : List Task
  waiting : List Nat
  dropped : List Nat
  taken : List Nat
  /-- The worker that took a task. -/
  taker : Nat → Option WorkerId
  /-- The task at which a worker is. -/
  held : WorkerId → Option Nat
  /-- All exchanges about tasks, in order. -/
  log : List (Nat × Exchange Request Request.Reply)

namespace Ledger

def blank : Ledger := ⟨[], [], [], [], fun _ => none, fun _ => none, []⟩

def hold (l : Ledger) (id : WorkerId) (n : Option Nat) : Ledger :=
  { l with held := fun i => if i = id then n else l.held i }

/-- A worker takes a task and is at it. -/
def give (l : Ledger) (id : WorkerId) (n : Nat) : Ledger :=
  { l.hold id (some n) with
    taken := l.taken ++ [n], taker := fun k => if k = n then some id else l.taker k }

def recordCall (l : Ledger) : Engine.Call → Ledger
  | .enqueue t =>
    { l with arrived := l.arrived ++ [t], waiting := l.waiting ++ [l.arrived.length] }
  | .cancelAll | .start true | .halt => { l with waiting := [], dropped := l.dropped ++ l.waiting }
  | .start false | .disconnect | .look _ => l

def recordMove (l : Ledger) (e : Engine) : Engine.Move → Ledger
  | .take id =>
    match l.waiting with
    | [] => l
    | n :: waiting => { l.give id n with waiting }
  | .finish id => l.hold id none
  | m =>
    match l.held m.worker, e.exchange? m with
    | some n, some x => { l with log := l.log ++ [(n, x)] }
    | _, _ => l

/-- Writes down an action that the engine takes. -/
def record (l : Ledger) (e : Engine) : Engine.Action → Ledger
  | .call c => l.recordCall c
  | .move m => l.recordMove e m

/-- The exchanges about one task. -/
def exchanges (l : Ledger) (n : Nat) : WorkLog :=
  l.log.filterMap fun (k, x) => if k = n then some x else none

/-- The events that were reported about tasks, with the numbers of the tasks. -/
def stream (l : Ledger) : List (Nat × Event) :=
  l.log.filterMap fun (n, x) => (WorkLog.event? x).map (n, ·)

end Ledger

/-! ## Runs -/

/-- `Onward may e₀ l₀ e l`: from the engine `e₀` with its ledger `l₀`, actions that `may` be
taken lead to `e` and `l`. -/
inductive Onward (may : Engine → Engine.Action → Prop) (e₀ : Engine) (l₀ : Ledger) :
    Engine → Ledger → Prop where
  | here : Onward may e₀ l₀ e₀ l₀
  | next {e e' : Engine} {l : Ledger} {a : Engine.Action} (run : Onward may e₀ l₀ e l)
    (hmay : may e a) (hact : e.act a = some e') : Onward may e₀ l₀ e' (l.record e a)

/-- A run of an engine with its ledger. -/
abbrev Run (p : Profile) (may : Engine → Engine.Action → Prop) : Engine → Ledger → Prop :=
  Onward may (.fresh p) .blank

namespace Onward

variable {may : Engine → Engine.Action → Prop} {e₀ e e' : Engine} {l₀ l l' : Ledger}

theorem trans (h : Onward may e₀ l₀ e l) (h' : Onward may e l e' l') : Onward may e₀ l₀ e' l' := by
  induction h' with
  | here => exact h
  | next _ hmay hact ih => exact .next ih hmay hact

theorem mono {may' : Engine → Engine.Action → Prop} (h : Onward may e₀ l₀ e l)
    (himp : ∀ e a, may e a → may' e a) : Onward may' e₀ l₀ e l := by
  induction h with
  | here => exact .here
  | next _ hmay hact ih => exact .next ih (himp _ _ hmay) hact

theorem of_moves {moves : List Engine.Move} (h : moves.foldlM Engine.step e = some e') :
    ∃ l', Onward (fun _ _ => True) e l e' l' := by
  induction moves generalizing e l with
  | nil =>
      cases h
      exact ⟨l, .here⟩
  | cons m moves ih =>
      obtain ⟨e₁, hstep, hrest⟩ := Option.bind_eq_some_iff.mp h
      obtain ⟨l', hrun⟩ := ih (l := l.record e (.move m)) hrest
      exact ⟨l', (Onward.next (a := .move m) .here trivial hstep).trans hrun⟩

end Onward

end MailSync
