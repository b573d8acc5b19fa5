import MailSync.Proofs.Engine.Ledger
import MailSync.Proofs.Story

/-!
# What is told of each task

In every run, all that is received was said about tasks; of each task that a
worker is done with the whole story was told, and of one that a worker is at,
what was told is the beginning of a story, however it goes on
(`Run.telling`). A worker whose task has come to its end goes on to the
next one; only if it is to stop may it have told no ending.
-/

namespace MailSync

open Dialogue Engine

variable {e e' : Engine} {l : Ledger}

/-! ## Workers that are to stop -/

namespace Engine

/-- Whether a worker is to stop. -/
def stops? (e : Engine) (id : WorkerId) : Option Bool := (e.workers[id]?).map (·.cancelled)

/-- A call takes back no stop. -/
theorem Called.stops? (h : Called e e') {id : WorkerId} (hstops : e.stops? id = some true) :
    e'.stops? id = some true := by
  obtain ⟨w, hw, hcancelled⟩ := Option.map_eq_some_iff.mp hstops
  obtain ⟨w', hw', hkept⟩ := h.old hw
  rw [Engine.stops?, hw', Option.map_some, hkept.cancelled hcancelled]

theorem stops?_put {w : Worker} {id : WorkerId} (hw : e.workers[id]? = some w) (phase : Phase)
    (board : Board) (queue : List Task) (i : WorkerId) :
    (e.put id { w with phase } board queue).stops? i = e.stops? i := by
  rw [Engine.stops?, put, List.getElem?_set, Engine.stops?]
  split
  next heq => rw [if_pos (heq ▸ (List.getElem?_eq_some_iff.mp hw).1), ← heq, hw, Option.map_some,
    Option.map_some]
  next => rfl

end Engine

/-- A worker that was told at its task that it is to stop, is to stop. -/
def Candid (e : Engine) (l : Ledger) : Prop :=
  ∀ i n, l.held i = some n → WorkLog.stopped (l.exchanges n) = true → e.stops? i = some true

namespace Candid

theorem call (h : Candid e l) (c : Call) : Candid (e.obey c) (l.recordCall c) := by
  obtain ⟨-, -, hheld, hlog⟩ := l.recordCall_kept c
  intro i n hi hstopped
  rw [hheld] at hi
  rw [Ledger.exchanges_congr hlog] at hstopped
  exact (e.obey_called c).stops? (h i n hi hstopped)

/-- A reply that tells of the stop tells the truth. -/
theorem replies {w : Worker} {m : Move} {x : Exchange Request Request.Reply} {board : Board}
    (hreplies : Replies e w m x board) (hstopped : WorkLog.stopped [x] = true) :
    w.cancelled = true := by
  cases hreplies with
  | answer id call reply => cases hstopped
  | tell id call =>
      cases call with
      | emit _ | publish _ | release _ | isForeground => cases hstopped
      | isCancelled =>
          obtain ⟨predecessor, cancelled, phase⟩ := w
          cases cancelled with
          | true => rfl
          | false => cases hstopped

theorem move (h : Candid e l) (hnumbered : Numbered e l) (hconversing : Conversing e l) {w : Worker}
    {m : Move} {phase : Phase} {board : Board} {queue : List Task} {l' : Ledger}
    (hw : e.workers[m.worker]? = some w) (hrecorded : Recorded e l w m phase board queue l') :
    Candid (e.put m.worker { w with phase } board queue) l' := by
  intro i k hi hstopped
  rw [stops?_put hw]
  cases hrecorded with
  | passes _ _ => exact h i k hi hstopped
  | @takes id _ _ _ n _ _ hwaiting _ _ =>
      rcases Ledger.held_give_iff.mp hi with ⟨-, rfl⟩ | ⟨-, hi⟩
      · have hsilent := (hconversing.silent hnumbered hwaiting).2
        have hstopped : WorkLog.stopped (l.exchanges k) = true := hstopped
        rw [hsilent] at hstopped
        cases hstopped
      · exact h i k hi hstopped
  | @works _ x _ _ _ n _ hheld hreplies =>
      rw [Ledger.exchanges_append, WorkLog.stopped, List.any_append, Bool.or_eq_true_iff] at hstopped
      rcases hstopped with hbefore | hnow
      · exact h i k hi hbefore
      · by_cases hk : n = k
        · rw [if_pos hk] at hnow
          rw [hconversing.injective hi (hk ▸ hheld), Engine.stops?, hw, Option.map_some,
            replies hreplies hnow]
        · rw [if_neg hk] at hnow
          cases hnow
  | finishes id _ => exact h i k (Ledger.held_hold_none_iff.mp hi).2 hstopped

end Candid

theorem Run.candid {p : Profile} {may : Engine → Action → Prop} (h : Run p may e l) :
    Candid e l := by
  refine Run.keeps Candid h nofun (fun c hcandid => hcandid.call c)
    fun run hcandid hw _ hrecorded => ?_
  have hfaithful := Run.faithful run
  exact hcandid.move hfaithful.numbered hfaithful.conversing hw hrecorded

/-! ## Going on -/

namespace Engine

/-- A worker can make this move and no other. -/
def OnlyMove (e : Engine) (m : Move) (e' : Engine) : Prop :=
  e.step m = some e' ∧ ∀ m', m'.worker = m.worker → (e.step m').isSome → m' = m

variable {id : WorkerId} {w : Worker} {t : Task} {c : Connection}

theorem onlyMove_finish (hw : e.workers[id]? = some w) (hphase : w.phase = .working t (.done c)) :
    e.OnlyMove (.finish id) (e.put id { w with phase := .idle c } e.board e.queue) := by
  refine ⟨?_, fun m hm hstep => ?_⟩
  · rw [step, Move.worker, hw]
    simp only [Option.bind_eq_bind, Option.bind_some, stepWorker, hphase]
    rfl
  · obtain ⟨e', hstep⟩ := Option.isSome_iff_exists.mp hstep
    obtain ⟨w', phase, board, queue, hw', hmoved, -⟩ := step_eq_some hstep
    obtain rfl := Option.some.inj (hw.symm.trans (hm ▸ hw'))
    cases hmoved with
    | finishes id' _ => exact congrArg Move.finish hm
    | begins id' h _ | takes id' h _ _ | leaves id' h _ | works h _ | closes h _ | ends id' h =>
        cases hphase.symm.trans h

theorem onlyMove_take {queue : List Task} (hw : e.workers[id]? = some w) (hphase : w.phase = .idle c)
    (hactive : w.cancelled = false) (hqueue : e.queue = t :: queue) :
    e.OnlyMove (.take id)
      (e.put id { w with phase := .working t (Worker.process e.profile t c) } e.board queue) := by
  refine ⟨?_, fun m hm hstep => ?_⟩
  · rw [step, Move.worker, hw]
    simp only [Option.bind_eq_bind, Option.bind_some, stepWorker, hphase, hactive, hqueue]
    rfl
  · obtain ⟨e', hstep⟩ := Option.isSome_iff_exists.mp hstep
    obtain ⟨w', phase, board, queue, hw', hmoved, -⟩ := step_eq_some hstep
    obtain rfl := Option.some.inj (hw.symm.trans (hm ▸ hw'))
    cases hmoved with
    | takes id' _ _ _ => exact congrArg Move.take hm
    | leaves id' _ hstopped => cases hactive.symm.trans hstopped
    | begins id' h _ | finishes id' h | works h _ | closes h _ | ends id' h =>
        cases hphase.symm.trans h

end Engine

/-! ## Runs -/

/-- What is told of tasks, and that workers go on. -/
structure Telling (p : Profile) (e : Engine) (l : Ledger) : Prop where
  received : e.board.events = l.stream.map (·.2)
  said : ∀ n, (l.stream.filter (·.1 = n)).map (·.2) = WorkLog.events (l.exchanges n)
  /-- Of a task that was taken and that no worker is at, all was told. -/
  whole : ∀ n ∈ l.taken, (∀ i, l.held i ≠ some n) →
    ∃ t, l.arrived[n]? = some t ∧ t.Told p (l.exchanges n)
  /-- Of a task that a worker is at, all is told in the end, whatever the replies. -/
  part : ∀ {i t rest}, e.phase? i = some (.working t rest) →
    ∃ n ∈ l.taken, l.held i = some n ∧ l.arrived[n]? = some t ∧
      (∃ later c, Holds rest later c) ∧
      ∀ later c, Holds rest later c → t.Told p (l.exchanges n ++ later)
  /-- A worker has told no ending only if its task was cancelled and it is to stop itself. -/
  unfinal : ∀ {i t c}, e.phase? i = some (.working t (.done c)) →
    ∃ n c₀ performed settled outcome ending, l.held i = some n ∧
      t.Story p c₀ (l.exchanges n) c performed settled outcome ending ∧
      ((∀ event ∈ WorkLog.events (l.exchanges n), event.report.isFinal = false) →
        outcome = .error .cancelled ∧ e.stops? i = some true)
  /-- A worker that is not to stop takes the next task as soon as there is one. -/
  onward : ∀ {i w t c}, e.workers[i]? = some w → w.phase = .working t (.done c) →
    w.cancelled = false → ∃ e₁, e.OnlyMove (.finish i) e₁ ∧ e₁.queue = e.queue ∧
      ∀ {next queue}, e.queue = next :: queue → ∃ e₂, e₁.OnlyMove (.take i) e₂ ∧
        e₂.queue = queue ∧ e₂.phase? i = some (.working next (Worker.process p next c))

/-- Whatever is called and replied, and whenever workers are told to stop, each task that is taken
is told of by a story, and a worker that is not to stop goes on. -/
theorem Run.telling {p : Profile} {may : Engine → Action → Prop} (h : Run p may e l) :
    Telling p e l := by
  obtain ⟨rfl, -, hconversing, hreporting⟩ := Run.faithful h
  have hcandid := Run.candid h
  refine ⟨hreporting.events, l.stream_filter, fun n hn hheld => ?_, fun {i t rest} hworking => ?_,
    fun {i t c} hworking => ?_, fun {i w t c} hw hphase hactive => ?_⟩
  · rcases hconversing.settled n hn with ⟨i, hi⟩ | ⟨t, c, c', harrived, hholds⟩
    · exact absurd hi (hheld i)
    · exact ⟨t, harrived, Worker.told hholds⟩
  · obtain ⟨n, c, hheld, harrived, hleads⟩ := hconversing.working hworking
    exact ⟨n, (hconversing.held hheld).1, hheld, harrived, Work.exists_holds rest,
      fun later c' hlater => Worker.told (hleads.append hlater)⟩
  · obtain ⟨n, c₀, hheld, -, hleads⟩ := hconversing.working hworking
    obtain ⟨performed, settled, outcome, ending, hstory⟩ := Worker.process_tells hleads.holds
    refine ⟨n, c₀, performed, settled, outcome, ending, hheld, hstory, fun hunfinal => ?_⟩
    obtain ⟨houtcome, hstopped⟩ := hstory.stopped_of_unfinal hunfinal
    exact ⟨houtcome, hcandid i n hheld hstopped⟩
  · refine ⟨_, onlyMove_finish hw hphase, rfl, fun {next queue} hqueue => ?_⟩
    have hput : (e.put i { w with phase := .idle c } e.board e.queue).workers[i]? =
        some { w with phase := .idle c } := by
      rw [put, List.getElem?_set_self (List.getElem?_eq_some_iff.mp hw).1]
    refine ⟨_, onlyMove_take hput rfl hactive hqueue, rfl, ?_⟩
    rw [phase?_put hput, if_pos rfl]
    rfl

/-- Of two messages to send, the first fails for want of a token; the worker is about to go on. -/
theorem Run.telling_failed_send : ∃ e l, Run ⟨"me", .default⟩ (fun _ _ => True) e l ∧
    e.board.events = [⟨⟨"ui", 1⟩, .progress .taskStarted⟩,
      ⟨⟨"ui", 1⟩, .failed .auth (.auth "expired")⟩] ∧
    (∃ t c, e.phase? 0 = some (.working t (.done c))) ∧ Telling ⟨"me", .default⟩ e l := by
  have first : Run ⟨"me", .default⟩ (fun _ _ => True) _ _ :=
    .next (a := .call (.enqueue ⟨⟨"ui", 1⟩, .send []⟩)) .here trivial rfl
  have second := Onward.next (a := .call (.enqueue ⟨⟨"ui", 2⟩, .send []⟩)) first trivial rfl
  have started := Onward.next (a := .call (.start false)) second trivial rfl
  have begun := Onward.next (a := .move (.begin 0)) started trivial rfl
  have taken := Onward.next (a := .move (.take 0)) begun trivial rfl
  have noted := Onward.next (a := .move (.tell 0)) taken trivial rfl
  have refused := Onward.next (a := .move (.answer 0 .token (.error (.auth "expired")))) noted
    trivial rfl
  have told := Onward.next (a := .move (.tell 0)) refused trivial rfl
  exact ⟨_, _, told, rfl, ⟨_, _, rfl⟩, Run.telling told⟩

end MailSync
