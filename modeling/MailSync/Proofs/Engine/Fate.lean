import MailSync.Proofs.Engine.Telling

/-!
# What becomes of a task

Where nothing empties the queue, a task that arrived waits, is being worked
at, has come to one final event, or was given up (`Run.accounted`). It is
given up without a final event only where it failed as cancelled and the
worker that took it is to stop; that worker takes no further task, so every
worker gives up one task at most. That tasks are given up at all is the one
way in which a disconnect loses them (`Run.not_every_task_ends`).
-/

namespace MailSync

open Dialogue Engine

variable {p : Profile} {e e' : Engine} {l : Ledger} {n : Nat} {t : Task}

/-- An action that drops no task. -/
def Engine.Sparing (_ : Engine) : Action → Prop
  | .call .cancelAll | .call (.start true) | .call .halt => False
  | .call (.enqueue _) | .call (.start false) | .call .disconnect | .call (.look _) | .move _ => True

namespace Ledger

/-- The final events that were received of a task. -/
def finals (l : Ledger) (n : Nat) : List Event :=
  ((l.stream.filter (·.1 = n)).map (·.2)).filter (·.report.isFinal)

/-- A task that no worker is at any more, and of which nothing final was received. -/
structure GivenUp (l : Ledger) (n : Nat) : Prop where
  taken : n ∈ l.taken
  left : ∀ i, l.held i ≠ some n
  unfinal : l.finals n = []

theorem finals_eq (l : Ledger) (n : Nat) :
    l.finals n = (WorkLog.events (l.exchanges n)).filter (·.report.isFinal) := by
  rw [finals, stream_filter]

/-- Only the exchanges about a task decide which of its events are final. -/
theorem finals_congr {l l' : Ledger} (h : l'.exchanges n = l.exchanges n) :
    l'.finals n = l.finals n := by
  rw [finals_eq, finals_eq, h]

end Ledger

/-! ## One task -/

namespace Task.Story

variable {c c' : Connection} {log performed settled : WorkLog} {outcome : Except MailError Report}
  {ending : List Report}

/-- A whole story has one final event, or it is that of a task that was cancelled with its worker. -/
theorem final_or_stopped (h : t.Story p c log c' performed settled outcome ending) :
    (∃ event, (WorkLog.events log).filter (·.report.isFinal) = [event] ∧ event.tag = t.tag) ∨
      ((WorkLog.events log).filter (·.report.isFinal) = [] ∧
        outcome = .error .cancelled ∧ WorkLog.stopped log = true) := by
  have htags := h.tags
  have hbefore := h.final_last
  have hunfinal := h.stopped_of_unfinal
  generalize WorkLog.events log = events at htags hbefore hunfinal ⊢
  rcases List.eq_nil_or_concat events with rfl | ⟨before, event, rfl⟩
  · exact .inr ⟨rfl, hunfinal nofun⟩
  · -- Nothing final comes before the last event, so the last one it is, if any.
    rw [List.concat_eq_append] at htags hbefore hunfinal ⊢
    rw [List.dropLast_concat] at hbefore
    have hnone : before.filter (·.report.isFinal) = [] := by
      rw [List.filter_eq_nil_iff]
      intro event' hevent'
      rw [hbefore event' hevent']
      exact Bool.false_ne_true
    rw [List.filter_append, hnone, List.nil_append]
    cases hfinal : event.report.isFinal with
    | true =>
        left
        refine ⟨event, List.filter_cons_of_pos hfinal, htags event ?_⟩
        exact List.mem_append_right _ (List.mem_singleton_self event)
    | false =>
        right
        refine ⟨List.filter_cons_of_neg (Bool.not_eq_true _ ▸ hfinal), hunfinal ?_⟩
        intro event' hevent'
        rcases List.mem_append.mp hevent' with hevent' | hevent'
        · exact hbefore event' hevent'
        · rw [List.mem_singleton.mp hevent', hfinal]

end Task.Story

namespace Conversing

/-- A task that was taken and that no worker is at has a whole story. -/
theorem story (h : Conversing e l) (htaken : n ∈ l.taken) (hleft : ∀ i, l.held i ≠ some n) :
    ∃ t c c' performed settled outcome ending, l.arrived[n]? = some t ∧
      t.Story e.profile c (l.exchanges n) c' performed settled outcome ending := by
  rcases h.settled n htaken with ⟨i, hi⟩ | ⟨t, c, c', harrived, hholds⟩
  · exact absurd hi (hleft i)
  · obtain ⟨performed, settled, outcome, ending, hstory⟩ := Worker.process_tells hholds
    exact ⟨t, c, c', performed, settled, outcome, ending, harrived, hstory⟩

end Conversing

/-! ## Workers that take no more -/

/-- Whether a worker has begun and is at no task. -/
def Phase.isFree : Phase → Bool
  | .idle _ | .leaving _ | .finished => true
  | .waiting | .working _ _ => false

/-- Once it is to stop, a worker that is at no task comes to no other. -/
theorem Engine.Moved.isFree {w : Worker} {m : Move} {phase : Phase} {board : Board}
    {queue : List Task} (h : Moved e w m phase board queue) (hstopped : w.cancelled = true)
    (hfree : w.phase.isFree = true) : phase.isFree = true := by
  cases h with
  | begins id hphase _ | works hphase _ | finishes id hphase =>
      rw [hphase] at hfree
      cases hfree
  | takes id _ hactive _ => cases hstopped.symm.trans hactive
  | leaves id _ _ | closes _ _ | ends id _ => rfl

/-- A worker that is to stop and is at no task. -/
def Engine.Stopped (e : Engine) (i : WorkerId) : Prop :=
  e.stops? i = some true ∧ ∃ phase, e.phase? i = some phase ∧ phase.isFree = true

namespace Engine.Stopped

variable {i : WorkerId}

theorem called (h : e.Stopped i) (hcalled : Called e e') : e'.Stopped i := by
  obtain ⟨hstops, phase, hphase, hfree⟩ := h
  refine ⟨hcalled.stops? hstops, phase, (hcalled.phase?_eq_some_iff ?_).mpr hphase, hfree⟩
  rintro rfl
  cases hfree

theorem moved (h : e.Stopped i) {w : Worker} {m : Move} {phase : Phase} {board : Board}
    {queue : List Task} (hw : e.workers[m.worker]? = some w)
    (hmoved : Moved e w m phase board queue) :
    (e.put m.worker { w with phase } board queue).Stopped i := by
  obtain ⟨hstops, phase₀, hphase₀, hfree⟩ := h
  refine ⟨(stops?_put hw ..).trans hstops, ?_⟩
  rw [phase?_put hw]
  by_cases hi : i = m.worker
  · subst hi
    obtain rfl := Option.some.inj ((phase?_of_worker hw).symm.trans hphase₀)
    have hcancelled : w.cancelled = true := by
      rw [Engine.stops?, hw, Option.map_some] at hstops
      exact Option.some.inj hstops
    exact ⟨phase, if_pos rfl, hmoved.isFree hcancelled hfree⟩
  · exact ⟨phase₀, (if_neg hi).trans hphase₀, hfree⟩

theorem ne_working (h : e.Stopped i) (t : Task) (rest : Work Connection) :
    e.phase? i ≠ some (.working t rest) := by
  obtain ⟨-, phase, hphase, hfree⟩ := h
  intro hworking
  rw [hworking] at hphase
  cases hphase
  cases hfree

end Engine.Stopped

/-! ## Who took it -/

/-- Of every task that was taken it is known who took it; a worker that is at a task took it, and
took none after it. -/
structure Assigned (l : Ledger) : Prop where
  taken : ∀ n, n ∈ l.taken ↔ ∃ i, l.taker n = some i
  held : ∀ {i n}, l.held i = some n → l.taker n = some i
  last : ∀ {i n k}, l.held i = some n → l.taker k = some i → k ≤ n

namespace Assigned

theorem call (h : Assigned l) (c : Call) : Assigned (l.recordCall c) := by
  obtain ⟨htaken, htaker, hheld, -⟩ := l.recordCall_kept c
  refine ⟨fun n => ?_, fun {i n} hi => ?_, fun {i n k} hi hk => ?_⟩
  · rw [htaken, htaker]
    exact h.taken n
  · rw [hheld] at hi
    rw [htaker]
    exact h.held hi
  · rw [hheld] at hi
    rw [htaker] at hk
    exact h.last hi hk

theorem move (h : Assigned l) (hnumbered : Numbered e l) {w : Worker} {m : Move} {phase : Phase}
    {board : Board} {queue : List Task} {l' : Ledger}
    (hrecorded : Recorded e l w m phase board queue l') : Assigned l' := by
  cases hrecorded with
  | passes _ _ => exact h
  | @takes id c t _ n waiting _ hwaiting _ _ =>
      -- The number that is taken comes after all that were taken before.
      have hbefore : ∀ {i k}, l.taker k = some i → k < n := fun {i k} hk => by
        have hascending := (List.pairwise_append.mp hnumbered.ascending).2.2
        exact hascending k ((h.taken k).mpr ⟨i, hk⟩) n (hwaiting ▸ List.mem_cons_self)
      refine ⟨fun k => ?_, fun {i k} hi => ?_, fun {i k k'} hi hk' => ?_⟩
      · show k ∈ l.taken ++ [n] ↔ ∃ i, (l.give id n).taker k = some i
        simp only [Ledger.taker_give_iff, List.mem_append, List.mem_singleton, h.taken k]
        by_cases hk : k = n
        · exact iff_of_true (.inr hk) ⟨id, .inl ⟨hk, rfl⟩⟩
        · simp [hk]
      · refine Ledger.taker_give_iff.mpr ?_
        rcases Ledger.held_give_iff.mp hi with ⟨rfl, rfl⟩ | ⟨-, hi⟩
        · exact .inl ⟨rfl, rfl⟩
        · exact .inr ⟨Nat.ne_of_lt (hbefore (h.held hi)), h.held hi⟩
      · rcases Ledger.held_give_iff.mp hi with ⟨-, rfl⟩ | ⟨hne, hheld⟩ <;>
          rcases Ledger.taker_give_iff.mp hk' with ⟨hk, heq⟩ | ⟨-, htaker⟩
        · exact Nat.le_of_eq hk
        · exact Nat.le_of_lt (hbefore htaker)
        · exact absurd heq hne
        · exact h.last hheld htaker
  | works _ _ _ => exact ⟨h.taken, h.held, h.last⟩
  | finishes id _ =>
      exact ⟨h.taken, fun hi => h.held (Ledger.held_hold_none_iff.mp hi).2,
        fun hi => h.last (Ledger.held_hold_none_iff.mp hi).2⟩

end Assigned

theorem Run.assigned {may : Engine → Action → Prop} (h : Run p may e l) : Assigned l := by
  refine Run.keeps (fun _ l => Assigned l) h ⟨fun n => ?_, nofun, nofun⟩
    (fun c hassigned => hassigned.call c) fun run hassigned _ _ hrecorded => ?_
  · exact iff_of_false List.not_mem_nil nofun
  · exact hassigned.move (Run.faithful run).numbered hrecorded

/-- By a move a worker takes at most the task that it is then at. -/
theorem Recorded.of_taker_eq_some {w : Worker} {m : Move} {phase : Phase} {board : Board}
    {queue : List Task} {l' : Ledger} (h : Recorded e l w m phase board queue l') {i : WorkerId}
    (hi : l'.taker n = some i) : l.taker n = some i ∨ l'.held i = some n := by
  cases h with
  | passes _ _ | works _ _ _ | finishes _ _ => exact .inl hi
  | takes id _ _ _ _ =>
      rcases Ledger.taker_give_iff.mp hi with ⟨rfl, rfl⟩ | ⟨-, hi⟩
      · exact .inr (if_pos rfl)
      · exact .inl hi

/-! ## Who gave it up -/

/-- The worker that took a task that was given up is to stop and is at no task, and it took none
after that one. -/
def Answerable (e : Engine) (l : Ledger) : Prop :=
  ∀ n i, l.GivenUp n → l.taker n = some i → e.Stopped i ∧ ∀ k, l.taker k = some i → k ≤ n

namespace Answerable

theorem call (h : Answerable e l) (c : Call) : Answerable (e.obey c) (l.recordCall c) := by
  obtain ⟨htaken, htaker, hheld, hlog⟩ := l.recordCall_kept c
  intro n i hn hi
  have hback : l.GivenUp n := by
    refine ⟨htaken ▸ hn.taken, hheld ▸ hn.left, ?_⟩
    rw [← hn.unfinal]
    exact (Ledger.finals_congr (Ledger.exchanges_congr hlog n)).symm
  rw [htaker] at hi ⊢
  obtain ⟨hstopped, hlast⟩ := h n i hback hi
  exact ⟨hstopped.called (e.obey_called c), hlast⟩

/-- What a move can newly make given up is the task that a worker is done with, and the worker
is then to stop. -/
theorem givenUp_of_recorded (hcandid : Candid e l) (hconversing : Conversing e l) {w : Worker}
    {m : Move} {phase : Phase} {board : Board} {queue : List Task} {l' : Ledger}
    (hw : e.workers[m.worker]? = some w) (hrecorded : Recorded e l w m phase board queue l')
    (hgiven : l'.GivenUp n) : l.GivenUp n ∨
      (l.held m.worker = some n ∧ e.stops? m.worker = some true ∧ phase.isFree = true) := by
  obtain ⟨htaken, hleft, hunfinal⟩ := hgiven
  cases hrecorded with
  | passes _ _ => exact .inl ⟨htaken, hleft, hunfinal⟩
  | @takes id c t _ k waiting hphase hwaiting _ _ =>
      left
      have hne : n ≠ k := by
        rintro rfl
        exact hleft id (if_pos rfl)
      refine ⟨(List.mem_append.mp htaken).resolve_right fun h => hne (List.mem_singleton.mp h), ?_,
        hunfinal⟩
      intro i hi
      have hw : e.workers[id]? = some w := hw
      refine hleft i (Ledger.held_give_iff.mpr (.inr ⟨?_, hi⟩))
      rintro rfl
      obtain ⟨-, t', rest, hworking⟩ := hconversing.held hi
      rw [phase?_of_worker hw, hphase] at hworking
      cases hworking
  | @works _ x _ _ _ k _ hheld _ =>
      left
      have hne : k ≠ n := by
        rintro rfl
        exact hleft _ hheld
      refine ⟨htaken, hleft, ?_⟩
      rw [← hunfinal]
      refine (Ledger.finals_congr ?_).symm
      rw [Ledger.exchanges_append, if_neg hne, List.append_nil]
  | @finishes id t c hphase =>
      by_cases hheld : l.held id = some n
      · right
        have hw : e.workers[id]? = some w := hw
        have hworking : e.phase? id = some (.working t (.done c)) := by
          rw [phase?_of_worker hw, hphase]
        obtain ⟨k, c₀, hk, -, hleads⟩ := hconversing.working hworking
        obtain rfl := Option.some.inj (hheld.symm.trans hk)
        obtain ⟨performed, settled, outcome, ending, hstory⟩ := Worker.process_tells hleads.holds
        rcases hstory.final_or_stopped with ⟨event, hfinals, -⟩ | ⟨-, -, hstopped⟩
        · have hunfinal : l.finals n = [] := hunfinal
          rw [Ledger.finals_eq, hfinals] at hunfinal
          cases hunfinal
        · exact ⟨hheld, hcandid id n hheld hstopped, rfl⟩
      · left
        refine ⟨htaken, ?_, hunfinal⟩
        intro i hi
        refine hleft i (Ledger.held_hold_none_iff.mpr ⟨?_, hi⟩)
        rintro rfl
        exact hheld hi

theorem move (h : Answerable e l) (hassigned : Assigned l) (hcandid : Candid e l)
    (hnumbered : Numbered e l) (hconversing : Conversing e l) {w : Worker} {m : Move} {phase : Phase}
    {board : Board} {queue : List Task} {l' : Ledger} (hw : e.workers[m.worker]? = some w)
    (hmoved : Moved e w m phase board queue) (hrecorded : Recorded e l w m phase board queue l') :
    Answerable (e.put m.worker { w with phase } board queue) l' := by
  intro n i hn hi
  have hi : l.taker n = some i := (hrecorded.of_taker_eq_some hi).resolve_right (hn.left i)
  have hbefore : (e.put m.worker { w with phase } board queue).Stopped i ∧
      ∀ k, l.taker k = some i → k ≤ n := by
    rcases givenUp_of_recorded hcandid hconversing hw hrecorded hn with
      hold | ⟨hheld, hstops, hfree⟩
    · obtain ⟨hstopped, hlast⟩ := h n i hold hi
      exact ⟨hstopped.moved hw hmoved, hlast⟩
    · obtain rfl := Option.some.inj (hi.symm.trans (hassigned.held hheld))
      refine ⟨⟨(stops?_put hw ..).trans hstops, phase, ?_, hfree⟩, fun k => hassigned.last hheld⟩
      rw [phase?_put hw, if_pos rfl]
  obtain ⟨hstopped, hlast⟩ := hbefore
  refine ⟨hstopped, fun k hk => hlast k ((hrecorded.of_taker_eq_some hk).resolve_right ?_)⟩
  -- What the worker took by this move it would now be at.
  intro hheld
  obtain ⟨-, t, rest, hworking⟩ := (hconversing.move hnumbered hw hrecorded).held hheld
  exact hstopped.ne_working t rest hworking

end Answerable

theorem Run.answerable {may : Engine → Action → Prop} (h : Run p may e l) : Answerable e l := by
  refine Run.keeps Answerable h (fun n i hn => ?_) (fun c hanswerable => hanswerable.call c)
    fun run hanswerable hw hmoved hrecorded => ?_
  · cases hn.taken
  · have hfaithful := Run.faithful run
    exact hanswerable.move (Run.assigned run) (Run.candid run) hfaithful.numbered
      hfaithful.conversing hw hmoved hrecorded

/-! ## Runs -/

theorem Run.dropped_eq_nil (h : Run p Sparing e l) : l.dropped = [] := by
  induction h with
  | here => rfl
  | @next e e' l a _ hmay _ ih =>
      cases a with
      | call c =>
          cases c with
          | enqueue _ | disconnect | look _ => exact ih
          | cancelAll | halt => exact hmay.elim
          | start reset =>
              cases reset with
              | false => exact ih
              | true => exact hmay.elim
      | move m => exact (l.recordMove_kept e m).2.trans ih

/-- Where every task that arrived is. -/
structure Accounted (p : Profile) (e : Engine) (l : Ledger) : Prop where
  received : e.board.events = l.stream.map (·.2)
  queue : e.queue.map some = l.waiting.map (l.arrived[·]?)
  /-- A task waits, is worked at, has come to one final event, or was given up: it was cancelled
  with its worker. -/
  fate : ∀ n t, l.arrived[n]? = some t →
    n ∈ l.waiting ∨
    (∃ i rest, l.held i = some n ∧ e.phase? i = some (.working t rest)) ∨
    (∃ event, l.finals n = [event] ∧ event.tag = t.tag) ∨
    (l.GivenUp n ∧ ∃ c c' performed settled ending,
      t.Story p c (l.exchanges n) c' performed settled (.error .cancelled) ending)
  /-- The worker that took a task that was given up is to stop, is at no task and took none after
  that one. -/
  culprits : ∀ n, l.GivenUp n → ∃ i, l.taker n = some i ∧ e.stops? i = some true ∧
    (∀ t rest, e.phase? i ≠ some (.working t rest)) ∧ ∀ k, l.taker k = some i → k ≤ n
  /-- So no worker gave up two. -/
  own : ∀ n k, l.GivenUp n → l.GivenUp k → l.taker n = l.taker k → n = k

/-- Where nothing empties the queue, every task that arrived is accounted for, whenever workers
are told to stop. -/
theorem Run.accounted (h : Run p Sparing e l) : Accounted p e l := by
  obtain ⟨rfl, hnumbered, hconversing, hreporting⟩ := Run.faithful h
  have hculprit : ∀ n, l.GivenUp n → ∃ i, l.taker n = some i ∧ e.Stopped i ∧
      ∀ k, l.taker k = some i → k ≤ n := fun n hn => by
    obtain ⟨i, hi⟩ := ((Run.assigned h).taken n).mp hn.taken
    exact ⟨i, hi, Run.answerable h n i hn hi⟩
  refine ⟨hreporting.events, hnumbered.queue, ?_, ?_, ?_⟩
  · intro n t harrived
    have hplace := (hnumbered.every n).mp (List.getElem?_eq_some_iff.mp harrived).1
    rw [Run.dropped_eq_nil h, List.mem_append] at hplace
    rcases hplace with (htaken | hwaiting) | hdropped
    · right
      by_cases hleft : ∀ i, l.held i ≠ some n
      · right
        obtain ⟨t', c, c', performed, settled, outcome, ending, harrived', hstory⟩ :=
          hconversing.story htaken hleft
        obtain rfl := Option.some.inj (harrived.symm.trans harrived')
        rcases hstory.final_or_stopped with ⟨event, hfinals, htag⟩ | ⟨hunfinal, rfl, -⟩
        · exact .inl ⟨event, (l.finals_eq n).trans hfinals, htag⟩
        · right
          refine ⟨⟨htaken, hleft, (l.finals_eq n).trans hunfinal⟩, ?_⟩
          exact ⟨c, c', performed, settled, ending, hstory⟩
      · left
        obtain ⟨i, hi⟩ := Classical.not_forall.mp hleft
        have hheld := Classical.not_not.mp hi
        obtain ⟨-, t', rest, hworking⟩ := hconversing.held hheld
        obtain ⟨k, c, hk, harrived', -⟩ := hconversing.working hworking
        obtain rfl := Option.some.inj (hheld.symm.trans hk)
        obtain rfl := Option.some.inj (harrived.symm.trans harrived')
        exact ⟨i, rest, hheld, hworking⟩
    · exact .inl hwaiting
    · cases hdropped
  · intro n hn
    obtain ⟨i, hi, hstopped, hlast⟩ := hculprit n hn
    exact ⟨i, hi, hstopped.1, hstopped.ne_working, hlast⟩
  · intro n k hn hk heq
    obtain ⟨i, hi, -, hlast⟩ := hculprit n hn
    obtain ⟨j, hj, -, hlast'⟩ := hculprit k hk
    obtain rfl : i = j := Option.some.inj (hi.symm.trans (heq.trans hj))
    exact Nat.le_antisymm (hlast' n hi) (hlast k hj)

/-- A message to send that fails, one that is given up, one that the next worker is at, and one
that waits. -/
theorem Run.accounted_disconnected : ∃ e l, Run ⟨"me", .default⟩ Sparing e l ∧
    l.taken = [0, 1, 2] ∧ l.waiting = [3] ∧ l.held 0 = none ∧ l.held 1 = some 2 ∧
    l.finals 0 = [⟨⟨"ui", 1⟩, .failed .auth (.auth "expired")⟩] ∧ l.finals 1 = [] ∧
    l.taker 1 = some 0 ∧ Accounted ⟨"me", .default⟩ e l := by
  have first : Run ⟨"me", .default⟩ Sparing _ _ :=
    .next (a := .call (.enqueue ⟨⟨"ui", 1⟩, .send []⟩)) .here trivial rfl
  have second := Onward.next (a := .call (.enqueue ⟨⟨"ui", 2⟩, .send []⟩)) first trivial rfl
  have started := Onward.next (a := .call (.start false)) second trivial rfl
  have begun := Onward.next (a := .move (.begin 0)) started trivial rfl
  have taken := Onward.next (a := .move (.take 0)) begun trivial rfl
  have noted := Onward.next (a := .move (.tell 0)) taken trivial rfl
  have refused := Onward.next (a := .move (.answer 0 .token (.error (.auth "expired")))) noted
    trivial rfl
  have told := Onward.next (a := .move (.tell 0)) refused trivial rfl
  have done := Onward.next (a := .move (.finish 0)) told trivial rfl
  have taken₁ := Onward.next (a := .move (.take 0)) done trivial rfl
  have noted₁ := Onward.next (a := .move (.tell 0)) taken₁ trivial rfl
  have given := Onward.next (a := .move (.answer 0 .token (.ok "token"))) noted₁ trivial rfl
  have disconnected := Onward.next (a := .call .disconnect) given trivial rfl
  have third := Onward.next (a := .call (.enqueue ⟨⟨"ui", 3⟩, .send []⟩)) disconnected trivial rfl
  have fourth := Onward.next (a := .call (.enqueue ⟨⟨"ui", 4⟩, .send []⟩)) third trivial rfl
  have restarted := Onward.next (a := .call (.start false)) fourth trivial rfl
  -- The first worker learns that it is to stop, and leaves.
  have checked := Onward.next (a := .move (.tell 0)) restarted trivial rfl
  have settled := Onward.next (a := .move (.tell 0)) checked trivial rfl
  have idle := Onward.next (a := .move (.finish 0)) settled trivial rfl
  have leaving := Onward.next (a := .move (.leave 0)) idle trivial rfl
  have published := Onward.next (a := .move (.tell 0)) leaving trivial rfl
  have finished := Onward.next (a := .move (.finish 0)) published trivial rfl
  have begun₁ := Onward.next (a := .move (.begin 1)) finished trivial rfl
  have taken₂ := Onward.next (a := .move (.take 1)) begun₁ trivial rfl
  exact ⟨_, _, taken₂, rfl, rfl, rfl, rfl, rfl, rfl, rfl, Run.accounted taken₂⟩

/-- A message to send is given up by the worker that was at it when it was disconnected. -/
theorem Run.not_every_task_ends : ¬ ∀ e l, Run ⟨"me", .default⟩ Sparing e l →
    ∀ n t, l.arrived[n]? = some t →
      n ∈ l.waiting ∨
      (∃ i rest, l.held i = some n ∧ e.phase? i = some (.working t rest)) ∨
      ∃ event, l.finals n = [event] ∧ event.tag = t.tag := by
  intro hfate
  have first : Run ⟨"me", .default⟩ Sparing _ _ :=
    .next (a := .call (.enqueue ⟨⟨"ui", 1⟩, .send []⟩)) .here trivial rfl
  have started := Onward.next (a := .call (.start false)) first trivial rfl
  have begun := Onward.next (a := .move (.begin 0)) started trivial rfl
  have taken := Onward.next (a := .move (.take 0)) begun trivial rfl
  have noted := Onward.next (a := .move (.tell 0)) taken trivial rfl
  have given := Onward.next (a := .move (.answer 0 .token (.ok "token"))) noted trivial rfl
  have disconnected := Onward.next (a := .call .disconnect) given trivial rfl
  have checked := Onward.next (a := .move (.tell 0)) disconnected trivial rfl
  have settled := Onward.next (a := .move (.tell 0)) checked trivial rfl
  have idle := Onward.next (a := .move (.finish 0)) settled trivial rfl
  rcases hfate _ _ idle 0 _ rfl with hwaiting | ⟨i, rest, hheld, -⟩ | ⟨event, hfinals, -⟩
  · cases hwaiting
  · have hheld : (if i = 0 then none else if i = 0 then some 0 else none) = some 0 := hheld
    grind
  · have hnone : [] = [event] := hfinals
    cases hnone

end MailSync
