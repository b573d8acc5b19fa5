import MailSync.Proofs.Engine.Run

/-!
# One worker at a time

A worker waits for the one before it, so the workers take charge in the
order in which they were started (`Succession`), and at most one of them is
in charge (`Succession.single`). The chain is handed on by `current`. It
breaks in one place: after `halt` there is no current worker, and a new one
then waits for nobody. So runs are `Orderly` if nothing is started between a
`halt` and the end of the workers, and outside such runs two workers can
be in charge (`Succession.overlap_of_not_orderly`, `exists_overlap`).
-/

namespace MailSync

open Engine

variable {e e' : Engine}

/-- Whether a worker may be at a task or hold a session: it is past its wait and has not ended. -/
def Phase.inCharge : Phase → Bool
  | .waiting | .finished => false
  | .idle _ | .working _ _ | .leaving _ => true

theorem Phase.finished_ne_waiting : Phase.finished ≠ .waiting := nofun

theorem Worker.isFinished_iff {w : Worker} : w.isFinished = true ↔ w.phase = .finished := by
  obtain ⟨predecessor, cancelled, phase⟩ := w
  cases phase <;> simp [Worker.isFinished]

namespace Engine

/-- At most one worker is in charge. -/
def SingleConsumer (e : Engine) : Prop :=
  ∀ i j phase phase', e.phase? i = some phase → e.phase? j = some phase' →
    phase.inCharge = true → phase'.inCharge = true → i = j

/-- All workers before this one have finished. -/
def FinishedBefore (e : Engine) (id : WorkerId) : Prop :=
  ∀ j phase, j < id → e.phase? j = some phase → phase = .finished

/-- An action that starts no worker while one has been parted with and goes on. -/
def Orderly (e : Engine) (a : Action) : Prop :=
  ∀ reset, a = .call (.start reset) → e.current = none → e.FinishedBefore e.workers.length

theorem finishedBefore_succ_iff {id : WorkerId} : e.FinishedBefore (id + 1) ↔
    e.FinishedBefore id ∧ ∀ phase, e.phase? id = some phase → phase = .finished := by
  constructor
  · exact fun h => ⟨fun j phase hj => h j phase (Nat.lt_succ_of_lt hj),
      fun phase => h id phase (Nat.lt_succ_self id)⟩
  · rintro ⟨hbefore, hid⟩ j phase hj hphase
    rcases Nat.lt_or_eq_of_le (Nat.le_of_lt_succ hj) with hj | rfl
    · exact hbefore j phase hj hphase
    · exact hid phase hphase

/-- A worker that has finished, after finished ones. -/
theorem FinishedBefore.succ {id : WorkerId} (h : e.FinishedBefore id)
    (hid : e.phase? id = some .finished) : e.FinishedBefore (id + 1) :=
  finishedBefore_succ_iff.mpr ⟨h, fun _ hphase => Option.some.inj (hphase.symm.trans hid)⟩

/-- Of workers that have not all finished there is a first. -/
theorem exists_unfinished {n : WorkerId} (h : ¬ e.FinishedBefore n) :
    ∃ id < n, e.FinishedBefore id ∧ ∃ phase, e.phase? id = some phase ∧ phase ≠ .finished := by
  induction n with
  | zero => exact absurd (fun j _ hj => absurd hj (Nat.not_lt_zero j)) h
  | succ n ih =>
      by_cases hn : e.FinishedBefore n
      · have hlast := fun hall => h (finishedBefore_succ_iff.mpr ⟨hn, hall⟩)
        obtain ⟨phase, hphase⟩ := Classical.not_forall.mp hlast
        exact ⟨n, Nat.lt_succ_self n, hn, phase, Classical.not_imp.mp hphase⟩
      · obtain ⟨id, hid, hfirst⟩ := ih hn
        exact ⟨id, Nat.lt_succ_of_lt hid, hfirst⟩

/-- A worker that waits for one before it, or for nobody, may begin after finished ones. -/
theorem FinishedBefore.mayBegin {id : WorkerId} {w : Worker} (h : e.FinishedBefore id)
    (hpredecessor : ∀ j, w.predecessor = some j → j < id) : e.mayBegin w = true := by
  rw [Engine.mayBegin]
  cases hj : w.predecessor with
  | none => rfl
  | some j =>
      rw [Option.all_some]
      cases hw : e.workers[j]? with
      | none => rfl
      | some w' =>
          exact Worker.isFinished_iff.mpr (h j w'.phase (hpredecessor j hj) (phase?_of_worker hw))

theorem lt_length_of_phase? {id : WorkerId} {phase : Phase} (h : e.phase? id = some phase) :
    id < e.workers.length := by
  obtain ⟨w, hw, -⟩ := Option.map_eq_some_iff.mp h
  exact (List.getElem?_eq_some_iff.mp hw).1

end Engine

/-- A worker that is past its wait comes after finished ones only. One that waits does so for the
worker right before it, unless those before it have finished already. -/
structure Succession (e : Engine) : Prop where
  current : ∀ {id}, e.current = some id → id + 1 = e.workers.length
  begun : ∀ {id phase}, e.phase? id = some phase → phase ≠ .waiting → e.FinishedBefore id
  waits : ∀ {id w}, e.workers[id]? = some w → w.phase = .waiting →
    (∃ j, w.predecessor = some j ∧ j + 1 = id) ∨ (w.predecessor = none ∧ e.FinishedBefore id)

namespace Succession

theorem single (h : Succession e) : SingleConsumer e := by
  have hlt : ∀ {i j phase phase'}, i < j → e.phase? i = some phase → e.phase? j = some phase' →
      phase.inCharge = true → phase'.inCharge = true → False := by
    intro i j phase phase' hij hi hj hcharge hcharge'
    have hwaiting : phase' ≠ .waiting := by
      rintro rfl
      cases hcharge'
    rw [h.begun hj hwaiting i phase hij hi] at hcharge
    cases hcharge
  intro i j phase phase' hi hj hcharge hcharge'
  rcases Nat.lt_trichotomy i j with hij | hij | hij
  · exact (hlt hij hi hj hcharge hcharge').elim
  · exact hij
  · exact (hlt hij hj hi hcharge' hcharge).elim

/-- A worker that waits does so for one before it. -/
theorem predecessor_lt (h : Succession e) {id : WorkerId} {w : Worker}
    (hw : e.workers[id]? = some w) (hwaiting : w.phase = .waiting) :
    ∀ j, w.predecessor = some j → j < id := by
  intro j hj
  rcases h.waits hw hwaiting with ⟨j', hj', rfl⟩ | ⟨hnone, -⟩
  · obtain rfl := Option.some.inj (hj.symm.trans hj')
    exact Nat.lt_succ_self j
  · cases hj.symm.trans hnone

/-- A worker that waits may begin exactly when all before it have finished. -/
theorem mayBegin_iff (h : Succession e) {id : WorkerId} {w : Worker} (hw : e.workers[id]? = some w)
    (hwaiting : w.phase = .waiting) : e.mayBegin w = true ↔ e.FinishedBefore id := by
  refine ⟨fun hmay => ?_, fun hbefore => hbefore.mayBegin (h.predecessor_lt hw hwaiting)⟩
  rcases h.waits hw hwaiting with ⟨j, hpredecessor, rfl⟩ | ⟨-, hbefore⟩
  · have hlt : j < e.workers.length := Nat.lt_of_succ_lt (List.getElem?_eq_some_iff.mp hw).1
    rw [mayBegin, hpredecessor, Option.all_some, List.getElem?_eq_getElem hlt, Option.all_some,
      Worker.isFinished_iff] at hmay
    have hphase : e.phase? j = some .finished := by
      rw [phase?_of_worker (List.getElem?_eq_getElem hlt), hmay]
    exact (h.begun hphase Phase.finished_ne_waiting).succ hphase
  · exact hbefore

theorem fresh (p : Profile) : Succession (.fresh p) := ⟨nofun, nofun, nofun⟩

/-! ## Calls -/

theorem finishedBefore_called (hcalled : Called e e') {id : WorkerId}
    (hlength : id ≤ e.workers.length) (h : e.FinishedBefore id) : e'.FinishedBefore id := by
  intro j phase hj hphase
  have hlt : j < e.workers.length := Nat.lt_of_lt_of_le hj hlength
  have hw := List.getElem?_eq_getElem hlt
  have hold : e.phase? j = some e.workers[j].phase := phase?_of_worker hw
  have hnew : e'.phase? j = some .finished ↔ e.phase? j = some .finished :=
    hcalled.phase?_eq_some_iff Phase.finished_ne_waiting
  rw [h j _ hj hold] at hold
  rw [hnew.mpr hold] at hphase
  exact (Option.some.inj hphase).symm

/-- What holds of the workers there are is kept by every call. -/
theorem kept (h : Succession e) (hcalled : Called e e') {id : WorkerId} {w : Worker}
    (hw : e'.workers[id]? = some w) (hid : id < e.workers.length) :
    (w.phase ≠ .waiting → e'.FinishedBefore id) ∧
      (w.phase = .waiting → (∃ j, w.predecessor = some j ∧ j + 1 = id) ∨
        (w.predecessor = none ∧ e'.FinishedBefore id)) := by
  obtain ⟨w', hw', hkept⟩ := hcalled.old (List.getElem?_eq_getElem hid)
  obtain rfl := Option.some.inj (hw.symm.trans hw')
  rw [hkept.predecessor, hkept.phase]
  refine ⟨fun hne => ?_, fun heq => ?_⟩
  · have hold := h.begun (phase?_of_worker (List.getElem?_eq_getElem hid)) hne
    exact finishedBefore_called hcalled (Nat.le_of_lt hid) hold
  · exact (h.waits (List.getElem?_eq_getElem hid) heq).imp_right
      (And.imp_right (finishedBefore_called hcalled (Nat.le_of_lt hid)))

/-- A call that starts no worker. -/
theorem called (h : Succession e) (hcalled : Called e e')
    (hlength : e'.workers.length = e.workers.length)
    (hcurrent : ∀ id, e'.current = some id → e.current = some id) : Succession e' where
  current hid := hlength ▸ h.current (hcurrent _ hid)
  begun {id phase} hphase hne := by
    obtain ⟨w, hw, rfl⟩ := Option.map_eq_some_iff.mp hphase
    exact (h.kept hcalled hw (hlength ▸ lt_length_of_phase? hphase)).1 hne
  waits {id w} hw heq :=
    (h.kept hcalled hw (hlength ▸ (List.getElem?_eq_some_iff.mp hw).1)).2 heq

/-- A new worker waits for the current one, which is the last; where there is none, all have to
have finished. -/
theorem launch (h : Succession e) (hparted : e.current = none → e.FinishedBefore e.workers.length) :
    Succession e.launch := by
  have hlength : e.launch.workers.length = e.workers.length + 1 := List.length_append
  have hcalled := e.launch_called
  -- The new worker is the only one that was not there before.
  have hcases : ∀ {id}, id < e.launch.workers.length →
      id < e.workers.length ∨ id = e.workers.length := fun hid => by omega
  refine ⟨fun {id} hid => ?_, fun {id phase} hphase hne => ?_, fun {id w} hw heq => ?_⟩
  · cases hid
    exact hlength.symm
  · obtain ⟨w, hw, rfl⟩ := Option.map_eq_some_iff.mp hphase
    rcases hcases (lt_length_of_phase? hphase) with hid | rfl
    · exact (h.kept hcalled hw hid).1 hne
    · exact absurd (hcalled.new (List.getElem?_eq_none (Nat.le_refl _)) hw) hne
  · rcases hcases (List.getElem?_eq_some_iff.mp hw).1 with hid | rfl
    · exact (h.kept hcalled hw hid).2 heq
    · have hlast : w = ⟨e.current.filter fun id => e.workers[id]?.any fun w => !w.isFinished, false,
          .waiting⟩ := by
        rw [Engine.launch, List.getElem?_concat_length] at hw
        exact (Option.some.inj hw).symm
      rw [hlast]
      cases hcurrent : e.current with
      | none =>
          exact .inr ⟨rfl, finishedBefore_called hcalled (Nat.le_refl _) (hparted hcurrent)⟩
      | some id =>
          have hid : id + 1 = e.workers.length := h.current hcurrent
          have hlt : id < e.workers.length := Nat.lt_of_succ_le (Nat.le_of_eq hid)
          have hw₀ := List.getElem?_eq_getElem hlt
          cases hfinished : e.workers[id].isFinished with
          | false =>
              refine .inl ⟨id, ?_, hid⟩
              simp [Option.filter, hw₀, hfinished]
          | true =>
              have hphase : e.phase? id = some .finished := by
                rw [phase?_of_worker hw₀, Worker.isFinished_iff.mp hfinished]
              have hbefore := (h.begun hphase Phase.finished_ne_waiting).succ hphase
              refine .inr ⟨?_, finishedBefore_called hcalled (Nat.le_refl _) (hid ▸ hbefore)⟩
              simp [Option.filter, hw₀, hfinished]

theorem call (h : Succession e) {c : Call} (horderly : Orderly e (.call c)) :
    Succession (e.obey c) := by
  have hstarted : ∀ {e : Engine}, Succession e →
      (e.current = none → e.FinishedBefore e.workers.length) →
        Succession (if e.isRunning then e else e.launch) := fun h hparted => by
    split
    · exact h
    · exact h.launch hparted
  have hstopped : ∀ {e : Engine}, Succession e → Succession e.disconnect := fun {e} h =>
    h.called e.disconnect_called (disconnect_length e) fun _ hid =>
      (disconnect_current e).symm.trans hid
  have hdropped : Succession e.cancelAll.2 :=
    h.called (.of_workers rfl rfl rfl rfl) rfl fun _ => id
  cases c with
  | enqueue _ | look _ => exact h.called (.of_workers rfl rfl rfl rfl) rfl fun _ => id
  | cancelAll => exact hdropped
  | disconnect => exact hstopped h
  | halt =>
      have hobey := hstopped hdropped
      exact ⟨nofun, hobey.begun, hobey.waits⟩
  | start reset =>
      have hparted := horderly reset rfl
      cases reset with
      | false => exact hstarted h hparted
      | true =>
          refine hstarted (hstopped hdropped) fun hcurrent => ?_
          have hcurrent : e.current = none := (disconnect_current e.cancelAll.2).symm.trans hcurrent
          show FinishedBefore _ e.cancelAll.2.disconnect.workers.length
          rw [disconnect_length]
          exact finishedBefore_called e.cancelAll.2.disconnect_called (Nat.le_refl _)
            (hparted hcurrent)

/-! ## Moves -/

section Moves

variable {w : Worker} {m : Move} {phase : Phase} {board : Board} {queue : List Task}

theorem phases_of_moved (hmoved : Moved e w m phase board queue) :
    w.phase ≠ .finished ∧ phase ≠ .waiting ∧ (w.phase = .waiting → e.mayBegin w = true) := by
  cases hmoved with
  | begins id hphase hmay => exact ⟨hphase ▸ nofun, nofun, fun _ => hmay⟩
  | takes id hphase _ _ | leaves id hphase _ | works hphase _ | closes hphase _
  | finishes id hphase | ends id hphase =>
      exact ⟨hphase ▸ nofun, nofun, fun heq => nomatch hphase.symm.trans heq⟩

/-- A worker moves only while it has not finished, so the finished ones stay so. -/
theorem finishedBefore_moved (hw : e.workers[m.worker]? = some w)
    (hmoved : Moved e w m phase board queue) {id : WorkerId} (h : e.FinishedBefore id) :
    (e.put m.worker { w with phase } board queue).FinishedBefore id := by
  intro j phase' hj hphase
  rw [phase?_put hw] at hphase
  split at hphase
  next heq =>
    subst heq
    have hfinished := h m.worker w.phase hj (phase?_of_worker hw)
    exact absurd hfinished (phases_of_moved hmoved).1
  next => exact h j phase' hj hphase

theorem move (h : Succession e) (hw : e.workers[m.worker]? = some w)
    (hmoved : Moved e w m phase board queue) :
    Succession (e.put m.worker { w with phase } board queue) := by
  obtain ⟨hnot, hbegun, hmay⟩ := phases_of_moved hmoved
  have hphase? : e.phase? m.worker = some w.phase := phase?_of_worker hw
  refine ⟨fun hid => ?_, fun {id phase'} hphase hne => ?_, fun {id w'} hw' heq => ?_⟩
  · rw [put, List.length_set]
    exact h.current hid
  · refine finishedBefore_moved hw hmoved ?_
    rw [phase?_put hw] at hphase
    split at hphase
    next hid =>
      subst hid
      by_cases hwaiting : w.phase = .waiting
      · exact (h.mayBegin_iff hw hwaiting).mp (hmay hwaiting)
      · exact h.begun hphase? hwaiting
    next => exact h.begun hphase hne
  · rw [put, List.getElem?_set] at hw'
    split at hw'
    next hid =>
      split at hw'
      · cases hw'
        exact absurd heq hbegun
      · cases hw'
    next => exact (h.waits hw' heq).imp_right (And.imp_right (finishedBefore_moved hw hmoved))

end Moves

end Succession

/-! ## Runs -/

variable {p : Profile} {l : Ledger}

theorem Run.succession (h : Run p Orderly e l) : Succession e := by
  induction h with
  | here => exact .fresh p
  | @next e e' l a _ hmay hact ih =>
      cases a with
      | call c =>
          cases hact
          exact ih.call hmay
      | move m =>
          obtain ⟨w, phase, board, queue, hw, hmoved, rfl⟩ := step_eq_some hact
          exact ih.move hw hmoved

/-- An action other than `halt`. -/
def Engine.Unhalted (_ : Engine) (a : Action) : Prop := a ≠ .call .halt

theorem Engine.workers_of_obey {c : Call} (h : e.current = none → e.workers = [])
    (hc : c ≠ .halt) (hcurrent : (e.obey c).current = none) : (e.obey c).workers = [] := by
  have hstopped : ∀ {e : Engine}, (e.current = none → e.workers = []) →
      e.disconnect.current = none → e.disconnect.workers = [] := fun {e} h hcurrent => by
    rw [disconnect_current] at hcurrent
    rw [disconnect, hcurrent]
    exact h hcurrent
  have hstarted : ∀ {e : Engine}, (e.current = none → e.workers = []) →
      (if e.isRunning then e else e.launch).current = none →
        (if e.isRunning then e else e.launch).workers = [] := fun h hcurrent => by
    split at hcurrent
    next hrunning =>
      rw [if_pos hrunning]
      exact h hcurrent
    next => cases hcurrent
  cases c with
  | halt => exact absurd rfl hc
  | enqueue _ | cancelAll | look _ => exact h hcurrent
  | disconnect => exact hstopped h hcurrent
  | start reset =>
      cases reset with
      | false => exact hstarted h hcurrent
      | true => exact hstarted (hstopped (e := e.cancelAll.2) h) hcurrent

/-- Without `halt` there is a current worker as soon as there are workers. -/
theorem Run.workers_of_current (h : Run p Unhalted e l) (hcurrent : e.current = none) :
    e.workers = [] := by
  induction h with
  | here => rfl
  | @next e e' l a _ hmay hact ih =>
      cases a with
      | call c =>
          cases hact
          exact workers_of_obey ih (fun hc => hmay (hc ▸ rfl)) hcurrent
      | move m =>
          obtain ⟨w, phase, board, queue, hw, hmoved, rfl⟩ := step_eq_some hact
          rw [ih hcurrent] at hw
          cases hw

/-- A run without `halt` is orderly. -/
theorem Run.orderly (h : Run p Unhalted e l) : Run p Orderly e l := by
  induction h with
  | here => exact .here
  | @next e e' l a run hmay hact ih =>
      refine .next ih (fun reset _ hcurrent => ?_) hact
      rw [Run.workers_of_current run hcurrent]
      nofun

/-! ## Two workers in charge -/

namespace Engine

theorem step_begin {id : WorkerId} {w : Worker} (hw : e.workers[id]? = some w)
    (hwaiting : w.phase = .waiting) (hmay : e.mayBegin w = true) :
    e.step (.begin id) = some (e.put id { w with phase := .idle .closed } e.board e.queue) := by
  rw [step, Move.worker, hw]
  simp only [Option.bind_eq_bind, Option.bind_some, stepWorker, hwaiting, hmay, if_true]
  rfl

/-- Where there is no current worker, the one that is started waits for nobody. -/
theorem start_parted (hcurrent : e.current = none) (reset : Bool) :
    (e.start reset).workers = e.workers ++ [⟨none, false, .waiting⟩] := by
  cases reset <;>
    simp [start, cancelAll, disconnect, isRunning, currentWorker?, launch, hcurrent]

/-- A worker that waits for nobody begins beside one that is in charge. -/
theorem overlap_of_begin {id j : WorkerId} {phase : Phase} {w : Worker}
    (hw : e.workers[id]? = some w) (hwaiting : w.phase = .waiting) (hpredecessor : w.predecessor = none)
    (hj : e.phase? j = some phase) (hcharge : phase.inCharge = true) :
    ∃ e', e.step (.begin id) = some e' ∧ ¬ e'.SingleConsumer := by
  have hmay : e.mayBegin w = true := by rw [mayBegin, hpredecessor]; rfl
  refine ⟨_, step_begin hw hwaiting hmay, fun hsingle => ?_⟩
  have hne : j ≠ id := by
    rintro rfl
    rw [phase?_of_worker hw, hwaiting] at hj
    cases hj
    cases hcharge
  refine hne (hsingle j id phase (.idle .closed) ?_ ?_ hcharge rfl)
  · rw [phase?_put hw, if_neg hne]
    exact hj
  · rw [phase?_put hw, if_pos rfl]

end Engine

/-- A start that is not orderly can end with two workers in charge: the one that was parted with,
and the new one. -/
theorem Succession.overlap_of_not_orderly (h : Succession e) {a : Action} (ha : ¬ Orderly e a)
    (hact : e.act a = some e') :
    ∃ (moves : List Move) (e'' : Engine), moves.foldlM step e' = some e'' ∧
      ¬ SingleConsumer e'' := by
  simp only [Orderly, Classical.not_forall] at ha
  obtain ⟨reset, rfl, hcurrent, hunfinished⟩ := ha
  cases hact
  obtain ⟨id, hid, hbefore, phase, hphase, hne⟩ := exists_unfinished hunfinished
  obtain ⟨w, hw, rfl⟩ := Option.map_eq_some_iff.mp hphase
  have hworkers := start_parted hcurrent reset
  have hnew : (e.start reset).workers[e.workers.length]? = some ⟨none, false, .waiting⟩ := by
    rw [hworkers, List.getElem?_concat_length]
  have hold : (e.start reset).workers[id]? = some w := by
    rw [hworkers, List.getElem?_append_left hid, hw]
  by_cases hwaiting : w.phase = .waiting
  · -- The first of those that go on still waits, but for finished ones only.
    have hbegin := step_begin hold hwaiting
      ((finishedBefore_called (e.start_called reset) (Nat.le_of_lt hid) hbefore).mayBegin
        (h.predecessor_lt hw hwaiting))
    generalize he₁ : (e.start reset).put id { w with phase := .idle .closed } (e.start reset).board
      (e.start reset).queue = e₁ at hbegin
    have hnew₁ : e₁.workers[e.workers.length]? = some ⟨none, false, .waiting⟩ := by
      rw [← he₁, put, List.getElem?_set_ne (Nat.ne_of_lt hid), hnew]
    have hbegun : e₁.phase? id = some (.idle .closed) := by rw [← he₁, phase?_put hold, if_pos rfl]
    obtain ⟨e'', hstep, hoverlap⟩ := overlap_of_begin hnew₁ rfl rfl hbegun rfl
    refine ⟨[.begin id, .begin e.workers.length], e'', ?_, hoverlap⟩
    simp [obey, hbegin, hstep]
  · have hphase : (e.start reset).phase? id = some w.phase := phase?_of_worker hold
    have hcharge : w.phase.inCharge = true := by
      generalize w.phase = phase at hne hwaiting
      cases phase with
      | waiting => exact absurd rfl hwaiting
      | finished => exact absurd rfl hne
      | idle _ | working _ _ | leaving _ => rfl
    obtain ⟨e'', hstep, hoverlap⟩ := overlap_of_begin hnew rfl rfl hphase hcharge
    refine ⟨[.begin e.workers.length], e'', ?_, hoverlap⟩
    simp [obey, hstep]

/-- There are such runs. -/
theorem exists_overlap (p : Profile) : ∃ e l, Run p (fun _ _ => True) e l ∧ ¬ SingleConsumer e := by
  have started : Run p Orderly _ _ := .next (a := .call (.start false)) .here
    (fun _ _ _ => nofun) rfl
  have begun : Run p Orderly _ _ := .next (a := .move (.begin 0)) started nofun rfl
  have parted : Run p Orderly _ _ := .next (a := .call .halt) begun nofun rfl
  obtain ⟨moves, e, hmoves, hoverlap⟩ := parted.succession.overlap_of_not_orderly
    (a := .call (.start false)) (fun h => nomatch h false rfl rfl 0 _ Nat.zero_lt_one rfl) rfl
  obtain ⟨l, hrun⟩ := Onward.of_moves hmoves
  have restarted := Onward.next (a := .call (.start false)) (parted.mono fun _ _ _ => trivial)
    trivial rfl
  exact ⟨e, l, restarted.trans hrun, hoverlap⟩

end MailSync
