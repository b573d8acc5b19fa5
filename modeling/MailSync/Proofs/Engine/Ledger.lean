import MailSync.Proofs.Engine.Run

/-!
# What the ledger of a run says

In every run the ledger is faithful to the engine (`Run.faithful`), in three
respects: the numbers that wait are the tasks in the queue, and no number is
in two places (`Numbered`); the exchanges about a number are a conversation
of `Worker.process`, held to its end or by the one worker that is at it
(`Conversing`); and the events received are those of the exchanges
(`Reporting`). Each respect is kept by every call and by every move.
-/

namespace MailSync

open Dialogue Engine

variable {e e' : Engine} {l : Ledger}

/-! ## Numbers -/

/-- Every number that arrived waits, was taken or was dropped, and only one of these; the
numbers that wait are those of the queue, in order, and come after all that were taken. -/
structure Numbered (e : Engine) (l : Ledger) : Prop where
  queue : e.queue.map some = l.waiting.map (l.arrived[·]?)
  ascending : (l.taken ++ l.waiting).Pairwise (· < ·)
  every : ∀ n, n < l.arrived.length ↔ n ∈ l.taken ++ l.waiting ∨ n ∈ l.dropped
  disjoint : ∀ n ∈ l.dropped, n ∉ l.taken ++ l.waiting

namespace Numbered

theorem fresh (p : Profile) : Numbered (.fresh p) .blank :=
  ⟨rfl, .nil, by simp [Ledger.blank], nofun⟩

theorem enqueue (h : Numbered e l) (t : Task) :
    Numbered (e.enqueue t) (l.recordCall (.enqueue t)) where
  queue := by
    have hold : l.waiting.map (l.arrived[·]?) = l.waiting.map ((l.arrived ++ [t])[·]?) :=
      List.map_congr_left fun n hn =>
        (List.getElem?_append_left ((h.every n).mpr (.inl (List.mem_append_right _ hn)))).symm
    show (e.queue ++ [t]).map some = (l.waiting ++ [l.arrived.length]).map ((l.arrived ++ [t])[·]?)
    rw [List.map_append, List.map_append, h.queue, hold]
    simp
  ascending := by
    show (l.taken ++ (l.waiting ++ [l.arrived.length])).Pairwise (· < ·)
    rw [← List.append_assoc, List.pairwise_append]
    refine ⟨h.ascending, List.pairwise_singleton .., fun n hn m hm => ?_⟩
    rw [List.mem_singleton.mp hm]
    exact (h.every n).mpr (.inl hn)
  every n := by
    show n < (l.arrived ++ [t]).length ↔ n ∈ l.taken ++ (l.waiting ++ [l.arrived.length]) ∨ _
    rw [List.length_append, List.length_singleton, Nat.lt_succ_iff, Nat.le_iff_lt_or_eq, h.every,
      ← List.append_assoc, List.mem_append (s := l.taken ++ l.waiting), List.mem_singleton]
    exact or_right_comm
  disjoint n hn := by
    show n ∉ l.taken ++ (l.waiting ++ [l.arrived.length])
    rw [← List.append_assoc, List.mem_append, List.mem_singleton, not_or]
    exact ⟨h.disjoint n hn, Nat.ne_of_lt ((h.every n).mpr (.inr hn))⟩

/-- Dropping what waits. -/
theorem drop (h : Numbered e l) (hqueue : e'.queue = []) :
    Numbered e' { l with waiting := [], dropped := l.dropped ++ l.waiting } where
  queue := by rw [hqueue]; rfl
  ascending := by
    rw [List.append_nil]
    exact (List.pairwise_append.mp h.ascending).1
  every n := by
    rw [h.every, List.append_nil, List.mem_append, List.mem_append, or_assoc, or_comm (a := n ∈ l.waiting)]
  disjoint n hn := by
    rw [List.append_nil]
    rcases List.mem_append.mp hn with hn | hn
    · exact fun htaken => h.disjoint n hn (List.mem_append_left _ htaken)
    · exact fun htaken =>
        Nat.lt_irrefl n ((List.pairwise_append.mp h.ascending).2.2 n htaken n hn)

theorem same_queue (h : Numbered e l) (hqueue : e'.queue = e.queue) : Numbered e' l :=
  ⟨hqueue ▸ h.queue, h.ascending, h.every, h.disjoint⟩

theorem call (h : Numbered e l) (c : Call) : Numbered (e.obey c) (l.recordCall c) := by
  cases c with
  | enqueue t => exact h.enqueue t
  | cancelAll => exact h.drop rfl
  | start reset =>
      cases reset with
      | false => exact h.same_queue (start_queue e false)
      | true => exact h.drop (start_queue e true)
  | disconnect => exact h.same_queue (disconnect_queue e)
  | halt => exact h.drop (disconnect_queue e.cancelAll.2)
  | look _ => exact h.same_queue rfl

/-- The number of the first task in the queue is the first that waits. -/
theorem head {t : Task} {queue : List Task} (h : Numbered e l) (hqueue : e.queue = t :: queue) :
    ∃ n rest, l.waiting = n :: rest ∧ l.arrived[n]? = some t ∧
      queue.map some = rest.map (l.arrived[·]?) := by
  have hmap := h.queue
  rw [hqueue] at hmap
  cases hwaiting : l.waiting with
  | nil =>
      rw [hwaiting] at hmap
      cases hmap
  | cons n rest =>
      rw [hwaiting, List.map_cons, List.map_cons, List.cons.injEq] at hmap
      exact ⟨n, rest, rfl, hmap.1.symm, hmap.2⟩

theorem take {id : WorkerId} {n : Nat} {waiting : List Nat} {queue : List Task}
    (h : Numbered e l) (hwaiting : l.waiting = n :: waiting)
    (hqueue : queue.map some = waiting.map (l.arrived[·]?)) (he : e'.queue = queue) :
    Numbered e' { l.give id n with waiting } := by
  have hplaces : l.taken ++ [n] ++ waiting = l.taken ++ l.waiting := by
    rw [List.append_assoc, List.singleton_append, hwaiting]
  refine ⟨he ▸ hqueue, ?_, fun m => ?_, fun m hm => ?_⟩
  · show (l.taken ++ [n] ++ waiting).Pairwise (· < ·)
    rw [hplaces]
    exact h.ascending
  · show m < l.arrived.length ↔ m ∈ l.taken ++ [n] ++ waiting ∨ m ∈ l.dropped
    rw [hplaces]
    exact h.every m
  · show m ∉ l.taken ++ [n] ++ waiting
    rw [hplaces]
    exact h.disjoint m hm

end Numbered

/-! ## Conversations -/

namespace Ledger

theorem exchanges_append (l : Ledger) (n k : Nat) (x : Exchange Request Request.Reply) :
    exchanges { l with log := l.log ++ [(n, x)] } k =
      l.exchanges k ++ if n = k then [x] else [] := by
  rw [exchanges, List.filterMap_append, exchanges]
  congr 1
  by_cases h : n = k
  · simp [h]
  · simp [h]

theorem exchanges_congr {l' : Ledger} (h : l'.log = l.log) (n : Nat) :
    l'.exchanges n = l.exchanges n := by
  rw [exchanges, h, exchanges]

theorem stream_congr {l' : Ledger} (h : l'.log = l.log) : l'.stream = l.stream := by
  rw [stream, h, stream]

theorem exchanges_eq_nil {n : Nat} (h : ∀ x ∈ l.log, x.1 ≠ n) : l.exchanges n = [] :=
  List.filterMap_eq_nil_iff.mpr fun x hx => if_neg (h x hx)

theorem hold_none {id : WorkerId} (h : l.held id = none) : l.hold id none = l := by
  obtain ⟨arrived, waiting, dropped, taken, taker, held, log⟩ := l
  rw [hold, Ledger.mk.injEq]
  refine ⟨rfl, rfl, rfl, rfl, rfl, funext fun i => ?_, rfl⟩
  split
  next heq => exact heq ▸ h.symm
  next => rfl

theorem held_hold_none_iff {id i : WorkerId} {n : Nat} :
    (l.hold id none).held i = some n ↔ i ≠ id ∧ l.held i = some n := by
  show (if i = id then none else l.held i) = some n ↔ _
  split
  next heq => exact iff_of_false nofun fun h => h.1 heq
  next hne => exact (and_iff_right hne).symm

theorem held_give_iff {id i : WorkerId} {n k : Nat} :
    (l.give id n).held i = some k ↔ (i = id ∧ k = n) ∨ (i ≠ id ∧ l.held i = some k) := by
  show (if i = id then some n else l.held i) = some k ↔ _
  split
  next heq => simp [heq, eq_comm]
  next hne => simp [hne]

theorem taker_give_iff {id i : WorkerId} {n k : Nat} :
    (l.give id n).taker k = some i ↔ (k = n ∧ i = id) ∨ (k ≠ n ∧ l.taker k = some i) := by
  show (if k = n then some id else l.taker k) = some i ↔ _
  split
  next heq => simp [heq, eq_comm]
  next hne => simp [hne]

/-- What a worker does that is at no task is not written down, but for its taking one. -/
theorem recordMove_of_idle {m : Move} (h : l.held m.worker = none) (hm : ∀ id, m ≠ .take id) :
    l.recordMove e m = l := by
  cases m with
  | take id => exact absurd rfl (hm id)
  | finish id => exact hold_none h
  | begin id | leave id | tell id | answer id _ _ =>
      have h : l.held id = none := h
      simp only [recordMove, Move.worker, h]

theorem recordMove_of_working {w : Worker} {m : Move} {x : Exchange Request Request.Reply}
    {board : Board} {n : Nat} (hheld : l.held m.worker = some n) (hx : e.exchange? m = some x)
    (hreplies : Replies e w m x board) : l.recordMove e m = { l with log := l.log ++ [(n, x)] } := by
  cases hreplies with
  | tell id call | answer id call reply =>
      simp only [recordMove, hheld, hx]

/-- A call changes nothing of what was taken and by whom, of who is at it and of what was said. -/
theorem recordCall_kept (l : Ledger) (c : Call) : (l.recordCall c).taken = l.taken ∧
    (l.recordCall c).taker = l.taker ∧ (l.recordCall c).held = l.held ∧
      (l.recordCall c).log = l.log := by
  cases c with
  | enqueue _ | cancelAll | halt | disconnect | look _ => exact ⟨rfl, rfl, rfl, rfl⟩
  | start reset => cases reset <;> exact ⟨rfl, rfl, rfl, rfl⟩

/-- By a move no task arrives and none is dropped. -/
theorem recordMove_kept (l : Ledger) (e : Engine) (m : Move) :
    (l.recordMove e m).arrived = l.arrived ∧ (l.recordMove e m).dropped = l.dropped := by
  cases m with
  | finish _ => exact ⟨rfl, rfl⟩
  | take _ | begin _ | leave _ | tell _ | answer _ _ _ =>
      simp only [recordMove]
      split <;> exact ⟨rfl, rfl⟩

/-- Only replies are written to the log. -/
theorem log_recordMove {m : Move} (h : e.exchange? m = none) : (l.recordMove e m).log = l.log := by
  cases m with
  | finish id => rfl
  | take id =>
      rw [recordMove]
      split <;> rfl
  | begin id | leave id | tell id | answer id _ _ =>
      simp only [recordMove, h]
      generalize l.held _ = o
      cases o <;> rfl

theorem recordMove_of_take {id : WorkerId} {n : Nat} {waiting : List Nat}
    (h : l.waiting = n :: waiting) :
    l.recordMove e (.take id) = { l.give id n with waiting } := by
  rw [recordMove, h]

end Ledger

/-- The exchanges about a number that was taken are a conversation about its task: the worker
that holds the number is in the middle of it, and if none does it came to its end. -/
structure Conversing (e : Engine) (l : Ledger) : Prop where
  working : ∀ {i t rest}, e.phase? i = some (.working t rest) →
    ∃ n c, l.held i = some n ∧ l.arrived[n]? = some t ∧
      Leads (Worker.process e.profile t c) (l.exchanges n) rest
  held : ∀ {i n}, l.held i = some n → n ∈ l.taken ∧ ∃ t rest, e.phase? i = some (.working t rest)
  injective : ∀ {i j n}, l.held i = some n → l.held j = some n → i = j
  settled : ∀ n ∈ l.taken, (∃ i, l.held i = some n) ∨
    ∃ t c c', l.arrived[n]? = some t ∧ Holds (Worker.process e.profile t c) (l.exchanges n) c'
  logged : ∀ x ∈ l.log, x.1 ∈ l.taken

namespace Conversing

theorem fresh (p : Profile) : Conversing (.fresh p) .blank :=
  ⟨nofun, nofun, nofun, nofun, fun _ hx => absurd hx List.not_mem_nil⟩

/-- Nothing changes for the conversations while the working workers stay where they are. -/
theorem congr (h : Conversing e l) (hprofile : e'.profile = e.profile)
    (hphase : ∀ i t rest, e'.phase? i = some (.working t rest) ↔ e.phase? i = some (.working t rest)) :
    Conversing e' l where
  working hw := hprofile ▸ h.working ((hphase ..).mp hw)
  held hn := by
    obtain ⟨htaken, t, rest, hw⟩ := h.held hn
    exact ⟨htaken, t, rest, (hphase ..).mpr hw⟩
  injective := h.injective
  settled := hprofile ▸ h.settled
  logged := h.logged

theorem held_eq_none (h : Conversing e l) {i : WorkerId}
    (hphase : ∀ t rest, e.phase? i ≠ some (.working t rest)) : l.held i = none := by
  cases hn : l.held i with
  | none => rfl
  | some n =>
      obtain ⟨-, t, rest, hw⟩ := h.held hn
      exact absurd hw (hphase t rest)

end Conversing

/-- What is written down of a move: nothing if the worker is at no task, else one exchange; and
which task a worker takes or is done with. -/
inductive Recorded (e : Engine) (l : Ledger) (w : Worker) :
    Move → Phase → Board → List Task → Ledger → Prop where
  | passes {m : Move} {phase : Phase} {board : Board} (hbefore : ∀ t rest, w.phase ≠ .working t rest)
    (hafter : ∀ t rest, phase ≠ .working t rest) : Recorded e l w m phase board e.queue l
  | takes (id : WorkerId) {c : Connection} {t : Task} {queue : List Task} {n : Nat}
    {waiting : List Nat} (hphase : w.phase = .idle c) (hwaiting : l.waiting = n :: waiting)
    (harrived : l.arrived[n]? = some t) (hqueue : queue.map some = waiting.map (l.arrived[·]?)) :
    Recorded e l w (.take id) (.working t (Worker.process e.profile t c)) e.board queue
      { l.give id n with waiting }
  | works {m : Move} {x : Exchange Request Request.Reply} {board : Board} {t : Task}
    {next : x.question.Reply → Work Connection} {n : Nat}
    (hphase : w.phase = .working t (.ask x.question next)) (hheld : l.held m.worker = some n)
    (hreplies : Replies e w m x board) :
    Recorded e l w m (.working t (next x.reply)) board e.queue { l with log := l.log ++ [(n, x)] }
  | finishes (id : WorkerId) {t : Task} {c : Connection} (hphase : w.phase = .working t (.done c)) :
    Recorded e l w (.finish id) (.idle c) e.board e.queue (l.hold id none)

namespace Conversing

theorem recorded (h : Conversing e l) (hnumbered : Numbered e l) {w : Worker} {m : Move}
    {phase : Phase} {board : Board} {queue : List Task} (hw : e.workers[m.worker]? = some w)
    (hmoved : Moved e w m phase board queue) :
    Recorded e l w m phase board queue (l.recordMove e m) := by
  have hpasses : (∀ t rest, w.phase ≠ .working t rest) → (∀ t rest, phase ≠ .working t rest) →
      (∀ id, m ≠ .take id) → queue = e.queue →
        Recorded e l w m phase board queue (l.recordMove e m) := by
    rintro hbefore hafter hm rfl
    have hheld : l.held m.worker = none := h.held_eq_none fun t rest hphase => by
      rw [phase?_of_worker hw] at hphase
      exact hbefore t rest (Option.some.inj hphase)
    rw [Ledger.recordMove_of_idle hheld hm]
    exact .passes hbefore hafter
  cases hmoved with
  | begins id hphase _ | leaves id hphase _ | ends id hphase =>
      exact hpasses (hphase ▸ nofun) nofun nofun rfl
  | closes hphase hreplies =>
      exact hpasses (hphase ▸ nofun) nofun hreplies.ne_take rfl
  | takes id hphase _ hqueue =>
      obtain ⟨n, rest, hwaiting, harrived, hrest⟩ := hnumbered.head hqueue
      rw [Ledger.recordMove_of_take hwaiting]
      exact .takes id hphase hwaiting harrived hrest
  | works hphase hreplies =>
      obtain ⟨n, c, hheld, -, -⟩ := h.working (i := m.worker) (by
        rw [phase?_of_worker hw, hphase])
      have hx := exchange?_of_replies hw (by rw [Worker.rest?, hphase]) hreplies
      rw [Ledger.recordMove_of_working hheld hx hreplies]
      exact .works hphase hheld hreplies
  | finishes id hphase => exact .finishes id hphase

/-- A task that arrives has a number of its own. -/
theorem arrive (h : Conversing e l) (t : Task) (waiting dropped : List Nat) :
    Conversing e { l with arrived := l.arrived ++ [t], waiting, dropped } where
  working hw := by
    obtain ⟨n, c, hheld, harrived, hleads⟩ := h.working hw
    refine ⟨n, c, hheld, ?_, hleads⟩
    rw [List.getElem?_append_left (List.getElem?_eq_some_iff.mp harrived).1, harrived]
  held := h.held
  injective := h.injective
  settled n hn := (h.settled n hn).imp_right fun ⟨t', c, c', harrived, hholds⟩ => by
    refine ⟨t', c, c', ?_, hholds⟩
    rw [List.getElem?_append_left (List.getElem?_eq_some_iff.mp harrived).1, harrived]
  logged := h.logged

theorem call (h : Conversing e l) (c : Call) : Conversing (e.obey c) (l.recordCall c) := by
  have hobey : Conversing (e.obey c) l :=
    h.congr (e.obey_called c).profile fun i t rest => (e.obey_called c).phase?_eq_some_iff nofun
  cases c with
  | enqueue t => exact hobey.arrive t _ _
  | cancelAll | halt => exact ⟨hobey.working, hobey.held, hobey.injective, hobey.settled, hobey.logged⟩
  | start reset =>
      cases reset with
      | false => exact hobey
      | true => exact ⟨hobey.working, hobey.held, hobey.injective, hobey.settled, hobey.logged⟩
  | disconnect | look _ => exact hobey

section Moves

variable {w : Worker} {id : WorkerId} {board : Board} {queue : List Task}

/-- A worker that is at no task before and after a move has no part in a conversation. -/
theorem pass (h : Conversing e l) (hw : e.workers[id]? = some w) {phase : Phase}
    (hbefore : ∀ t rest, w.phase ≠ .working t rest) (hafter : ∀ t rest, phase ≠ .working t rest) :
    Conversing (e.put id { w with phase } board queue) l := by
  refine h.congr rfl fun i t rest => ?_
  rw [phase?_put hw]
  split
  next heq =>
    subst heq
    refine iff_of_false (fun heq => hafter t rest (Option.some.inj heq)) fun heq => ?_
    rw [phase?_of_worker hw] at heq
    exact hbefore t rest (Option.some.inj heq)
  next => exact .rfl

theorem exchanges_eq_nil (h : Conversing e l) {n : Nat} (hn : n ∉ l.taken) : l.exchanges n = [] :=
  Ledger.exchanges_eq_nil fun x hx heq => hn (heq ▸ h.logged x hx)

/-- The first number that waits was never taken, so nothing was said about its task. -/
theorem silent (h : Conversing e l) (hnumbered : Numbered e l) {n : Nat} {waiting : List Nat}
    (hwaiting : l.waiting = n :: waiting) : n ∉ l.taken ∧ l.exchanges n = [] := by
  have hnew : n ∉ l.taken := fun htaken => by
    have hlt := (List.pairwise_append.mp hnumbered.ascending).2.2 n htaken n
      (hwaiting ▸ List.mem_cons_self)
    exact Nat.lt_irrefl n hlt
  exact ⟨hnew, h.exchanges_eq_nil hnew⟩

/-- A worker takes a number; its conversation starts. -/
theorem take (h : Conversing e l) (hnumbered : Numbered e l) (hw : e.workers[id]? = some w)
    {c : Connection} (hphase : w.phase = .idle c) {n : Nat} {waiting : List Nat} {t : Task}
    (hwaiting : l.waiting = n :: waiting) (harrived : l.arrived[n]? = some t) :
    Conversing
      (e.put id { w with phase := .working t (Worker.process e.profile t c) } board queue)
      { l.give id n with waiting } := by
  obtain ⟨hnew, hsilent⟩ := h.silent hnumbered hwaiting
  have hidle : l.held id = none := h.held_eq_none fun t rest => by
    rw [phase?_of_worker hw, hphase]
    nofun
  refine ⟨fun {i t' rest} hworking => ?_, fun {i m} hm => ?_, fun {i j m} hi hj => ?_,
    fun m hm => ?_, fun x hx => List.mem_append_left _ (h.logged x hx)⟩
  · rw [phase?_put hw] at hworking
    split at hworking
    next heq =>
      cases hworking
      exact ⟨n, c, if_pos heq, harrived, hsilent ▸ .here _⟩
    next hne =>
      obtain ⟨m, c', hheld, harrived', hleads⟩ := h.working hworking
      exact ⟨m, c', (if_neg hne).trans hheld, harrived', hleads⟩
  · rw [phase?_put hw]
    rcases Ledger.held_give_iff.mp hm with ⟨hi, rfl⟩ | ⟨hi, hm⟩
    · exact ⟨List.mem_append_right _ (List.mem_singleton_self m), t, _, if_pos hi⟩
    · obtain ⟨htaken, t', rest, hworking⟩ := h.held hm
      exact ⟨List.mem_append_left _ htaken, t', rest, (if_neg hi).trans hworking⟩
  · have hunheld : ∀ i, l.held i ≠ some n := fun i hi => hnew (h.held hi).1
    rcases Ledger.held_give_iff.mp hi with ⟨hid, rfl⟩ | ⟨-, hi'⟩ <;>
      rcases Ledger.held_give_iff.mp hj with ⟨hjd, heq⟩ | ⟨-, hj'⟩
    · exact hid.trans hjd.symm
    · exact absurd hj' (hunheld j)
    · exact absurd (heq ▸ hi') (hunheld i)
    · exact h.injective hi' hj'
  · rcases List.mem_append.mp hm with hm | hm
    · refine (h.settled m hm).imp_left fun ⟨i, hi⟩ => ⟨i, (if_neg ?_).trans hi⟩
      rintro rfl
      rw [hidle] at hi
      cases hi
    · obtain rfl := List.mem_singleton.mp hm
      exact .inl ⟨id, if_pos rfl⟩

/-- One more exchange, in the conversation of the number that the worker holds and no other. -/
theorem work (h : Conversing e l) (hw : e.workers[id]? = some w) {t : Task}
    {x : Exchange Request Request.Reply} {next : x.question.Reply → Work Connection}
    (hphase : w.phase = .working t (.ask x.question next)) {n : Nat} (hheld : l.held id = some n) :
    Conversing (e.put id { w with phase := .working t (next x.reply) } board queue)
      { l with log := l.log ++ [(n, x)] } := by
  have hphase? : e.phase? id = some (.working t (.ask x.question next)) := by
    rw [phase?_of_worker hw, hphase]
  have hother : ∀ k, k ≠ n → ({ l with log := l.log ++ [(n, x)] } : Ledger).exchanges k =
      l.exchanges k := fun k hk => by
    rw [Ledger.exchanges_append, if_neg (Ne.symm hk), List.append_nil]
  refine ⟨fun {i t' rest} hworking => ?_, fun {i m} hm => ?_, h.injective, fun m hm => ?_,
    fun y hy => ?_⟩
  · rw [phase?_put hw] at hworking
    split at hworking
    next heq =>
      cases hworking
      obtain ⟨m, c, hm, harrived, hleads⟩ := h.working hphase?
      obtain rfl := Option.some.inj (hheld.symm.trans hm)
      refine ⟨n, c, heq ▸ hheld, harrived, ?_⟩
      rw [Ledger.exchanges_append, if_pos rfl]
      exact hleads.snoc x.reply
    next hne =>
      obtain ⟨m, c, hm, harrived, hleads⟩ := h.working hworking
      refine ⟨m, c, hm, harrived, ?_⟩
      rw [hother m fun heq => hne (h.injective hm (heq ▸ hheld))]
      exact hleads
  · obtain ⟨htaken, t', rest, hworking⟩ := h.held hm
    rw [phase?_put hw]
    by_cases hi : i = id
    · exact ⟨htaken, t, _, if_pos hi⟩
    · exact ⟨htaken, t', rest, (if_neg hi).trans hworking⟩
  · by_cases hmn : m = n
    · exact .inl ⟨id, hmn ▸ hheld⟩
    · rw [hother m hmn]
      exact h.settled m hm
  · rcases List.mem_append.mp hy with hy | hy
    · exact h.logged y hy
    · obtain rfl := List.mem_singleton.mp hy
      exact (h.held hheld).1

/-- The conversation of a number that is done with came to its end. -/
theorem finish (h : Conversing e l) (hw : e.workers[id]? = some w) {t : Task} {c : Connection}
    (hphase : w.phase = .working t (.done c)) :
    Conversing (e.put id { w with phase := .idle c } board queue) (l.hold id none) := by
  have hphase? : e.phase? id = some (.working t (.done c)) := by
    rw [phase?_of_worker hw, hphase]
  refine ⟨fun {i t' rest} hworking => ?_, fun {i m} hm => ?_, fun {i j m} hi hj => ?_,
    fun m hm => ?_, h.logged⟩
  · rw [phase?_put hw] at hworking
    split at hworking
    · cases hworking
    next hne =>
      obtain ⟨m, c', hm, harrived, hleads⟩ := h.working hworking
      exact ⟨m, c', Ledger.held_hold_none_iff.mpr ⟨hne, hm⟩, harrived, hleads⟩
  · obtain ⟨hne, hm⟩ := Ledger.held_hold_none_iff.mp hm
    rw [phase?_put hw, if_neg hne]
    exact h.held hm
  · exact h.injective (Ledger.held_hold_none_iff.mp hi).2 (Ledger.held_hold_none_iff.mp hj).2
  · rcases h.settled m hm with ⟨i, hi⟩ | hdone
    · by_cases heq : i = id
      · subst heq
        obtain ⟨n, c', hn, harrived, hleads⟩ := h.working hphase?
        obtain rfl := Option.some.inj (hi.symm.trans hn)
        exact .inr ⟨t, c', c, harrived, hleads.holds⟩
      · exact .inl ⟨i, Ledger.held_hold_none_iff.mpr ⟨heq, hi⟩⟩
    · exact .inr hdone

/-- Every move keeps the conversations. -/
theorem move (h : Conversing e l) (hnumbered : Numbered e l) {m : Move}
    (hw : e.workers[m.worker]? = some w) {phase : Phase} {l' : Ledger}
    (hrecorded : Recorded e l w m phase board queue l') :
    Conversing (e.put m.worker { w with phase } board queue) l' := by
  cases hrecorded with
  | passes hbefore hafter => exact h.pass hw hbefore hafter
  | takes id hphase hwaiting harrived _ => exact h.take hnumbered hw hphase hwaiting harrived
  | works hphase hheld _ => exact h.work hw hphase hheld
  | finishes id hphase => exact h.finish hw hphase

end Moves

/-- The conversation of a number that was taken can be brought to its end. -/
theorem completes (h : Conversing e l) {n : Nat} (hn : n ∈ l.taken) :
    ∃ t c later c', l.arrived[n]? = some t ∧
      Holds (Worker.process e.profile t c) (l.exchanges n ++ later) c' := by
  rcases h.settled n hn with ⟨i, hi⟩ | ⟨t, c, c', harrived, hholds⟩
  · obtain ⟨-, t, rest, hworking⟩ := h.held hi
    obtain ⟨m, c, hm, harrived, hleads⟩ := h.working hworking
    obtain rfl := Option.some.inj (hi.symm.trans hm)
    obtain ⟨later, c', hlater⟩ := Work.exists_holds rest
    exact ⟨t, c, later, c', harrived, hleads.append hlater⟩
  · exact ⟨t, c, [], c', harrived, by rwa [List.append_nil]⟩

end Conversing

/-! ## Events -/

/-- A question of a worker that leaves. -/
def Request.IsParting : Request → Prop
  | .outside (.session _ .logout) | .inside (.release _) | .inside (.publish _) => True
  | _ => False

theorem Request.IsParting.event?_eq_none {x : Exchange Request Request.Reply}
    (h : x.question.IsParting) : WorkLog.event? x = none := by
  unfold WorkLog.event?
  split
  · exact h.elim
  · rfl

theorem Connection.disconnect_asks (c : Connection) : c.disconnect.Asks Request.IsParting := by
  obtain ⟨session⟩ := c
  cases session with
  | none => exact ⟨trivial, fun _ => trivial⟩
  | some id => exact ⟨trivial, fun _ => ⟨trivial, fun _ => ⟨trivial, fun _ => trivial⟩⟩⟩

/-- The events with a number are those that were reported about its task. -/
theorem Ledger.stream_filter (l : Ledger) (n : Nat) :
    (l.stream.filter (·.1 = n)).map (·.2) = WorkLog.events (l.exchanges n) := by
  rw [Ledger.stream, Ledger.exchanges, WorkLog.events]
  induction l.log with
  | nil => rfl
  | cons x log ih =>
      obtain ⟨k, x⟩ := x
      by_cases hk : k = n
      · cases hx : WorkLog.event? x <;> simp [hk, hx, ih]
      · cases hx : WorkLog.event? x <;> simp [hk, hx, ih]

theorem Ledger.stream_append (l : Ledger) (n : Nat) (x : Exchange Request Request.Reply) :
    ({ l with log := l.log ++ [(n, x)] } : Ledger).stream =
      l.stream ++ ((WorkLog.event? x).map (n, ·)).toList := by
  rw [Ledger.stream, List.filterMap_append, Ledger.stream]
  rfl

/-- An event of the longer log is an old one, or what the last exchange reports. -/
theorem Ledger.of_getElem?_stream_append {l : Ledger} {n k i : Nat}
    {x : Exchange Request Request.Reply} {event : Event}
    (h : ({ l with log := l.log ++ [(n, x)] } : Ledger).stream[i]? = some (k, event)) :
    l.stream[i]? = some (k, event) ∨
      (i = l.stream.length ∧ k = n ∧ WorkLog.event? x = some event) := by
  rw [Ledger.stream_append] at h
  by_cases hi : i < l.stream.length
  · rw [List.getElem?_append_left hi] at h
    exact .inl h
  · rw [List.getElem?_append_right (Nat.not_lt.mp hi)] at h
    cases hx : WorkLog.event? x with
    | none =>
        rw [hx] at h
        cases h
    | some event' =>
        rw [hx, Option.map_some, Option.toList_some, List.getElem?_singleton] at h
        split at h
        · cases h
          exact .inr ⟨by omega, rfl, rfl⟩
        · cases h

/-- What was received is what was reported about tasks: a worker that leaves says no more. -/
structure Reporting (e : Engine) (l : Ledger) : Prop where
  attended : e.board.attended = true
  events : e.board.events = l.stream.map (·.2)
  leaving : ∀ {i rest}, e.phase? i = some (.leaving rest) → rest.Asks Request.IsParting

namespace Reporting

theorem fresh (p : Profile) : Reporting (.fresh p) .blank := ⟨rfl, rfl, nofun⟩

theorem call (h : Reporting e l) (c : Call) : Reporting (e.obey c) (l.recordCall c) := by
  have hcalled := e.obey_called c
  have hstream := Ledger.stream_congr (l.recordCall_kept c).2.2.2
  refine ⟨hcalled.attended.trans h.attended, hcalled.events.trans (hstream ▸ h.events),
    fun hi => h.leaving ((hcalled.phase?_eq_some_iff ?_).mp hi)⟩
  nofun

/-- A reply adds to the board what its exchange reports. -/
theorem replies {w : Worker} {m : Move} {x : Exchange Request Request.Reply} {board : Board}
    (hattended : e.board.attended = true) (h : Replies e w m x board) :
    board.attended = true ∧ board.events = e.board.events ++ (WorkLog.event? x).toList := by
  cases h with
  | answer id call reply => exact ⟨hattended, (List.append_nil _).symm⟩
  | tell id call =>
      cases call with
      | emit event =>
          rw [Board.answer, if_pos hattended]
          exact ⟨hattended, rfl⟩
      | publish _ | release _ | isCancelled | isForeground =>
          exact ⟨hattended, (List.append_nil _).symm⟩

/-- Nothing is reported by a move that is no reply. -/
theorem pass {w : Worker} {id : WorkerId} {queue : List Task} {l' : Ledger} (h : Reporting e l)
    (hlog : l'.log = l.log) (hw : e.workers[id]? = some w) {phase : Phase}
    (hleaving : ∀ rest, phase = .leaving rest → rest.Asks Request.IsParting) :
    Reporting (e.put id { w with phase } e.board queue) l' where
  attended := h.attended
  events := by
    rw [Ledger.stream_congr hlog]
    exact h.events
  leaving {i rest} hi := by
    rw [phase?_put hw] at hi
    split at hi
    · exact hleaving rest (Option.some.inj hi)
    · exact h.leaving hi

theorem move (h : Reporting e l) (hconversing : Conversing e l) {w : Worker} {board : Board}
    {queue : List Task} {m : Move} (hw : e.workers[m.worker]? = some w) {phase : Phase}
    (hmoved : Moved e w m phase board queue) :
    Reporting (e.put m.worker { w with phase } board queue) (l.recordMove e m) := by
  have hphase? : e.phase? m.worker = some w.phase := phase?_of_worker hw
  cases hmoved with
  | begins id _ _ =>
      refine h.pass (Ledger.log_recordMove rfl) hw fun rest hrest => ?_
      cases hrest
  | takes id _ _ _ =>
      refine h.pass (Ledger.log_recordMove rfl) hw fun rest hrest => ?_
      cases hrest
  | leaves id _ _ =>
      refine h.pass (Ledger.log_recordMove rfl) hw fun rest hrest => ?_
      cases hrest
      exact Connection.disconnect_asks _
  | works hphase hreplies =>
      obtain ⟨n, c, hheld, -, -⟩ := hconversing.working (hphase ▸ hphase?)
      have hx := exchange?_of_replies hw (by rw [Worker.rest?, hphase]) hreplies
      obtain ⟨hattended, hevents⟩ := replies h.attended hreplies
      rw [Ledger.recordMove_of_working hheld hx hreplies]
      refine ⟨hattended, ?_, fun {i rest} hi => ?_⟩
      · rw [Ledger.stream_append, List.map_append, ← h.events, Option.toList_map, List.map_map]
        exact hevents.trans (congrArg _ (List.map_id _).symm)
      · rw [phase?_put hw] at hi
        split at hi
        · cases hi
        · exact h.leaving hi
  | closes hphase hreplies =>
      have hparting := h.leaving (hphase ▸ hphase?)
      have hheld : l.held m.worker = none := hconversing.held_eq_none fun t rest hworking => by
        rw [hphase?, hphase] at hworking
        cases hworking
      obtain ⟨hattended, hevents⟩ := replies h.attended hreplies
      rw [hparting.1.event?_eq_none, Option.toList_none, List.append_nil] at hevents
      rw [Ledger.recordMove_of_idle hheld hreplies.ne_take]
      refine ⟨hattended, hevents.trans h.events, fun {i rest} hi => ?_⟩
      rw [phase?_put hw] at hi
      split at hi
      · cases hi
        exact hparting.2 _
      · exact h.leaving hi
  | finishes id _ =>
      refine h.pass (Ledger.log_recordMove rfl) hw fun rest hrest => ?_
      cases hrest
  | ends id _ =>
      refine h.pass (Ledger.log_recordMove rfl) hw fun rest hrest => ?_
      cases hrest

end Reporting

/-! ## Runs -/

/-- The ledger is faithful to the engine. -/
structure Faithful (p : Profile) (e : Engine) (l : Ledger) : Prop where
  profile : e.profile = p
  numbered : Numbered e l
  conversing : Conversing e l
  reporting : Reporting e l

/-- Where a number stands changes only when a worker takes a task. -/
theorem Numbered.move (h : Numbered e l) {w : Worker} {m : Move} {phase : Phase} {board : Board}
    {queue : List Task} {l' : Ledger} (hrecorded : Recorded e l w m phase board queue l') :
    Numbered (e.put m.worker { w with phase } board queue) l' := by
  cases hrecorded with
  | passes _ _ => exact h.same_queue rfl
  | takes id _ hwaiting _ hqueue => exact h.take hwaiting hqueue rfl
  | works _ _ _ | finishes id _ => exact ⟨h.queue, h.ascending, h.every, h.disjoint⟩

theorem Run.faithful {p : Profile} {may : Engine → Action → Prop} (h : Run p may e l) :
    Faithful p e l := by
  induction h with
  | here => exact ⟨rfl, .fresh p, .fresh p, .fresh p⟩
  | @next e e' l a _ _ hact ih =>
      obtain ⟨hprofile, hnumbered, hconversing, hreporting⟩ := ih
      cases a with
      | call c =>
          cases hact
          exact ⟨(e.obey_called c).profile.trans hprofile, hnumbered.call c, hconversing.call c,
            hreporting.call c⟩
      | move m =>
          obtain ⟨w, phase, board, queue, hw, hmoved, rfl⟩ := step_eq_some hact
          have hrecorded := hconversing.recorded hnumbered hw hmoved
          exact ⟨hprofile, hnumbered.move hrecorded, hconversing.move hnumbered hw hrecorded,
            hreporting.move hconversing hw hmoved⟩

/-- What holds at the start, and is kept by every call and by every move with what is written down
of it, holds in every run. -/
theorem Run.keeps {p : Profile} {may : Engine → Action → Prop} (Inv : Engine → Ledger → Prop)
    (h : Run p may e l) (start : Inv (.fresh p) .blank)
    (call : ∀ {e l} (c : Call), Inv e l → Inv (e.obey c) (l.recordCall c))
    (move : ∀ {e l w m phase board queue l'}, Run p may e l → Inv e l →
      e.workers[m.worker]? = some w → Moved e w m phase board queue →
        Recorded e l w m phase board queue l' → Inv (e.put m.worker { w with phase } board queue) l') :
    Inv e l := by
  induction h with
  | here => exact start
  | @next e e' l a run _ hact ih =>
      cases a with
      | call c =>
          cases hact
          exact call c ih
      | move m =>
          obtain ⟨w, phase, board, queue, hw, hmoved, rfl⟩ := step_eq_some hact
          have hfaithful := Run.faithful run
          exact move run ih hw hmoved (hfaithful.conversing.recorded hfaithful.numbered hw hmoved)

/-- What an action adds to the log: nothing, or one exchange of a worker that is at its task. -/
inductive Logged (e : Engine) (l : Ledger) : Action → Ledger → Prop where
  | quiet {a : Action} {l' : Ledger} (hlog : l'.log = l.log) : Logged e l a l'
  | adds {m : Move} {w : Worker} {x : Exchange Request Request.Reply} {board : Board} {t : Task}
    {next : x.question.Reply → Work Connection} {n : Nat}
    (hphase : e.phase? m.worker = some (.working t (.ask x.question next)))
    (hheld : l.held m.worker = some n) (hreplies : Replies e w m x board) :
    Logged e l (.move m) { l with log := l.log ++ [(n, x)] }

theorem Faithful.logged {p : Profile} (h : Faithful p e l) {a : Action} (hact : e.act a = some e') :
    Logged e l a (l.record e a) := by
  cases a with
  | call c => exact .quiet (l.recordCall_kept c).2.2.2
  | move m =>
      obtain ⟨w, phase, board, queue, hw, hmoved, -⟩ := step_eq_some hact
      have hrecorded := h.conversing.recorded h.numbered hw hmoved
      rw [Ledger.record]
      generalize l.recordMove e m = l' at hrecorded ⊢
      cases hrecorded with
      | passes _ _ | takes _ _ _ _ _ | finishes _ _ => exact .quiet rfl
      | works hphase hheld hreplies =>
          have hphase? := (phase?_of_worker hw).trans (congrArg some hphase)
          exact .adds hphase? hheld hreplies

end MailSync
