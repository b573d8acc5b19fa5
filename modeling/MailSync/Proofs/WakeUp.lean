import MailSync.Proofs.Queue

/-!
# No wake-up is lost

A consumer that is polled goes on until it returns or waits, and nothing
comes in between. Then whoever sleeps sleeps for a reason: while there is
somebody asleep, every item that was announced has a woken consumer that
is still to look (`WaitingQueue.Covered`). Wake-ups may be kept, spent on
nothing after the items were dropped, overtaken by others, or passed on by
a consumer that is given up; each operation keeps this count.

So once everybody who was woken has looked, the queue is empty or nobody
waits (`Crowd.Reached.nobody_overlooked`). If polls are interrupted, one
wake-up that is kept can stand for two items, and this fails
(`Crowd.Runs.exists_overlooked`).
-/

namespace MailSync

namespace WaitingQueue

variable {κ α : Type} {q q' : WaitingQueue κ α} {n : Nat}

/-- While anybody sleeps, all items but `n` have a woken consumer each. -/
def Covered (q : WaitingQueue κ α) (n : Nat) : Prop :=
  q.asleep ≠ [] → q.items.length ≤ q.woken.length + n

namespace Covered

theorem mono {n' : Nat} (h : q.Covered n) (hle : n ≤ n') : q.Covered n' := fun hasleep =>
  Nat.le_trans (h hasleep) (Nat.add_le_add_left hle _)

theorem of_items_eq_nil (h : q.items = []) : q.Covered n := fun _ => by
  rw [h]
  exact Nat.zero_le _

/-- An item more is one that nobody was woken for. -/
theorem put (h : q.Covered n) (x : α) : { q with items := q.items ++ [x] }.Covered (n + 1) := by
  intro hasleep
  show (q.items ++ [x]).length ≤ q.woken.length + (n + 1)
  rw [List.length_append, List.length_singleton]
  exact Nat.succ_le_succ (h hasleep)

/-- Waking somebody makes up for one item. -/
theorem wakeOne (h : q.Covered (n + 1)) : q.wakeOne.Covered n := by
  obtain ⟨items, permit, asleep, woken⟩ := q
  cases asleep with
  | nil => exact fun hasleep => absurd rfl hasleep
  | cons c rest =>
      intro _
      have hcount : items.length ≤ woken.length + (n + 1) := h (List.cons_ne_nil c rest)
      show items.length ≤ (woken ++ [c]).length + n
      rw [List.length_append, List.length_singleton]
      omega

theorem tryDequeue (h : q.Covered n) : q.tryDequeue.2.Covered n := by
  obtain ⟨items, permit, asleep, woken⟩ := q
  cases items with
  | nil => exact h
  | cons x rest => exact fun hasleep => Nat.le_of_succ_le (h hasleep)

/-- A look makes up for one item: it takes one, or there is none. -/
theorem look (h : q.Covered (n + 1)) (c : κ) : (q.look c).2.Covered n := by
  obtain ⟨items, permit, asleep, woken⟩ := q
  cases items with
  | nil => exact of_items_eq_nil rfl
  | cons x rest => exact fun hasleep => Nat.le_of_succ_le_succ (h hasleep)

variable [DecidableEq κ] {c : κ}

/-- Whoever was woken and looks no more leaves one item to others. -/
theorem erase (h : q.Covered n) (hwoken : c ∈ q.woken) :
    { q with woken := q.woken.erase c }.Covered (n + 1) := by
  intro hasleep
  have hcount := h hasleep
  have hlength := List.length_erase_add_one hwoken
  show q.items.length ≤ (q.woken.erase c).length + (n + 1)
  omega

theorem resume (h : q.Covered n) (hwoken : c ∈ q.woken) : (q.resume c).2.Covered n :=
  (h.erase hwoken).look c

theorem abandon (h : q.Covered n) (c : κ) : (q.abandon c).Covered n := by
  rw [WaitingQueue.abandon]
  split
  next hwoken => exact (h.erase hwoken).wakeOne
  next => exact fun hasleep => h fun hnil => hasleep (by rw [hnil]; rfl)

end Covered

end WaitingQueue

namespace Crowd

variable {κ α : Type} [DecidableEq κ] {s s' : Crowd κ α}

/-- One access to a queue, where a consumer that is polled is not interrupted. Putting an item and
waking somebody for it are still two. -/
inductive Advance (s : Crowd κ α) : Crowd κ α → Prop where
  | put (x : α) : Advance s
      { s with queue := { s.queue with items := s.queue.items ++ [x] }, owed := s.owed + 1 }
  | announce {owed : Nat} (howed : s.owed = owed + 1) :
    Advance s { s with queue := s.queue.wakeOne, owed }
  | takes {x : α} {queue : WaitingQueue κ α} (hfound : s.queue.tryDequeue = (some x, queue)) :
    Advance s ({ s with queue }.note (.taken x))
  | takesNothing {queue : WaitingQueue κ α} (hfound : s.queue.tryDequeue = (none, queue)) :
    Advance s { s with queue }
  | clear : Advance s
      ({ s with queue := s.queue.clear.2 }.note (.cleared s.queue.clear.1 s.queue.items))
  | comes {c : κ} (hstage : s.stage c = .outside) : Advance s (s.go c .fresh s.queue)
  /-- A consumer is polled for the first time. -/
  | starts {c : κ} (hstage : s.stage c = .fresh) : Advance s (s.polled c (s.queue.look c))
  /-- A consumer is polled that was woken. -/
  | wakes {c : κ} (hwoken : c ∈ s.queue.woken) : Advance s (s.polled c (s.queue.resume c))
  /-- A consumer is polled that was not woken. -/
  | sleepsOn {c : κ} (hasleep : c ∈ s.queue.asleep) : Advance s s
  | leaves {c : κ} (hstage : s.stage c = .fresh) : Advance s (s.go c .aborted s.queue)
  | abandons {c : κ} (hwaits : c ∈ s.queue.waiting) :
    Advance s (s.go c .aborted (s.queue.abandon c))

/-- Whatever can be reached if polls are not interrupted. -/
inductive Reached : Crowd κ α → Prop where
  | start : Reached .empty
  | next {s s' : Crowd κ α} (h : Reached s) (hadvance : Advance s s') : Reached s'

/-- Every access without interruption is a run of smaller ones. -/
theorem Advance.runs {acts : List (Act κ α)} (h : Advance s s') (run : Runs acts s) :
    ∃ more, Runs (acts ++ more) s' := by
  cases h with
  | put x => exact ⟨_, run.next (.put x)⟩
  | announce howed => exact ⟨_, run.next (.announce howed)⟩
  | takes hfound => exact ⟨_, run.next (.takes hfound)⟩
  | takesNothing hfound => exact ⟨_, run.next (.takesNothing hfound)⟩
  | clear => exact ⟨_, run.next .clear⟩
  | comes hstage => exact ⟨_, run.next (.come hstage)⟩
  | @starts c hstage =>
      obtain ⟨more, hlooked⟩ := (run.next (.start hstage)).look (go_stage_self ..)
      rw [go_polled, List.append_assoc] at hlooked
      exact ⟨_, hlooked⟩
  | wakes hwoken => exact run.resume hwoken
  | sleepsOn _ => exact ⟨[], by rwa [List.append_nil]⟩
  | leaves hstage => exact ⟨_, run.next (.leaves hstage)⟩
  | abandons hwaits => exact ⟨_, run.next (.abandons hwaits)⟩

theorem Reached.runs (h : Reached s) : ∃ acts, Runs acts s := by
  induction h with
  | start => exact ⟨[], .start⟩
  | next _ hadvance ih =>
      obtain ⟨acts, run⟩ := ih
      obtain ⟨more, run⟩ := hadvance.runs run
      exact ⟨_, run⟩

/-- A whole operation of a producer. -/
theorem Reached.enqueue (h : Reached s) (x : α) : Reached { s with queue := s.queue.enqueue x } :=
  (h.next (.put x)).next (.announce rfl)

theorem polled_queue (s : Crowd κ α) (c : κ) (found : Option α × WaitingQueue κ α) :
    (s.polled c found).queue = found.2 ∧ (s.polled c found).owed = s.owed := by
  obtain ⟨_ | x, queue⟩ := found <;> exact ⟨rfl, rfl⟩

/-- While anybody sleeps, every item that was announced has a woken consumer. -/
theorem Advance.covered (h : Advance s s') (hcovered : s.queue.Covered s.owed) :
    s'.queue.Covered s'.owed := by
  cases h with
  | put x => exact hcovered.put x
  | announce howed => exact (howed ▸ hcovered).wakeOne
  | takes hfound | takesNothing hfound =>
      have htried := hcovered.tryDequeue
      rw [hfound] at htried
      exact htried
  | clear => exact .of_items_eq_nil rfl
  | comes _ | sleepsOn _ | leaves _ => exact hcovered
  | @starts c _ =>
      rw [(polled_queue ..).1, (polled_queue ..).2]
      exact (hcovered.mono (Nat.le_succ _)).look c
  | wakes hwoken =>
      rw [(polled_queue ..).1, (polled_queue ..).2]
      exact hcovered.resume hwoken
  | abandons _ => exact hcovered.abandon _

theorem Reached.covered (h : Reached s) : s.queue.Covered s.owed := by
  induction h with
  | start => exact .of_items_eq_nil rfl
  | next _ hadvance ih => exact hadvance.covered ih

/-- Between the operations of producers, once everybody who was woken has looked, there is nothing
to take or nobody waits for it. -/
theorem Reached.nobody_overlooked (h : Reached s) (howed : s.owed = 0) (hwoken : s.queue.woken = []) :
    s.queue.items = [] ∨ ∀ c, s.stage c ≠ .waiting := by
  have hcovered := h.covered
  obtain ⟨acts, run⟩ := h.runs
  by_cases hasleep : s.queue.asleep = []
  · refine .inr fun c hstage => ?_
    have hwaits := (run.placed.mem_iff c).mpr hstage
    rw [WaitingQueue.waiting, hasleep, hwoken] at hwaits
    exact List.not_mem_nil hwaits
  · have hcount := hcovered hasleep
    rw [howed, hwoken] at hcount
    exact .inl (List.length_eq_zero_iff.mp (Nat.le_zero.mp hcount))

/-- Three consumers sleep. The first is woken for an item and given up, so the second gets it; the
third is woken for the next item, which a newcomer takes, and then for one that is dropped. -/
theorem Reached.nobody_overlooked_overtaken : ∃ s : Crowd Nat String, Reached s ∧ s.owed = 0 ∧
    s.queue.woken = [] ∧ s.stage 0 = .aborted ∧ s.stage 1 = .returned "a" ∧ s.stage 2 = .waiting ∧
    s.stage 3 = .returned "b" ∧ (s.queue.items = [] ∨ ∀ c, s.stage c ≠ .waiting) := by
  have opened : Reached (.empty : Crowd Nat String) := .start
  have asleep₀ := (opened.next (.comes (c := 0) rfl)).next (.starts (c := 0) rfl)
  have asleep₁ := (asleep₀.next (.comes (c := 1) rfl)).next (.starts (c := 1) rfl)
  have asleep₂ := (asleep₁.next (.comes (c := 2) rfl)).next (.starts (c := 2) rfl)
  have aborted₀ := (asleep₂.enqueue "a").next (.abandons (c := 0) (by decide))
  have returned₁ := aborted₀.next (.wakes (c := 1) (by decide))
  have came₃ := (returned₁.enqueue "b").next (.comes (c := 3) rfl)
  have returned₃ := came₃.next (.starts (c := 3) rfl)
  have asleepAgain := returned₃.next (.wakes (c := 2) (by decide))
  have dropped := (asleepAgain.enqueue "c").next .clear
  have last := dropped.next (.wakes (c := 2) (by decide))
  exact ⟨_, last, rfl, rfl, rfl, rfl, rfl, rfl, last.nobody_overlooked rfl rfl⟩

/-- Two consumers find nothing, and before they wait two items are put. One wake-up is kept for
both, the first consumer uses it up and takes one item, and the second waits beside the other. -/
theorem Runs.exists_overlooked : ∃ (acts : List (Act Nat String)) (s : Crowd Nat String),
    Runs acts s ∧ s.owed = 0 ∧ s.queue.woken = [] ∧ s.queue.items = ["b"] ∧
      s.stage 0 = .returned "a" ∧ s.stage 1 = .waiting := by
  have opened : Runs ([] : List (Act Nat String)) .empty := .start
  have looking₀ := (opened.next (.come (c := 0) rfl)).next (.start (c := 0) rfl)
  have missed₀ := looking₀.next (.misses (c := 0) rfl rfl)
  have looking₁ := (missed₀.next (.come (c := 1) rfl)).next (.start (c := 1) rfl)
  have missed₁ := looking₁.next (.misses (c := 1) rfl rfl)
  have permitted := (missed₁.enqueue "a").enqueue "b"
  have again₀ := permitted.next (.looksAgain (c := 0) rfl rfl)
  have found₀ := again₀.next (.finds (c := 0) rfl rfl)
  have asleep₁ := found₀.next (.sleeps (c := 1) rfl rfl)
  exact ⟨_, _, asleep₁, rfl, rfl, rfl, rfl, rfl⟩

end Crowd

end MailSync
