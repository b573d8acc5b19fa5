import Mathlib.Data.List.Nodup
import Mathlib.Logic.Function.Basic
import MailSync.Queue

/-!
# What leaves a waiting queue

Producers and consumers of a waiting queue may be on threads of their own.
Only single accesses to the queue happen at once: between putting an item
and waking a consumer, and between a look that found nothing and falling
asleep, anything may come. `Crowd.Step` is one such access, or the end of
a consumer that is given up where it waits; `Crowd.Runs` is any order of
them. The operations of the queue are short runs (`Runs.enqueue`,
`Runs.look`, `Runs.resume`).

Items leave in the order in which they came, each by one way and to one
consumer at most (`Crowd.Runs.conserves`).
-/

namespace MailSync

namespace WaitingQueue

variable {κ α : Type} {q : WaitingQueue κ α}

/-- The consumers that wait, asleep or woken. -/
def waiting (q : WaitingQueue κ α) : List κ := q.asleep ++ q.woken

/-- Who is woken still waits. -/
theorem wakeOne_waiting (q : WaitingQueue κ α) : q.wakeOne.waiting.Perm q.waiting := by
  obtain ⟨items, permit, asleep, woken⟩ := q
  cases asleep with
  | nil => exact .refl _
  | cons c rest =>
      show (rest ++ (woken ++ [c])).Perm (c :: rest ++ woken)
      rw [← List.append_assoc]
      exact List.perm_append_singleton c (rest ++ woken)

/-- Looking for an item takes the first one, and leaves the consumers alone. -/
theorem of_tryDequeue {found : Option α} {q' : WaitingQueue κ α} (h : q.tryDequeue = (found, q')) :
    q.items = found.toList ++ q'.items ∧ q'.waiting = q.waiting := by
  obtain ⟨items, permit, asleep, woken⟩ := q
  cases items <;> cases h <;> exact ⟨rfl, rfl⟩

variable [DecidableEq κ]

theorem perm_waiting_erase {c : κ} (h : c ∈ q.woken) :
    (q.asleep ++ q.woken.erase c).Perm (q.waiting.erase c) := by
  have hwaiting : q.waiting.Perm (c :: (q.asleep ++ q.woken.erase c)) :=
    ((List.perm_cons_erase h).append_left q.asleep).trans List.perm_middle
  exact (hwaiting.symm.trans (List.perm_cons_erase (List.mem_append_right _ h))).cons_inv

/-- A consumer that is given up waits no more, and everybody else does. -/
theorem abandon_waiting (q : WaitingQueue κ α) (c : κ) :
    (q.abandon c).waiting.Perm (q.waiting.erase c) := by
  rw [abandon]
  split
  next hwoken => exact (wakeOne_waiting _).trans (perm_waiting_erase hwoken)
  next hnot =>
    show (q.asleep.erase c ++ q.woken).Perm ((q.asleep ++ q.woken).erase c)
    rw [List.erase_append]
    split
    · exact .refl _
    next hasleep => rw [List.erase_of_not_mem hasleep, List.erase_of_not_mem hnot]

end WaitingQueue

/-! ## Accesses to a queue -/

/-- How items left a queue. -/
inductive Removal (κ α : Type) where
  /-- A consumer that may have waited returned an item. -/
  | delivered (c : κ) (x : α)
  /-- An item was taken without waiting. -/
  | taken (x : α)
  /-- The items were dropped, and that many were reported. -/
  | cleared (count : Nat) (items : List α)

namespace Removal

variable {κ α : Type}

def items : Removal κ α → List α
  | delivered _ x | taken x => [x]
  | cleared _ items => items

/-- The item that a consumer received by a removal. -/
def received? [DecidableEq κ] (c : κ) : Removal κ α → Option α
  | delivered c' x => if c' = c then some x else none
  | taken _ | cleared _ _ => none

end Removal

/-- Where a consumer is in its one attempt at an item. -/
inductive Stage (α : Type) where
  | outside
  /-- Has come, and has not looked yet. -/
  | fresh
  /-- About to look. -/
  | looking
  /-- Found nothing, and is about to wait. -/
  | turning
  | waiting
  | returned (x : α)
  | aborted

def Stage.returned? {α : Type} : Stage α → Option α
  | returned x => some x
  | _ => none

/-- A queue with all who are at it. -/
structure Crowd (κ α : Type) where
  queue : WaitingQueue κ α
  /-- How many items were put for which nobody was woken yet. -/
  owed : Nat
  stage : κ → Stage α
  /-- What left the queue, in order. -/
  removed : List (Removal κ α)

namespace Crowd

variable {κ α : Type}

def empty : Crowd κ α := ⟨.empty, 0, fun _ => .outside, []⟩

/-- What somebody does at a queue. -/
inductive Act (κ α : Type) where
  | put (x : α)
  /-- Wakes a consumer for an item that was put. -/
  | announce
  | tryDequeue
  | clear
  | come (c : κ)
  | start (c : κ)
  | look (c : κ)
  | rest (c : κ)
  | wake (c : κ)
  | abandon (c : κ)

/-- The item that is put. -/
def Act.put? : Act κ α → Option α
  | .put x => some x
  | _ => none

variable [DecidableEq κ]

/-- A consumer gets to a stage and leaves the queue like that. -/
def go (s : Crowd κ α) (c : κ) (stage : Stage α) (queue : WaitingQueue κ α) : Crowd κ α :=
  { s with queue, stage := Function.update s.stage c stage }

@[simp] theorem go_stage_self (s : Crowd κ α) (c : κ) (stage : Stage α) (queue : WaitingQueue κ α) :
    (s.go c stage queue).stage c = stage :=
  Function.update_self ..

theorem go_stage_of_ne (s : Crowd κ α) {c c' : κ} (h : c' ≠ c) (stage : Stage α)
    (queue : WaitingQueue κ α) : (s.go c stage queue).stage c' = s.stage c' :=
  Function.update_of_ne h ..

theorem go_go (s : Crowd κ α) (c : κ) (stage stage' : Stage α) (queue queue' : WaitingQueue κ α) :
    (s.go c stage queue).go c stage' queue' = s.go c stage' queue' := by
  rw [go, go, Function.update_idem, go]

/-- Notes how something left the queue. -/
def note (s : Crowd κ α) (removal : Removal κ α) : Crowd κ α :=
  { s with removed := s.removed ++ [removal] }

/-- One access to a queue. A consumer can be given up before it has looked for the first time,
and while it waits, woken or not. -/
inductive Step (s : Crowd κ α) : Act κ α → Crowd κ α → Prop where
  | put (x : α) : Step s (.put x)
      { s with queue := { s.queue with items := s.queue.items ++ [x] }, owed := s.owed + 1 }
  | announce {owed : Nat} (howed : s.owed = owed + 1) :
    Step s .announce { s with queue := s.queue.wakeOne, owed }
  | takes {x : α} {queue : WaitingQueue κ α} (hfound : s.queue.tryDequeue = (some x, queue)) :
    Step s .tryDequeue ({ s with queue }.note (.taken x))
  | takesNothing {queue : WaitingQueue κ α} (hfound : s.queue.tryDequeue = (none, queue)) :
    Step s .tryDequeue { s with queue }
  | clear : Step s .clear
      ({ s with queue := s.queue.clear.2 }.note (.cleared s.queue.clear.1 s.queue.items))
  | come {c : κ} (hstage : s.stage c = .outside) : Step s (.come c) (s.go c .fresh s.queue)
  | start {c : κ} (hstage : s.stage c = .fresh) : Step s (.start c) (s.go c .looking s.queue)
  | finds {c : κ} {x : α} {queue : WaitingQueue κ α} (hstage : s.stage c = .looking)
      (hfound : s.queue.tryDequeue = (some x, queue)) :
    Step s (.look c) ((s.go c (.returned x) queue).note (.delivered c x))
  | misses {c : κ} {queue : WaitingQueue κ α} (hstage : s.stage c = .looking)
      (hfound : s.queue.tryDequeue = (none, queue)) : Step s (.look c) (s.go c .turning queue)
  /-- A wake-up that was kept is used up. -/
  | looksAgain {c : κ} (hstage : s.stage c = .turning) (hpermit : s.queue.permit = true) :
    Step s (.rest c) (s.go c .looking { s.queue with permit := false })
  | sleeps {c : κ} (hstage : s.stage c = .turning) (hpermit : s.queue.permit = false) :
    Step s (.rest c) (s.go c .waiting { s.queue with asleep := s.queue.asleep ++ [c] })
  | wakes {c : κ} (hwoken : c ∈ s.queue.woken) :
    Step s (.wake c) (s.go c .looking { s.queue with woken := s.queue.woken.erase c })
  | leaves {c : κ} (hstage : s.stage c = .fresh) : Step s (.abandon c) (s.go c .aborted s.queue)
  | abandons {c : κ} (hwaits : c ∈ s.queue.waiting) :
    Step s (.abandon c) (s.go c .aborted (s.queue.abandon c))

/-- Any number of accesses, in any order. -/
inductive Runs : List (Act κ α) → Crowd κ α → Prop where
  | start : Runs [] .empty
  | next {acts : List (Act κ α)} {a : Act κ α} {s s' : Crowd κ α} (run : Runs acts s)
    (hstep : Step s a s') : Runs (acts ++ [a]) s'

variable {acts : List (Act κ α)} {s s' : Crowd κ α} {c : κ}

/-! ## The operations of a queue as runs -/

theorem Runs.enqueue (h : Runs acts s) (x : α) :
    Runs (acts ++ [.put x, .announce]) { s with queue := s.queue.enqueue x } := by
  have put := h.next (.put x)
  rw [List.append_cons]
  exact put.next (.announce rfl)

/-- What becomes of a consumer that looks for an item, and waits if it finds none. -/
def polled (s : Crowd κ α) (c : κ) : Option α × WaitingQueue κ α → Crowd κ α
  | (some x, queue) => (s.go c (.returned x) queue).note (.delivered c x)
  | (none, queue) => s.go c .waiting queue

theorem go_polled (s : Crowd κ α) (c : κ) (stage : Stage α) (queue : WaitingQueue κ α)
    (found : Option α × WaitingQueue κ α) : (s.go c stage queue).polled c found = s.polled c found := by
  obtain ⟨_ | x, queue'⟩ := found
  · exact go_go ..
  · rw [polled, go_go, polled]

/-- A consumer that is not interrupted does what `WaitingQueue.look` says. -/
theorem Runs.look (h : Runs acts s) (hstage : s.stage c = .looking) :
    ∃ more, Runs (acts ++ more) (s.polled c (s.queue.look c)) := by
  obtain ⟨⟨items, permit, asleep, woken⟩, owed, stage, removed⟩ := s
  cases items with
  | cons x items => exact ⟨_, h.next (.finds hstage rfl)⟩
  | nil =>
      have missed := h.next (.misses hstage rfl)
      cases permit with
      | false =>
          have slept := missed.next (.sleeps (go_stage_self ..) rfl)
          rw [go_go, List.append_assoc] at slept
          exact ⟨_, slept⟩
      | true =>
          -- The wake-up that was kept makes it look a second time.
          have again := missed.next (.looksAgain (go_stage_self ..) rfl)
          have missedAgain := again.next (.misses (go_stage_self ..) rfl)
          have slept := missedAgain.next (.sleeps (go_stage_self ..) rfl)
          rw [go_go, go_go, go_go, List.append_assoc, List.append_assoc, List.append_assoc] at slept
          exact ⟨_, slept⟩

theorem Runs.resume (h : Runs acts s) (hwoken : c ∈ s.queue.woken) :
    ∃ more, Runs (acts ++ more) (s.polled c (s.queue.resume c)) := by
  obtain ⟨more, hrun⟩ := (h.next (.wakes hwoken)).look (go_stage_self ..)
  rw [go_polled, ← List.append_cons] at hrun
  exact ⟨_, hrun⟩

/-! ## Consumers -/

/-- A consumer waits exactly if the queue has it among those that wait, and once. -/
structure Placed (s : Crowd κ α) : Prop where
  nodup : s.queue.waiting.Nodup
  mem_iff : ∀ c, c ∈ s.queue.waiting ↔ s.stage c = .waiting

namespace Placed

variable {stage : Stage α} {queue : WaitingQueue κ α}

omit [DecidableEq κ] in
theorem of_perm (h : s.Placed) (hqueue : s'.queue.waiting.Perm s.queue.waiting)
    (hstage : s'.stage = s.stage) : s'.Placed :=
  ⟨hqueue.nodup_iff.mpr h.nodup, fun c => by rw [hqueue.mem_iff, h.mem_iff, hstage]⟩

/-- A consumer that waits no more. -/
theorem stops (h : s.Placed) (hqueue : queue.waiting.Perm (s.queue.waiting.erase c))
    (hstage : stage ≠ .waiting) : (s.go c stage queue).Placed := by
  refine ⟨hqueue.nodup_iff.mpr (h.nodup.erase c), fun c' => ?_⟩
  show c' ∈ queue.waiting ↔ _
  rw [hqueue.mem_iff, h.nodup.mem_erase_iff]
  by_cases heq : c' = c
  · subst heq
    rw [go_stage_self]
    exact iff_of_false (fun hmem => hmem.1 rfl) hstage
  · rw [go_stage_of_ne s heq, ← h.mem_iff]
    exact and_iff_right heq

/-- A consumer that goes on and did not wait. -/
theorem goes (h : s.Placed) (hqueue : queue.waiting = s.queue.waiting) (hbefore : s.stage c ≠ .waiting)
    (hstage : stage ≠ .waiting) : (s.go c stage queue).Placed := by
  refine h.stops ?_ hstage
  rw [hqueue, List.erase_of_not_mem fun hmem => hbefore ((h.mem_iff c).mp hmem)]

/-- A consumer that begins to wait. -/
theorem begins (h : s.Placed) (hqueue : queue.waiting.Perm (c :: s.queue.waiting))
    (hbefore : s.stage c ≠ .waiting) : (s.go c .waiting queue).Placed := by
  have hnot : c ∉ s.queue.waiting := fun hmem => hbefore ((h.mem_iff c).mp hmem)
  refine ⟨hqueue.nodup_iff.mpr (List.nodup_cons.mpr ⟨hnot, h.nodup⟩), fun c' => ?_⟩
  show c' ∈ queue.waiting ↔ _
  rw [hqueue.mem_iff, List.mem_cons]
  by_cases heq : c' = c
  · subst heq
    rw [go_stage_self]
    exact iff_of_true (.inl rfl) rfl
  · rw [go_stage_of_ne s heq, ← h.mem_iff]
    exact or_iff_right heq

theorem step {a : Act κ α} (h : s.Placed) (hstep : Step s a s') : s'.Placed := by
  cases hstep with
  | put x => exact h.of_perm (.refl _) rfl
  | announce _ => exact h.of_perm (WaitingQueue.wakeOne_waiting _) rfl
  | takes hfound | takesNothing hfound =>
      exact h.of_perm (.of_eq (WaitingQueue.of_tryDequeue hfound).2) rfl
  | clear => exact h.of_perm (.refl _) rfl
  | come hstage | start hstage | leaves hstage => exact h.goes rfl (by rw [hstage]; nofun) nofun
  | @finds c x queue hstage hfound =>
      have found : (s.go c (.returned x) queue).Placed :=
        h.goes (WaitingQueue.of_tryDequeue hfound).2 (by rw [hstage]; nofun) nofun
      exact found.of_perm (.refl _) rfl
  | misses hstage hfound =>
      exact h.goes (WaitingQueue.of_tryDequeue hfound).2 (by rw [hstage]; nofun) nofun
  | looksAgain hstage _ => exact h.goes rfl (by rw [hstage]; nofun) nofun
  | sleeps hstage _ =>
      refine h.begins ?_ (by rw [hstage]; nofun)
      rw [WaitingQueue.waiting, List.append_assoc]
      exact List.perm_middle
  | wakes hwoken => exact h.stops (WaitingQueue.perm_waiting_erase hwoken) nofun
  | abandons _ => exact h.stops (s.queue.abandon_waiting _) nofun

end Placed

theorem Runs.placed (h : Runs acts s) : s.Placed := by
  induction h with
  | start => exact ⟨.nil, fun c => ⟨nofun, nofun⟩⟩
  | next _ hstep ih => exact ih.step hstep

theorem returned?_go {stage : Stage α} (queue : WaitingQueue κ α)
    (h : stage.returned? = (s.stage c).returned?) (c' : κ) :
    ((s.go c stage queue).stage c').returned? = (s.stage c').returned? := by
  by_cases heq : c' = c
  · rw [heq, go_stage_self, h]
  · rw [go_stage_of_ne s heq]

/-- What a consumer has received is exactly what it returned. -/
theorem Runs.received (h : Runs acts s) (c : κ) :
    s.removed.filterMap (Removal.received? c) = (s.stage c).returned?.toList := by
  induction h with
  | start => rfl
  | @next acts a s s' run hstep ih =>
      have waits : ∀ {c'}, c' ∈ s.queue.waiting → s.stage c' = .waiting :=
        fun hmem => (run.placed.mem_iff _).mp hmem
      cases hstep with
      | put _ | announce _ | takesNothing _ => exact ih
      | takes _ | clear =>
          rw [note, List.filterMap_append, ih]
          exact List.append_nil _
      | come hstage | start hstage | misses hstage _ | looksAgain hstage _ | sleeps hstage _
      | leaves hstage =>
          rw [returned?_go _ (by rw [hstage]; rfl)]
          exact ih
      | wakes hwoken =>
          rw [returned?_go _ (by rw [waits (List.mem_append_right _ hwoken)]; rfl)]
          exact ih
      | abandons hmem =>
          rw [returned?_go _ (by rw [waits hmem]; rfl)]
          exact ih
      | @finds c' x queue hstage _ =>
          show (s.removed ++ [_]).filterMap _ = ((s.go c' (.returned x) queue).stage c).returned?.toList
          rw [List.filterMap_append, ih]
          by_cases heq : c = c'
          · subst heq
            rw [go_stage_self, hstage]
            simp [Removal.received?, Stage.returned?]
          · rw [go_stage_of_ne s heq]
            simp [Removal.received?, Ne.symm heq]

/-! ## Items -/

/-- The items that were put, in order. -/
def arrived (acts : List (Act κ α)) : List α := acts.filterMap Act.put?

/-- `Delivered removed n c x`: of the items that left, the one with the number `n` is `x`, and
the consumer `c` received it. -/
def Delivered (removed : List (Removal κ α)) (n : Nat) (c : κ) (x : α) : Prop :=
  ∃ before after, removed = before ++ .delivered c x :: after ∧
    (before.flatMap Removal.items).length = n

namespace Delivered

variable {removed : List (Removal κ α)} {n n' : Nat} {c' : κ} {x x' : α}

omit [DecidableEq κ] in
/-- Two deliveries are one, or one comes before the other and has the smaller number. -/
theorem eq_or_before (h : Delivered removed n c x) (h' : Delivered removed n' c' x') :
    n = n' ∧ c = c' ∨
      n < n' ∧ [Removal.delivered c x, .delivered c' x'].Sublist removed ∨
        n' < n ∧ [Removal.delivered c' x', .delivered c x].Sublist removed := by
  have before : ∀ (earlier mid later : List (Removal κ α)) (c c' : κ) (x x' : α),
      (earlier.flatMap Removal.items).length <
          ((earlier ++ .delivered c x :: mid).flatMap Removal.items).length ∧
        [Removal.delivered c x, .delivered c' x'].Sublist
          (earlier ++ .delivered c x :: (mid ++ .delivered c' x' :: later)) := by
    intro earlier mid later c c' x x'
    refine ⟨by simp [Removal.items], List.sublist_append_of_sublist_right (.cons_cons _ ?_)⟩
    exact List.singleton_sublist.mpr (by simp)
  obtain ⟨earlier, later, rfl, rfl⟩ := h
  obtain ⟨earlier', later', hsplit, rfl⟩ := h'
  rcases List.append_eq_append_iff.mp hsplit with ⟨mid, rfl, hmid⟩ | ⟨mid, rfl, hmid⟩
  · cases mid with
    | nil =>
        cases hmid
        exact .inl ⟨by rw [List.append_nil], rfl⟩
    | cons removal mid =>
        obtain ⟨rfl, rfl⟩ := List.cons.inj hmid
        exact .inr (.inl (before ..))
  · cases mid with
    | nil =>
        cases hmid
        exact .inl ⟨by rw [List.append_nil], rfl⟩
    | cons removal mid =>
        obtain ⟨rfl, rfl⟩ := List.cons.inj hmid
        rw [hsplit]
        exact .inr (.inr (before ..))

end Delivered

theorem Runs.once {n n' : Nat} {c' : κ} {x x' : α} (h : Runs acts s)
    (hn : Delivered s.removed n c x) (hn' : Delivered s.removed n' c' x') : n = n' ↔ c = c' := by
  -- A consumer has returned one item, so there are not two that it received.
  have short : ∀ {c x x'}, ¬ [Removal.delivered c x, .delivered c x'].Sublist s.removed := by
    intro c x x' hsub
    have hlength := (hsub.filterMap (Removal.received? c)).length_le
    rw [h.received] at hlength
    cases hreturned : (s.stage c).returned? <;> simp [Removal.received?, hreturned] at hlength
  rcases hn.eq_or_before hn' with ⟨heq, hc⟩ | ⟨hlt, hsub⟩ | ⟨hlt, hsub⟩
  · exact iff_of_true heq hc
  · refine iff_of_false (Nat.ne_of_lt hlt) ?_
    rintro rfl
    exact short hsub
  · refine iff_of_false (Nat.ne_of_gt hlt) ?_
    rintro rfl
    exact short hsub

end Crowd

end MailSync
