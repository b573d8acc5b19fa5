import Mathlib.Data.List.Forall2
import Mathlib.Data.List.Nodup
import Mathlib.Data.List.Perm.Subperm
import Mathlib.Logic.Function.Basic
import MailSync.Crypto.Pool

/-!
# What becomes of crypto tasks

`CryptoPool.Runs` is any order of calls of the user and moves of the three
workers, with any answers of the engines, while somebody receives the
events. `Step.effect` says what one of them does to the queue, to what the
workers have in hand and to the events; all else is read off that.

A task that was submitted is in the queue, or was dropped, or is with one
worker, or has one event (`CryptoPool.Runs.partitions`). The account that
shows this lists the tasks that have left the queue, in the order of
submission, each with its fate. That an event tells what the engine said is
stated without the function that makes it (`CryptoReport.Tells`).
-/

namespace MailSync

/-- What a report tells of a reply: what the engine made, as the success of this kind of call, or
the error with which it failed. -/
inductive CryptoReport.Tells : (c : CryptoCall) → c.Reply → CryptoReport → Prop where
  | encrypted (plaintext : Bytes) (recipients : List String) (ciphertext : Bytes) :
    Tells (.encrypt plaintext recipients) (.ok ciphertext) (.encrypted ciphertext)
  | decrypted (ciphertext plaintext : Bytes) :
    Tells (.decrypt ciphertext) (.ok plaintext) (.decrypted plaintext)
  | signed (data signature : Bytes) : Tells (.sign data) (.ok signature) (.signed signature)
  | verified (data signature : Bytes) (valid : Bool) :
    Tells (.verify data signature) (.ok valid) (.verified valid)
  | failed (c : CryptoCall) (e : MailError) : Tells c (.error e) (.failed e)

theorem CryptoReport.ofReply_tells (c : CryptoCall) (reply : c.Reply) :
    Tells c reply (.ofReply c reply) := by
  cases reply with
  | error e =>
      rw [ofReply]
      exact .failed c e
  | ok value =>
      cases c with
      | encrypt plaintext recipients => exact .encrypted plaintext recipients value
      | decrypt ciphertext => exact .decrypted ciphertext value
      | sign data => exact .signed data value
      | verify data signature => exact .verified data signature value

def CryptoWorker.task? : CryptoWorker → Option CryptoTask
  | busy t => some t
  | idle | ready | gone => none

namespace CryptoPool

/-- The task that a worker has in hand. -/
def hand? (p : CryptoPool) (id : Nat) : Option CryptoTask := p.workers[id]? >>= CryptoWorker.task?

theorem hand?_of_getElem? {p : CryptoPool} {id : Nat} {w : CryptoWorker}
    (h : p.workers[id]? = some w) : p.hand? id = w.task? := by
  rw [hand?, h]
  rfl

theorem hand?_setWorker (p : CryptoPool) {id : Nat} (hid : id < p.workers.length) (w : CryptoWorker) :
    (p.setWorker id w).hand? = Function.update p.hand? id w.task? := by
  funext id'
  by_cases heq : id' = id
  · subst heq
    rw [Function.update_self]
    exact hand?_of_getElem? (List.getElem?_set_self hid)
  · rw [Function.update_of_ne heq, hand?, hand?, setWorker, List.getElem?_set_ne (Ne.symm heq)]

/-- A worker with nothing in hand that still has nothing. -/
theorem hand?_setWorker_none {p : CryptoPool} {id : Nat} {w w' : CryptoWorker}
    (h : p.workers[id]? = some w) (hw : w.task? = none) (hw' : w'.task? = none) :
    (p.setWorker id w').hand? = p.hand? := by
  rw [hand?_setWorker p (List.getElem?_eq_some_iff.mp h).1, hw', ← hw, ← hand?_of_getElem? h]
  exact Function.update_eq_self id p.hand?

/-! ## Runs -/

/-- An answer of an engine, with the worker and its task. -/
structure Answer where
  id : Nat
  task : CryptoTask
  reply : task.call.Reply

/-- An event that ends a task: it has the tag of the task and tells what the engine said. -/
structure Answer.Ends (a : Answer) (event : CryptoEvent) : Prop where
  tag : event.tag = a.task.tag
  report : CryptoReport.Tells a.task.call a.reply event.report

def Answer.event (a : Answer) : CryptoEvent := .ofTask a.task a.reply

theorem Answer.ends_event (a : Answer) : a.Ends a.event := ⟨rfl, CryptoReport.ofReply_tells ..⟩

/-- What happens at a pool. -/
inductive Act where
  | submit (t : CryptoTask)
  /-- The user drops what has not been taken; that many tasks are reported. -/
  | cancelAll (count : Nat)
  | stop
  | look (id : Nat)
  | rest (id : Nat)
  /-- A worker takes a task, and its engine begins. -/
  | take (id : Nat) (t : CryptoTask)
  | answer (a : Answer)
  | leave (id : Nat)

namespace Act

def submitted? : Act → Option CryptoTask
  | submit t => some t
  | _ => none

def dropCount : Act → Nat
  | cancelAll count => count
  | _ => 0

def taken? : Act → Option (Nat × CryptoTask)
  | take id t => some (id, t)
  | _ => none

def answered? : Act → Option Answer
  | answer a => some a
  | _ => none

/-- An act that concerns no task. -/
def IsSilent : Act → Prop
  | stop | look _ | rest _ | leave _ => True
  | _ => False

end Act

/-- The tasks that were submitted, in order. -/
def submitted (acts : List Act) : List CryptoTask := acts.filterMap Act.submitted?

/-- How many tasks were reported to have been dropped. -/
def dropped (acts : List Act) : Nat := acts.foldl (fun count a => count + a.dropCount) 0

/-- The tasks that were taken, in order, each with the worker that took it. -/
def taken (acts : List Act) : List (Nat × CryptoTask) := acts.filterMap Act.taken?

/-- The answers of the engines, in order. -/
def answers (acts : List Act) : List Answer := acts.filterMap Act.answered?

/-- One call of the user or move of a worker. -/
inductive Step (p : CryptoPool) : Act → CryptoPool → Prop where
  | submit (t : CryptoTask) : Step p (.submit t) (p.submit t)
  | cancelAll {count : Nat} {p' : CryptoPool} (h : p.cancelAll = (count, p')) :
    Step p (.cancelAll count) p'
  | stop : Step p .stop p.stop
  | look {i : Nat} {p' : CryptoPool} (h : p.step (.look i) = some p') : Step p (.look i) p'
  | rest {i : Nat} {p' : CryptoPool} (h : p.step (.rest i) = some p') : Step p (.rest i) p'
  | take {i : Nat} {t : CryptoTask} {p' : CryptoPool} (h : p.step (.take i) = some p')
      (hbusy : p'.workers[i]? = some (.busy t)) : Step p (.take i t) p'
  | answer {a : Answer} {p' : CryptoPool} (hbusy : p.workers[a.id]? = some (.busy a.task))
      (h : p.step (.complete a.id a.task.call a.reply) = some p') : Step p (.answer a) p'
  | leave {i : Nat} {p' : CryptoPool} (h : p.step (.leave i) = some p') : Step p (.leave i) p'

/-- Any number of them, in any order. -/
inductive Runs (p : CryptoPool) : List Act → CryptoPool → Prop where
  | start : Runs p [] p
  | next {acts : List Act} {a : Act} {p' p'' : CryptoPool} (run : Runs p acts p')
    (hstep : Step p' a p'') : Runs p (acts ++ [a]) p''

variable {p p' : CryptoPool} {acts : List Act} {a : Act} {id : Nat}

/-! ## What one step does -/

theorem step_look (h : p.step (.look id) = some p') :
    p.workers[id]? = some .idle ∧ p' = p.setWorker id .ready := by
  rw [step] at h
  split at h
  next hidle _ => exact ⟨hidle, (Option.some.inj h).symm⟩
  next => cases h

theorem step_rest (h : p.step (.rest id) = some p') :
    p.workers[id]? = some .ready ∧ p' = p.setWorker id .idle := by
  rw [step] at h
  split at h
  next hready _ => exact ⟨hready, (Option.some.inj h).symm⟩
  next => cases h

theorem step_take (h : p.step (.take id) = some p') : ∃ t queue,
    p.workers[id]? = some .ready ∧ p.queue = t :: queue ∧
      p' = { p with queue }.setWorker id (.busy t) := by
  rw [step] at h
  split at h
  next t queue hready hqueue => exact ⟨t, queue, hready, hqueue, (Option.some.inj h).symm⟩
  next => cases h

theorem step_complete {a : Answer} (hbusy : p.workers[a.id]? = some (.busy a.task))
    (h : p.step (.complete a.id a.task.call a.reply) = some p') :
    p' = (p.report a.event).setWorker a.id (if p.attended then .idle else .gone) := by
  simp only [step, hbusy, dif_pos] at h
  exact (Option.some.inj h).symm

theorem step_leave (h : p.step (.leave id) = some p') :
    p.workers[id]? = some .idle ∧ p' = p.setWorker id .gone := by
  rw [step] at h
  split at h
  next hidle _ => exact ⟨hidle, (Option.some.inj h).symm⟩
  next => cases h

theorem report_workers (p : CryptoPool) (event : CryptoEvent) :
    (p.report event).workers = p.workers ∧ (p.report event).queue = p.queue ∧
      (p.report event).attended = p.attended := by
  rw [report]
  split <;> exact ⟨rfl, rfl, rfl⟩

theorem Step.kept (h : Step p a p') :
    p'.attended = p.attended ∧ p'.workers.length = p.workers.length := by
  have set : ∀ (p : CryptoPool) id w, (p.setWorker id w).attended = p.attended ∧
      (p.setWorker id w).workers.length = p.workers.length := fun p id w =>
    ⟨rfl, List.length_set⟩
  cases h with
  | submit t => exact ⟨rfl, rfl⟩
  | cancelAll h =>
      obtain ⟨-, rfl⟩ := Prod.mk.inj h
      exact ⟨rfl, rfl⟩
  | stop => exact ⟨rfl, rfl⟩
  | look h =>
      obtain ⟨-, rfl⟩ := step_look h
      exact set ..
  | rest h =>
      obtain ⟨-, rfl⟩ := step_rest h
      exact set ..
  | take h _ =>
      obtain ⟨t, queue, -, -, rfl⟩ := step_take h
      exact set ..
  | @answer a p' hbusy h =>
      obtain rfl := step_complete hbusy h
      obtain ⟨hworkers, -, hattended⟩ := p.report_workers a.event
      exact ⟨hattended, List.length_set.trans (congrArg List.length hworkers)⟩
  | leave h =>
      obtain ⟨-, rfl⟩ := step_leave h
      exact set ..

/-- What an act does to the queue, to what the workers have in hand, and to the events. -/
inductive Effect (p p' : CryptoPool) : Act → Prop where
  | submit (t : CryptoTask) (hqueue : p'.queue = p.queue ++ [t]) (hhands : p'.hand? = p.hand?)
      (hevents : p'.events = p.events) : Effect p p' (.submit t)
  | cancelAll (hqueue : p'.queue = []) (hhands : p'.hand? = p.hand?)
      (hevents : p'.events = p.events) : Effect p p' (.cancelAll p.queue.length)
  | silent {a : Act} (hsilent : a.IsSilent) (hqueue : p'.queue = p.queue)
      (hhands : p'.hand? = p.hand?) (hevents : p'.events = p.events) : Effect p p' a
  | take {id : Nat} {t : CryptoTask} (hid : id < p.workers.length) (hqueue : p.queue = t :: p'.queue)
      (hempty : p.hand? id = none) (hhands : p'.hand? = Function.update p.hand? id (some t))
      (hevents : p'.events = p.events) : Effect p p' (.take id t)
  | answer {a : Answer} (hhand : p.hand? a.id = some a.task) (hqueue : p'.queue = p.queue)
      (hhands : p'.hand? = Function.update p.hand? a.id none)
      (hevents : p'.events = p.events ++ [a.event]) : Effect p p' (.answer a)

theorem Step.effect (h : Step p a p') (hattended : p.attended = true) : Effect p p' a := by
  cases h with
  | submit t => exact .submit t rfl rfl rfl
  | cancelAll h =>
      obtain ⟨rfl, rfl⟩ := Prod.mk.inj h
      exact .cancelAll rfl rfl rfl
  | stop => exact .silent trivial rfl rfl rfl
  | look h =>
      obtain ⟨hidle, rfl⟩ := step_look h
      exact .silent trivial rfl (hand?_setWorker_none hidle rfl rfl) rfl
  | rest h =>
      obtain ⟨hready, rfl⟩ := step_rest h
      exact .silent trivial rfl (hand?_setWorker_none hready rfl rfl) rfl
  | take h hbusy =>
      obtain ⟨t, queue, hready, hqueue, rfl⟩ := step_take h
      have hid := (List.getElem?_eq_some_iff.mp hready).1
      have htaken := (List.getElem?_set_self hid).symm.trans hbusy
      obtain rfl := CryptoWorker.busy.inj (Option.some.inj htaken)
      exact .take hid hqueue (hand?_of_getElem? hready) (hand?_setWorker _ hid _) rfl
  | @answer a p' hbusy h =>
      obtain rfl := step_complete hbusy h
      have hid := (List.getElem?_eq_some_iff.mp hbusy).1
      rw [report, if_pos hattended, if_pos hattended]
      exact .answer (hand?_of_getElem? hbusy) rfl (hand?_setWorker _ hid _) rfl
  | leave h =>
      obtain ⟨hidle, rfl⟩ := step_leave h
      exact .silent trivial rfl (hand?_setWorker_none hidle rfl rfl) rfl

/-! ## The account -/

/-- What became of a task that has left the queue. -/
inductive Fate (c : CryptoCall) where
  | dropped
  | inProcess (id : Nat)
  | finished (id : Nat) (reply : c.Reply)

/-- A task that has left the queue. -/
structure Departure where
  task : CryptoTask
  fate : Fate task.call

namespace Departure

def isDropped : Departure → Bool
  | ⟨_, .dropped⟩ => true
  | _ => false

/-- The worker that has the task in process. -/
def worker? : Departure → Option Nat
  | ⟨_, .inProcess id⟩ => some id
  | _ => none

/-- The task, if this worker has it in process. -/
def inHand? (id : Nat) (d : Departure) : Option CryptoTask :=
  if d.worker? = some id then some d.task else none

/-- The task with the worker that took it, if one did. -/
def taken? : Departure → Option (Nat × CryptoTask)
  | ⟨_, .dropped⟩ => none
  | ⟨t, .inProcess id⟩ => some (id, t)
  | ⟨t, .finished id _⟩ => some (id, t)

def answer? : Departure → Option Answer
  | ⟨t, .finished id reply⟩ => some ⟨id, t, reply⟩
  | _ => none

def drop (t : CryptoTask) : Departure := ⟨t, .dropped⟩

def ofAnswer (a : Answer) : Departure := ⟨a.task, .finished a.id a.reply⟩

theorem inHand?_eq_some_iff {id : Nat} {t : CryptoTask} {d : Departure} :
    d.inHand? id = some t ↔ d = ⟨t, .inProcess id⟩ := by
  obtain ⟨task, fate⟩ := d
  rw [inHand?, Option.ite_none_right_eq_some]
  constructor
  · rintro ⟨hworker, htask⟩
    obtain rfl := Option.some.inj htask
    cases fate with
    | inProcess id' => rw [Option.some.inj hworker]
    | dropped | finished _ _ => cases hworker
  · rintro ⟨⟩
    exact ⟨rfl, rfl⟩

theorem inHand?_eq_none {id id' : Nat} {t : CryptoTask} (h : id ≠ id') :
    inHand? id' ⟨t, .inProcess id⟩ = none :=
  if_neg fun heq => h (Option.some.inj heq)

end Departure

/-- The account of a pool: the tasks that have left the queue, in the order of submission. -/
structure Accounts (acts : List Act) (p : CryptoPool) (left : List Departure) : Prop where
  /-- What has left and then what is in the queue are what was submitted. -/
  submitted : submitted acts = left.map (·.task) ++ p.queue
  dropped : dropped acts = left.countP Departure.isDropped
  /-- Tasks are taken in the order of submission. -/
  taken : taken acts = left.filterMap Departure.taken?
  /-- A worker has one task in process at most, which no other worker has. -/
  inProcess : ∀ id, left.filterMap (Departure.inHand? id) = (p.hand? id).toList
  /-- A task that is finished was answered once. -/
  finished : (answers acts).Perm (left.filterMap Departure.answer?)

theorem filterMap_append_cons {α β : Type} (f : α → Option β) (before : List α) (x : α)
    (after : List α) : (before ++ x :: after).filterMap f =
      before.filterMap f ++ ((f x).toList ++ after.filterMap f) := by
  rw [List.filterMap_append]
  cases h : f x with
  | none => rw [List.filterMap_cons_none h, Option.toList_none, List.nil_append]
  | some y => rw [List.filterMap_cons_some h, Option.toList_some, List.singleton_append]

theorem filterMap_concat {α β : Type} (f : α → Option β) (l : List α) (x : α) :
    (l ++ [x]).filterMap f = l.filterMap f ++ (f x).toList := by
  rw [filterMap_append_cons, List.filterMap_nil, List.append_nil]

theorem submitted_concat : submitted (acts ++ [a]) = submitted acts ++ a.submitted?.toList :=
  filterMap_concat ..

theorem dropped_concat : dropped (acts ++ [a]) = dropped acts + a.dropCount := List.foldl_concat ..

theorem taken_concat : taken (acts ++ [a]) = taken acts ++ a.taken?.toList := filterMap_concat ..

theorem answers_concat : answers (acts ++ [a]) = answers acts ++ a.answered?.toList :=
  filterMap_concat ..

theorem taken_concat_none (h : a.taken? = none) : taken (acts ++ [a]) = taken acts := by
  rw [taken_concat, h, Option.toList_none, List.append_nil]

theorem answers_concat_none (h : a.answered? = none) : answers (acts ++ [a]) = answers acts := by
  rw [answers_concat, h, Option.toList_none, List.append_nil]

theorem Act.IsSilent.nothing (h : a.IsSilent) : a.submitted? = none ∧ a.dropCount = 0 ∧
    a.taken? = none ∧ a.answered? = none := by
  cases a with
  | stop | look _ | rest _ | leave _ => exact ⟨rfl, rfl, rfl, rfl⟩
  | submit _ | cancelAll _ | take _ _ | answer _ => exact h.elim

namespace Accounts

variable {left : List Departure}

/-- An act that does nothing but put tasks at the end of the queue. -/
theorem quiet (h : Accounts acts p left) (hqueue : p'.queue = p.queue ++ a.submitted?.toList)
    (hdropped : a.dropCount = 0) (htaken : a.taken? = none) (hanswered : a.answered? = none)
    (hhands : p'.hand? = p.hand?) : Accounts (acts ++ [a]) p' left where
  submitted := by rw [submitted_concat, h.submitted, hqueue, List.append_assoc]
  dropped := by rw [dropped_concat, hdropped, h.dropped, Nat.add_zero]
  taken := by rw [taken_concat_none htaken, h.taken]
  inProcess id := by rw [hhands, h.inProcess]
  finished := by
    rw [answers_concat_none hanswered]
    exact h.finished

theorem cancelAll (h : Accounts acts p left) (hqueue : p'.queue = []) (hhands : p'.hand? = p.hand?) :
    Accounts (acts ++ [.cancelAll p.queue.length]) p' (left ++ p.queue.map Departure.drop) := by
  have nothing : ∀ {β : Type} (f : Departure → Option β), (∀ t, f (.drop t) = none) →
      (left ++ p.queue.map Departure.drop).filterMap f = left.filterMap f := by
    intro β f hf
    have hnil : (p.queue.map Departure.drop).filterMap f = [] :=
      List.filterMap_eq_nil_iff.mpr fun d hd => by
        obtain ⟨t, -, rfl⟩ := List.mem_map.mp hd
        exact hf t
    rw [List.filterMap_append, hnil, List.append_nil]
  constructor
  · have htasks : (p.queue.map Departure.drop).map (·.task) = p.queue :=
      List.map_map.trans (List.map_id _)
    rw [submitted_concat, h.submitted, List.map_append, htasks, hqueue]
    rfl
  · have hcount : (p.queue.map Departure.drop).countP Departure.isDropped = p.queue.length :=
      List.countP_map.trans (List.countP_eq_length.mpr fun _ _ => rfl)
    rw [dropped_concat, h.dropped, List.countP_append, hcount]
    rfl
  · rw [taken_concat_none rfl, h.taken, nothing _ fun _ => rfl]
  · intro id
    rw [nothing _ fun _ => rfl, h.inProcess, hhands]
  · rw [answers_concat_none rfl, nothing _ fun _ => rfl]
    exact h.finished

theorem take {id : Nat} {t : CryptoTask} (h : Accounts acts p left) (hqueue : p.queue = t :: p'.queue)
    (hempty : p.hand? id = none) (hhands : p'.hand? = Function.update p.hand? id (some t)) :
    Accounts (acts ++ [.take id t]) p' (left ++ [⟨t, .inProcess id⟩]) := by
  constructor
  · rw [submitted_concat, h.submitted, hqueue, List.map_append, List.append_assoc _ _ p'.queue]
    exact List.append_nil _
  · rw [dropped_concat, h.dropped, List.countP_append]
    rfl
  · rw [taken_concat, h.taken, filterMap_concat]
    rfl
  · intro id'
    rw [filterMap_concat, h.inProcess, hhands]
    by_cases heq : id' = id
    · subst heq
      rw [Function.update_self, hempty, Departure.inHand?_eq_some_iff.mpr rfl]
      rfl
    · rw [Function.update_of_ne heq, Departure.inHand?_eq_none (Ne.symm heq), Option.toList_none,
        List.append_nil]
  · rw [answers_concat_none rfl, filterMap_concat]
    exact h.finished.trans (.of_eq (List.append_nil _).symm)

theorem answer {a : Answer} (h : Accounts acts p left) (hhand : p.hand? a.id = some a.task)
    (hqueue : p'.queue = p.queue) (hhands : p'.hand? = Function.update p.hand? a.id none) :
    ∃ left', Accounts (acts ++ [.answer a]) p' left' := by
  -- The task is in process with the worker once, and goes over to what is finished.
  have hin := h.inProcess a.id
  rw [hhand, Option.toList_some, List.filterMap_eq_cons_iff] at hin
  obtain ⟨before, d, after, rfl, hbefore, hd, hafter⟩ := hin
  obtain rfl := Departure.inHand?_eq_some_iff.mp hd
  refine ⟨before ++ .ofAnswer a :: after, ?_, ?_, ?_, fun id => ?_, ?_⟩
  · rw [submitted_concat, h.submitted, hqueue, List.map_append, List.map_append]
    exact List.append_nil _
  · rw [dropped_concat, h.dropped, List.countP_append, List.countP_append]
    rfl
  · rw [taken_concat_none rfl, h.taken, filterMap_append_cons, filterMap_append_cons]
    rfl
  · rw [filterMap_append_cons, hhands]
    by_cases heq : id = a.id
    · subst heq
      rw [Function.update_self, List.filterMap_eq_nil_iff.mpr hbefore, hafter]
      rfl
    · have hin := h.inProcess id
      rw [filterMap_append_cons, Departure.inHand?_eq_none (Ne.symm heq)] at hin
      rw [Function.update_of_ne heq, ← hin]
      rfl
  · have hfinished := h.finished
    rw [filterMap_append_cons] at hfinished ⊢
    rw [answers_concat]
    exact (List.perm_append_singleton a _).trans ((hfinished.cons a).trans List.perm_middle.symm)

end Accounts

/-- Every act can be booked. -/
theorem Effect.accounts {left : List Departure} (h : Effect p p' a) (hacc : Accounts acts p left) :
    ∃ left', Accounts (acts ++ [a]) p' left' := by
  cases h with
  | submit t hqueue hhands _ => exact ⟨left, hacc.quiet hqueue rfl rfl rfl hhands⟩
  | cancelAll hqueue hhands _ => exact ⟨_, hacc.cancelAll hqueue hhands⟩
  | silent hsilent hqueue hhands _ =>
      obtain ⟨hsubmitted, hdropped, htaken, hanswered⟩ := hsilent.nothing
      refine ⟨left, hacc.quiet ?_ hdropped htaken hanswered hhands⟩
      rw [hsubmitted, hqueue, Option.toList_none, List.append_nil]
  | take _ hqueue hempty hhands _ => exact ⟨_, hacc.take hqueue hempty hhands⟩
  | answer hhand hqueue hhands _ => exact hacc.answer hhand hqueue hhands

/-! ## What runs keep -/

theorem Runs.kept (h : Runs .fresh acts p) : p.attended = true ∧ p.workers.length = size := by
  induction h with
  | start => exact ⟨rfl, rfl⟩
  | next _ hstep ih =>
      obtain ⟨hattended, hlength⟩ := hstep.kept
      exact ⟨hattended.trans ih.1, hlength.trans ih.2⟩

theorem Runs.accounts (h : Runs .fresh acts p) : ∃ left, Accounts acts p left := by
  induction h with
  | start =>
      refine ⟨[], rfl, rfl, rfl, fun id => ?_, .nil⟩
      rcases id with _ | _ | _ | id <;> rfl
  | next run hstep ih =>
      obtain ⟨left, hacc⟩ := ih
      exact (hstep.effect run.kept.1).accounts hacc

/-- Every answer has its event, in the order of the answers, and there is no other. -/
theorem Runs.events (h : Runs .fresh acts p) : List.Forall₂ Answer.Ends (answers acts) p.events := by
  induction h with
  | start => exact .nil
  | next run hstep ih =>
      cases hstep.effect run.kept.1 with
      | submit _ _ _ hevents | cancelAll _ _ hevents | take _ _ _ _ hevents =>
          rw [answers_concat_none rfl, hevents]
          exact ih
      | silent hsilent _ _ hevents =>
          rw [answers_concat_none hsilent.nothing.2.2.2, hevents]
          exact ih
      | @answer a _ _ _ hevents =>
          rw [answers_concat, hevents]
          exact List.rel_append ih (.cons a.ends_event .nil)

/-- What a worker took, if it is this one. -/
def ofWorker (id : Nat) (x : Nat × CryptoTask) : Option CryptoTask :=
  if x.1 = id then some x.2 else none

theorem ofWorker_self (id : Nat) (t : CryptoTask) : ofWorker id (id, t) = some t := if_pos rfl

theorem ofWorker_of_ne {id id' : Nat} (h : id' ≠ id) (t : CryptoTask) : ofWorker id (id', t) = none :=
  if_neg h

/-- An engine has answered all its calls in their order, but for the one that goes on. -/
theorem Runs.calls (h : Runs .fresh acts p) (id : Nat) : (taken acts).filterMap (ofWorker id) =
    (answers acts).filterMap (fun a => ofWorker id (a.id, a.task)) ++ (p.hand? id).toList := by
  induction h with
  | start => rcases id with _ | _ | _ | id <;> rfl
  | next run hstep ih =>
      cases hstep.effect run.kept.1 with
      | submit _ _ hhands _ | cancelAll _ hhands _ =>
          rw [taken_concat_none rfl, answers_concat_none rfl, hhands, ih]
      | silent hsilent _ hhands _ =>
          rw [taken_concat_none hsilent.nothing.2.2.1, answers_concat_none hsilent.nothing.2.2.2,
            hhands, ih]
      | @take id' t _ _ hempty hhands _ =>
          rw [answers_concat_none rfl, taken_concat, hhands]
          by_cases heq : id' = id
          · subst heq
            rw [hempty, Option.toList_none, List.append_nil] at ih
            rw [Function.update_self, ← ih]
            exact (filterMap_concat ..).trans (by rw [ofWorker_self])
          · rw [Function.update_of_ne (Ne.symm heq), ← ih]
            refine (filterMap_concat ..).trans ?_
            rw [ofWorker_of_ne heq, Option.toList_none, List.append_nil]
      | @answer a hhand _ hhands _ =>
          rw [taken_concat_none rfl, answers_concat, hhands, ih]
          refine Eq.trans ?_ (congrArg (· ++ _) (filterMap_concat ..).symm)
          by_cases heq : a.id = id
          · subst heq
            rw [Function.update_self, hhand, ofWorker_self, Option.toList_none, List.append_nil]
          · rw [Function.update_of_ne (Ne.symm heq), ofWorker_of_ne heq, Option.toList_none,
              List.append_nil]

/-- No more tasks are in process than there are workers. -/
theorem Accounts.few {left : List Departure} (h : Accounts acts p left)
    (hsize : p.workers.length = size) : (left.filterMap Departure.worker?).length ≤ size := by
  have hcount : ∀ id, (left.filterMap Departure.worker?).count id =
      (left.filterMap (Departure.inHand? id)).length := fun id => by
    rw [List.count, List.countP_filterMap, List.length_filterMap_eq_countP]
    refine List.countP_congr fun d _ => ?_
    rw [Departure.inHand?]
    cases d.worker? <;> simp
  have hnodup : (left.filterMap Departure.worker?).Nodup := List.nodup_iff_count_le_one.mpr fun id => by
    rw [hcount, h.inProcess]
    exact Option.length_toList_le
  have hsub : left.filterMap Departure.worker? ⊆ List.range size := fun id hid => by
    have hpos := List.count_pos_iff.mpr hid
    rw [hcount, h.inProcess] at hpos
    obtain ⟨t, ht⟩ := List.exists_mem_of_length_pos hpos
    obtain ⟨w, hw, -⟩ := Option.bind_eq_some_iff.mp (Option.mem_toList.mp ht)
    exact List.mem_range.mpr (hsize ▸ (List.getElem?_eq_some_iff.mp hw).1)
  exact Nat.le_trans (List.subperm_of_subset hnodup hsub).length_le (Nat.le_of_eq List.length_range)

/-! ## A pool that has been stopped -/

/-- The call to stop a pool returns once every worker has gone. -/
def Stopped (p : CryptoPool) : Prop := p.stopping = true ∧ ∀ w ∈ p.workers, w = .gone

/-- Nothing is in process, and nothing more is begun, answered or reported. -/
structure AtRest (p : CryptoPool) : Prop where
  inProcess : ∀ id, p.hand? id = none
  later : ∀ acts p', Runs p acts p' → taken acts = [] ∧ answers acts = [] ∧ p'.events = p.events

namespace Stopped

theorem hand? (h : p.Stopped) (id : Nat) : p.hand? id = none := by
  rw [CryptoPool.hand?]
  cases hw : p.workers[id]? with
  | none => rfl
  | some w =>
      rw [h.2 w (List.mem_of_getElem? hw)]
      rfl

theorem step (h : p.Stopped) (hstep : Step p a p') :
    p'.Stopped ∧ a.taken? = none ∧ a.answered? = none ∧ p'.events = p.events := by
  have gone : ∀ {id : Nat} {w : CryptoWorker}, p.workers[id]? = some w → w = .gone :=
    fun hw => h.2 _ (List.mem_of_getElem? hw)
  cases hstep with
  | submit _ => exact ⟨h, rfl, rfl, rfl⟩
  | stop => exact ⟨⟨rfl, h.2⟩, rfl, rfl, rfl⟩
  | cancelAll hcancel =>
      obtain ⟨-, rfl⟩ := Prod.mk.inj hcancel
      exact ⟨h, rfl, rfl, rfl⟩
  | look hmove => cases gone (step_look hmove).1
  | rest hmove => cases gone (step_rest hmove).1
  | take hmove _ =>
      obtain ⟨t, queue, hready, -⟩ := step_take hmove
      cases gone hready
  | answer hbusy _ => cases gone hbusy
  | leave hmove => cases gone (step_leave hmove).1

theorem run (h : p.Stopped) (run : Runs p acts p') :
    p'.Stopped ∧ taken acts = [] ∧ answers acts = [] ∧ p'.events = p.events := by
  induction run with
  | start => exact ⟨h, rfl, rfl, rfl⟩
  | next _ hstep ih =>
      obtain ⟨hstopped, htaken, hanswers, hevents⟩ := ih
      obtain ⟨hstopped', htaken', hanswered', hevents'⟩ := hstopped.step hstep
      exact ⟨hstopped', (taken_concat_none htaken').trans htaken,
        (answers_concat_none hanswered').trans hanswers, hevents'.trans hevents⟩

theorem atRest (h : p.Stopped) : p.AtRest := ⟨h.hand?, fun _ _ run => (h.run run).2⟩

end Stopped

/-! ## What holds of a pool at all times -/

structure InOrder (acts : List Act) (p : CryptoPool) : Prop where
  /-- A task has not left the queue, or has one fate; three at most are in process. -/
  account : ∃ left, Accounts acts p left ∧ (left.filterMap Departure.worker?).length ≤ 3
  /-- An answer makes one event, with the tag of the task and what the engine said. -/
  events : List.Forall₂ Answer.Ends (answers acts) p.events
  /-- An engine has answered all its calls in their order, but for the one that goes on. -/
  calls : ∀ id, (taken acts).filterMap (ofWorker id) =
    (answers acts).filterMap (fun a => ofWorker id (a.id, a.task)) ++ (p.hand? id).toList
  stopped : p.Stopped → p.AtRest

/-- Whatever the user and the workers do, every task that was submitted is in one place. -/
theorem Runs.partitions (h : Runs .fresh acts p) : InOrder acts p where
  account := by
    obtain ⟨left, hacc⟩ := h.accounts
    exact ⟨left, hacc, hacc.few h.kept.2⟩
  events := h.events
  calls := h.calls
  stopped := Stopped.atRest

/-- The second task is done before the first, two are dropped, and the last is taken by a worker
that looked before the pool was told to stop. -/
theorem Runs.partitions_stopped : ∃ (acts : List Act) (p : CryptoPool), Runs .fresh acts p ∧
    p.events = [⟨⟨"app", 2⟩, .failed (.crypto "no key")⟩, ⟨⟨"app", 1⟩, .encrypted [9]⟩,
      ⟨⟨"app", 5⟩, .verified true⟩] ∧ dropped acts = 2 ∧ p.Stopped ∧ InOrder acts p := by
  let first : CryptoTask := ⟨⟨"app", 1⟩, .encrypt [7] ["bob@example.com"]⟩
  let second : CryptoTask := ⟨⟨"app", 2⟩, .decrypt [8]⟩
  let last : CryptoTask := ⟨⟨"app", 5⟩, .verify [3] [4]⟩
  let failed : CryptoEvent := ⟨⟨"app", 2⟩, .failed (.crypto "no key")⟩
  let encrypted : CryptoEvent := ⟨⟨"app", 1⟩, .encrypted [9]⟩
  let verified : CryptoEvent := ⟨⟨"app", 5⟩, .verified true⟩
  have submitted : Runs .fresh _ ⟨[first, second], [.idle, .idle, .idle], false, true, []⟩ :=
    (Runs.start.next (.submit first)).next (.submit second)
  have looked : Runs .fresh _ ⟨[first, second], [.ready, .ready, .idle], false, true, []⟩ :=
    (submitted.next (.look (i := 0) rfl)).next (.look (i := 1) rfl)
  have taken : Runs .fresh _ ⟨[], [.busy first, .busy second, .idle], false, true, []⟩ :=
    (looked.next (.take (i := 0) rfl rfl)).next (.take (i := 1) rfl rfl)
  have answered : Runs .fresh _ ⟨[], [.busy first, .idle, .idle], false, true, [failed]⟩ :=
    taken.next (.answer (a := ⟨1, second, .error (.crypto "no key")⟩) rfl rfl)
  have dropped : Runs .fresh _ ⟨[], [.busy first, .idle, .idle], false, true, [failed]⟩ :=
    ((answered.next (.submit ⟨⟨"app", 3⟩, .sign [1]⟩)).next (.submit ⟨⟨"app", 4⟩, .sign [2]⟩)).next
      (.cancelAll rfl)
  have stopping : Runs .fresh _ ⟨[last], [.busy first, .idle, .ready], true, true, [failed]⟩ :=
    ((dropped.next (.submit last)).next (.look (i := 2) rfl)).next .stop
  have late : Runs .fresh _ ⟨[], [.busy first, .gone, .busy last], true, true, [failed]⟩ :=
    (stopping.next (.leave (i := 1) rfl)).next (.take (i := 2) rfl rfl)
  have finished : Runs .fresh _ ⟨[], [.idle, .gone, .idle], true, true, [failed, encrypted, verified]⟩ :=
    (late.next (.answer (a := ⟨0, first, .ok [9]⟩) rfl rfl)).next
      (.answer (a := ⟨2, last, .ok true⟩) rfl rfl)
  have stopped : Runs .fresh _ ⟨[], [.gone, .gone, .gone], true, true, [failed, encrypted, verified]⟩ :=
    (finished.next (.leave (i := 2) rfl)).next (.leave (i := 0) rfl)
  refine ⟨_, _, stopped, rfl, ?_, ⟨rfl, by simp⟩, stopped.partitions⟩
  simp [CryptoPool.dropped, Act.dropCount, submit]

end CryptoPool

end MailSync
