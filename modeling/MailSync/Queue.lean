/-!
# Waiting queues

A queue whose consumers sleep while there is nothing to take. Putting an
item wakes the consumer that has slept longest; if none sleeps, the
wake-up is kept, once, for the next consumer that would fall asleep. A
consumer that is given up passes an unused wake-up on, so that no item is
left while a consumer sleeps.
-/

namespace MailSync

/-- A queue with its consumers, named by `κ`. -/
structure WaitingQueue (κ α : Type) where
  /-- The items, the first to be taken first. -/
  items : List α
  /-- Whether a wake-up is kept. -/
  permit : Bool
  /-- The consumers asleep, the one that has slept longest first. -/
  asleep : List κ
  /-- The consumers that were woken and have not looked since, in order. -/
  woken : List κ
deriving DecidableEq, Repr

namespace WaitingQueue

variable {κ α : Type}

def empty : WaitingQueue κ α := ⟨[], false, [], []⟩

instance : Inhabited (WaitingQueue κ α) := ⟨empty⟩

/-- Wakes one consumer. -/
def wakeOne (q : WaitingQueue κ α) : WaitingQueue κ α :=
  match q.asleep with
  | [] => { q with permit := true }
  | c :: rest => { q with asleep := rest, woken := q.woken ++ [c] }

def enqueue (q : WaitingQueue κ α) (x : α) : WaitingQueue κ α :=
  { q with items := q.items ++ [x] }.wakeOne

/-- Takes the first item without waiting. -/
def tryDequeue (q : WaitingQueue κ α) : Option α × WaitingQueue κ α :=
  match q.items with
  | [] => (none, q)
  | x :: rest => (some x, { q with items := rest })

/-- Drops all items; counts them. -/
def clear (q : WaitingQueue κ α) : Nat × WaitingQueue κ α :=
  (q.items.length, { q with items := [] })

/-- A consumer that is awake looks for an item, and falls asleep if there is none; a
wake-up that was kept only makes it look again. -/
def look (q : WaitingQueue κ α) (c : κ) : Option α × WaitingQueue κ α :=
  match q.items with
  | [] => (none, { q with permit := false, asleep := q.asleep ++ [c] })
  | x :: rest => (some x, { q with items := rest })

variable [DecidableEq κ]

/-- A woken consumer looks again. -/
def resume (q : WaitingQueue κ α) (c : κ) : Option α × WaitingQueue κ α :=
  { q with woken := q.woken.erase c }.look c

/-- Gives up a consumer. -/
def abandon (q : WaitingQueue κ α) (c : κ) : WaitingQueue κ α :=
  if c ∈ q.woken then { q with woken := q.woken.erase c }.wakeOne
  else { q with asleep := q.asleep.erase c }

end WaitingQueue

end MailSync
