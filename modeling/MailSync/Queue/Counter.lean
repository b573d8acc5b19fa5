import MailSync.Queue

/-!
# Counters

A waiting queue together with consumers that take one item each, as people
at a counter: whoever was woken, has just come or is to go is attended to
in that order.
-/

namespace MailSync

/-- A queue with the consumers at it; `ℓ` is what consumers are called by. -/
structure Counter (ℓ α : Type) where
  queue : WaitingQueue Nat α
  /-- What consumers are called, each with its number, the latest first. -/
  names : List (Nat × ℓ)
  /-- What consumers took, in order. -/
  taken : List (ℓ × α)

namespace Counter

variable {ℓ α : Type} [DecidableEq ℓ]

def empty : Counter ℓ α := ⟨.empty, [], []⟩

/-- Notes what a consumer took, if anything. -/
def note (s : Counter ℓ α) (c : Nat) (found : Option α × WaitingQueue Nat α) : Counter ℓ α :=
  let s := { s with queue := found.2 }
  match found.1, s.names.lookup c with
  | some x, some name => { s with taken := s.taken ++ [(name, x)] }
  | _, _ => s

def resume (s : Counter ℓ α) (c : Nat) : Counter ℓ α := s.note c (s.queue.resume c)

/-- Lets those who were woken look, and one of them go instead. -/
def attend (leaving : Option Nat) (s : Counter ℓ α) (c : Nat) : Counter ℓ α :=
  if leaving = some c then { s with queue := s.queue.abandon c } else s.resume c

/-- Lets everybody look who was woken. -/
def settle (leaving : Option Nat) (s : Counter ℓ α) : Counter ℓ α :=
  s.queue.woken.foldl (attend leaving) s

/-- Nothing happens but what is under way. -/
def wait (s : Counter ℓ α) : Counter ℓ α := s.settle none

/-- A new consumer comes. -/
def arrive (s : Counter ℓ α) (name : ℓ) : Counter ℓ α :=
  let c := s.names.length
  let s := { s with names := (c, name) :: s.names }.settle none
  s.note c (s.queue.look c)

/-- The latest consumer of a name goes; whoever is woken by that looks at once. -/
def leave (s : Counter ℓ α) (name : ℓ) : Counter ℓ α :=
  match s.names.find? (·.2 = name) with
  | none => s.wait
  | some (c, _) =>
    let s := s.settle (some c)
    { s with queue := s.queue.abandon c }.wait

end Counter

end MailSync
