/-!
# Dialogues

A dialogue is a computation that asks its surroundings for whatever it
cannot work out itself. Every step is one question and goes on with the
reply, so that what a dialogue does can be said for all replies at once,
and the same dialogue can be held with a server, a rehearsal or a proof.
-/

namespace MailSync

/-- Either finished, or a question together with what follows each reply. -/
inductive Dialogue (Q : Type) (R : Q → Type) (α : Type) where
  | done (a : α)
  | ask (q : Q) (next : R q → Dialogue Q R α)

namespace Dialogue

variable {Q : Type} {R : Q → Type} {α β γ : Type}

def bind : Dialogue Q R α → (α → Dialogue Q R β) → Dialogue Q R β
  | done a, f => f a
  | ask q next, f => ask q fun r => (next r).bind f

instance : Monad (Dialogue Q R) where
  pure := done
  bind := bind

/-- The dialogue of a single question. -/
def call (q : Q) : Dialogue Q R (R q) := ask q done

theorem bind_done (d : Dialogue Q R α) : d.bind done = d := by
  induction d with
  | done a => rfl
  | ask q next ih => simp only [bind, ih]

theorem bind_assoc (d : Dialogue Q R α) (f : α → Dialogue Q R β) (g : β → Dialogue Q R γ) :
    (d.bind f).bind g = d.bind fun a => (f a).bind g := by
  induction d with
  | done a => rfl
  | ask q next ih => simp only [bind, ih]

instance : LawfulMonad (Dialogue Q R) :=
  LawfulMonad.mk' (Dialogue Q R) bind_done (fun _ _ => rfl) bind_assoc

/-- Holds the dialogue with surroundings that have a state. -/
def run {σ : Type} (answer : (q : Q) → σ → R q × σ) : Dialogue Q R α → σ → α × σ
  | done a, s => (a, s)
  | ask q next, s => (next (answer q s).1).run answer (answer q s).2

theorem run_bind {σ : Type} (answer : (q : Q) → σ → R q × σ) (d : Dialogue Q R α)
    (f : α → Dialogue Q R β) (s : σ) :
    (d.bind f).run answer s = (f (d.run answer s).1).run answer (d.run answer s).2 := by
  induction d generalizing s with
  | done a => rfl
  | ask q next ih => simp only [bind, run, ih]

/-- Holds the dialogue by other means, such as a second dialogue. -/
def runM {m : Type → Type} [Monad m] (answer : (q : Q) → m (R q)) : Dialogue Q R α → m α
  | done a => pure a
  | ask q next => do (next (← answer q)).runM answer

theorem runM_bind {m : Type → Type} [Monad m] [LawfulMonad m] (answer : (q : Q) → m (R q))
    (d : Dialogue Q R α) (f : α → Dialogue Q R β) :
    (d.bind f).runM answer = d.runM answer >>= fun a => (f a).runM answer := by
  induction d with
  | done a => simp [bind, runM]
  | ask q next ih => simp only [bind, runM, ih, LawfulMonad.bind_assoc]

/-- One question with its reply. -/
structure Exchange (Q : Type) (R : Q → Type) where
  question : Q
  reply : R question

/-- `Holds d log a`: asked the questions of `log` and given its replies, `d` ends with `a`. -/
inductive Holds : Dialogue Q R α → List (Exchange Q R) → α → Prop where
  | done (a : α) : Holds (done a) [] a
  | ask {q : Q} {next : R q → Dialogue Q R α} {r : R q} {log : List (Exchange Q R)} {a : α} :
    Holds (next r) log a → Holds (Dialogue.ask q next) (⟨q, r⟩ :: log) a

end Dialogue

/-- A dialogue that may fail. -/
abbrev Attempt (Q : Type) (R : Q → Type) (ε α : Type) := ExceptT ε (Dialogue Q R) α

end MailSync
