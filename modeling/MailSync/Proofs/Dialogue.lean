import MailSync.Request

/-!
# Conversations

What a dialogue does, said over the logs of its conversations. `Holds` is a
conversation that came to its end, `Leads` one that may still go on; both
split along `bind`, which is what makes a long dialogue readable piece by
piece.

Three properties are proved once by going through a dialogue and then read
back on every conversation: `Asks` bounds the questions (`Asks.of_holds`),
`Ends` bounds the results for all replies that are allowed
(`Ends.of_holds`), and `Poses` bounds the questions for these replies
(`Poses.of_leads`, `Poses.of_holds`). `Succeeds` is both of the latter for an
attempt that does not fail.
-/

namespace MailSync.Dialogue

variable {Q : Type} {R : Q → Type} {α β ε : Type}

/-! ## Conversations that came to their end -/

theorem holds_done_iff {a b : α} {log : List (Exchange Q R)} :
    Holds (done a) log b ↔ log = [] ∧ b = a := by
  constructor
  · rintro ⟨⟩
    exact ⟨rfl, rfl⟩
  · rintro ⟨rfl, rfl⟩
    exact .done _

theorem holds_pure_iff {a b : α} {log : List (Exchange Q R)} :
    Holds (pure a : Dialogue Q R α) log b ↔ log = [] ∧ b = a :=
  holds_done_iff

theorem holds_ask_iff {q : Q} {next : R q → Dialogue Q R α} {log : List (Exchange Q R)} {b : α} :
    Holds (ask q next) log b ↔ ∃ r rest, log = ⟨q, r⟩ :: rest ∧ Holds (next r) rest b := by
  constructor
  · rintro (_ | h)
    exact ⟨_, _, rfl, h⟩
  · rintro ⟨r, rest, rfl, h⟩
    exact .ask h

theorem holds_call_iff {q : Q} {r : R q} {log : List (Exchange Q R)} :
    Holds (call q : Dialogue Q R (R q)) log r ↔ log = [⟨q, r⟩] := by
  rw [call, holds_ask_iff]
  constructor
  · rintro ⟨r', rest, rfl, h⟩
    obtain ⟨rfl, rfl⟩ := holds_done_iff.mp h
    rfl
  · rintro rfl
    exact ⟨r, [], rfl, .done _⟩

/-- A conversation of two dialogues in a row is one of the first and then one of the second. -/
theorem holds_bind_iff {d : Dialogue Q R α} {f : α → Dialogue Q R β} {log : List (Exchange Q R)}
    {b : β} : Holds (d >>= f) log b ↔
      ∃ before after a, log = before ++ after ∧ Holds d before a ∧ Holds (f a) after b := by
  show Holds (d.bind f) log b ↔ _
  induction d generalizing log with
  | done a =>
      constructor
      · exact fun h => ⟨[], log, a, rfl, .done a, h⟩
      · rintro ⟨before, after, a', rfl, h₁, h₂⟩
        obtain ⟨rfl, rfl⟩ := holds_done_iff.mp h₁
        exact h₂
  | ask q next ih =>
      simp only [bind, holds_ask_iff, ih]
      constructor
      · rintro ⟨r, rest, rfl, before, after, a, rfl, h₁, h₂⟩
        exact ⟨_, after, a, rfl, ⟨r, before, rfl, h₁⟩, h₂⟩
      · rintro ⟨_, after, a, rfl, ⟨r, before, rfl, h₁⟩, h₂⟩
        exact ⟨r, before ++ after, rfl, before, after, a, rfl, h₁, h₂⟩

/-- Where every question has a reply that is allowed, every dialogue can be brought to its end
by such replies. -/
theorem exists_holds {allowed : (q : Q) → R q → Prop} (replies : ∀ q, ∃ r, allowed q r)
    (d : Dialogue Q R α) : ∃ log a, Holds d log a ∧ ∀ x ∈ log, allowed x.question x.reply := by
  induction d with
  | done a => exact ⟨[], a, .done a, fun x hx => absurd hx List.not_mem_nil⟩
  | ask q next ih =>
      obtain ⟨r, hr⟩ := replies q
      obtain ⟨log, a, h, hlog⟩ := ih r
      exact ⟨⟨q, r⟩ :: log, a, .ask h, List.forall_mem_cons.mpr ⟨hr, hlog⟩⟩

/-! ## Conversations that may go on -/

/-- `Leads d log rest`: asked the questions of `log` and given its replies, `d` goes on as
`rest`. -/
inductive Leads : Dialogue Q R α → List (Exchange Q R) → Dialogue Q R α → Prop where
  | here (d : Dialogue Q R α) : Leads d [] d
  | ask {q : Q} {next : R q → Dialogue Q R α} {r : R q} {log : List (Exchange Q R)}
      {rest : Dialogue Q R α} : Leads (next r) log rest → Leads (.ask q next) (⟨q, r⟩ :: log) rest

/-- One more reply. -/
theorem Leads.snoc {d : Dialogue Q R α} {q : Q} {next : R q → Dialogue Q R α}
    {log : List (Exchange Q R)} (h : Leads d log (.ask q next)) (r : R q) :
    Leads d (log ++ [⟨q, r⟩]) (next r) := by
  generalize hrest : Dialogue.ask q next = rest at h
  induction h with
  | here d =>
      subst hrest
      exact .ask (.here _)
  | ask _ ih => exact .ask (ih hrest)

theorem Leads.trans {d d' d'' : Dialogue Q R α} {log log' : List (Exchange Q R)}
    (h : Leads d log d') (h' : Leads d' log' d'') : Leads d (log ++ log') d'' := by
  induction h with
  | here d => exact h'
  | ask _ ih => exact .ask (ih h')

/-- What is left of a dialogue brings it to its end. -/
theorem Leads.append {d rest : Dialogue Q R α} {log later : List (Exchange Q R)} {a : α}
    (h : Leads d log rest) (ha : Holds rest later a) : Holds d (log ++ later) a := by
  induction h with
  | here d => exact ha
  | ask _ ih => exact .ask (ih ha)

theorem Leads.holds {d : Dialogue Q R α} {log : List (Exchange Q R)} {a : α}
    (h : Leads d log (done a)) : Holds d log a := by
  simpa using h.append (.done a)

/-! ## Bounds on questions and results -/

/-- Every question that `d` can come to ask is one that it `may` ask. -/
def Asks (may : Q → Prop) : Dialogue Q R α → Prop
  | done _ => True
  | ask q next => may q ∧ ∀ r, (next r).Asks may

/-- With replies that are `allowed`, `d` comes to no other end than `post` says. -/
def Ends (allowed : (q : Q) → R q → Prop) (post : α → Prop) : Dialogue Q R α → Prop
  | done a => post a
  | ask q next => ∀ r, allowed q r → (next r).Ends allowed post

/-- With replies that are `allowed`, every question that `d` comes to ask is one that it `may`
ask. -/
def Poses (allowed : (q : Q) → R q → Prop) (may : Q → Prop) : Dialogue Q R α → Prop
  | done _ => True
  | ask q next => may q ∧ ∀ r, allowed q r → (next r).Poses allowed may

section Bounds

variable {may : Q → Prop} {allowed : (q : Q) → R q → Prop}

theorem Asks.of_holds {d : Dialogue Q R α} {log : List (Exchange Q R)} {a : α}
    (h : d.Asks may) (hd : Holds d log a) : ∀ x ∈ log, may x.question := by
  induction hd with
  | done a => simp
  | ask _ ih =>
      rintro x (_ | ⟨_, hx⟩)
      · exact h.1
      · exact ih (h.2 _) x hx

theorem Asks.mono {may' : Q → Prop} {d : Dialogue Q R α} (h : d.Asks may)
    (himp : ∀ q, may q → may' q) : d.Asks may' := by
  induction d with
  | done a => trivial
  | ask q next ih => exact ⟨himp q h.1, fun r => ih r (h.2 r)⟩

theorem Asks.bind {d : Dialogue Q R α} {f : α → Dialogue Q R β} (h : d.Asks may)
    (hf : ∀ a, (f a).Asks may) : (d >>= f).Asks may := by
  show (d.bind f).Asks may
  induction d with
  | done a => exact hf a
  | ask q next ih => exact ⟨h.1, fun r => ih r (h.2 r)⟩

theorem Ends.of_holds {post : α → Prop} {d : Dialogue Q R α} {log : List (Exchange Q R)} {a : α}
    (h : d.Ends allowed post) (hd : Holds d log a)
    (hlog : ∀ x ∈ log, allowed x.question x.reply) : post a := by
  induction hd with
  | done a => exact h
  | ask _ ih =>
      rw [List.forall_mem_cons] at hlog
      exact ih (h _ hlog.1) hlog.2

theorem Ends.mono {post post' : α → Prop} {d : Dialogue Q R α} (h : d.Ends allowed post)
    (himp : ∀ a, post a → post' a) : d.Ends allowed post' := by
  induction d with
  | done a => exact himp a h
  | ask q next ih => exact fun r hr => ih r (h r hr)

theorem Ends.of_forall {post : α → Prop} (h : ∀ a, post a) (d : Dialogue Q R α) :
    d.Ends allowed post := by
  induction d with
  | done a => exact h a
  | ask q next ih => exact fun r _ => ih r

theorem Ends.bind {mid : α → Prop} {post : β → Prop} {d : Dialogue Q R α} {f : α → Dialogue Q R β}
    (h : d.Ends allowed mid) (hf : ∀ a, mid a → (f a).Ends allowed post) :
    (d >>= f).Ends allowed post := by
  show (d.bind f).Ends allowed post
  induction d with
  | done a => exact hf a h
  | ask q next ih => exact fun r hr => ih r (h r hr)

/-- Whatever comes of the first part, the end depends on the second. -/
theorem Ends.bind_rest {post : β → Prop} {d : Dialogue Q R α} {f : α → Dialogue Q R β}
    (hf : ∀ a, (f a).Ends allowed post) : (d >>= f).Ends allowed post := by
  have hany : d.Ends allowed fun _ => True := Ends.of_forall (fun _ => trivial) d
  exact hany.bind fun a _ => hf a

theorem Asks.poses {d : Dialogue Q R α} (h : d.Asks may) : d.Poses allowed may := by
  induction d with
  | done a => trivial
  | ask q next ih => exact ⟨h.1, fun r _ => ih r (h.2 r)⟩

theorem Poses.bind {mid : α → Prop} {d : Dialogue Q R α} {f : α → Dialogue Q R β}
    (h : d.Poses allowed may) (hends : d.Ends allowed mid)
    (hf : ∀ a, mid a → (f a).Poses allowed may) : (d >>= f).Poses allowed may := by
  show (d.bind f).Poses allowed may
  induction d with
  | done a => exact hf a hends
  | ask q next ih => exact ⟨h.1, fun r hr => ih r (h.2 r hr) (hends r hr)⟩

theorem Poses.bind_any {d : Dialogue Q R α} {f : α → Dialogue Q R β} (h : d.Poses allowed may)
    (hf : ∀ a, (f a).Poses allowed may) : (d >>= f).Poses allowed may := by
  have hany : d.Ends allowed fun _ => True := Ends.of_forall (fun _ => trivial) d
  exact h.bind hany fun a _ => hf a

/-- A conversation that may go on, had with replies that are allowed, goes on as it may. -/
theorem Poses.of_leads {d rest : Dialogue Q R α} {log : List (Exchange Q R)}
    (h : d.Poses allowed may) (hleads : Leads d log rest)
    (hlog : ∀ x ∈ log, allowed x.question x.reply) : rest.Poses allowed may := by
  induction hleads with
  | here d => exact h
  | ask _ ih =>
      rw [List.forall_mem_cons] at hlog
      exact ih (h.2 _ hlog.1) hlog.2

theorem Poses.of_holds {d : Dialogue Q R α} {log : List (Exchange Q R)} {a : α}
    (h : d.Poses allowed may) (hd : Holds d log a)
    (hlog : ∀ x ∈ log, allowed x.question x.reply) : ∀ x ∈ log, may x.question := by
  induction hd with
  | done a => exact fun x hx => absurd hx List.not_mem_nil
  | ask _ ih =>
      rw [List.forall_mem_cons] at hlog ⊢
      exact ⟨h.1, ih (h.2 _ hlog.1) hlog.2⟩

end Bounds

end MailSync.Dialogue

namespace MailSync.Attempt

open Dialogue

variable {Q : Type} {R : Q → Type} {α β ε : Type} {may : Q → Prop}
  {allowed : (q : Q) → R q → Prop} {refused : ε → Prop}

/-! ## Attempts -/

theorem asks_pure (a : α) : (pure a : Attempt Q R ε α).run.Asks may := trivial

theorem asks_throw (e : ε) : (throw e : Attempt Q R ε α).run.Asks may := trivial

theorem asks_bind {x : Attempt Q R ε α} {f : α → Attempt Q R ε β} (h : x.run.Asks may)
    (hf : ∀ a, (f a).run.Asks may) : (x >>= f).run.Asks may := by
  rw [ExceptT.run_bind]
  refine h.bind fun o => ?_
  cases o with
  | ok a => exact hf a
  | error e => trivial

/-- A conversation of two attempts in a row: either the first fails, and with it both, or it
succeeds and the second follows. -/
theorem holds_bind_iff {x : Attempt Q R ε α} {f : α → Attempt Q R ε β}
    {log : List (Exchange Q R)} {o : Except ε β} :
    Holds (x >>= f).run log o ↔
      (∃ e, Holds x.run log (.error e) ∧ o = .error e) ∨
        ∃ before after a, log = before ++ after ∧ Holds x.run before (.ok a) ∧
          Holds (f a).run after o := by
  rw [ExceptT.run_bind, Dialogue.holds_bind_iff]
  constructor
  · rintro ⟨before, after, a | a, rfl, h₁, h₂⟩
    · obtain ⟨rfl, rfl⟩ := holds_done_iff.mp h₂
      exact .inl ⟨a, by simpa using h₁, rfl⟩
    · exact .inr ⟨before, after, a, rfl, h₁, h₂⟩
  · rintro (⟨e, h, rfl⟩ | ⟨before, after, a, rfl, h₁, h₂⟩)
    · exact ⟨log, [], .error e, by simp, h, .done _⟩
    · exact ⟨before, after, .ok a, rfl, h₁, h₂⟩

theorem holds_bind_ok_iff {x : Attempt Q R ε α} {f : α → Attempt Q R ε β}
    {log : List (Exchange Q R)} {b : β} :
    Holds (x >>= f).run log (.ok b) ↔
      ∃ before after a, log = before ++ after ∧ Holds x.run before (.ok a) ∧
        Holds (f a).run after (.ok b) := by
  rw [holds_bind_iff]
  constructor
  · rintro (⟨e, -, herror⟩ | h)
    · cases herror
    · exact h
  · exact .inr

/-- A last step that asks nothing changes the result only. -/
theorem holds_map_iff {x : Attempt Q R ε α} {f : α → β} {log : List (Exchange Q R)}
    {o : Except ε β} : Holds (x >>= fun a => pure (f a) : Attempt Q R ε β).run log o ↔
      ∃ o', Holds x.run log o' ∧ o = o'.map f := by
  rw [holds_bind_iff]
  constructor
  · rintro (⟨e, hx, rfl⟩ | ⟨before, after, a, rfl, hx, hafter⟩)
    · exact ⟨.error e, hx, rfl⟩
    · obtain ⟨rfl, rfl⟩ := holds_done_iff.mp hafter
      rw [List.append_nil]
      exact ⟨.ok a, hx, rfl⟩
  · rintro ⟨o', hx, rfl⟩
    cases o' with
    | ok a => exact .inr ⟨log, [], a, (List.append_nil log).symm, hx, .done _⟩
    | error e => exact .inl ⟨e, hx, rfl⟩

/-- What an outcome has to meet: a failure has to be `refused`, a result as `post` says. -/
def Meets (refused : ε → Prop) (post : α → Prop) : Except ε α → Prop
  | .ok a => post a
  | .error e => refused e

/-- With replies that are `allowed`, every outcome of an attempt meets its conditions. -/
def Ends (allowed : (q : Q) → R q → Prop) (refused : ε → Prop) (post : α → Prop)
    (x : Attempt Q R ε α) : Prop := x.run.Ends allowed (Meets refused post)

theorem Ends.pure {post : α → Prop} {a : α} (h : post a) :
    Ends allowed refused post (pure a : Attempt Q R ε α) := h

theorem Ends.throw {post : α → Prop} {e : ε} (h : refused e) :
    Ends allowed refused post (throw e : Attempt Q R ε α) := h

theorem Ends.mono {post post' : α → Prop} {x : Attempt Q R ε α}
    (h : Ends allowed refused post x) (himp : ∀ a, post a → post' a) :
    Ends allowed refused post' x :=
  Dialogue.Ends.mono h fun o ho => by
    cases o with
    | ok a => exact himp a ho
    | error e => exact ho

theorem Ends.bind {mid : α → Prop} {post : β → Prop} {x : Attempt Q R ε α}
    {f : α → Attempt Q R ε β} (h : Ends allowed refused mid x)
    (hf : ∀ a, mid a → Ends allowed refused post (f a)) :
    Ends allowed refused post (x >>= f) := by
  show Dialogue.Ends allowed _ (x >>= f).run
  rw [ExceptT.run_bind]
  refine Dialogue.Ends.bind h fun o ho => ?_
  cases o with
  | ok a => exact hf a ho
  | error e => exact ho

/-- A first part of which nothing is asked. -/
theorem Ends.bind_any {post : β → Prop} {x : Attempt Q R ε α} {f : α → Attempt Q R ε β}
    (h : Ends allowed refused (fun _ => True) x) (hf : ∀ a, Ends allowed refused post (f a)) :
    Ends allowed refused post (x >>= f) :=
  h.bind fun a _ => hf a

/-- Where any failure will do, the result of an attempt depends on its last part only. -/
theorem Ends.bind_last {post : β → Prop} {x : Attempt Q R ε α} {f : α → Attempt Q R ε β}
    (hf : ∀ a, Ends allowed (fun _ => True) post (f a)) :
    Ends allowed (fun _ => True) post (x >>= f) := by
  refine Ends.bind_any (Dialogue.Ends.of_forall (fun o => ?_) _) hf
  cases o <;> trivial

theorem Ends.of_holds {post : α → Prop} {x : Attempt Q R ε α} {log : List (Exchange Q R)}
    {o : Except ε α} (h : Ends allowed refused post x) (hx : Holds x.run log o)
    (hlog : ∀ x ∈ log, allowed x.question x.reply) : Meets refused post o :=
  Dialogue.Ends.of_holds h hx hlog

/-- With replies that are `allowed`, an attempt asks nothing but what it `may`, and succeeds as
`post` says. -/
structure Succeeds (allowed : (q : Q) → R q → Prop) (may : Q → Prop) (post : α → Prop)
    (x : Attempt Q R ε α) : Prop where
  poses : x.run.Poses allowed may
  ends : Ends allowed (fun _ => False) post x

theorem Succeeds.pure {post : α → Prop} {a : α} (h : post a) :
    Succeeds allowed may post (pure a : Attempt Q R ε α) := ⟨trivial, h⟩

theorem Succeeds.bind {mid : α → Prop} {post : β → Prop} {x : Attempt Q R ε α}
    {f : α → Attempt Q R ε β} (h : Succeeds allowed may mid x)
    (hf : ∀ a, mid a → Succeeds allowed may post (f a)) :
    Succeeds allowed may post (x >>= f) := by
  refine ⟨?_, h.ends.bind fun a ha => (hf a ha).ends⟩
  rw [ExceptT.run_bind]
  refine h.poses.bind h.ends fun o ho => ?_
  cases o with
  | ok a => exact (hf a ho).poses
  | error e => exact ho.elim

theorem Succeeds.of_holds {post : α → Prop} {x : Attempt Q R ε α} {log : List (Exchange Q R)}
    {o : Except ε α} (h : Succeeds allowed may post x) (hx : Holds x.run log o)
    (hlog : ∀ x ∈ log, allowed x.question x.reply) :
    (∃ a, o = .ok a ∧ post a) ∧ ∀ x ∈ log, may x.question := by
  refine ⟨?_, h.poses.of_holds hx hlog⟩
  have hmeets := h.ends.of_holds hx hlog
  cases o with
  | ok a => exact ⟨a, rfl, hmeets⟩
  | error e => exact hmeets.elim

end MailSync.Attempt

/-! ## Work that may fail -/

namespace MailSync

open Dialogue

/-- Every question of a worker has a reply, so work comes to an end. -/
theorem Work.exists_holds {α : Type} (d : Work α) : ∃ log a, Holds d log a := by
  have replies : ∀ q : Request, ∃ _ : q.Reply, True := fun q => by
    cases q with
    | outside call => exact ⟨.error default, trivial⟩
    | inside call => cases call with
      | emit _ | publish _ | release _ => exact ⟨(), trivial⟩
      | isCancelled | isForeground => exact ⟨false, trivial⟩
  obtain ⟨log, a, h, -⟩ := Dialogue.exists_holds replies d
  exact ⟨log, a, h⟩

namespace Trial

variable {allowed : (q : Request) → q.Reply → Prop} {refused : MailError → Prop}

theorem holds_outside_iff {c : OutsideCall} {log : List (Exchange Request Request.Reply)}
    {o : c.Reply} : Holds (Trial.outside c).run log o ↔ log = [⟨.outside c, o⟩] :=
  holds_call_iff (q := Request.outside c)

/-- Work that goes on only if a call succeeds. -/
theorem holds_outside_bind_ok_iff {α : Type} {c : OutsideCall} {f : c.Value → Trial α}
    {log : List (Exchange Request Request.Reply)} {a : α} :
    Holds (Trial.outside c >>= f).run log (.ok a) ↔
      ∃ (v : c.Value) (rest : List (Exchange Request Request.Reply)),
        log = ⟨.outside c, .ok v⟩ :: rest ∧ Holds (f v).run rest (.ok a) := by
  rw [Attempt.holds_bind_ok_iff]
  constructor
  · rintro ⟨before, rest, v, rfl, hcall, h⟩
    obtain rfl := holds_outside_iff.mp hcall
    exact ⟨v, rest, rfl, h⟩
  · rintro ⟨v, rest, rfl, h⟩
    exact ⟨[_], rest, v, rfl, holds_outside_iff.mpr rfl, h⟩

/-- A call that is answered is one exchange, and the work goes on with the answer. -/
theorem holds_answered {α : Type} {c : OutsideCall} {P : c.Value → Prop} {f : c.Value → Trial α}
    {log : List (Exchange Request Request.Reply)} {o : Except MailError α}
    (hanswer : ∀ reply : c.Reply, allowed (.outside c) reply → ∃ v, reply = .ok v ∧ P v)
    (hlog : ∀ x ∈ log, allowed x.question x.reply) (h : Holds (Trial.outside c >>= f).run log o) :
    ∃ (v : c.Value) (rest : List (Exchange Request Request.Reply)),
      log = ⟨.outside c, .ok v⟩ :: rest ∧ P v ∧ (∀ x ∈ rest, allowed x.question x.reply) ∧
        Holds (f v).run rest o := by
  rcases Attempt.holds_bind_iff.mp h with ⟨e, hcall, -⟩ | ⟨before, rest, v, rfl, hcall, hrest⟩
  · obtain rfl := holds_outside_iff.mp hcall
    obtain ⟨v, hv, -⟩ := hanswer _ (hlog _ List.mem_cons_self)
    cases hv
  · obtain rfl := holds_outside_iff.mp hcall
    obtain ⟨hfirst, hrestlog⟩ := List.forall_mem_cons.mp hlog
    obtain ⟨v', hv, hpost⟩ := hanswer _ hfirst
    obtain rfl := Except.ok.inj hv
    exact ⟨v, rest, rfl, hpost, hrestlog, hrest⟩

theorem holds_pure_ok_iff {α : Type} {log : List (Exchange Request Request.Reply)} {a b : α} :
    Holds (pure a : Trial α).run log (.ok b) ↔ log = [] ∧ b = a := by
  rw [ExceptT.run_pure, holds_pure_iff, Except.ok.injEq]

/-- Work that ends with what it makes of one reply. -/
theorem holds_outside_last_iff {α : Type} {c : OutsideCall} {f : c.Value → α}
    {log : List (Exchange Request Request.Reply)} {a : α} :
    Holds (Trial.outside c >>= fun v => pure (f v)).run log (.ok a) ↔
      ∃ v : c.Value, log = [⟨.outside c, .ok v⟩] ∧ a = f v := by
  rw [holds_outside_bind_ok_iff]
  constructor
  · rintro ⟨v, rest, rfl, h⟩
    obtain ⟨rfl, rfl⟩ := holds_pure_ok_iff.mp h
    exact ⟨v, rfl, rfl⟩
  · rintro ⟨v, rfl, rfl⟩
    exact ⟨v, [], rfl, holds_pure_ok_iff.mpr ⟨rfl, rfl⟩⟩

/-- A call to the outside ends with its reply. -/
theorem ends_outside {c : OutsideCall} {post : c.Value → Prop}
    (h : ∀ reply : c.Reply, allowed (.outside c) reply → Attempt.Meets refused post reply) :
    Attempt.Ends allowed refused post (Trial.outside c) := h

/-- A call to the outside that may be made and does not fail. -/
theorem succeeds_outside {may : Request → Prop} {c : OutsideCall} {post : c.Value → Prop}
    (hmay : may (.outside c))
    (h : ∀ reply : c.Reply, allowed (.outside c) reply → ∃ value, reply = .ok value ∧ post value) :
    Attempt.Succeeds allowed may post (Trial.outside c) :=
  ⟨⟨hmay, fun _ _ => trivial⟩, ends_outside fun reply hreply => by
    obtain ⟨value, rfl, hvalue⟩ := h reply hreply
    exact hvalue⟩

theorem ends_inside {c : InsideCall} {post : c.Reply → Prop}
    (h : ∀ reply : c.Reply, allowed (.inside c) reply → post reply) :
    Attempt.Ends allowed refused post (ExceptT.lift (Work.inside c)) := h

/-- A question to the engine that may be asked; it cannot fail. -/
theorem succeeds_inside {may : Request → Prop} {c : InsideCall} (hmay : may (.inside c)) :
    Attempt.Succeeds allowed may (fun _ => True)
      (ExceptT.lift (Work.inside c) : Trial c.Reply) :=
  ⟨⟨hmay, fun _ _ => trivial⟩, ends_inside fun _ _ => trivial⟩

end Trial

end MailSync
