import Mathlib.Data.List.Forall2
import MailSync.Proofs.Engine.Life
import MailSync.Proofs.Turn

/-!
# How failures act on the session

A worker takes one turn after another, each with the connection that the one
before left (`Career`). What becomes of the session after a failure shows in
the turns that follow: `Turn.Handled` says it of one turn, `Career.handled`
of all turns of a career, and `Lived.handles_failures` of every run of the
engine, where a turn may still be going on (`Shows`).

A session is opened in those turns in the mailbox that find none, or a dead
one, and that obtain a token; `Career.connects` pairs these turns with the
connects.

The state of the connection is here the one that the worker itself publishes.
-/

namespace MailSync

open Dialogue Engine WorkLog

/-! ## Turn after turn -/

/-- Turns of a worker in a row, with the connection before the first and after the last. -/
inductive Career (p : Profile) : Connection → List Turn → Connection → Prop where
  | nil (c : Connection) : Career p c [] c
  | cons {u : Turn} {turns : List Turn} {c c' : Connection} (hbefore : u.before = c)
    (hu : u.Plays p) (h : Career p u.after turns c') : Career p c (u :: turns) c'

namespace Turn

/-- All that is said in turns. -/
def spoken (turns : List Turn) : WorkLog := turns.flatMap log

def chapter (u : Turn) : Chapter := ⟨some u.task, u.log⟩

@[simp] theorem spoken_nil : spoken [] = [] := rfl

@[simp] theorem spoken_cons (u : Turn) (turns : List Turn) :
    spoken (u :: turns) = u.log ++ spoken turns := List.flatMap_cons

@[simp] theorem spoken_append (turns turns' : List Turn) :
    spoken (turns ++ turns') = spoken turns ++ spoken turns' := List.flatMap_append

theorem spoken_chapters (turns : List Turn) : Life.spoken (turns.map chapter) = spoken turns :=
  List.flatMap_map ..

/-- What is promised of a turn, with what its worker said in the `past` and the turns it takes
`later`. -/
structure Handled (p : Profile) (past : WorkLog) (u : Turn) (later : List Turn) : Prop where
  /-- The session at the start, when the outcome arises, and at the end is the one that was opened
  and not given up, and the state that is published fits it. -/
  before : Connection.Settled past u.before
  held : Connection.Settled (past ++ u.upToOutcome) u.held
  after : Connection.Settled (past ++ u.log) u.after
  /-- Once the outcome is there, nothing more is asked of the outside. -/
  settles : ∀ x ∈ u.settled, x.question.IsInside
  /-- A failed login leaves no session. -/
  dropped : ∀ e, u.outcome = .error e → e.kind = .auth →
    u.after = .closed ∧ published (past ++ u.log) ≠ .connected
  /-- After it the next task in the mailbox logs in before it asks anything of a session. -/
  fresh : ∀ e, u.outcome = .error e → e.kind = .auth → ∀ sends v rest,
    later = sends ++ v :: rest → (∀ w ∈ sends, w.task.kind.needsMailbox = false) →
      v.task.kind.needsMailbox = true →
        (calls v.log = [] ∧ stopped v.log = true) ∨ Connection.LogsIn p.email (calls v.log)
  /-- After any other failure the session is the one that was held when it arose. -/
  kept : ∀ e, u.outcome = .error e → e.kind ≠ .auth →
    u.after = u.held ∧ (∀ x ∈ u.settled, x.question.LeavesSession) ∧
      published (past ++ u.log) = published (past ++ u.upToOutcome)
  /-- The next task, if it is in the mailbox, probes this session first. -/
  probed : ∀ e, u.outcome = .error e → e.kind ≠ .auth → ∀ s v rest,
    u.held.session = some s → later = v :: rest → v.task.kind.needsMailbox = true →
      (calls v.log = [] ∧ stopped v.log = true) ∨
        Connection.Reaches p.email ⟨some s⟩ (calls v.log)
  /-- A submission has nothing to do with the session, unless its login fails. -/
  submitted : u.task.kind.needsMailbox = false →
    (∀ x ∈ u.performed, x.question.IsSubmission) ∧
      ((u.after = u.before ∧ ∀ x ∈ u.settled, x.question.LeavesSession) ∨
        (u.after = .closed ∧ ∃ e, u.outcome = .error e ∧ e.kind = .auth))

end Turn

namespace Career

variable {p : Profile} {c c' : Connection} {turns turns' : List Turn} {u : Turn} {past : WorkLog}

theorem append (h : Career p c turns c') {c'' : Connection} (h' : Career p c' turns' c'') :
    Career p c (turns ++ turns') c'' := by
  induction h with
  | nil => exact h'
  | cons hbefore hu _ ih => exact .cons hbefore hu (ih h')

theorem cons_inv (h : Career p c (u :: turns) c') :
    u.before = c ∧ u.Plays p ∧ Career p u.after turns c' := by
  cases h with
  | cons hbefore hu h => exact ⟨hbefore, hu, h⟩

theorem split (h : Career p c (turns ++ turns') c') :
    ∃ mid, Career p c turns mid ∧ Career p mid turns' c' := by
  induction turns generalizing c with
  | nil => exact ⟨c, .nil c, h⟩
  | cons u turns ih =>
      obtain ⟨hbefore, hu, hrest⟩ := h.cons_inv
      obtain ⟨mid, hturns, hturns'⟩ := ih hrest
      exact ⟨mid, .cons hbefore hu hturns, hturns'⟩

theorem settled (h : Career p c turns c') (hc : Connection.Settled past c) :
    Connection.Settled (past ++ Turn.spoken turns) c' := by
  induction h generalizing past with
  | nil => rwa [Turn.spoken_nil, List.append_nil]
  | cons hbefore hu _ ih =>
      subst hbefore
      rw [Turn.spoken_cons, ← List.append_assoc]
      exact ih (hu.settled_after hc)

/-- Submissions open no session. -/
theorem closed_of_sends (h : Career p .closed turns c)
    (hsends : ∀ u ∈ turns, u.task.kind.needsMailbox = false) : c = .closed := by
  induction turns with
  | nil =>
      cases h
      rfl
  | cons u turns ih =>
      rw [List.forall_mem_cons] at hsends
      obtain ⟨hbefore, hu, hrest⟩ := h.cons_inv
      have hafter : u.after = .closed := by
        rcases hu.after_cases with ⟨hafter, -⟩ | ⟨hafter, -⟩
        · exact hafter
        · rw [hafter, (hu.submits hsends.1).2, hbefore]
      rw [hafter] at hrest
      exact ih hrest hsends.2

theorem handled (h : Career p .closed turns c) {earlier later : List Turn}
    (hturns : turns = earlier ++ u :: later) : u.Handled p (Turn.spoken earlier) later := by
  subst hturns
  obtain ⟨mid, hearlier, hrest⟩ := h.split
  obtain ⟨rfl, hu, hlater⟩ := hrest.cons_inv
  have hnew : Connection.Settled [] .closed := ⟨by decide, by decide, rfl⟩
  have hbefore : Connection.Settled (Turn.spoken earlier) u.before := hearlier.settled hnew
  have hafter := hu.settled_after hbefore
  constructor
  case before => exact hbefore
  case held => exact hu.settled_held hbefore
  case after => exact hafter
  case settles => exact hu.settles_inside
  case dropped =>
    intro e he hkind
    rcases hu.after_cases with ⟨hclosed, -⟩ | ⟨-, hother, -⟩
    · refine ⟨hclosed, fun hconnected => ?_⟩
      rw [hafter.connected_iff, hclosed] at hconnected
      cases hconnected
    · exact absurd hkind (hother e he)
  case fresh =>
    rintro e he hkind sends v rest rfl hsends hmailbox
    rcases hu.after_cases with ⟨hclosed, -⟩ | ⟨-, hother, -⟩
    · rw [hclosed] at hlater
      obtain ⟨mid, hsent, hv⟩ := hlater.split
      obtain ⟨rfl, hv, -⟩ := hv.cons_inv
      refine (hv.reaches hmailbox).imp_right fun hreaches => ?_
      rw [hsent.closed_of_sends hsends] at hreaches
      cases hreaches with
      | fresh hlogin => exact hlogin
    · exact absurd hkind (hother e he)
  case kept =>
    intro e he hkind
    rcases hu.after_cases with ⟨-, e', he', hauth⟩ | ⟨hkept, -, hleaves⟩
    · cases he.symm.trans he'
      exact absurd hauth hkind
    · refine ⟨hkept, hleaves, ?_⟩
      rw [Turn.log, ← List.append_assoc]
      exact published_append_of_nil (seen_of_leavesSession hleaves).1
  case probed =>
    rintro e he hkind s v rest hs rfl hmailbox
    obtain ⟨hv, hplays, -⟩ := hlater.cons_inv
    rcases hu.after_cases with ⟨-, e', he', hauth⟩ | ⟨hkept, -, -⟩
    · cases he.symm.trans he'
      exact absurd hauth hkind
    · have hheld : v.before = ⟨some s⟩ := by
        rw [hv, hkept, ← hs]
      rw [← hheld]
      exact hplays.reaches hmailbox
  case submitted =>
    intro hsend
    obtain ⟨hsubmits, hheld⟩ := hu.submits hsend
    refine ⟨hsubmits, ?_⟩
    rcases hu.after_cases with hdropped | ⟨hkept, -, hleaves⟩
    · exact .inr hdropped
    · exact .inl ⟨hkept.trans hheld, hleaves⟩

/-- Turns and connects, one for one. -/
theorem connects (h : Career p c turns c') : List.Forall₂ (fun u connect =>
    connects u.log = [connect] ∧ ∃ token reply, connect = (p.email, token, reply) ∧
      .ok token ∈ tokens u.log) (turns.filter (·.reconnects)) (connects (Turn.spoken turns)) := by
  induction h with
  | nil => exact .nil
  | @cons u turns c c' _ hu _ ih =>
      rw [Turn.spoken_cons, connects_append]
      rcases hu.connects_log with ⟨hnone, hreconnects⟩ | ⟨⟨token, reply, hone, htoken⟩, hreconnects⟩
      · rw [hnone, List.filter_cons_of_neg (by simp [hreconnects])]
        exact ih
      · rw [hone, List.filter_cons_of_pos hreconnects]
        exact .cons ⟨hone, token, reply, rfl, htoken⟩ ih

end Career

/-! ## Runs -/

/-- What a life shows of the turns of its worker, by the phase the worker is in: a turn that is
going on is shown up to where it is, and the closing of the connection follows the last turn. -/
inductive Shows : Option Phase → Life → List Turn → Connection → Prop where
  | unborn : Shows none [] [] .closed
  | waiting : Shows (some .waiting) [] [] .closed
  | idle (turns : List Turn) (c : Connection) :
    Shows (some (.idle c)) (turns.map Turn.chapter) turns c
  | working (turns : List Turn) (u : Turn) {log : WorkLog} (rest : Work Connection)
    (hlog : log <+: u.log) : Shows (some (.working u.task rest))
      (turns.map Turn.chapter ++ [⟨some u.task, log⟩]) (turns ++ [u]) u.after
  | leaving (turns : List Turn) {c c' : Connection} {log closing : WorkLog}
    (rest : Work Connection) (hclosing : Holds c.disconnect closing c') (hlog : log <+: closing) :
    Shows (some (.leaving rest)) (turns.map Turn.chapter ++ [⟨none, log⟩]) turns c
  | finished (turns : List Turn) {c c' : Connection} {log : WorkLog}
    (hlog : Holds c.disconnect log c') :
    Shows (some .finished) (turns.map Turn.chapter ++ [⟨none, log⟩]) turns c

variable {p : Profile} {id : WorkerId} {e : Engine} {life : Life} {c : Connection}

theorem Service.career (h : Service p life c) :
    ∃ turns, Career p .closed turns c ∧ life = turns.map Turn.chapter := by
  induction h with
  | begins => exact ⟨[], .nil _, rfl⟩
  | task _ hlog ih =>
      obtain ⟨turns, hturns, rfl⟩ := ih
      obtain ⟨u, hu, rfl, rfl, rfl, rfl⟩ := Worker.process_turn hlog
      refine ⟨turns ++ [u], hturns.append (.cons rfl hu (.nil _)), ?_⟩
      rw [List.map_append]
      rfl

theorem Living.career {phase : Option Phase} (h : Living p phase life) :
    ∃ turns c, Career p .closed turns c ∧ Shows phase life turns c := by
  cases h with
  | unborn => exact ⟨[], _, .nil _, .unborn⟩
  | waiting => exact ⟨[], _, .nil _, .waiting⟩
  | idle h =>
      obtain ⟨turns, hturns, rfl⟩ := h.career
      exact ⟨turns, _, hturns, .idle turns _⟩
  -- What was begun can be brought to some end, and is the first part of that turn.
  | @working _ c t log rest h hleads =>
      obtain ⟨turns, hturns, rfl⟩ := h.career
      obtain ⟨later, c', hlater⟩ := Work.exists_holds rest
      obtain ⟨u, hu, rfl, rfl, hlog, rfl⟩ := Worker.process_turn (hleads.append hlater)
      refine ⟨turns ++ [u], _, hturns.append (.cons rfl hu (.nil _)), .working turns u rest ?_⟩
      rw [hlog]
      exact List.prefix_append log later
  | @leaving _ c log rest h hleads =>
      obtain ⟨turns, hturns, rfl⟩ := h.career
      obtain ⟨later, c', hlater⟩ := Work.exists_holds rest
      exact ⟨turns, c, hturns, .leaving turns rest (hleads.append hlater)
        (List.prefix_append log later)⟩
  | finished h hlog =>
      obtain ⟨turns, hturns, rfl⟩ := h.career
      exact ⟨turns, _, hturns, .finished turns hlog⟩

/-- The connects of a life are those of its turns, as far as it shows them. -/
theorem Shows.connects_spoken {phase : Option Phase} {turns : List Turn}
    (h : Shows phase life turns c) :
    connects life.spoken <+: connects (Turn.spoken turns) ∧
      ((∀ t rest, phase ≠ some (.working t rest)) →
        connects life.spoken = connects (Turn.spoken turns)) := by
  -- Nothing is opened while the connection is closed.
  have hclosing : ∀ {c c' : Connection} {log closing : WorkLog}, Holds c.disconnect closing c' →
      log <+: closing → connects log = [] := by
    intro c c' log closing hclosing hlog
    have hprefix : connects log <+: connects closing := hlog.filterMap _
    obtain ⟨-, ⟨-, rfl⟩ | ⟨id, reply, -, rfl⟩⟩ := Connection.disconnect_log hclosing
    · exact List.prefix_nil.mp hprefix
    · exact List.prefix_nil.mp hprefix
  have hspoken : ∀ (turns : List Turn) (ch : Chapter),
      Life.spoken (turns.map Turn.chapter ++ [ch]) = Turn.spoken turns ++ ch.log := by
    intro turns ch
    rw [Life.spoken_append, Turn.spoken_chapters, Life.spoken, List.flatMap_singleton]
  cases h with
  | unborn | waiting => exact ⟨List.prefix_rfl, fun _ => rfl⟩
  | idle => rw [Turn.spoken_chapters]; exact ⟨List.prefix_rfl, fun _ => rfl⟩
  | working turns u rest hlog =>
      refine ⟨?_, fun hworking => absurd rfl (hworking u.task rest)⟩
      rw [hspoken, Turn.spoken_append, connects_append, connects_append]
      refine (List.prefix_append_right_inj _).mpr ?_
      rw [Turn.spoken_cons, Turn.spoken_nil, List.append_nil]
      exact hlog.filterMap _
  | leaving turns rest h hlog =>
      rw [hspoken, connects_append, hclosing h hlog, List.append_nil]
      exact ⟨List.prefix_rfl, fun _ => rfl⟩
  | finished turns h =>
      rw [hspoken, connects_append, hclosing h List.prefix_rfl, List.append_nil]
      exact ⟨List.prefix_rfl, fun _ => rfl⟩

/-- What is promised of a worker, by its phase and its life. -/
structure Steady (p : Profile) (phase : Option Phase) (life : Life) (turns : List Turn)
    (c : Connection) : Prop where
  career : Career p .closed turns c
  shows : Shows phase life turns c
  handled : ∀ earlier u later, turns = earlier ++ u :: later →
    u.Handled p (Turn.spoken earlier) later
  /-- The turns that find no session, or a dead one, and obtain a token, and the connects, one for
  one: each such turn connects once, with the token it obtained. -/
  paired : List.Forall₂ (fun u connect => connects u.log = [connect] ∧
      ∃ token reply, connect = (p.email, token, reply) ∧ .ok token ∈ tokens u.log)
    (turns.filter (·.reconnects)) (connects (Turn.spoken turns))
  /-- The worker has made these connects, but for those of a turn that is going on. -/
  connected : connects life.spoken <+: connects (Turn.spoken turns) ∧
    ((∀ t rest, phase ≠ some (.working t rest)) →
      connects life.spoken = connects (Turn.spoken turns))

/-- Whatever the surroundings reply and whatever else happens: a task that fails at the login
leaves no session, and the next one in the mailbox logs in; every other failure leaves the session
that was held, and the next task in the mailbox probes it. -/
theorem Lived.handles_failures (h : Lived p id e life) :
    ∃ turns c, Steady p (e.phase? id) life turns c := by
  obtain ⟨turns, c, hcareer, hshows⟩ := h.living.2.career
  exact ⟨turns, c, hcareer, hshows, fun _ _ _ => hcareer.handled, hcareer.connects,
    hshows.connects_spoken⟩

/-- The password is changed while a session is open: the session refuses the first task, a message
is sent meanwhile, and the next task in the mailbox logs in anew. -/
theorem Lived.handles_failures_revoked : ∃ e life, Lived ⟨"me", .default⟩ 0 e life ∧
    e.phase? 0 = some (.idle ⟨some 8⟩) ∧
    connects life.spoken = [("me", "old", .ok 7), ("me", "new", .ok 8)] ∧
    released life.spoken = [7] ∧
    ∃ turns c, Steady ⟨"me", .default⟩ (e.phase? 0) life turns c := by
  have first : Lived ⟨"me", .default⟩ 0 _ _ :=
    .next (a := .call (.enqueue ⟨⟨"ui", 1⟩, .loadDetails .inbox 1⟩)) .fresh rfl
  have second := Lived.next (a := .call (.enqueue ⟨⟨"ui", 2⟩, .send []⟩)) first rfl
  have third := Lived.next (a := .call (.enqueue ⟨⟨"ui", 3⟩, .updateLabels⟩)) second rfl
  have started := Lived.next (a := .call (.start false)) third rfl
  have begun := Lived.next (a := .move (.begin 0)) started rfl
  have taken := Lived.next (a := .move (.take 0)) begun rfl
  have noted := Lived.next (a := .move (.tell 0)) taken rfl
  have checked := Lived.next (a := .move (.tell 0)) noted rfl
  have noticed := Lived.next (a := .move (.tell 0)) checked rfl
  have connecting := Lived.next (a := .move (.tell 0)) noticed rfl
  have given := Lived.next (a := .move (.answer 0 .token (.ok "old"))) connecting rfl
  have opened := Lived.next (a := .move (.answer 0 (.connect "me" "old") (.ok 7))) given rfl
  have connected := Lived.next (a := .move (.tell 0)) opened rfl
  have told := Lived.next (a := .move (.tell 0)) connected rfl
  have checked₁ := Lived.next (a := .move (.tell 0)) told rfl
  have refused := Lived.next
    (a := .move (.answer 0 (.session 7 (.select "INBOX")) (.error (.auth "revoked")))) checked₁ rfl
  have released := Lived.next (a := .move (.tell 0)) refused rfl
  have closed := Lived.next (a := .move (.tell 0)) released rfl
  have failed := Lived.next (a := .move (.tell 0)) closed rfl
  have idle := Lived.next (a := .move (.finish 0)) failed rfl
  have taken₁ := Lived.next (a := .move (.take 0)) idle rfl
  have noted₁ := Lived.next (a := .move (.tell 0)) taken₁ rfl
  have given₁ := Lived.next (a := .move (.answer 0 .token (.ok "new"))) noted₁ rfl
  have checked₂ := Lived.next (a := .move (.tell 0)) given₁ rfl
  have sent := Lived.next (a := .move (.answer 0 (.send "me" "new" []) (.ok ()))) checked₂ rfl
  have reported := Lived.next (a := .move (.tell 0)) sent rfl
  have completed := Lived.next (a := .move (.tell 0)) reported rfl
  have idle₁ := Lived.next (a := .move (.finish 0)) completed rfl
  have taken₂ := Lived.next (a := .move (.take 0)) idle₁ rfl
  have noted₂ := Lived.next (a := .move (.tell 0)) taken₂ rfl
  have checked₃ := Lived.next (a := .move (.tell 0)) noted₂ rfl
  have noticed₁ := Lived.next (a := .move (.tell 0)) checked₃ rfl
  have connecting₁ := Lived.next (a := .move (.tell 0)) noticed₁ rfl
  have given₂ := Lived.next (a := .move (.answer 0 .token (.ok "new"))) connecting₁ rfl
  have opened₁ := Lived.next (a := .move (.answer 0 (.connect "me" "new") (.ok 8))) given₂ rfl
  have connected₁ := Lived.next (a := .move (.tell 0)) opened₁ rfl
  have told₁ := Lived.next (a := .move (.tell 0)) connected₁ rfl
  have checked₄ := Lived.next (a := .move (.tell 0)) told₁ rfl
  have listed := Lived.next (a := .move (.answer 0 (.session 8 .listFolders) (.ok []))) checked₄ rfl
  have reported₁ := Lived.next (a := .move (.tell 0)) listed rfl
  have completed₁ := Lived.next (a := .move (.tell 0)) reported₁ rfl
  have idle₂ := Lived.next (a := .move (.finish 0)) completed₁ rfl
  exact ⟨_, _, idle₂, rfl, rfl, rfl, Lived.handles_failures idle₂⟩

end MailSync
