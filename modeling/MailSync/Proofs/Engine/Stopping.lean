import MailSync.Proofs.Cancellation
import MailSync.Proofs.Engine.Life
import MailSync.Proofs.Engine.Telling

/-!
# What a worker does once it is to stop

A worker that was told to stop goes on with what it is at and then closes its
connection, whatever else happens: `Phase.remaining` is one dialogue, and all
that the worker says from then on is a part of it (`Lives.sequel`). So what
it still asks of the outside is what is left of its task, by the looks that
the task took (`Task.Late`), and one logout (`Lived.winds_up`).
-/

namespace MailSync

open Dialogue Engine WorkLog

/-- The call to the outside that is asked first. -/
def Work.pending? {α : Type} : Work α → Option OutsideCall
  | .ask q _ => q.call?
  | .done _ => none

/-- Closes a connection for good. -/
def Connection.leave (c : Connection) : Work Unit := do
  let _ ← c.disconnect
  return ()

namespace Phase

/-- All that a worker does from here on if it is to stop. -/
def remaining : Phase → Work Unit
  | waiting => Connection.closed.leave
  | idle c => c.leave
  | working _ rest => rest >>= Connection.leave
  | leaving rest => do
    let _ ← rest
    return ()
  | finished => pure ()

/-- The call to the outside that a worker waits for. -/
def pending? : Phase → Option OutsideCall
  | working _ rest | leaving rest => rest.pending?
  | waiting | idle _ | finished => none

end Phase

/-- The calls that a worker began, in order; the last one may not have been answered. -/
def Life.begun (life : Life) (phase : Phase) : List OutsideCall :=
  asked life.spoken ++ phase.pending?.toList

/-- The tasks that a worker took, in order. -/
def Life.tasks (life : Life) : List Task := life.filterMap (·.task)

/-- `Lives id e₀ life₀ e life`: what happens after `e₀`, with the life of one worker. -/
inductive Lives (id : WorkerId) (e₀ : Engine) (life₀ : Life) : Engine → Life → Prop where
  | here : Lives id e₀ life₀ e₀ life₀
  | next {e e' : Engine} {life : Life} {a : Action} (h : Lives id e₀ life₀ e life)
    (hact : e.act a = some e') : Lives id e₀ life₀ e' (life.record id e a)

/-- What a worker that is to stop said between two moments, and what it is at. -/
structure Sequel (phase₀ : Phase) (life₀ : Life) (phase : Phase) (life : Life) (log : WorkLog) :
    Prop where
  spoken : life.spoken = life₀.spoken ++ log
  tasks : life.tasks = life₀.tasks
  unpassed : Unpassed log
  leads : Leads phase₀.remaining log phase.remaining
  /-- A call is not given up. -/
  pending : log = [] → ∀ call, phase₀.pending? = some call → phase.pending? = some call

namespace Sequel

variable {phase₀ phase phase' : Phase} {life₀ life life' : Life} {log log' : WorkLog}

theorem refl (phase : Phase) (life : Life) : Sequel phase life phase life [] :=
  ⟨(List.append_nil _).symm, rfl, nofun, .here _, fun _ _ => id⟩

theorem trans (h : Sequel phase₀ life₀ phase life log) (h' : Sequel phase life phase' life' log') :
    Sequel phase₀ life₀ phase' life' (log ++ log') where
  spoken := by rw [h'.spoken, h.spoken, List.append_assoc]
  tasks := h'.tasks.trans h.tasks
  unpassed := List.forall_mem_append.mpr ⟨h.unpassed, h'.unpassed⟩
  leads := h.leads.trans h'.leads
  pending hnil call hcall := by
    obtain ⟨hlog, hlog'⟩ := List.append_eq_nil_iff.mp hnil
    exact h'.pending hlog' call (h.pending hlog call hcall)

/-- A worker goes on without a word. -/
theorem silent (hspoken : life'.spoken = life.spoken) (htasks : life'.tasks = life.tasks)
    (hremaining : phase'.remaining = phase.remaining) (hpending : phase.pending? = none) :
    Sequel phase life phase' life' [] where
  spoken := by rw [hspoken, List.append_nil]
  tasks := htasks
  unpassed := nofun
  leads := hremaining ▸ .here _
  pending _ call hcall := by
    rw [hpending] at hcall
    cases hcall

/-- A worker goes on with a reply. -/
theorem said {x : Exchange Request Request.Reply} {next : x.question.Reply → Work Unit}
    {task : Option Task} {past : Life} {log : WorkLog} (hpass : isPass x = false)
    (hbefore : phase.remaining = .ask x.question next) (hafter : phase'.remaining = next x.reply) :
    Sequel phase (past ++ [⟨task, log⟩]) phase' (past ++ [⟨task, log ++ [x]⟩]) [x] where
  spoken := by simp [Life.spoken]
  tasks := by cases task <;> simp [Life.tasks]
  unpassed := List.forall_mem_singleton.mpr hpass
  leads := by
    rw [hbefore, hafter]
    exact .ask (.here _)
  pending := nofun

end Sequel

theorem Engine.Replies.isPass_eq_false {e : Engine} {w : Worker} {m : Move}
    {x : Exchange Request Request.Reply} {board : Board} (h : Replies e w m x board)
    (hstopped : w.cancelled = true) : isPass x = false := by
  cases h with
  | answer id call reply => rfl
  | tell id call =>
      cases call with
      | isCancelled =>
          rw [Board.answer, hstopped]
          rfl
      | emit _ | publish _ | release _ | isForeground => rfl

/-- What a worker that is to stop does in one move. -/
theorem Engine.Moved.sequel {p : Profile} {e : Engine} {w : Worker} {m : Move} {phase : Phase}
    {board : Board} {queue : List Task} {life : Life} (h : Moved e w m phase board queue)
    (hw : e.workers[m.worker]? = some w) (hstopped : w.cancelled = true)
    (hliving : Living p (some w.phase) life) :
    ∃ log, Sequel w.phase life phase (life.recordMove e m) log := by
  obtain ⟨predecessor, cancelled, phase₀⟩ := w
  cases h with
  | begins _ hphase _ =>
      cases hphase
      exact ⟨[], .silent rfl rfl rfl rfl⟩
  | takes _ _ hactive _ => cases hstopped.symm.trans hactive
  | leaves _ hphase _ =>
      cases hphase
      refine ⟨[], .silent ?_ ?_ rfl rfl⟩
      · simp [Life.recordMove, Life.turn, Life.spoken]
      · simp [Life.recordMove, Life.turn, Life.tasks]
  | works hphase hreplies =>
      have hx := exchange?_of_replies hw (by rw [Worker.rest?, hphase]) hreplies
      cases hphase
      cases hliving with
      | working _ _ =>
          rw [Life.recordMove_of_replies hx hreplies, Life.say_concat]
          exact ⟨_, .said (hreplies.isPass_eq_false hstopped) rfl rfl⟩
  | closes hphase hreplies =>
      have hx := exchange?_of_replies hw (by rw [Worker.rest?, hphase]) hreplies
      cases hphase
      cases hliving with
      | leaving _ _ =>
          rw [Life.recordMove_of_replies hx hreplies, Life.say_concat]
          exact ⟨_, .said (hreplies.isPass_eq_false hstopped) rfl rfl⟩
  | finishes _ hphase | ends _ hphase =>
      cases hphase
      exact ⟨[], .silent rfl rfl rfl rfl⟩

variable {p : Profile} {id : WorkerId} {e₀ e : Engine} {life₀ life : Life} {phase₀ : Phase}

theorem Lived.lives (h₀ : Lived p id e₀ life₀) (h : Lives id e₀ life₀ e life) :
    Lived p id e life := by
  induction h with
  | here => exact h₀
  | next _ hact ih => exact .next ih hact

/-- All that a worker says once it is to stop is a part of what remains to it. -/
theorem Lives.sequel (h : Lives id e₀ life₀ e life) (h₀ : Lived p id e₀ life₀)
    (hstops : e₀.stops? id = some true) (hphase₀ : e₀.phase? id = some phase₀) :
    e.stops? id = some true ∧
      ∃ phase log, e.phase? id = some phase ∧ Sequel phase₀ life₀ phase life log := by
  induction h with
  | here => exact ⟨hstops, phase₀, [], hphase₀, .refl phase₀ life₀⟩
  | @next e e' life a hlives hact ih =>
      obtain ⟨hstops, phase, log, hphase, hsequel⟩ := ih
      cases a with
      | call c =>
          obtain rfl := Option.some.inj hact
          have hcalled := e.obey_called c
          refine ⟨hcalled.stops? hstops, phase, log, ?_, hsequel⟩
          obtain ⟨w, hw, rfl⟩ := Option.map_eq_some_iff.mp hphase
          obtain ⟨w', hw', hkept⟩ := hcalled.old hw
          rw [phase?_of_worker hw', hkept.phase]
      | move m =>
          obtain ⟨w, phase', board, queue, hw, hmoved, rfl⟩ := step_eq_some hact
          refine ⟨(stops?_put hw ..).trans hstops, ?_⟩
          rw [phase?_put hw]
          by_cases heq : id = m.worker
          · subst heq
            rw [phase?_of_worker hw] at hphase
            obtain rfl := Option.some.inj hphase
            have hcancelled : w.cancelled = true := by
              rw [Engine.stops?, hw, Option.map_some] at hstops
              exact Option.some.inj hstops
            have hliving := (h₀.lives hlives).living.2
            rw [phase?_of_worker hw] at hliving
            obtain ⟨log', hsequel'⟩ := hmoved.sequel hw hcancelled hliving
            rw [if_pos rfl, Life.record, if_pos rfl]
            exact ⟨phase', log ++ log', rfl, hsequel.trans hsequel'⟩
          · rw [if_neg heq, Life.record, if_neg (Ne.symm heq)]
            exact ⟨phase, log, hphase, hsequel⟩

/-! ## What is asked -/

/-- The first call of a conversation is the one that is asked first. -/
theorem Work.asked_eq {α : Type} {d : Work α} {a : α} {log : WorkLog} (h : Holds d log a) :
    asked log = d.pending?.toList ++ asked log.tail := by
  cases h with
  | done a => rfl
  | @ask q next r log a h =>
      show asked ([⟨q, r⟩] ++ log) = _
      rw [asked_append]
      cases q <;> rfl

theorem Phase.remaining_of_pending {phase : Phase} {call : OutsideCall}
    (h : phase.pending? = some call) : ∃ next, phase.remaining = .ask (.outside call) next := by
  cases phase with
  | waiting | idle _ | finished => cases h
  | working t rest | leaving rest =>
      cases rest with
      | done c => cases h
      | ask q next =>
          obtain rfl := Request.call?_eq_some_iff.mp h
          exact ⟨_, rfl⟩

/-- The connection is closed with one logout, if there is a session. -/
theorem Connection.leave_asked {c : Connection} {log : WorkLog} (h : Holds c.leave log ()) :
    asked log = [] ∨ ∃ s, asked log = [.session s .logout] := by
  obtain ⟨closed, rest, c', rfl, hclosed, hrest⟩ := holds_bind_iff.mp h
  obtain ⟨rfl, -⟩ := holds_pure_iff.mp hrest
  obtain ⟨-, ⟨-, rfl⟩ | ⟨id, reply, -, rfl⟩⟩ := Connection.disconnect_log hclosed
  · exact .inl rfl
  · exact .inr ⟨id, rfl⟩

/-- What a worker begins to ask of the outside after it was told to stop: `belated` at its task, and
`closing` to close its connection. -/
structure WindsUp (p : Profile) (phase₀ : Phase) (life₀ : Life) (belated closing : List OutsideCall) :
    Prop where
  logout : closing = [] ∨ ∃ s, closing = [.session s .logout]
  task : match phase₀ with
    | .working t _ => ∃ past said, life₀ = past ++ [⟨some t, said⟩] ∧ t.Late p said belated
    | .waiting | .idle _ => belated = []
    | .leaving _ | .finished => belated = [] ∧ closing = []

theorem WindsUp.of_prefix {belated closing belated' closing' : List OutsideCall}
    (h : WindsUp p phase₀ life₀ belated closing) (hbelated : belated' <+: belated)
    (hclosing : closing' <+: closing) : WindsUp p phase₀ life₀ belated' closing' := by
  obtain ⟨hlogout, htask⟩ := h
  refine ⟨?_, ?_⟩
  · rcases hlogout with rfl | ⟨s, rfl⟩
    · exact .inl (List.prefix_nil.mp hclosing)
    · rcases List.prefix_cons_iff.mp hclosing with rfl | ⟨rest, rfl, hrest⟩
      · exact .inl rfl
      · obtain rfl := List.prefix_nil.mp hrest
        exact .inr ⟨s, rfl⟩
  · cases phase₀ with
    | working t rest =>
        obtain ⟨past, said, hlife, hlate⟩ := htask
        exact ⟨past, said, hlife, hlate.sublist hbelated.sublist⟩
    | waiting | idle _ =>
        obtain rfl := htask
        exact List.prefix_nil.mp hbelated
    | leaving _ | finished =>
        obtain ⟨rfl, rfl⟩ := htask
        exact ⟨List.prefix_nil.mp hbelated, List.prefix_nil.mp hclosing⟩

theorem WindsUp.of_single {belated closing : List OutsideCall} {call : OutsideCall}
    (h : WindsUp p phase₀ life₀ belated closing) (hasked : belated ++ closing = [call])
    (hcall : ∀ s, call ≠ .session s .logout) : WindsUp p phase₀ life₀ [call] [] := by
  rcases h.logout with rfl | ⟨s, rfl⟩
  · rw [List.append_nil] at hasked
    rwa [hasked] at h
  · have hasked : belated ++ [.session s .logout] = [] ++ [call] := hasked
    obtain ⟨-, hlogout⟩ := List.append_inj' hasked rfl
    exact absurd (List.singleton_inj.mp hlogout).symm (hcall s)

/-- All that remains to a worker, if it is to stop, by where it is. -/
theorem Living.remains {total : WorkLog} (hliving : Living p (some phase₀) life₀)
    (h : Holds phase₀.remaining total ()) (hunpassed : Unpassed total) : ∃ belated closing,
      asked total = phase₀.pending?.toList ++ (belated ++ closing) ∧
        WindsUp p phase₀ life₀ belated closing := by
  cases hliving with
  | waiting => exact ⟨[], asked total, rfl, Connection.leave_asked h, rfl⟩
  | idle _ => exact ⟨[], asked total, rfl, Connection.leave_asked h, rfl⟩
  | @working past c t said rest _ hleads =>
      obtain ⟨later, closing, c', rfl, hlater, hclosing⟩ := holds_bind_iff.mp h
      have hunpassed : Unpassed later := (List.forall_mem_append.mp hunpassed).1
      have hlate := Worker.process_late (hleads.append hlater) hunpassed
      refine ⟨asked later.tail, asked closing, ?_, Connection.leave_asked hclosing, past, said, rfl,
        hlate⟩
      rw [asked_append, Work.asked_eq hlater, List.append_assoc]
      rfl
  | @leaving past c said rest _ hleads =>
      obtain ⟨later, last, c', rfl, hlater, hlast⟩ := holds_bind_iff.mp h
      obtain ⟨rfl, -⟩ := holds_pure_iff.mp hlast
      refine ⟨[], [], ?_, .inl rfl, rfl, rfl⟩
      have hnone : asked later.tail = [] := by
        obtain ⟨-, ⟨-, hlog⟩ | ⟨id, reply, -, hlog⟩⟩ :=
          Connection.disconnect_log (hleads.append hlater)
        · exact asked_tail_eq_nil ⟨said, hlog⟩ nofun
        · refine asked_tail_eq_nil ⟨said, hlog⟩ ?_
          exact List.forall_mem_cons.mpr ⟨trivial, List.forall_mem_singleton.mpr trivial⟩
      rw [List.append_nil, Work.asked_eq hlater, hnone]
      rfl
  | finished _ _ =>
      obtain ⟨rfl, -⟩ := holds_pure_iff.mp h
      exact ⟨[], [], rfl, .inl rfl, rfl, rfl⟩

/-- A worker that is to stop can be answered until it has nothing left to do. -/
theorem Work.exists_unpassed {α : Type} (d : Work α) : ∃ log a, Holds d log a ∧ Unpassed log := by
  have replies : ∀ q : Request, ∃ r : q.Reply, isPass ⟨q, r⟩ = false := fun q => by
    cases q with
    | outside call => exact ⟨.error default, rfl⟩
    | inside call => cases call with
      | emit _ | publish _ | release _ => exact ⟨(), rfl⟩
      | isCancelled | isForeground => exact ⟨true, rfl⟩
  exact Dialogue.exists_holds replies d

/-- What was asked and what is being asked begins with what was being asked before, and goes on as
what remained could. -/
theorem Sequel.begun {phase : Phase} {log later : WorkLog} {rest : List OutsideCall}
    (h : Sequel phase₀ life₀ phase life log) (hlater : Holds phase.remaining later ())
    (hasked : asked (log ++ later) = phase₀.pending?.toList ++ rest) : ∃ begun,
      asked log ++ phase.pending?.toList = phase₀.pending?.toList ++ begun ∧ begun <+: rest := by
  have hpending : phase.pending?.toList <+: asked later := by
    cases hcall : phase.pending? with
    | none => exact List.nil_prefix
    | some call =>
        obtain ⟨next, hremaining⟩ := Phase.remaining_of_pending hcall
        rw [Work.asked_eq hlater, hremaining]
        exact List.prefix_append ..
  have hbefore : phase₀.pending?.toList <+: asked log ++ phase.pending?.toList := by
    cases hcall : phase₀.pending? with
    | none => exact List.nil_prefix
    | some call =>
        obtain ⟨next, hremaining⟩ := Phase.remaining_of_pending hcall
        have hleads := h.leads
        rw [hremaining] at hleads
        generalize phase.remaining = last at hleads
        cases hleads with
        | here =>
            rw [h.pending rfl call hcall]
            exact List.prefix_append ..
        | @ask _ _ r log _ _ => exact ⟨asked log ++ phase.pending?.toList, rfl⟩
  obtain ⟨begun, hbegun⟩ := hbefore
  refine ⟨begun, hbegun.symm, (List.prefix_append_right_inj phase₀.pending?.toList).mp ?_⟩
  rw [hbegun, ← hasked, asked_append]
  exact (List.prefix_append_right_inj (asked log)).mpr hpending

/-- Whatever else happens, a worker that was told to stop takes no further task. What it begins to
ask of the outside from then on is what was left of its task, and at the end one logout. -/
theorem Lived.winds_up (h₀ : Lived p id e₀ life₀) (hstops : e₀.stops? id = some true)
    (h : Lives id e₀ life₀ e life) : ∃ phase₀ phase belated closing,
      e₀.phase? id = some phase₀ ∧ e.phase? id = some phase ∧
        life.begun phase = life₀.begun phase₀ ++ (belated ++ closing) ∧ life.tasks = life₀.tasks ∧
          WindsUp p phase₀ life₀ belated closing := by
  obtain ⟨w, hw, -⟩ := Option.map_eq_some_iff.mp hstops
  have hphase₀ := phase?_of_worker hw
  obtain ⟨-, phase, log, hphase, hsequel⟩ := h.sequel h₀ hstops hphase₀
  obtain ⟨later, _, hlater, hunpassed⟩ := Work.exists_unpassed phase.remaining
  have hliving := h₀.living.2
  rw [hphase₀] at hliving
  obtain ⟨belated, closing, hasked, hwinds⟩ := hliving.remains (hsequel.leads.append hlater)
    (List.forall_mem_append.mpr ⟨hsequel.unpassed, hunpassed⟩)
  obtain ⟨begun, hbegun, hprefix⟩ := hsequel.begun hlater hasked
  have hlife : life.begun phase = life₀.begun w.phase ++ begun := by
    rw [Life.begun, hsequel.spoken, asked_append, List.append_assoc, hbegun, Life.begun,
      List.append_assoc]
  obtain ⟨rest, hrest⟩ := hprefix
  rcases List.append_eq_append_iff.mp hrest with ⟨mid, rfl, -⟩ | ⟨mid, rfl, rfl⟩
  · refine ⟨w.phase, phase, begun, [], hphase₀, hphase, ?_, hsequel.tasks,
      hwinds.of_prefix (List.prefix_append ..) List.nil_prefix⟩
    rw [hlife, List.append_nil]
  · exact ⟨w.phase, phase, belated, mid, hphase₀, hphase, hlife, hsequel.tasks,
      hwinds.of_prefix (List.prefix_refl _) (List.prefix_append ..)⟩

/-- A move of messages is cancelled while its folder is being selected; the messages are moved all
the same. -/
theorem Lived.winds_up_move : ∃ e₀ life₀ e life phase₀ phase,
    Lived ⟨"me", .default⟩ 0 e₀ life₀ ∧ e₀.stops? 0 = some true ∧ Lives 0 e₀ life₀ e life ∧
      e₀.phase? 0 = some phase₀ ∧ e.phase? 0 = some phase ∧
      phase₀.pending? = some (.session 7 (.select "INBOX")) ∧
      life.begun phase = life₀.begun phase₀ ++ [.session 7 (.move (SequenceSet.ofList [1]) "Archive")] ∧
      WindsUp ⟨"me", .default⟩ phase₀ life₀
        [.session 7 (.move (SequenceSet.ofList [1]) "Archive")] [] := by
  have queued : Lived ⟨"me", .default⟩ 0 _ _ :=
    .next (a := .call (.enqueue ⟨⟨"ui", 1⟩, .move .inbox ⟨"Archive", "Archive", []⟩ [1]⟩)) .fresh rfl
  have started := Lived.next (a := .call (.start false)) queued rfl
  have begun := Lived.next (a := .move (.begin 0)) started rfl
  have taken := Lived.next (a := .move (.take 0)) begun rfl
  have noted := Lived.next (a := .move (.tell 0)) taken rfl
  have checked := Lived.next (a := .move (.tell 0)) noted rfl
  have noticed := Lived.next (a := .move (.tell 0)) checked rfl
  have connecting := Lived.next (a := .move (.tell 0)) noticed rfl
  have given := Lived.next (a := .move (.answer 0 .token (.ok "secret"))) connecting rfl
  have opened := Lived.next (a := .move (.answer 0 (.connect "me" "secret") (.ok 7))) given rfl
  have connected := Lived.next (a := .move (.tell 0)) opened rfl
  have told := Lived.next (a := .move (.tell 0)) connected rfl
  have selecting := Lived.next (a := .move (.tell 0)) told rfl
  have stopped := Lived.next (a := .call .disconnect) selecting rfl
  have here : ∀ {e life}, Lived ⟨"me", .default⟩ 0 e life → Lives 0 e life e life := fun _ => .here
  have selected := Lives.next
    (a := .move (.answer 0 (.session 7 (.select "INBOX")) (.ok .blank))) (here stopped) rfl
  obtain ⟨phase₀, phase, belated, closing, hphase₀, hphase, hbegun, -, hwinds⟩ :=
    Lived.winds_up stopped rfl selected
  cases hphase₀
  cases hphase
  have hasked := (List.append_cancel_left hbegun).symm
  exact ⟨_, _, _, _, _, _, stopped, rfl, selected, rfl, rfl, rfl, rfl, hwinds.of_single hasked nofun⟩

end MailSync
