import MailSync.Proofs.Engine.Career
import MailSync.Proofs.Engine.Succession

/-!
# What the board shows

All workers publish the state of their connection on one board. In orderly
runs one worker at a time is in charge, so the board shows what this worker
published last, and with nobody in charge that there is no connection
(`Chronicle.shown`). Between two tasks it says that there is a connection
exactly if the worker holds a session (`Chronicle.isConnected_iff`).
-/

namespace MailSync

open Dialogue Engine WorkLog

/-- A run in which the lives of all workers are written down. -/
inductive Chronicle (p : Profile) (may : Engine → Action → Prop) :
    Engine → (WorkerId → Life) → Prop where
  | fresh : Chronicle p may (.fresh p) fun _ => []
  | next {e e' : Engine} {lives : WorkerId → Life} {a : Action} (h : Chronicle p may e lives)
    (hmay : may e a) (hact : e.act a = some e') :
    Chronicle p may e' fun id => (lives id).record id e a

/-- The board shows what the worker in charge published last. -/
structure Shown (e : Engine) (lives : WorkerId → Life) : Prop where
  charge : ∀ {id phase}, e.phase? id = some phase → phase.inCharge = true →
    e.board.state = published (lives id).spoken
  nobody : (∀ id phase, e.phase? id = some phase → phase.inCharge = false) →
    e.board.state = .disconnected

section OneStep

variable {e : Engine} {life : Life} {log : WorkLog}

theorem Engine.disconnect_board (e : Engine) : e.disconnect.board = e.board := by
  unfold disconnect
  split <;> rfl

theorem Engine.obey_state (e : Engine) (c : Call) : (e.obey c).board.state = e.board.state := by
  have started : ∀ e : Engine, (if e.isRunning then e else e.launch).board = e.board := by
    intro e
    split <;> rfl
  cases c with
  | enqueue _ | cancelAll | look _ => rfl
  | disconnect => exact congrArg (·.state) e.disconnect_board
  | halt => exact congrArg (·.state) e.cancelAll.2.disconnect_board
  | start reset =>
      cases reset with
      | false => exact congrArg (·.state) (started e)
      | true =>
          exact congrArg (·.state) ((started _).trans e.cancelAll.2.disconnect_board)

theorem Engine.Replies.state {w : Worker} {m : Move} {x : Exchange Request Request.Reply}
    {board : Board} (h : Replies e w m x board) (hstate : e.board.state = published log) :
    board.state = published (log ++ [x]) := by
  cases h with
  | answer id call reply => rwa [published_append_of_nil rfl]
  | tell id call =>
      cases call with
      | publish state => exact (published_append rfl).symm
      | emit event =>
          rw [published_append_of_nil rfl, ← hstate, Board.answer]
          split <;> rfl
      | release _ | isCancelled | isForeground => rwa [published_append_of_nil rfl]

theorem Life.spoken_turn (life : Life) (task : Option Task) :
    (life.turn task).spoken = life.spoken := by
  rw [turn, spoken_append]
  exact List.append_nil _

/-- A worker that closed its connection published so last. -/
theorem Connection.disconnect_published {c c' : Connection} {past : WorkLog}
    (h : Holds c.disconnect log c') : published (past ++ log) = .disconnected := by
  obtain ⟨-, ⟨-, rfl⟩ | ⟨id, reply, -, rfl⟩⟩ := Connection.disconnect_log h
  · exact published_append rfl
  · exact published_append rfl

/-- A worker that moves is in charge then, unless that was the end of it. -/
theorem Engine.Moved.inCharge {w : Worker} {m : Move} {phase : Phase} {board : Board}
    {queue : List Task} (h : Moved e w m phase board queue) :
    phase.inCharge = true ∨ (phase = .finished ∧ w.phase.inCharge = true) := by
  cases h with
  | begins _ _ _ | takes _ _ _ _ | leaves _ _ _ | works _ _ | closes _ _ | finishes _ _ =>
      exact .inl rfl
  | ends _ hphase => exact .inr ⟨rfl, by rw [hphase]; rfl⟩

/-- A move shows what the worker says in it. -/
theorem Engine.Moved.shown {w : Worker} {m : Move} {phase : Phase} {board : Board}
    {queue : List Task} (hmoved : Moved e w m phase board queue)
    (hw : e.workers[m.worker]? = some w)
    (hliving : Living e.profile (e.phase? m.worker) life)
    (hcharge : w.phase.inCharge = true → e.board.state = published life.spoken)
    (hwaits : w.phase = .waiting → e.board.state = .disconnected) :
    (phase.inCharge = true → board.state = published (life.recordMove e m).spoken) ∧
      (phase = .finished → board.state = .disconnected) := by
  rw [phase?_of_worker hw] at hliving
  -- What a worker says is added to its last chapter.
  have hsaid : ∀ {life : Life} {task : Option Task} {log : WorkLog} {board : Board}
      {x : Exchange Request Request.Reply}, Replies e w m x board →
        e.board.state = published (Life.spoken (life ++ [⟨task, log⟩])) →
          board.state = published (Life.spoken (Life.say (life ++ [⟨task, log⟩]) x)) := by
    intro life task log board x hreplies hstate
    have hspoken : ∀ log, Life.spoken (life ++ [⟨task, log⟩]) = life.spoken ++ log := by
      intro log
      rw [Life.spoken_append, Life.spoken, Life.spoken, List.flatMap_singleton]
    rw [hspoken] at hstate
    rw [Life.say_concat, hspoken, ← List.append_assoc]
    exact hreplies.state hstate
  cases hmoved with
  | begins id hphase _ =>
      rw [hphase] at hliving
      cases hliving
      exact ⟨fun _ => hwaits hphase, fun h => by cases h⟩
  | takes id hphase _ _ =>
      rw [hphase] at hcharge
      refine ⟨fun _ => ?_, fun h => by cases h⟩
      rw [Life.recordMove, Life.spoken_turn]
      exact hcharge rfl
  | leaves id hphase _ =>
      rw [hphase] at hcharge
      refine ⟨fun _ => ?_, fun h => by cases h⟩
      rw [Life.recordMove, Life.spoken_turn]
      exact hcharge rfl
  | works hphase hreplies =>
      have hx := exchange?_of_replies hw (by rw [Worker.rest?, hphase]) hreplies
      rw [hphase] at hliving hcharge
      cases hliving with
      | working _ _ =>
          rw [Life.recordMove_of_replies hx hreplies]
          exact ⟨fun _ => hsaid hreplies (hcharge rfl), fun h => by cases h⟩
  | closes hphase hreplies =>
      have hx := exchange?_of_replies hw (by rw [Worker.rest?, hphase]) hreplies
      rw [hphase] at hliving hcharge
      cases hliving with
      | leaving _ _ =>
          rw [Life.recordMove_of_replies hx hreplies]
          exact ⟨fun _ => hsaid hreplies (hcharge rfl), fun h => by cases h⟩
  | finishes id hphase =>
      rw [hphase] at hcharge
      exact ⟨fun _ => hcharge rfl, fun h => by cases h⟩
  | ends id hphase =>
      rw [hphase] at hliving hcharge
      refine ⟨fun h => (by cases h), fun _ => ?_⟩
      cases hliving with
      | leaving _ hleads =>
          rw [hcharge rfl, Life.spoken_append]
          rw [Life.spoken, Life.spoken, List.flatMap_singleton]
          exact Connection.disconnect_published hleads.holds

end OneStep

namespace Shown

variable {e : Engine} {lives : WorkerId → Life}

theorem call (h : Shown e lives) (c : Call) :
    Shown (e.obey c) fun id => (lives id).record id e (.call c) := by
  have hphase : ∀ {id phase}, phase.inCharge = true →
      ((e.obey c).phase? id = some phase ↔ e.phase? id = some phase) := by
    intro id phase hcharge
    refine (e.obey_called c).phase?_eq_some_iff ?_
    rintro rfl
    cases hcharge
  refine ⟨fun hid hcharge => ?_, fun hnobody => ?_⟩
  · rw [obey_state]
    exact h.charge ((hphase hcharge).mp hid) hcharge
  · rw [obey_state]
    refine h.nobody fun id phase hid => ?_
    cases hcharge : phase.inCharge with
    | false => rfl
    | true =>
        rw [← hcharge]
        exact hnobody id phase ((hphase hcharge).mpr hid)

theorem move (h : Shown e lives) {w : Worker} {m : Move} {phase : Phase} {board : Board}
    {queue : List Task} (hw : e.workers[m.worker]? = some w)
    (hmoved : Moved e w m phase board queue)
    (hliving : Living e.profile (e.phase? m.worker) (lives m.worker)) (hsingle : SingleConsumer e)
    (hsingle' : SingleConsumer (e.put m.worker { w with phase } board queue)) :
    Shown (e.put m.worker { w with phase } board queue)
      fun id => (lives id).record id e (.move m) := by
  have hmover := phase?_of_worker hw
  have hthere : (e.put m.worker { w with phase } board queue).phase? m.worker = some phase := by
    rw [phase?_put hw, if_pos rfl]
  have helsewhere : ∀ {id}, id ≠ m.worker →
      (e.put m.worker { w with phase } board queue).phase? id = e.phase? id := by
    intro id hne
    rw [phase?_put hw, if_neg hne]
  -- A worker may begin only where nobody is in charge.
  have hwaits : w.phase = .waiting → e.board.state = .disconnected := by
    intro hwaiting
    refine h.nobody fun id phase' hid => ?_
    by_cases heq : id = m.worker
    · subst heq
      cases hmover.symm.trans hid
      rw [hwaiting]
      rfl
    · cases hcharge : phase'.inCharge with
      | false => rfl
      | true =>
          rcases hmoved.inCharge with hin | ⟨-, hin⟩
          · exact absurd (hsingle' _ _ _ _ ((helsewhere heq).trans hid) hthere hcharge hin) heq
          · rw [hwaiting] at hin
            cases hin
  obtain ⟨hpublished, hfinished⟩ := hmoved.shown hw hliving (h.charge hmover) hwaits
  rcases hmoved.inCharge with hin | ⟨rfl, hin⟩
  · refine ⟨fun {id phase'} hid hcharge => ?_, fun hnobody => ?_⟩
    · obtain rfl := hsingle' _ _ _ _ hid hthere hcharge hin
      rw [Life.record, if_pos rfl]
      exact hpublished hin
    · rw [hnobody _ _ hthere] at hin
      cases hin
  · refine ⟨fun {id phase'} hid hcharge => ?_, fun _ => hfinished rfl⟩
    by_cases heq : id = m.worker
    · subst heq
      cases hthere.symm.trans hid
      cases hcharge
    · rw [helsewhere heq] at hid
      exact absurd (hsingle _ _ _ _ hid hmover hcharge hin) heq

end Shown

namespace Chronicle

variable {p : Profile} {may : Engine → Action → Prop} {e : Engine} {lives : WorkerId → Life}
  {id : WorkerId} {c : Connection}

theorem lived (h : Chronicle p may e lives) (id : WorkerId) : Lived p id e (lives id) := by
  induction h with
  | fresh => exact .fresh
  | next _ _ hact ih => exact .next ih hact

theorem run (h : Chronicle p may e lives) : ∃ l, Run p may e l := by
  induction h with
  | fresh => exact ⟨_, .here⟩
  | next _ hmay hact ih =>
      obtain ⟨l, hl⟩ := ih
      exact ⟨_, .next hl hmay hact⟩

theorem succession (h : Chronicle p Orderly e lives) : Succession e := by
  obtain ⟨l, hl⟩ := h.run
  exact hl.succession

/-- In an orderly run the board shows what the worker in charge published last. -/
theorem shown (h : Chronicle p Orderly e lives) : Shown e lives := by
  induction h with
  | fresh => exact ⟨nofun, fun _ => rfl⟩
  | @next e e' lives a h hmay hact ih =>
      have hsingle' := (Chronicle.next h hmay hact).succession.single
      cases a with
      | call c =>
          cases hact
          exact ih.call c
      | move m =>
          obtain ⟨w, phase, board, queue, hw, hmoved, rfl⟩ := step_eq_some hact
          obtain ⟨rfl, hliving⟩ := (h.lived m.worker).living
          exact ih.move hw hmoved hliving h.succession.single hsingle'

/-- Between two tasks of a worker the board says that there is a connection exactly if the worker
holds a session. -/
theorem isConnected_iff (h : Chronicle p Orderly e lives) (hidle : e.phase? id = some (.idle c)) :
    e.isConnected = true ↔ c.session.isSome = true := by
  have hnew : Connection.Settled [] .closed := ⟨by decide, by decide, rfl⟩
  obtain ⟨-, hliving⟩ := (h.lived id).living
  rw [hidle] at hliving
  cases hliving with
  | idle hservice =>
      obtain ⟨turns, hturns, hlife⟩ := hservice.career
      have hsettled : Connection.Settled (Turn.spoken turns) c := hturns.settled hnew
      rw [isConnected, decide_eq_true_iff, h.shown.charge hidle rfl, hlife, Turn.spoken_chapters]
      exact hsettled.connected_iff

end Chronicle

end MailSync
