import MailSync.Proofs.Engine.Run
import MailSync.Proofs.Selection

/-!
# The life of a worker

A worker lives through any number of tasks with one connection, while the
user and the other workers do as they like. `Lived` is a run of the engine
that writes down what one worker says, chapter by chapter; `Living` is what
the phase of the worker tells of these chapters. Every chapter but the last
is complete, so what is known of complete chapters (`Service.careful`) holds
of all of them (`Lived.always_careful`).
-/

namespace MailSync

open Dialogue Engine WorkLog

/-- All that a worker has said, chapter by chapter. -/
abbrev Life := List Chapter

namespace Life

def spoken (life : Life) : WorkLog := life.flatMap (·.log)

def turn (life : Life) (task : Option Task) : Life := life ++ [⟨task, []⟩]

def say (life : Life) (x : Exchange Request Request.Reply) : Life :=
  life.dropLast ++ (life.getLast?.map fun ch => ⟨ch.task, ch.log ++ [x]⟩).toList

def recordMove (life : Life) (e : Engine) : Move → Life
  | .take _ => life.turn e.queue.head?
  | .leave _ => life.turn none
  | m =>
    match e.exchange? m with
    | some x => life.say x
    | none => life

/-- Writes down what an action of the engine adds to the life of a worker. -/
def record (life : Life) (id : WorkerId) (e : Engine) : Action → Life
  | .call _ => life
  | .move m => if m.worker = id then life.recordMove e m else life

/-- Every chapter is as it should be after the chapters before it. -/
def Careful (life : Life) : Prop := Each (fun earlier ch => ch.Careful (spoken earlier)) life

theorem spoken_append (life life' : Life) : spoken (life ++ life') = spoken life ++ spoken life' :=
  List.flatMap_append

theorem say_concat (life : Life) (task : Option Task) (log : WorkLog)
    (x : Exchange Request Request.Reply) :
    say (life ++ [⟨task, log⟩]) x = life ++ [⟨task, log ++ [x]⟩] := by
  simp [say]

/-- A chapter that breaks off is as it should be if what would have followed made it so. -/
theorem Careful.concat {life : Life} {task : Option Task} {log later : WorkLog}
    (h : Careful life) (hlast : Chapter.Careful (spoken life) ⟨task, log ++ later⟩) :
    Careful (life ++ [⟨task, log⟩]) :=
  each_concat_iff.mpr ⟨h, (each_append_iff.mp hlast).1⟩

end Life

open Life

/-! ## Complete chapters -/

/-- The chapters of a worker that is between two tasks, with its connection. -/
inductive Service (p : Profile) : Life → Connection → Prop where
  | begins : Service p [] .closed
  | task {life : Life} {c c' : Connection} {t : Task} {log : WorkLog} (h : Service p life c)
    (hlog : Holds (Worker.process p t c) log c') : Service p (life ++ [⟨some t, log⟩]) c'

theorem Service.careful {p : Profile} {life : Life} {c : Connection} (h : Service p life c) :
    life.Careful ∧ c.Kept life.spoken := by
  induction h with
  | begins => exact ⟨.nil, Connection.kept_closed⟩
  | task _ hlog ih =>
      obtain ⟨hcareful, hkept⟩ := ih
      obtain ⟨hchapter, hkept'⟩ := Chapter.careful_process hlog hkept
      refine ⟨each_concat_iff.mpr ⟨hcareful, hchapter⟩, ?_⟩
      rw [spoken_append]
      simpa [spoken] using hkept'

/-! ## Runs -/

/-- What the phase of a worker tells of its life. -/
inductive Living (p : Profile) : Option Phase → Life → Prop where
  | unborn : Living p none []
  | waiting : Living p (some .waiting) []
  | idle {life : Life} {c : Connection} (h : Service p life c) : Living p (some (.idle c)) life
  | working {life : Life} {c : Connection} {t : Task} {log : WorkLog} {rest : Work Connection}
    (h : Service p life c) (hleads : Leads (Worker.process p t c) log rest) :
    Living p (some (.working t rest)) (life ++ [⟨some t, log⟩])
  | leaving {life : Life} {c : Connection} {log : WorkLog} {rest : Work Connection}
    (h : Service p life c) (hleads : Leads c.disconnect log rest) :
    Living p (some (.leaving rest)) (life ++ [⟨none, log⟩])
  | finished {life : Life} {c c' : Connection} {log : WorkLog} (h : Service p life c)
    (hlog : Holds c.disconnect log c') : Living p (some .finished) (life ++ [⟨none, log⟩])

theorem Living.careful {p : Profile} {phase : Option Phase} {life : Life}
    (h : Living p phase life) : life.Careful := by
  cases h with
  | unborn | waiting => exact .nil
  | idle h => exact h.careful.1
  -- What was begun can be brought to some end, and is the first part of that chapter.
  | @working life c t log rest h hleads =>
      obtain ⟨later, c', hlater⟩ := Work.exists_holds rest
      obtain ⟨hcareful, hkept⟩ := h.careful
      exact hcareful.concat (Chapter.careful_process (hleads.append hlater) hkept).1
  | @leaving life c log rest h hleads =>
      obtain ⟨later, c', hlater⟩ := Work.exists_holds rest
      obtain ⟨hcareful, hkept⟩ := h.careful
      exact hcareful.concat (Chapter.careful_disconnect (hleads.append hlater) hkept)
  | finished h hlog =>
      obtain ⟨hcareful, hkept⟩ := h.careful
      exact each_concat_iff.mpr ⟨hcareful, Chapter.careful_disconnect hlog hkept⟩

inductive Lived (p : Profile) (id : WorkerId) : Engine → Life → Prop where
  | fresh : Lived p id (.fresh p) []
  | next {e e' : Engine} {life : Life} {a : Action} (h : Lived p id e life)
    (hact : e.act a = some e') : Lived p id e' (life.record id e a)

variable {p : Profile} {id : WorkerId} {e e' : Engine} {life : Life}

theorem Living.called (h : Living p (e.phase? id) life) (hcalled : Called e e') :
    Living p (e'.phase? id) life := by
  rw [phase?] at h ⊢
  cases hw : e.workers[id]? with
  | some w =>
      obtain ⟨w', hw', hkept⟩ := hcalled.old hw
      rw [hw] at h
      rw [hw', Option.map_some, hkept.phase]
      exact h
  | none =>
      rw [hw] at h
      cases h
      cases hw' : e'.workers[id]? with
      | none => exact .unborn
      | some w =>
          rw [Option.map_some, hcalled.new hw hw']
          exact .waiting

theorem Life.recordMove_of_replies {w : Worker} {m : Move} {x : Exchange Request Request.Reply}
    {board : Board} (hx : e.exchange? m = some x) (hreplies : Replies e w m x board) :
    life.recordMove e m = life.say x := by
  cases hreplies with
  | tell _ call | answer _ call reply => simp only [recordMove, hx]

/-- A move adds to the life of the worker that makes it what the worker says. -/
theorem Living.moved {w : Worker} {m : Move} {phase : Phase} {board : Board} {queue : List Task}
    (h : Living e.profile (e.phase? m.worker) life) (hw : e.workers[m.worker]? = some w)
    (hmoved : Moved e w m phase board queue) :
    Living e.profile (some phase) (life.recordMove e m) := by
  rw [phase?_of_worker hw] at h
  cases hmoved with
  | begins _ hphase _ =>
      rw [hphase] at h
      cases h
      exact .idle .begins
  | takes _ hphase _ hqueue =>
      rw [hphase] at h
      cases h with
      | idle h =>
          rw [recordMove, hqueue]
          exact .working h (.here _)
  | leaves _ hphase _ =>
      rw [hphase] at h
      cases h with
      | idle h => exact .leaving h (.here _)
  | works hphase hreplies =>
      have hx := exchange?_of_replies hw (by rw [Worker.rest?, hphase]) hreplies
      rw [hphase] at h
      cases h with
      | working h hleads =>
          rw [recordMove_of_replies hx hreplies, say_concat]
          exact .working h (hleads.snoc _)
  | closes hphase hreplies =>
      have hx := exchange?_of_replies hw (by rw [Worker.rest?, hphase]) hreplies
      rw [hphase] at h
      cases h with
      | leaving h hleads =>
          rw [recordMove_of_replies hx hreplies, say_concat]
          exact .leaving h (hleads.snoc _)
  | finishes _ hphase =>
      rw [hphase] at h
      cases h with
      | working h hleads => exact .idle (h.task hleads.holds)
  | ends _ hphase =>
      rw [hphase] at h
      cases h with
      | leaving h hleads => exact .finished h hleads.holds

theorem Lived.living (h : Lived p id e life) : e.profile = p ∧ Living p (e.phase? id) life := by
  induction h with
  | fresh => exact ⟨rfl, .unborn⟩
  | @next e e' life a _ hact ih =>
      obtain ⟨rfl, hliving⟩ := ih
      cases a with
      | call c =>
          obtain rfl := Option.some.inj hact
          exact ⟨(e.obey_called c).profile, hliving.called (e.obey_called c)⟩
      | move m =>
          obtain ⟨w, phase, board, queue, hw, hmoved, rfl⟩ := step_eq_some hact
          refine ⟨rfl, ?_⟩
          rw [phase?_put hw, record]
          by_cases heq : m.worker = id
          · subst heq
            rw [if_pos rfl, if_pos rfl]
            exact hliving.moved hw hmoved
          · rw [if_neg heq, if_neg (Ne.symm heq)]
            exact hliving

/-- Whatever the surroundings reply and whatever else happens, every call that a worker makes to
a session is as it should be. -/
theorem Lived.always_careful (h : Lived p id e life) : life.Careful := h.living.2.careful

/-- A first task fails after it selected its folder; the second, in another folder, uses the same
session. -/
theorem Lived.always_careful_two_folders : ∃ e life, Lived ⟨"me", .default⟩ 0 e life ∧
    (life.map (·.task.map (·.kind))) = [some (.loadDetails .inbox 1),
      some (.loadDetails ⟨"Work", "Work", []⟩ 5)] ∧
    life.spoken.getLast? = some ⟨.outside (.session 7 (.fetchRaw 5)), .ok none⟩ ∧
    life.Careful := by
  have first : Lived ⟨"me", .default⟩ 0 _ _ :=
    .next (a := .call (.enqueue ⟨⟨"ui", 1⟩, .loadDetails .inbox 1⟩)) .fresh rfl
  have second := Lived.next
    (a := .call (.enqueue ⟨⟨"ui", 2⟩, .loadDetails ⟨"Work", "Work", []⟩ 5⟩)) first rfl
  have started := Lived.next (a := .call (.start false)) second rfl
  have begun := Lived.next (a := .move (.begin 0)) started rfl
  have taken := Lived.next (a := .move (.take 0)) begun rfl
  have noted := Lived.next (a := .move (.tell 0)) taken rfl
  have checked := Lived.next (a := .move (.tell 0)) noted rfl
  have noticed := Lived.next (a := .move (.tell 0)) checked rfl
  have connecting := Lived.next (a := .move (.tell 0)) noticed rfl
  have given := Lived.next (a := .move (.answer 0 .token (.ok "secret"))) connecting rfl
  have opened := Lived.next (a := .move (.answer 0 (.connect "me" "secret") (.ok 7))) given rfl
  have connected := Lived.next (a := .move (.tell 0)) opened rfl
  have told := Lived.next (a := .move (.tell 0)) connected rfl
  have checked₁ := Lived.next (a := .move (.tell 0)) told rfl
  have selected := Lived.next
    (a := .move (.answer 0 (.session 7 (.select "INBOX")) (.ok .blank))) checked₁ rfl
  have refused := Lived.next
    (a := .move (.answer 0 (.session 7 (.fetchRaw 1)) (.error (.protocol "no")))) selected rfl
  have failed := Lived.next (a := .move (.tell 0)) refused rfl
  have idle := Lived.next (a := .move (.finish 0)) failed rfl
  have taken₁ := Lived.next (a := .move (.take 0)) idle rfl
  have noted₁ := Lived.next (a := .move (.tell 0)) taken₁ rfl
  have checked₂ := Lived.next (a := .move (.tell 0)) noted₁ rfl
  have probed := Lived.next (a := .move (.answer 0 (.session 7 .noop) (.ok ()))) checked₂ rfl
  have checked₃ := Lived.next (a := .move (.tell 0)) probed rfl
  have selected₁ := Lived.next
    (a := .move (.answer 0 (.session 7 (.select "Work")) (.ok .blank))) checked₃ rfl
  have fetched := Lived.next
    (a := .move (.answer 0 (.session 7 (.fetchRaw 5)) (.ok none))) selected₁ rfl
  exact ⟨_, _, fetched, rfl, rfl, Lived.always_careful fetched⟩

end MailSync
