import MailSync.Proofs.Worker

/-!
# What follows from a story

A story is told under the tag of its task (`Task.Story.tags`) and starts once
(`Task.Story.starts`). If the task fails, no result is reported
(`Task.Story.no_result`). Only the last event can be final
(`Task.Story.final_last`), and one is missing only of a task that was given up
because the worker is to stop (`Task.Story.stopped_of_unfinal`).
-/

namespace MailSync

open Dialogue

/-! ## Kinds of reports -/

/-- Whether an event is the start of a task. -/
def Event.isStart (e : Event) : Bool := decide (e.report = .progress .taskStarted)

/-- Whether a report is the result of a task. -/
def Report.isResult : Report → Bool
  | .progress _ | .failed _ _ => false
  | _ => true

/-- Whether nothing is to follow a report. -/
def Report.isFinal : Report → Bool
  | .progress .taskCompleted | .failed _ _ => true
  | _ => false

theorem TaskKind.Answers.isResult {kind : TaskKind} {report : Report} (h : kind.Answers report) :
    report.isResult = true := by
  cases report with
  | progress _ | failed _ _ => cases kind <;> exact h.elim
  | folders _ | messages _ _ | details _ _ _ | newMessages _ _ _ _ | refreshed _ _ _ _ _ _
  | moved _ _ _ | sent => rfl

theorem Report.isFinal_of_isResult {report : Report} (h : report.isResult = true) :
    report.isFinal = false := by
  cases report with
  | progress _ | failed _ _ => cases h
  | folders _ | messages _ _ | details _ _ _ | newMessages _ _ _ _ | refreshed _ _ _ _ _ _
  | moved _ _ _ | sent => rfl

variable {p : Profile} {t : Task} {c c' : Connection} {log performed settled : WorkLog}
  {outcome : Except MailError Report} {ending : List Report}

namespace Task

/-! ## The opening and the ending -/

theorem mem_opening {progress : Progress} (h : progress ∈ opening log) :
    progress = .connecting ∨ progress = .connected := by
  rw [opening] at h
  split at h
  · rcases List.mem_cons.mp h with rfl | h
    · exact .inl rfl
    · split at h
      · exact .inr (List.mem_singleton.mp h)
      · cases h
  · cases h

namespace Ending

variable {stopped : Bool}

theorem ne_start (h : t.Ending outcome stopped ending) :
    ∀ report ∈ ending, report ≠ .progress .taskStarted := by
  cases h with
  | reported hanswers =>
      refine List.forall_mem_cons.mpr ⟨?_, List.forall_mem_singleton.mpr nofun⟩
      rintro rfl
      cases hanswers.isResult
  | removed _ _ | failed _ _ => exact List.forall_mem_singleton.mpr nofun
  | abandoned => nofun

theorem no_result (h : t.Ending outcome stopped ending) {e : MailError} (he : outcome = .error e) :
    ∀ report ∈ ending, report.isResult = false := by
  cases h with
  | reported _ => cases he
  | removed _ _ | failed _ _ => exact List.forall_mem_singleton.mpr rfl
  | abandoned => nofun

theorem outcome_of_failed (h : t.Ending outcome stopped ending) {kind : ErrorKind} {e : MailError}
    (hfailed : .failed kind e ∈ ending) : outcome = .error e := by
  cases h with
  | reported hanswers =>
      rcases List.mem_cons.mp hfailed with rfl | hfailed
      · cases hanswers.isResult
      · cases List.mem_singleton.mp hfailed
  | removed _ _ => cases List.mem_singleton.mp hfailed
  | failed _ _ =>
      cases List.mem_singleton.mp hfailed
      rfl
  | abandoned => cases hfailed

theorem final_last (h : t.Ending outcome stopped ending) :
    ∀ report ∈ ending.dropLast, report.isFinal = false := by
  cases h with
  | reported hanswers =>
      exact List.forall_mem_singleton.mpr (Report.isFinal_of_isResult hanswers.isResult)
  | removed _ _ | failed _ _ | abandoned => nofun

theorem stopped_of_unfinal (h : t.Ending outcome stopped ending)
    (hunfinal : ∀ report ∈ ending, report.isFinal = false) :
    outcome = .error .cancelled ∧ stopped = true := by
  cases h with
  | reported _ => cases hunfinal _ (List.mem_cons_of_mem _ (List.mem_singleton_self _))
  | removed _ _ | failed _ _ => cases hunfinal _ (List.mem_singleton_self _)
  | abandoned => exact ⟨rfl, rfl⟩

end Ending

/-! ## The whole story -/

namespace Story

theorem tags (h : t.Story p c log c' performed settled outcome ending) :
    ∀ event ∈ WorkLog.events log, event.tag = t.tag := by
  intro event hevent
  rw [h.events] at hevent
  obtain ⟨report, -, rfl⟩ := List.mem_map.mp hevent
  rfl

/-- The start of a task is reported once, before everything else. -/
theorem starts (h : t.Story p c log c' performed settled outcome ending) :
    (WorkLog.events log).filter Event.isStart = [t.progressed .taskStarted] := by
  rw [h.events, List.map_cons, List.filter_cons_of_pos (by rfl), List.filter_eq_nil_iff.mpr]
  · rfl
  intro event hevent
  obtain ⟨report, hreport, rfl⟩ := List.mem_map.mp hevent
  rw [Event.isStart, decide_eq_true_eq]
  rcases List.mem_append.mp hreport with hopening | hending
  · obtain ⟨progress, hprogress, rfl⟩ := List.mem_map.mp hopening
    rcases mem_opening hprogress with rfl | rfl <;> nofun
  · exact h.ends.ne_start report hending

/-- What comes before the ending is neither a result nor final. -/
theorem events_eq (h : t.Story p c log c' performed settled outcome ending) :
    ∃ before : List Report, WorkLog.events log = (before ++ ending).map (Event.mk t.tag) ∧
      ∀ report ∈ before, report.isResult = false ∧ report.isFinal = false := by
  refine ⟨.progress .taskStarted :: (opening performed).map Report.progress, h.events,
    List.forall_mem_cons.mpr ⟨⟨rfl, rfl⟩, fun report hreport => ?_⟩⟩
  obtain ⟨progress, hprogress, rfl⟩ := List.mem_map.mp hreport
  rcases mem_opening hprogress with rfl | rfl <;> exact ⟨rfl, rfl⟩

/-- A task that fails reports no result. -/
theorem no_result (h : t.Story p c log c' performed settled outcome ending) {e : MailError}
    (he : outcome = .error e) : ∀ event ∈ WorkLog.events log, event.report.isResult = false := by
  obtain ⟨before, hevents, hbefore⟩ := h.events_eq
  intro event hevent
  rw [hevents] at hevent
  obtain ⟨report, hreport, rfl⟩ := List.mem_map.mp hevent
  rcases List.mem_append.mp hreport with hreport | hreport
  · exact (hbefore report hreport).1
  · exact h.ends.no_result he report hreport

/-- A failure is reported only of a task that failed. -/
theorem outcome_of_failed (h : t.Story p c log c' performed settled outcome ending) {tag : RequestTag}
    {kind : ErrorKind} {e : MailError} (hfailed : ⟨tag, .failed kind e⟩ ∈ WorkLog.events log) :
    outcome = .error e := by
  obtain ⟨before, hevents, hbefore⟩ := h.events_eq
  rw [hevents] at hfailed
  obtain ⟨report, hreport, heq⟩ := List.mem_map.mp hfailed
  obtain rfl : report = .failed kind e := congrArg Event.report heq
  rcases List.mem_append.mp hreport with hreport | hreport
  · cases (hbefore _ hreport).2
  · exact h.ends.outcome_of_failed hreport

/-- Nothing follows a final event. -/
theorem final_last (h : t.Story p c log c' performed settled outcome ending) :
    ∀ event ∈ (WorkLog.events log).dropLast, event.report.isFinal = false := by
  obtain ⟨before, hevents, hbefore⟩ := h.events_eq
  intro event hevent
  rw [hevents, ← List.map_dropLast] at hevent
  obtain ⟨report, hreport, rfl⟩ := List.mem_map.mp hevent
  by_cases hending : ending = []
  · rw [hending, List.append_nil] at hreport
    exact (hbefore report (List.dropLast_subset before hreport)).2
  · rw [List.dropLast_append_of_ne_nil hending] at hreport
    rcases List.mem_append.mp hreport with hreport | hreport
    · exact (hbefore report hreport).2
    · exact h.ends.final_last report hreport

/-- A task without a final event was given up, because its worker is to stop. -/
theorem stopped_of_unfinal (h : t.Story p c log c' performed settled outcome ending)
    (hunfinal : ∀ event ∈ WorkLog.events log, event.report.isFinal = false) :
    outcome = .error .cancelled ∧ WorkLog.stopped log = true := by
  obtain ⟨before, hevents, -⟩ := h.events_eq
  rw [hevents] at hunfinal
  obtain ⟨houtcome, hstopped⟩ := h.ends.stopped_of_unfinal fun report hreport =>
    hunfinal _ (List.mem_map_of_mem (List.mem_append_right _ hreport))
  refine ⟨houtcome, ?_⟩
  rw [h.log_eq, WorkLog.stopped, List.any_append]
  exact Bool.or_eq_true_iff.mpr (.inr hstopped)

end Story

/-- All that is told of a task that came to its end. -/
def Told (p : Profile) (t : Task) (log : WorkLog) : Prop :=
  ∃ c c' performed settled outcome ending, t.Story p c log c' performed settled outcome ending ∧
    (∀ e, outcome = .error e → ∀ event ∈ WorkLog.events log, event.report.isResult = false) ∧
    ∀ event ∈ (WorkLog.events log).dropLast, event.report.isFinal = false

end Task

theorem Worker.told (h : Holds (Worker.process p t c) log c') : t.Told p log := by
  obtain ⟨performed, settled, outcome, ending, hstory⟩ := Worker.process_tells h
  exact ⟨c, c', performed, settled, outcome, ending, hstory, fun _ he => hstory.no_result he,
    hstory.final_last⟩

end MailSync
