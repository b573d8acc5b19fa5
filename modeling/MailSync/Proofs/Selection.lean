import MailSync.Proofs.Routine

/-!
# The right folder on the right session

Which folder a session has selected is known to the server only. A call that
concerns the selected folder (`SessionCall.inFolder`) is therefore judged by
what was said before it: the last folder that was selected on its session has
to be that of the task, selected by the task itself and with success
(`WorkLog.Selected`). A session is trusted after a probe or its opening
(`WorkLog.Confirmed`), and given up for good after a failed probe
(`WorkLog.isLost`).

What a worker says falls into chapters, one for each task and one for the
closing of its connection. If a chapter begins with a session that is not
lost, all calls in it are as they should be, and it ends with such a session
or with none (`Chapter.careful_process`).
-/

namespace MailSync

open Dialogue

/-! ## What was said before -/

def Request.ofSession : Request → Bool
  | .outside (.session ..) | .outside (.connect ..) => true
  | _ => false

theorem Request.IsInside.ofSession {q : Request} (h : q.IsInside) : q.ofSession = false := by
  cases q with
  | outside call => exact h.elim
  | inside call => rfl

theorem Request.IsSubmission.ofSession {q : Request} (h : q.IsSubmission) : q.ofSession = false := by
  cases q with
  | outside call => cases call with
    | session _ _ | connect _ _ => exact h.elim
    | token | send _ _ _ | store _ => rfl
  | inside call => rfl

/-- A question that goes to this session, if it goes to one, and is no probe. -/
def Request.OnSession (s : SessionId) : Request → Prop
  | .outside (.session id call) => id = s ∧ call ≠ .noop
  | .outside (.connect ..) => False
  | _ => True

theorem Request.InFolder.onSession {s : SessionId} {q : Request} (h : q.InFolder s) :
    q.OnSession s := by
  cases q with
  | outside call => cases call with
    | session id call =>
        refine ⟨h.1, fun hnoop => ?_⟩
        subst hnoop
        cases h.2
    | connect _ _ => exact h
    | token | send _ _ _ | store _ => trivial
  | inside call => trivial

theorem Request.IsSubmission.onSession {s : SessionId} {q : Request} (h : q.IsSubmission) :
    q.OnSession s := by
  cases q with
  | outside call => cases call with
    | session _ _ | connect _ _ => exact h.elim
    | token | send _ _ _ | store _ => trivial
  | inside call => trivial

section Each

variable {α : Type} {P : List α → α → Prop} {xs ys : List α} {x : α}

/-- Every element stands to those before it as `P` says. -/
def Each (P : List α → α → Prop) (xs : List α) : Prop :=
  ∀ before x after, xs = before ++ x :: after → P before x

theorem Each.nil : Each P [] := by
  intro before x after h
  cases before <;> cases h

theorem each_cons_iff : Each P (x :: xs) ↔ P [] x ∧ Each (fun before => P (x :: before)) xs := by
  constructor
  · intro h
    refine ⟨h [] x xs rfl, fun before y after hxs => h (x :: before) y after ?_⟩
    rw [hxs, List.cons_append]
  · rintro ⟨hx, hxs⟩ before y after h
    cases before with
    | nil =>
        obtain ⟨rfl, -⟩ := List.cons.inj h
        exact hx
    | cons z before =>
        obtain ⟨rfl, hrest⟩ := List.cons.inj h
        exact hxs before y after hrest

theorem each_append_iff :
    Each P (xs ++ ys) ↔ Each P xs ∧ Each (fun before => P (xs ++ before)) ys := by
  induction xs generalizing P with
  | nil => exact ⟨fun h => ⟨.nil, h⟩, And.right⟩
  | cons x xs ih => rw [List.cons_append, each_cons_iff, each_cons_iff, ih, and_assoc]; rfl

theorem each_concat_iff : Each P (xs ++ [x]) ↔ Each P xs ∧ P xs x := by
  rw [each_append_iff, each_cons_iff, List.append_nil]
  exact and_congr_right fun _ => and_iff_left .nil

theorem Each.of_forall (h : ∀ x ∈ xs, ∀ before, P before x) : Each P xs := by
  rintro before x after rfl
  exact h x (List.mem_append_right _ List.mem_cons_self) before

end Each

namespace WorkLog

/-- The last folder that was selected on a session, since it was opened, is this one, and the
session had it. -/
def Selected (s : SessionId) (folder : String) (log : WorkLog) : Prop :=
  ∃ before status after, log = before ++ ⟨.outside (.session s (.select folder)), .ok status⟩ :: after ∧
    ∀ x ∈ after, (∀ other, x.question ≠ .outside (.session s (.select other))) ∧
      ∀ email token, x ≠ ⟨.outside (.connect email token), .ok s⟩

def Confirmed (s : SessionId) (log : WorkLog) : Prop :=
  ⟨.outside (.session s .noop), .ok ()⟩ ∈ log ∨
    ∃ email token, ⟨.outside (.connect email token), .ok s⟩ ∈ log

/-- What was heard of a session, in order: that it was opened, or that it failed a probe. -/
def news (s : SessionId) (log : WorkLog) : List Bool :=
  log.filterMap fun x => match x with
    | ⟨.outside (.connect _ _), .ok id⟩ => if id = s then some true else none
    | ⟨.outside (.session id .noop), .error _⟩ => if id = s then some false else none
    | _ => none

/-- Whether the last that was heard of a session is that it failed a probe. -/
def isLost (s : SessionId) (log : WorkLog) : Bool := (news s log).getLast? == some false

variable {s : SessionId} {log log' : WorkLog}

theorem Confirmed.append_left (h : Confirmed s log') (log : WorkLog) : Confirmed s (log ++ log') := by
  refine h.imp (List.mem_append_right log) ?_
  rintro ⟨email, token, hopened⟩
  exact ⟨email, token, List.mem_append_right log hopened⟩

theorem Confirmed.append_right (h : Confirmed s log) (log' : WorkLog) : Confirmed s (log ++ log') := by
  refine h.imp (List.mem_append_left log') ?_
  rintro ⟨email, token, hopened⟩
  exact ⟨email, token, List.mem_append_left log' hopened⟩

theorem news_append : news s (log ++ log') = news s log ++ news s log' := List.filterMap_append

theorem isLost_append_of_news (h : news s log' = []) : isLost s (log ++ log') = isLost s log := by
  rw [isLost, news_append, h, List.append_nil, isLost]

theorem news_eq_nil (h : ∀ x ∈ log, x.question.ofSession = false) : news s log = [] := by
  refine List.filterMap_eq_nil_iff.mpr fun x hx => ?_
  have hx := h x hx
  split
  · cases hx
  · cases hx
  · rfl

theorem news_of_onSession {id : SessionId} (h : ∀ x ∈ log, x.question.OnSession s) :
    news id log = [] := by
  refine List.filterMap_eq_nil_iff.mpr fun x hx => ?_
  have hx := h x hx
  split
  · exact hx.elim
  · exact absurd rfl hx.2
  · rfl

end WorkLog

open WorkLog

/-! ## Chapters -/

/-- A part of what a worker says: about one task, or to close its connection. -/
structure Chapter where
  task : Option Task
  log : WorkLog

/-- A call to a session as it should be, with what was said in all chapters before (`past`) and in
this one (`before`). -/
structure Proper (task : Option Task) (past before : WorkLog) (s : SessionId) (call : SessionCall) :
    Prop where
  selected : call.inFolder = true →
    ∃ t folder, task = some t ∧ t.kind.folder? = some folder ∧ Selected s folder.fullName before
  confirmed : task.isSome = true → call ≠ .noop → Confirmed s before
  kept : isLost s (past ++ before) = false

/-- Every call to a session in a chapter is as it should be. -/
def Chapter.Careful (past : WorkLog) (ch : Chapter) : Prop :=
  Each (fun before x => ∀ s call, x.question = .outside (.session s call) →
    Proper ch.task past before s call) ch.log

/-- A session that is held is not lost. -/
def Connection.Kept (c : Connection) (past : WorkLog) : Prop :=
  ∀ s, c.session = some s → isLost s past = false

section Chapters

variable {p : Profile} {t : Task} {task : Option Task} {c c' : Connection} {past log log' : WorkLog}

theorem Connection.Kept.append (h : c.Kept past) (hlog : ∀ s, news s log = []) :
    c.Kept (past ++ log) := fun s hs => by rw [isLost_append_of_news (hlog s), h s hs]

theorem Connection.kept_closed : closed.Kept past := nofun

theorem Chapter.Careful.of_silent
    (h : ∀ x ∈ log, ∀ s call, x.question ≠ .outside (.session s call)) :
    Chapter.Careful past ⟨task, log⟩ :=
  .of_forall fun x hx _ s call hcall => absurd hcall (h x hx s call)

theorem Chapter.Careful.of_apart (h : ∀ x ∈ log, x.question.ofSession = false) :
    Chapter.Careful past ⟨task, log⟩ :=
  .of_silent fun x hx s call hcall => by
    have hx := h x hx
    rw [hcall] at hx
    cases hx

theorem Proper.append {before : WorkLog} {s : SessionId} {call : SessionCall}
    (h : Proper task (past ++ log) before s call) : Proper task past (log ++ before) s call where
  selected hfolder := by
    obtain ⟨t, folder, htask, hkind, earlier, status, after, rfl, hafter⟩ := h.selected hfolder
    exact ⟨t, folder, htask, hkind, log ++ earlier, status, after, by simp, hafter⟩
  confirmed htask hne := (h.confirmed htask hne).append_left log
  kept := by rw [← List.append_assoc, h.kept]

theorem Chapter.Careful.append (h : Chapter.Careful past ⟨task, log⟩)
    (h' : Chapter.Careful (past ++ log) ⟨task, log'⟩) :
    Chapter.Careful past ⟨task, log ++ log'⟩ :=
  each_append_iff.mpr ⟨h, fun before x after hlog s call hcall =>
    (h' before x after hlog s call hcall).append⟩

/-! ## Making sure of a session -/

namespace Connection

variable {email : String} {notice : Work Unit} {ensured : Ensured} {lost tried : WorkLog}
  {o : Except MailError SessionId}

theorem Kept.probe {id : SessionId} (h : Kept ⟨some id⟩ past) (reply : Except MailError Unit) :
    Chapter.Careful past ⟨task, [⟨.outside (.session id .noop), reply⟩]⟩ := by
  refine each_cons_iff.mpr ⟨fun s call hcall => ?_, .nil⟩
  cases hcall
  refine ⟨nofun, fun _ hne => absurd rfl hne, ?_⟩
  rw [List.append_nil]
  exact h id rfl

theorem Losing.careful (h : Losing c lost) (hkept : c.Kept past) :
    Chapter.Careful past ⟨task, lost⟩ := by
  cases h with
  | none => exact .nil
  | dead id e =>
      have hrelease : Chapter.Careful (past ++ [⟨.outside (.session id .noop), .error e⟩])
          ⟨task, [⟨.inside (.release id), ()⟩]⟩ := .of_silent (by simp)
      exact (hkept.probe _).append hrelease

/-- An attempt to open a session says nothing to one. What it opens is confirmed, whatever was
heard of it before. -/
theorem Opening.careful (h : Opening email tried o) (task : Option Task) (past : WorkLog) :
    Chapter.Careful past ⟨task, tried⟩ ∧
      ∀ s, o = .ok s → Confirmed s tried ∧ isLost s (past ++ tried) = false := by
  cases h with
  | refused e | rejected token e => exact ⟨.of_silent (by simp), nofun⟩
  | opened token id =>
      refine ⟨.of_silent (by simp), fun s hs => ?_⟩
      cases hs
      refine ⟨.inr ⟨email, token, by simp⟩, ?_⟩
      -- That it was opened is the last news of the session.
      rw [isLost, news_append, List.getLast?_append]
      simp [news]

theorem Ensuring.careful (h : Ensuring email notice c log ensured)
    (hnotice : notice.Asks fun q => q.ofSession = false) (hkept : c.Kept past)
    (task : Option Task) :
    Chapter.Careful past ⟨task, log⟩ ∧ ensured.connection.Kept (past ++ log) ∧
      ∀ s, ensured.session = .ok s → ensured.connection.session = some s ∧ Confirmed s log := by
  cases h with
  | alive id =>
      refine ⟨hkept.probe _, hkept.append fun _ => rfl, fun s hs => ?_⟩
      cases hs
      exact ⟨rfl, .inl (List.mem_singleton_self _)⟩
  | @reopened _ lost noticed tried o hlost hnoticed htried =>
      have hapart := hnotice.of_holds hnoticed
      obtain ⟨hcareful, hopened⟩ := htried.careful task (past ++ lost ++ noticed)
      refine ⟨(hlost.careful hkept).append ((Chapter.Careful.of_apart hapart).append hcareful), ?_, ?_⟩
      · intro s hs
        obtain rfl : o = .ok s := by cases o <;> cases hs; rfl
        have hfound := (hopened s rfl).2
        rwa [List.append_assoc, List.append_assoc] at hfound
      · rintro s rfl
        exact ⟨rfl, (hopened s rfl).1.append_left _ |>.append_left _⟩

end Connection

namespace Task

theorem openSession_careful {o : Except MailError SessionId × Connection}
    (h : Holds (t.openSession p c) log o) (hkept : c.Kept past) (task : Option Task) :
    Chapter.Careful past ⟨task, log⟩ ∧ o.2.Kept (past ++ log) ∧
      ∀ s, o.1 = .ok s → Confirmed s log ∧ isLost s (past ++ log) = false := by
  have hquiet : (t.note .connecting).Asks fun q => q.ofSession = false := ⟨rfl, fun _ => trivial⟩
  have hasked : c.Kept (past ++ [⟨.inside .isCancelled, false⟩]) := hkept.append fun _ => rfl
  cases openSession_log h with
  | stopped => exact ⟨.of_silent (by simp), hkept.append fun _ => rfl, nofun⟩
  | @failed made ensured e hmade he =>
      obtain ⟨hcareful, hkept', -⟩ := hmade.careful hquiet hasked task
      have hfirst : Chapter.Careful past ⟨task, [⟨.inside .isCancelled, false⟩]⟩ := .of_silent (by simp)
      rw [List.append_assoc] at hkept'
      exact ⟨hfirst.append hcareful, hkept', nofun⟩
  | @made made ensured id stopped hmade hid =>
      obtain ⟨hcareful, hkept', hgiven⟩ := hmade.careful hquiet hasked task
      have hfirst : Chapter.Careful past ⟨task, [⟨.inside .isCancelled, false⟩]⟩ := .of_silent (by simp)
      generalize htail : ((if ensured.reopened then
        [⟨.inside (.emit (t.progressed .connected)), ()⟩] else []) ++
          [⟨.inside .isCancelled, stopped⟩] : WorkLog) = tail
      have hapart : ∀ x ∈ tail, x.question.ofSession = false := by
        subst htail
        cases ensured.reopened <;> simp [Request.ofSession]
      have hkept'' := hkept'.append fun _ => news_eq_nil hapart
      rw [List.append_assoc, List.append_assoc] at hkept''
      refine ⟨hfirst.append (hcareful.append (.of_apart hapart)), hkept'', fun s hs => ?_⟩
      cases stopped with
      | true => cases hs
      | false =>
          cases hs
          obtain ⟨hheld, hconfirmed⟩ := hgiven id hid
          exact ⟨(hconfirmed.append_right tail).append_left [⟨.inside .isCancelled, false⟩],
            hkept'' id hheld⟩

theorem inSession_onSession (p : Profile) (s : SessionId) (kind : TaskKind) :
    (inSession p s kind).run.Asks (Request.OnSession s) := by
  cases hmailbox : kind.needsMailbox with
  | false =>
      obtain ⟨raw, rfl⟩ := needsMailbox_eq_false hmailbox
      exact (sendMessage_asks p raw).mono fun _ => Request.IsSubmission.onSession
  | true =>
      exact inSession_asks_of p s hmailbox ⟨rfl, nofun⟩ (fun _ => ⟨rfl, nofun⟩) fun _ =>
        Request.InFolder.onSession

/-- A call in a folder follows the selection of the folder by the task, and nothing else was
selected since. -/
theorem inSession_selected {s : SessionId} {o : Except MailError Report}
    (h : Holds (inSession p s t.kind).run log o) : Each (fun before x =>
      ∀ id call, x.question = .outside (.session id call) → call.inFolder = true →
        ∃ folder, t.kind.folder? = some folder ∧ Selected id folder.fullName before) log := by
  cases hfolder : t.kind.folder? with
  | none =>
      have hasks : (inSession p s t.kind).run.Asks fun q =>
          ∀ id call, q = .outside (.session id call) → call.inFolder = false := by
        cases hkind : t.kind with
        | updateLabels =>
            exact Attempt.asks_bind (Trial.asks_outside (by rintro _ _ ⟨⟩; rfl)) fun _ => Attempt.asks_pure _
        | send raw => exact (sendMessage_asks p raw).mono fun q hq id call hcall => (hcall ▸ hq).elim
        | loadMessages _ _ _ | loadDetails _ _ | loadPage _ _ | loadNew _ _ | move _ _ _
        | syncFolder _ =>
            rw [hkind] at hfolder
            cases hfolder
      refine .of_forall fun x hx before id call hcall hin => ?_
      rw [hasks.of_holds h x hx id call hcall] at hin
      cases hin
  | some folder =>
      obtain ⟨report, hreport⟩ | ⟨f, hf, hrest⟩ := inSession_selects p s hfolder
      · rw [hreport] at h
        obtain ⟨rfl, -⟩ := holds_pure_iff.mp h
        exact .nil
      · rw [hf] at h
        rcases Attempt.holds_bind_iff.mp h with ⟨e, hselect, -⟩ |
          ⟨asked, rest, status, rfl, hselect, hafter⟩
        · obtain rfl := Trial.holds_outside_iff.mp hselect
          refine each_cons_iff.mpr ⟨fun id call hcall hin => ?_, .nil⟩
          cases hcall
          cases hin
        · obtain rfl := Trial.holds_outside_iff.mp hselect
          have hrest := (hrest status).of_holds hafter
          refine each_cons_iff.mpr ⟨fun id call hcall hin => ?_, ?_⟩
          · cases hcall
            cases hin
          -- All that follows is about the folder, so it selects no other and opens no session.
          rintro before x after rfl id call hcall -
          have hid : id = s := by
            have hx := hrest x (List.mem_append_right _ List.mem_cons_self)
            rw [hcall] at hx
            exact hx.1
          subst hid
          refine ⟨folder, rfl, [], status, before, rfl, fun y hy => ⟨fun other hother => ?_, ?_⟩⟩
          · have hy := hrest y (List.mem_append_left _ hy)
            rw [hother] at hy
            cases hy.2
          · rintro email token rfl
            exact hrest _ (List.mem_append_left _ hy)

theorem inSession_careful {s : SessionId} {opened : WorkLog} {o : Except MailError Report}
    (h : Holds (inSession p s t.kind).run log o)
    (hconfirmed : Confirmed s opened) (hkept : isLost s (past ++ opened) = false) :
    Each (fun before x => ∀ id call, x.question = .outside (.session id call) →
      Proper (some t) past (opened ++ before) id call) log := by
  have hon := (inSession_onSession p s t.kind).of_holds h
  rintro before x after rfl id call hcall
  obtain ⟨rfl, hnoop⟩ : id = s ∧ call ≠ .noop := by
    have hx := hon x (List.mem_append_right _ List.mem_cons_self)
    rwa [hcall] at hx
  have hnews : news id before = [] :=
    news_of_onSession fun y hy => hon y (List.mem_append_left _ hy)
  refine ⟨fun hin => ?_, fun _ _ => hconfirmed.append_right before, ?_⟩
  · obtain ⟨folder, hfolder, earlier, status, after', rfl, hafter⟩ :=
      inSession_selected h before x after rfl id call hcall hin
    exact ⟨t, folder, rfl, hfolder, opened ++ earlier, status, after', by simp, hafter⟩
  · rw [← List.append_assoc, isLost_append_of_news hnews, hkept]

/-! ## Settling -/

theorem settle_apart (t : Task) (outcome : Except MailError Report) (c : Connection) :
    (t.settle outcome c).Asks fun q => q.ofSession = false :=
  (t.settle_asks outcome c).mono fun _ => Request.IsInside.ofSession

theorem perform_careful {o : Except MailError Report × Connection}
    (h : Holds (t.perform p c) log o) (hkept : c.Kept past) :
    Chapter.Careful past ⟨some t, log⟩ ∧ o.2.Kept (past ++ log) := by
  cases hmailbox : t.kind.needsMailbox with
  | false =>
      obtain ⟨raw, hkind⟩ := needsMailbox_eq_false hmailbox
      obtain ⟨hsent, rfl⟩ := perform_send hkind h
      have hasks := (sendMessage_asks p raw).of_holds hsent
      have hapart : ∀ x ∈ log, x.question.ofSession = false := fun x hx => (hasks x hx).ofSession
      exact ⟨.of_apart hapart, hkept.append fun _ => news_eq_nil hapart⟩
  | true =>
      obtain ⟨opened, rest, session, c', rfl, hopened, hrest⟩ := perform_log hmailbox h
      obtain ⟨hcareful, hkept', hgiven⟩ := openSession_careful hopened hkept (some t)
      obtain ⟨e, -, rfl, rfl⟩ | ⟨id, rfl, hworked, rfl⟩ := hrest
      · rw [List.append_nil]
        exact ⟨hcareful, hkept'⟩
      · obtain ⟨hconfirmed, hheld⟩ := hgiven id rfl
        refine ⟨each_append_iff.mpr ⟨hcareful, inSession_careful hworked hconfirmed hheld⟩, ?_⟩
        rw [← List.append_assoc]
        exact hkept'.append fun _ => news_of_onSession ((inSession_onSession p id t.kind).of_holds hworked)

end Task

/-- What a worker says about a task is as it should be, and keeps its session. -/
theorem Chapter.careful_process (h : Holds (Worker.process p t c) log c') (hkept : c.Kept past) :
    Chapter.Careful past ⟨some t, log⟩ ∧ c'.Kept (past ++ log) := by
  obtain ⟨noted, log₁, _, rfl, hnoted, h₁⟩ := holds_bind_iff.mp h
  obtain ⟨performed, settled, ⟨outcome, c₁⟩, rfl, hperformed, hsettled⟩ := holds_bind_iff.mp h₁
  obtain rfl := Task.holds_note_iff.mp hnoted
  have hstarted : c.Kept (past ++ [⟨.inside (.emit (t.progressed .taskStarted)), ()⟩]) :=
    hkept.append fun _ => rfl
  have hfirst : Chapter.Careful past ⟨some t, [⟨.inside (.emit (t.progressed .taskStarted)), ()⟩]⟩ :=
    .of_silent (by simp)
  obtain ⟨hcareful, hkept'⟩ := Task.perform_careful hperformed hstarted
  have hapart := (t.settle_apart outcome c₁).of_holds hsettled
  refine ⟨hfirst.append (hcareful.append (.of_apart hapart)), ?_⟩
  cases Task.settle_settling hsettled with
  | dropped _ _ _ => exact Connection.kept_closed
  | kept _ _ =>
      have hlast := hkept'.append fun _ => news_eq_nil hapart
      rwa [List.append_assoc, List.append_assoc] at hlast

theorem Chapter.careful_disconnect (h : Holds c.disconnect log c') (hkept : c.Kept past) :
    Chapter.Careful past ⟨none, log⟩ := by
  obtain ⟨-, ⟨-, rfl⟩ | ⟨id, reply, rfl, rfl⟩⟩ := Connection.disconnect_log h
  · exact .of_silent (by simp)
  · have hlogout : Chapter.Careful past ⟨none, [⟨.outside (.session id .logout), reply⟩]⟩ := by
      refine each_cons_iff.mpr ⟨fun s call hcall => ?_, .nil⟩
      cases hcall
      refine ⟨nofun, nofun, ?_⟩
      rw [List.append_nil]
      exact hkept id rfl
    have hrest : Chapter.Careful (past ++ [⟨.outside (.session id .logout), reply⟩])
        ⟨none, [⟨.inside (.release id), ()⟩, ⟨.inside (.publish .disconnected), ()⟩]⟩ :=
      .of_silent (by simp)
    exact hlogout.append hrest

end Chapters

end MailSync
