import MailSync.Proofs.Engine.Ledger
import MailSync.Proofs.Engine.Succession
import MailSync.Proofs.Story
import MailSync.Proofs.Submission

/-!
# The order of tasks

Where one worker is in charge at a time, the worker that is at a task is at
the one that was taken last (`Ordered.last`), so all that is told is told in
the order of the tasks (`Ordered.log`). With what is told of each task this
gives the order of a whole run (`Run.sequenced`): tasks start in the order in
which they arrived and once at most, each is told of in one piece, and what
was dropped is never taken.
-/

namespace MailSync

open Dialogue Engine

variable {p : Profile} {e e' : Engine} {l l' : Ledger}

/-! ## One task after the other -/

structure Ordered (l : Ledger) : Prop where
  last : ∀ {i n}, l.held i = some n → l.taken.getLast? = some n
  log : l.log.Pairwise fun x y => x.1 ≤ y.1

namespace Ordered

theorem call (h : Ordered l) (c : Call) : Ordered (l.recordCall c) := by
  cases c with
  | enqueue _ | cancelAll | halt | disconnect | look _ => exact ⟨h.last, h.log⟩
  | start reset => cases reset <;> exact ⟨h.last, h.log⟩

/-- The last number that was taken is the greatest. -/
theorem le_last {n k : Nat} (hascending : l.taken.Pairwise (· < ·)) (hlast : l.taken.getLast? = some n)
    (hk : k ∈ l.taken) : k ≤ n := by
  obtain ⟨before, htaken⟩ := List.getLast?_eq_some_iff.mp hlast
  rw [htaken] at hascending hk
  rcases List.mem_append.mp hk with hk | hk
  · exact Nat.le_of_lt ((List.pairwise_append.mp hascending).2.2 k hk n (List.mem_singleton_self n))
  · exact Nat.le_of_eq (List.mem_singleton.mp hk)

theorem move (h : Ordered l) (hsingle : SingleConsumer e) (hnumbered : Numbered e l)
    (hconversing : Conversing e l) {w : Worker} {m : Move} {phase : Phase} {board : Board}
    {queue : List Task} (hw : e.workers[m.worker]? = some w)
    (hrecorded : Recorded e l w m phase board queue l') : Ordered l' := by
  cases hrecorded with
  | passes _ _ => exact h
  | @takes id c t _ n waiting hphase hwaiting _ _ =>
      refine ⟨fun {i k} hi => ?_, h.log⟩
      rcases Ledger.held_give_iff.mp hi with ⟨-, rfl⟩ | ⟨hne, hi⟩
      · exact List.getLast?_concat
      · -- Another worker at a task would be in charge beside this one.
        obtain ⟨-, t', rest, hworking⟩ := hconversing.held hi
        have hidle : e.phase? id = some (.idle c) := by
          have hw : e.workers[id]? = some w := hw
          rw [phase?_of_worker hw, hphase]
        exact absurd (hsingle i id _ _ hworking hidle rfl rfl) hne
  | @works _ x _ _ _ n _ hheld _ =>
      refine ⟨h.last, List.pairwise_append.mpr ⟨h.log, List.pairwise_singleton .., ?_⟩⟩
      intro y hy z hz
      obtain rfl := List.mem_singleton.mp hz
      exact le_last (List.pairwise_append.mp hnumbered.ascending).1 (h.last hheld)
        (hconversing.logged y hy)
  | finishes id _ => exact ⟨fun hi => h.last (Ledger.held_hold_none_iff.mp hi).2, h.log⟩

end Ordered

theorem Run.ordered (h : Run p Orderly e l) : Ordered l := by
  refine Run.keeps (fun _ l => Ordered l) h ⟨nofun, .nil⟩ (fun c hordered => hordered.call c)
    fun run hordered hw _ hrecorded => ?_
  have hfaithful := Run.faithful run
  exact hordered.move (Run.succession run).single hfaithful.numbered hfaithful.conversing hw hrecorded

/-! ## Blocks -/

/-- A list in the order of its keys falls into what comes before a key, what has it, and what
comes after it. -/
theorem eq_blocks {α : Type} {key : α → Nat} {xs : List α}
    (h : xs.Pairwise fun x y => key x ≤ key y) (n : Nat) :
    xs = xs.filter (key · < n) ++ xs.filter (key · = n) ++ xs.filter (n < key ·) := by
  induction xs with
  | nil => rfl
  | cons x xs ih =>
      obtain ⟨hx, hxs⟩ := List.pairwise_cons.mp h
      rcases Nat.lt_trichotomy (key x) n with hlt | heq | hgt
      · have hne : key x ≠ n := Nat.ne_of_lt hlt
        have hnot : ¬ n < key x := Nat.lt_asymm hlt
        simpa [hlt, hne, hnot] using ih hxs
      · have hbefore : xs.filter (key · < n) = [] := List.filter_eq_nil_iff.mpr fun y hy => by
          simpa [heq] using hx y hy
        have hrest := ih hxs
        rw [hbefore, List.nil_append] at hrest
        simpa [heq, hbefore] using hrest
      · have hbefore : xs.filter (key · < n) = [] := List.filter_eq_nil_iff.mpr fun y hy => by
          simpa using Nat.le_of_lt (Nat.lt_of_lt_of_le hgt (hx y hy))
        have hblock : xs.filter (key · = n) = [] := List.filter_eq_nil_iff.mpr fun y hy => by
          simpa using Nat.ne_of_gt (Nat.lt_of_lt_of_le hgt (hx y hy))
        have hrest := ih hxs
        rw [hbefore, hblock, List.nil_append, List.nil_append] at hrest
        have hne : key x ≠ n := Nat.ne_of_gt hgt
        have hnot : ¬ key x < n := Nat.lt_asymm hgt
        simpa [hgt, hne, hnot, hbefore, hblock] using hrest

theorem Ordered.stream (h : Ordered l) : l.stream.Pairwise fun x y => x.1 ≤ y.1 := by
  refine h.log.filterMap _ fun x y hxy x' hx' y' hy' => ?_
  obtain ⟨event, -, rfl⟩ := Option.map_eq_some_iff.mp hx'
  obtain ⟨event', -, rfl⟩ := Option.map_eq_some_iff.mp hy'
  exact hxy

/-! ## One task -/

namespace Conversing

/-- What is told of a task is told under its tag, and starts once at most. -/
theorem tells (h : Conversing e l) (n : Nat) :
    ((WorkLog.events (l.exchanges n)).filter Event.isStart).length ≤ 1 ∧
      ∀ event ∈ WorkLog.events (l.exchanges n),
        ∃ t, l.arrived[n]? = some t ∧ event.tag = t.tag := by
  by_cases hn : n ∈ l.taken
  · obtain ⟨t, c, later, c', harrived, hholds⟩ := h.completes hn
    obtain ⟨performed, settled, outcome, ending, hstory⟩ := Worker.process_tells hholds
    have hstarts := congrArg List.length hstory.starts
    have htags := hstory.tags
    rw [WorkLog.events_append] at hstarts htags
    rw [List.filter_append, List.length_append, List.length_singleton] at hstarts
    exact ⟨hstarts ▸ Nat.le_add_right .., fun event hevent =>
      ⟨t, harrived, htags event (List.mem_append_left _ hevent)⟩⟩
  · rw [h.exchanges_eq_nil hn]
    exact ⟨Nat.zero_le 1, nofun⟩

/-- For a task at most one message is submitted, which is that of the task. -/
theorem submissions (h : Conversing e l) (n : Nat) : WorkLog.submissions (l.exchanges n) = [] ∨
    ∃ t raw, l.arrived[n]? = some t ∧ t.kind = .send raw ∧
      WorkLog.submissions (l.exchanges n) = [raw] := by
  by_cases hn : n ∈ l.taken
  · obtain ⟨t, c, later, c', harrived, hholds⟩ := h.completes hn
    have hsubmissions := Worker.process_submissions hholds
    rw [WorkLog.submissions_append] at hsubmissions
    cases hsent : WorkLog.submissions (l.exchanges n) with
    | nil => exact .inl rfl
    | cons raw rest =>
        rw [hsent] at hsubmissions
        rcases hsubmissions with hnone | ⟨raw', hkind, hone⟩
        · cases hnone
        · obtain ⟨rfl, hrest⟩ := List.cons.inj hone
          obtain ⟨rfl, -⟩ := List.append_eq_nil_iff.mp hrest
          exact .inr ⟨t, raw, harrived, hkind, rfl⟩
  · rw [h.exchanges_eq_nil hn]
    exact .inl rfl

/-- While a message is being submitted, none was submitted for its task. -/
theorem submissions_eq_nil (h : Conversing e l) {i : WorkerId} {t : Task} {email token : String}
    {raw : Bytes} {next : Except MailError Unit → Work Connection}
    (hi : e.phase? i = some (.working t (.ask (.outside (.send email token raw)) next))) :
    ∃ n, l.held i = some n ∧ WorkLog.submissions (l.exchanges n) = [] := by
  obtain ⟨n, c, hheld, -, hleads⟩ := h.working hi
  obtain ⟨later, c', hlater⟩ := Work.exists_holds (.ask (.outside (.send email token raw)) next)
  have hsubmissions := Worker.process_submissions (hleads.append hlater)
  obtain ⟨reply, rest, rfl, -⟩ := holds_ask_iff.mp hlater
  have hsent : WorkLog.submissions (⟨.outside (.send email token raw), reply⟩ :: rest) =
      raw :: WorkLog.submissions rest := rfl
  rw [WorkLog.submissions_append, hsent] at hsubmissions
  refine ⟨n, hheld, ?_⟩
  rcases hsubmissions with hnone | ⟨raw', -, hone⟩
  · exact (List.append_eq_nil_iff.mp hnone).1
  · cases hbefore : WorkLog.submissions (l.exchanges n) with
    | nil => rfl
    | cons first others =>
        rw [hbefore] at hone
        obtain ⟨-, hothers⟩ := List.cons.inj hone
        cases (List.append_eq_nil_iff.mp hothers).2

end Conversing

theorem Request.IsParting.sendsNothing {q : Request} (h : q.IsParting) : q.SendsNothing := by
  unfold Request.SendsNothing
  split
  · exact h
  · trivial

/-! ## What was dropped -/

theorem Ledger.mem_dropped_record {n : Nat} (hn : n ∈ l.dropped) (e : Engine) (a : Action) :
    n ∈ (l.record e a).dropped := by
  cases a with
  | call c => cases c with
    | enqueue _ | disconnect | look _ => exact hn
    | cancelAll | halt => exact List.mem_append_left _ hn
    | start reset => cases reset with
      | false => exact hn
      | true => exact List.mem_append_left _ hn
  | move m =>
      rw [record, (l.recordMove_kept e m).2]
      exact hn

/-- What was dropped stays so. -/
theorem Onward.mem_dropped {may : Engine → Action → Prop} {n : Nat} (h : Onward may e l e' l')
    (hn : n ∈ l.dropped) : n ∈ l'.dropped := by
  induction h with
  | here => exact hn
  | next _ _ _ ih => exact Ledger.mem_dropped_record ih _ _

/-- What was dropped was not taken, so nothing is told of it. -/
theorem Faithful.dropped {n : Nat} (h : Faithful p e l) (hn : n ∈ l.dropped) :
    n ∉ l.taken ∧ ∀ x ∈ l.stream, x.1 ≠ n := by
  have htaken : n ∉ l.taken := fun htaken =>
    h.numbered.disjoint n hn (List.mem_append_left _ htaken)
  refine ⟨htaken, ?_⟩
  rintro x hx rfl
  obtain ⟨y, hy, hyx⟩ := List.mem_filterMap.mp hx
  obtain ⟨event, -, rfl⟩ := Option.map_eq_some_iff.mp hyx
  exact htaken (h.conversing.logged y hy)

/-! ## Runs -/

/-- What a run does with tasks, and in which order. -/
structure Sequenced (e : Engine) (l : Ledger) : Prop where
  received : e.board.events = l.stream.map (·.2)
  /-- Every event belongs to the task of its number. -/
  tagged : ∀ x ∈ l.stream, ∃ t, l.arrived[x.1]? = some t ∧ x.2.tag = t.tag
  /-- Tasks start in the order in which they arrived, each once at most. -/
  starts : ((l.stream.filter (·.2.isStart)).map (·.1)).Pairwise (· < ·)
  /-- The events of a task follow each other. -/
  blocks : ∀ n, l.stream =
    l.stream.filter (·.1 < n) ++ l.stream.filter (·.1 = n) ++ l.stream.filter (n < ·.1)
  /-- The tasks that are queued are those that arrived and were neither taken nor dropped. -/
  queue : e.queue.map some = l.waiting.map (l.arrived[·]?)
  waiting : l.waiting.Nodup ∧
    ∀ n, n ∈ l.waiting ↔ n < l.arrived.length ∧ n ∉ l.taken ∧ n ∉ l.dropped
  counts : e.cancelAll.1 = l.waiting.length
  /-- A worker that is at a task took it. -/
  working : ∀ {i t rest}, e.phase? i = some (.working t rest) →
    ∃ n ∈ l.taken, l.held i = some n ∧ l.arrived[n]? = some t
  /-- What is queued when the queue is emptied never starts. -/
  never : ∀ {c e' l'}, c = .cancelAll ∨ c = .start true →
    Onward Unhalted (e.obey c) (l.recordCall c) e' l' →
      ∀ n ∈ l.waiting, n ∉ l'.taken ∧ ∀ x ∈ l'.stream, x.1 ≠ n
  /-- For a task at most one message is submitted, which is that of the task. -/
  submits : ∀ n, WorkLog.submissions (l.exchanges n) = [] ∨
    ∃ t raw, l.arrived[n]? = some t ∧ t.kind = .send raw ∧
      WorkLog.submissions (l.exchanges n) = [raw]
  /-- While a message is being submitted, none was submitted before for its task. -/
  submitting : ∀ {i t email token raw next},
    e.phase? i = some (.working t (.ask (.outside (.send email token raw)) next)) →
      ∃ n, l.held i = some n ∧ WorkLog.submissions (l.exchanges n) = []
  /-- A worker that leaves submits nothing. -/
  leaving : ∀ {i rest}, e.phase? i = some (.leaving rest) → rest.Asks Request.SendsNothing

theorem Run.starts_ascending (h : Run p Orderly e l) :
    ((l.stream.filter (·.2.isStart)).map (·.1)).Pairwise (· < ·) := by
  have hsorted : ((l.stream.filter (·.2.isStart)).map (·.1)).Pairwise (· ≤ ·) :=
    List.pairwise_map.mpr ((Run.ordered h).stream.filter _)
  have honce : ((l.stream.filter (·.2.isStart)).map (·.1)).Nodup :=
    List.nodup_iff_count.mpr fun n => by
      refine Nat.le_trans (Nat.le_of_eq ?_) ((Run.faithful h).conversing.tells n).1
      rw [← Ledger.stream_filter, List.count, List.countP_map, List.countP_filter, List.filter_map,
        List.length_map, List.filter_filter, ← List.countP_eq_length_filter]
      refine List.countP_congr fun x _ => ?_
      simp [and_comm]
  exact (hsorted.and honce).imp fun ⟨hle, hne⟩ => Nat.lt_of_le_of_ne hle hne

/-- The engine takes tasks in order and each once at most, however often workers are replaced. -/
theorem Run.sequenced (h : Run p Unhalted e l) : Sequenced e l := by
  have hfaithful := Run.faithful h
  have hordered := Run.ordered (Run.orderly h)
  obtain ⟨-, hnumbered, hconversing, hreporting⟩ := hfaithful
  have hsplit := List.pairwise_append.mp hnumbered.ascending
  refine ⟨hreporting.events, fun x hx => ?_, Run.starts_ascending (Run.orderly h),
    eq_blocks hordered.stream, hnumbered.queue, ⟨hsplit.2.1.imp Nat.ne_of_lt, fun n => ?_⟩, ?_,
    fun {i t rest} hi => ?_, fun {c e' l'} hc honward n hn => ?_, hconversing.submissions, hconversing.submissions_eq_nil,
    fun hi => (hreporting.leaving hi).mono fun _ => Request.IsParting.sendsNothing⟩
  · refine (hconversing.tells x.1).2 x.2 ?_
    rw [← Ledger.stream_filter]
    exact List.mem_map_of_mem (List.mem_filter.mpr ⟨hx, decide_eq_true rfl⟩)
  · constructor
    · intro hn
      have hplace := List.mem_append_right l.taken hn
      refine ⟨(hnumbered.every n).mpr (.inl hplace), fun htaken => ?_, fun hdropped => ?_⟩
      · exact Nat.lt_irrefl n (hsplit.2.2 n htaken n hn)
      · exact hnumbered.disjoint n hdropped hplace
    · rintro ⟨harrived, htaken, hdropped⟩
      rcases (hnumbered.every n).mp harrived with hplace | hdropped'
      · exact (List.mem_append.mp hplace).resolve_left htaken
      · exact absurd hdropped' hdropped
  · rw [cancelAll, ← List.length_map (f := some), hnumbered.queue, List.length_map]
  · obtain ⟨n, c, hheld, harrived, -⟩ := hconversing.working hi
    exact ⟨n, (hconversing.held hheld).1, hheld, harrived⟩
  · have hunhalted : Unhalted e (.call c) := fun hhalt => by
      rcases hc with rfl | rfl <;> cases hhalt
    have hrun : Run p Unhalted e' l' := (Onward.next h hunhalted rfl).trans honward
    have hdropped : n ∈ (l.recordCall c).dropped := by
      rcases hc with rfl | rfl <;> exact List.mem_append_right _ hn
    exact (Run.faithful hrun).dropped (honward.mem_dropped hdropped)

/-- Of three messages to send, the first is at work and the second is queued when the worker is
replaced; the third comes after that. -/
theorem Run.sequenced_reset : ∃ e l, Run ⟨"me", .default⟩ Unhalted e l ∧
    e.board.events = [⟨⟨"ui", 1⟩, .progress .taskStarted⟩, ⟨⟨"ui", 3⟩, .progress .taskStarted⟩] ∧
    l.taken = [0, 2] ∧ l.dropped = [1] ∧ Sequenced e l := by
  have first : Run ⟨"me", .default⟩ Unhalted _ _ :=
    .next (a := .call (.enqueue ⟨⟨"ui", 1⟩, .send []⟩)) .here nofun rfl
  have second := Onward.next (a := .call (.enqueue ⟨⟨"ui", 2⟩, .send []⟩)) first nofun rfl
  have started := Onward.next (a := .call (.start false)) second nofun rfl
  have begun := Onward.next (a := .move (.begin 0)) started nofun rfl
  have taken := Onward.next (a := .move (.take 0)) begun nofun rfl
  have noted := Onward.next (a := .move (.tell 0)) taken nofun rfl
  have replaced := Onward.next (a := .call (.start true)) noted nofun rfl
  have third := Onward.next (a := .call (.enqueue ⟨⟨"ui", 3⟩, .send []⟩)) replaced nofun rfl
  -- The first worker finds itself stopped and leaves.
  have given := Onward.next (a := .move (.answer 0 .token (.ok "token"))) third nofun rfl
  have checked := Onward.next (a := .move (.tell 0)) given nofun rfl
  have settled := Onward.next (a := .move (.tell 0)) checked nofun rfl
  have idle := Onward.next (a := .move (.finish 0)) settled nofun rfl
  have leaving := Onward.next (a := .move (.leave 0)) idle nofun rfl
  have published := Onward.next (a := .move (.tell 0)) leaving nofun rfl
  have finished := Onward.next (a := .move (.finish 0)) published nofun rfl
  have begun' := Onward.next (a := .move (.begin 1)) finished nofun rfl
  have taken' := Onward.next (a := .move (.take 1)) begun' nofun rfl
  have noted' := Onward.next (a := .move (.tell 1)) taken' nofun rfl
  exact ⟨_, _, noted', rfl, rfl, rfl, Run.sequenced noted'⟩

end MailSync
