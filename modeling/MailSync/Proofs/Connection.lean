import MailSync.Connection
import MailSync.Proofs.Dialogue

/-!
# The life of a connection

A connection holds at most one session, and publishes a state beside it. The
two change at different points of three calls, and each call may fail at up
to three. `Connection.ensure_log` says once what the conversation of `ensure`
can be; everything else is read off it.

`Connection.History.sound` is about any sequence of calls: the published
state and the session agree, every session that was opened was given up once
unless it is still held, and a failed call leaves nothing behind. That the
session is missing right after it was opened is a case that never occurs
(`Connection.ensure_eq_checked`).
-/

namespace MailSync

open Dialogue

abbrev WorkLog := List (Exchange Request Request.Reply)

/-! ## What a conversation says of the connection -/

/-- Whether a question is one that only the connection asks. -/
def Request.ofConnection : Request → Bool
  | .outside (.send ..) | .outside (.store _) => false
  | .outside _ => true
  | .inside (.publish _) | .inside (.release _) => true
  | .inside _ => false

namespace WorkLog

def states (log : WorkLog) : List ConnectionState :=
  log.filterMap fun x => match x with
    | ⟨.inside (.publish state), _⟩ => some state
    | _ => none

/-- The state that a new connection shows after a conversation. -/
def published (log : WorkLog) : ConnectionState := (states log).getLastD .disconnected

def probes (log : WorkLog) : List (SessionId × Except MailError Unit) :=
  log.filterMap fun x => match x with
    | ⟨.outside (.session id .noop), reply⟩ => some (id, reply)
    | _ => none

def tokens (log : WorkLog) : List (Except MailError String) :=
  log.filterMap fun x => match x with
    | ⟨.outside .token, reply⟩ => some reply
    | _ => none

/-- The attempts to open a session: for whom, with which token, and the outcome. -/
def connects (log : WorkLog) : List (String × String × Except MailError SessionId) :=
  log.filterMap fun x => match x with
    | ⟨.outside (.connect email token), reply⟩ => some (email, token, reply)
    | _ => none

def opened (log : WorkLog) : List SessionId := (connects log).filterMap (·.2.2.toOption)

def released (log : WorkLog) : List SessionId :=
  log.filterMap fun x => match x with
    | ⟨.inside (.release id), _⟩ => some id
    | _ => none

/-- What was said that does not concern the connection. -/
def asides (log : WorkLog) : WorkLog := log.filter fun x => !x.question.ofConnection

variable {log log' : WorkLog}

@[simp] theorem states_append : states (log ++ log') = states log ++ states log' :=
  List.filterMap_append

@[simp] theorem probes_append : probes (log ++ log') = probes log ++ probes log' :=
  List.filterMap_append

@[simp] theorem tokens_append : tokens (log ++ log') = tokens log ++ tokens log' :=
  List.filterMap_append

@[simp] theorem connects_append : connects (log ++ log') = connects log ++ connects log' :=
  List.filterMap_append

@[simp] theorem opened_append : opened (log ++ log') = opened log ++ opened log' := by
  rw [opened, connects_append, List.filterMap_append, opened, opened]

@[simp] theorem released_append : released (log ++ log') = released log ++ released log' :=
  List.filterMap_append

theorem published_append {state : ConnectionState} (h : (states log').getLast? = some state) :
    published (log ++ log') = state := by
  rw [published, states_append, List.getLastD_eq_getLast?, List.getLast?_append, h, Option.some_or,
    Option.getD_some]

theorem published_append_of_nil (h : states log' = []) :
    published (log ++ log') = published log := by
  rw [published, states_append, h, List.append_nil, published]

/-- A conversation that does not concern the connection. -/
def Apart (log : WorkLog) : Prop := ∀ x ∈ log, x.question.ofConnection = false

namespace Apart

variable (h : Apart log)
include h

theorem filterMap_eq_nil {α : Type} {f : Exchange Request Request.Reply → Option α}
    (hf : ∀ x, x.question.ofConnection = false → f x = none) : log.filterMap f = [] :=
  List.filterMap_eq_nil_iff.mpr fun x hx => hf x (h x hx)

theorem states_eq : states log = [] := h.filterMap_eq_nil fun x hx => by
  split
  · cases hx
  · rfl

theorem probes_eq : probes log = [] := h.filterMap_eq_nil fun x hx => by
  split
  · cases hx
  · rfl

theorem tokens_eq : tokens log = [] := h.filterMap_eq_nil fun x hx => by
  split
  · cases hx
  · rfl

theorem connects_eq : connects log = [] := h.filterMap_eq_nil fun x hx => by
  split
  · cases hx
  · rfl

theorem released_eq : released log = [] := h.filterMap_eq_nil fun x hx => by
  split
  · cases hx
  · rfl

end Apart

end WorkLog

namespace Connection

open WorkLog

variable {email : String} {notice : Work Unit} {c c' : Connection} {log call : WorkLog}

/-! ## What is said in one call -/

/-- A session that is to be replaced: none, or one whose probe failed and which is given up. -/
inductive Losing : Connection → WorkLog → Prop where
  | none : Losing closed []
  | dead (id : SessionId) (e : MailError) :
    Losing ⟨some id⟩ [⟨.outside (.session id .noop), .error e⟩, ⟨.inside (.release id), ()⟩]

/-- An attempt to open a session fails for want of a token, fails with the connector, or
succeeds. -/
inductive Opening (email : String) : WorkLog → Except MailError SessionId → Prop where
  | refused (e : MailError) : Opening email
      [⟨.inside (.publish .connecting), ()⟩, ⟨.outside .token, .error e⟩,
        ⟨.inside (.publish .failed), ()⟩] (.error (tokenFailure e))
  | rejected (token : String) (e : MailError) : Opening email
      [⟨.inside (.publish .connecting), ()⟩, ⟨.outside .token, .ok token⟩,
        ⟨.outside (.connect email token), .error e⟩, ⟨.inside (.publish .failed), ()⟩] (.error e)
  | opened (token : String) (id : SessionId) : Opening email
      [⟨.inside (.publish .connecting), ()⟩, ⟨.outside .token, .ok token⟩,
        ⟨.outside (.connect email token), .ok id⟩, ⟨.inside (.publish .connected), ()⟩] (.ok id)

/-- The conversation of making sure of a session: one probe that succeeds, or the loss of the
session, the notice and an attempt to open another. -/
inductive Ensuring (email : String) (notice : Work Unit) :
    Connection → WorkLog → Ensured → Prop where
  | alive (id : SessionId) : Ensuring email notice ⟨some id⟩
      [⟨.outside (.session id .noop), .ok ()⟩] ⟨.ok id, false, ⟨some id⟩⟩
  | reopened {c : Connection} {lost noticed tried : WorkLog} {o : Except MailError SessionId}
    (hlost : Losing c lost) (hnoticed : Holds notice noticed ()) (htried : Opening email tried o) :
    Ensuring email notice c (lost ++ (noticed ++ tried)) ⟨o, true, ⟨o.toOption⟩⟩

theorem login_log {email : String} {o : Except MailError SessionId}
    (h : Holds (login email) log o) :
    (∃ e, o = .error (tokenFailure e) ∧ log = [⟨.outside .token, .error e⟩]) ∨
      ∃ token, log = [⟨.outside .token, .ok token⟩, ⟨.outside (.connect email token), o⟩] := by
  obtain ⟨before, after, reply, rfl, hbefore, hafter⟩ := holds_bind_iff.mp h
  obtain rfl := (holds_call_iff (q := Request.outside .token)).mp hbefore
  cases reply with
  | ok token =>
      obtain rfl := (holds_call_iff (q := Request.outside (.connect email token))).mp hafter
      exact .inr ⟨token, rfl⟩
  | error e =>
      obtain ⟨rfl, rfl⟩ := holds_pure_iff.mp hafter
      exact .inl ⟨e, rfl, rfl⟩

theorem reopen_log {ensured : Ensured} (h : Holds (reopen email notice) log ensured) :
    ∃ noticed tried o, log = noticed ++ tried ∧ Holds notice noticed () ∧
      Opening email tried o ∧ ensured = ⟨o, true, ⟨o.toOption⟩⟩ := by
  obtain ⟨noticed, log₁, _, rfl, hnoticed, h₁⟩ := holds_bind_iff.mp h
  obtain ⟨published, log₂, _, rfl, hpublished, h₂⟩ := holds_bind_iff.mp h₁
  obtain ⟨login, log₃, o, rfl, hlogin, h₃⟩ := holds_bind_iff.mp h₂
  obtain rfl := (holds_call_iff (q := Request.inside (.publish .connecting))).mp hpublished
  cases o with
  | ok id =>
      obtain ⟨connected, log₄, _, rfl, hconnected, h₄⟩ := holds_bind_iff.mp h₃
      obtain rfl := (holds_call_iff (q := Request.inside (.publish .connected))).mp hconnected
      obtain ⟨rfl, rfl⟩ := holds_pure_iff.mp h₄
      obtain ⟨e, he, -⟩ | ⟨token, rfl⟩ := login_log hlogin
      · cases he
      · exact ⟨noticed, _, _, rfl, hnoticed, .opened token id, rfl⟩
  | error e =>
      obtain ⟨failed, log₄, _, rfl, hfailed, h₄⟩ := holds_bind_iff.mp h₃
      obtain rfl := (holds_call_iff (q := Request.inside (.publish .failed))).mp hfailed
      obtain ⟨rfl, rfl⟩ := holds_pure_iff.mp h₄
      obtain ⟨e', he, rfl⟩ | ⟨token, rfl⟩ := login_log hlogin
      · cases he
        exact ⟨noticed, _, _, rfl, hnoticed, .refused e', rfl⟩
      · exact ⟨noticed, _, _, rfl, hnoticed, .rejected token e, rfl⟩

theorem ensure_log {ensured : Ensured} (h : Holds (c.ensure email notice) call ensured) :
    Ensuring email notice c call ensured := by
  obtain ⟨session⟩ := c
  cases session with
  | none =>
      obtain ⟨noticed, tried, o, rfl, hnoticed, htried, rfl⟩ := reopen_log h
      exact .reopened .none hnoticed htried
  | some id =>
      obtain ⟨probe, log₁, reply, rfl, hprobe, h₁⟩ := holds_bind_iff.mp h
      obtain rfl := (holds_call_iff (q := Request.outside (.session id .noop))).mp hprobe
      cases reply with
      | ok _ =>
          obtain ⟨rfl, rfl⟩ := holds_pure_iff.mp h₁
          exact .alive id
      | error e =>
          obtain ⟨released, log₂, _, rfl, hreleased, h₂⟩ := holds_bind_iff.mp h₁
          obtain rfl := (holds_call_iff (q := Request.inside (.release id))).mp hreleased
          obtain ⟨noticed, tried, o, rfl, hnoticed, htried, rfl⟩ := reopen_log h₂
          have hlost := Losing.dead id e
          have hreopened := Ensuring.reopened hlost hnoticed htried
          exact hreopened

theorem invalidate_log (h : Holds c.invalidate call c') :
    c' = closed ∧ (c = closed ∧ call = [] ∨ ∃ id, c = ⟨some id⟩ ∧
      call = [⟨.inside (.release id), ()⟩, ⟨.inside (.publish .disconnected), ()⟩]) := by
  obtain ⟨session⟩ := c
  cases session with
  | none =>
      obtain ⟨rfl, rfl⟩ := holds_pure_iff.mp h
      exact ⟨rfl, .inl ⟨rfl, rfl⟩⟩
  | some id =>
      obtain ⟨released, log₁, _, rfl, hreleased, h₁⟩ := holds_bind_iff.mp h
      obtain ⟨published, log₂, _, rfl, hpublished, h₂⟩ := holds_bind_iff.mp h₁
      obtain rfl := (holds_call_iff (q := Request.inside (.release id))).mp hreleased
      obtain rfl := (holds_call_iff (q := Request.inside (.publish .disconnected))).mp hpublished
      obtain ⟨rfl, rfl⟩ := holds_pure_iff.mp h₂
      exact ⟨rfl, .inr ⟨id, rfl, rfl⟩⟩

theorem disconnect_log (h : Holds c.disconnect call c') :
    c' = closed ∧ (c = closed ∧ call = [⟨.inside (.publish .disconnected), ()⟩] ∨
      ∃ id reply, c = ⟨some id⟩ ∧ call = [⟨.outside (.session id .logout), reply⟩,
        ⟨.inside (.release id), ()⟩, ⟨.inside (.publish .disconnected), ()⟩]) := by
  obtain ⟨session⟩ := c
  cases session with
  | none =>
      obtain ⟨published, log₁, _, rfl, hpublished, h₁⟩ := holds_bind_iff.mp h
      obtain rfl := (holds_call_iff (q := Request.inside (.publish .disconnected))).mp hpublished
      obtain ⟨rfl, rfl⟩ := holds_pure_iff.mp h₁
      exact ⟨rfl, .inl ⟨rfl, rfl⟩⟩
  | some id =>
      obtain ⟨farewell, log₁, reply, rfl, hfarewell, h₁⟩ := holds_bind_iff.mp h
      obtain ⟨released, log₂, _, rfl, hreleased, h₂⟩ := holds_bind_iff.mp h₁
      obtain ⟨published, log₃, _, rfl, hpublished, h₃⟩ := holds_bind_iff.mp h₂
      obtain rfl := (holds_call_iff (q := Request.outside (.session id .logout))).mp hfarewell
      obtain rfl := (holds_call_iff (q := Request.inside (.release id))).mp hreleased
      obtain rfl := (holds_call_iff (q := Request.inside (.publish .disconnected))).mp hpublished
      obtain ⟨rfl, rfl⟩ := holds_pure_iff.mp h₃
      exact ⟨rfl, .inr ⟨id, reply, rfl, rfl⟩⟩

/-! ## The last look at the session -/

section Checked

/-- Gives out the session that is held; if there is none, it was lost. -/
def handOut (lost : MailError) (reopened : Bool) (c : Connection) : Ensured :=
  match c.session with
  | some id => ⟨.ok id, reopened, c⟩
  | none => ⟨.error lost, reopened, c⟩

def reconnect (email : String) : Work (Except MailError Unit × Connection) := do
  Work.inside (.publish .connecting)
  match ← login email with
  | .ok id =>
    Work.inside (.publish .connected)
    return (.ok (), ⟨some id⟩)
  | .error e =>
    Work.inside (.publish .failed)
    return (.error e, closed)

def probe (c : Connection) : Work Bool :=
  match c.session with
  | none => return false
  | some id => return (← Work.outside (.session id .noop)).isOk

/-- Opens a session after a notice, and looks at what is held then. -/
def reopenChecked (lost : MailError) (email : String) (notice : Work Unit) : Work Ensured := do
  notice
  let (result, c) ← reconnect email
  match result with
  | .error e => return ⟨.error e, true, c⟩
  | .ok _ => return c.handOut lost true

/-- Makes sure of a session with one slot for it, which is emptied before the notice, filled by
the reconnection and looked at last of all. -/
def ensureChecked (lost : MailError) (email : String) (notice : Work Unit) (c : Connection) :
    Work Ensured := do
  if ← c.probe then return c.handOut lost false
  if let some id := c.session then Work.inside (.release id)
  reopenChecked lost email notice

theorem reopen_eq_checked (lost : MailError) (email : String) (notice : Work Unit) :
    reopen email notice = reopenChecked lost email notice := by
  rw [reopen, reopenChecked, reconnect]
  simp only [LawfulMonad.bind_assoc]
  congr 1
  funext _
  congr 1
  funext _
  congr 1
  funext o
  cases o <;> rfl

/-- It makes no difference what would be reported of a session that was lost: the last look finds
one. -/
theorem ensure_eq_checked (lost : MailError) (email : String) (notice : Work Unit)
    (c : Connection) : c.ensure email notice = c.ensureChecked lost email notice := by
  obtain ⟨session⟩ := c
  cases session with
  | none => exact reopen_eq_checked lost email notice
  | some id =>
      show Dialogue.ask _ _ = Dialogue.ask _ _
      congr 1
      funext reply
      cases reply with
      | ok _ => rfl
      | error e =>
        show Dialogue.ask _ _ = Dialogue.ask _ _
        congr 1
        funext _
        exact reopen_eq_checked lost email notice

end Checked

/-! ## One call -/

section OneCall

variable {ensured : Ensured} {lost noticed tried before : WorkLog} {o : Except MailError SessionId}

theorem Losing.seen (h : Losing c lost) :
    states lost = [] ∧ tokens lost = [] ∧ connects lost = [] ∧ asides lost = [] ∧
      released lost = c.session.toList ∧
      ∀ id, c.session = some id → ∃ e, probes lost = [(id, .error e)] := by
  cases h with
  | none => exact ⟨rfl, rfl, rfl, rfl, rfl, nofun⟩
  | dead id e =>
      refine ⟨rfl, rfl, rfl, rfl, rfl, fun id' hid' => ?_⟩
      obtain rfl := Option.some.inj hid'
      exact ⟨e, rfl⟩

theorem Losing.not_alive (h : Losing c lost) {id : SessionId} : (id, .ok ()) ∉ probes lost := by
  cases h with
  | none => exact List.not_mem_nil
  | dead id' e => exact fun hid => nomatch List.mem_singleton.mp hid

theorem Opening.seen (h : Opening email tried o) :
    probes tried = [] ∧ asides tried = [] ∧ released tried = [] ∧
      WorkLog.opened tried = o.toOption.toList := by
  cases h with
  | refused e | rejected token e | opened token id => exact ⟨rfl, rfl, rfl, rfl⟩

/-- An attempt publishes that it is made and what came of it. -/
theorem Opening.states_eq (h : Opening email tried o) :
    states tried = [.connecting, if o.isOk then .connected else .failed] := by
  cases h with
  | refused e | rejected token e | opened token id => rfl

/-- An attempt asks for one token, and with a token for one session, whose outcome is its own. -/
theorem Opening.outcome (h : Opening email tried o) :
    (∃ e, WorkLog.tokens tried = [.error e] ∧ WorkLog.connects tried = [] ∧
      o = .error (tokenFailure e)) ∨
    ∃ token, WorkLog.tokens tried = [.ok token] ∧ WorkLog.connects tried = [(email, token, o)] := by
  cases h with
  | refused e => exact .inl ⟨e, rfl, rfl, rfl⟩
  | rejected token e | opened token id => exact .inr ⟨token, rfl, rfl⟩

theorem reopened_seen (hlost : Losing c lost) (hnoticed : Apart noticed)
    (htried : Opening email tried o) :
    states (lost ++ (noticed ++ tried)) = states tried ∧
      tokens (lost ++ (noticed ++ tried)) = tokens tried ∧
      connects (lost ++ (noticed ++ tried)) = connects tried ∧
      probes (lost ++ (noticed ++ tried)) = probes lost := by
  obtain ⟨hstates, htokens, hconnects, -, -, -⟩ := hlost.seen
  obtain ⟨hprobes, -, -, -⟩ := htried.seen
  refine ⟨?_, ?_, ?_, ?_⟩
  · rw [states_append, states_append, hstates, hnoticed.states_eq]
    rfl
  · rw [tokens_append, tokens_append, htokens, hnoticed.tokens_eq]
    rfl
  · rw [connects_append, connects_append, hconnects, hnoticed.connects_eq]
    rfl
  · rw [probes_append, probes_append, hprobes, hnoticed.probes_eq, List.append_nil, List.append_nil]

/-- What is promised of making sure of a session, with what was said `before` the call and in
it. -/
structure Ensured.Sound (email : String) (notice : Work Unit) (c : Connection)
    (before call : WorkLog) (ensured : Ensured) : Prop where
  reopened_iff : ensured.reopened = true ↔
    ∀ id, c.session = some id → ∃ e, (id, .error e) ∈ probes call
  kept : ∀ id, (id, .ok ()) ∈ probes call → ensured.reopened = false
  attempt : .connecting ∈ states call ↔ ensured.reopened = true
  tokens : (tokens call).length = ensured.reopened.toNat
  connects : ∀ name token, (∃ reply, (name, token, reply) ∈ connects call) ↔
    ensured.reopened = true ∧ name = email ∧ .ok token ∈ WorkLog.tokens call
  connects_le : (WorkLog.connects call).length ≤ ensured.reopened.toNat
  /-- The notice is given once, before anything is said of the new session. -/
  noticed : ensured.reopened = true → ∃ lost noticed tried, call = lost ++ (noticed ++ tried) ∧
    Holds notice noticed () ∧ asides lost = [] ∧ states lost = [] ∧ asides tried = []
  unnoticed : ensured.reopened = false → asides call = []
  held : ∀ id, ensured.session = .ok id ↔ ensured.connection.session = some id
  failed : ∀ e, ensured.session = .error e →
    ensured.connection = closed ∧ published (before ++ call) = .failed
  refused : ∀ e, .error e ∈ WorkLog.tokens call →
    ensured.session = .error (tokenFailure e) ∧ (tokenFailure e).kind = .auth
  rejected : ∀ name token e, (name, token, .error e) ∈ WorkLog.connects call →
    ensured.session = .error e
  /-- There is no other failure. -/
  cause : ∀ e, ensured.session = .error e → (∃ e', .error e' ∈ WorkLog.tokens call) ∨
    ∃ token, (email, token, .error e) ∈ WorkLog.connects call

theorem tokenFailure_kind (e : MailError) : (tokenFailure e).kind = .auth := by
  cases e <;> rfl

theorem Ensured.Sound.alive (before : WorkLog) (id : SessionId) :
    Ensured.Sound email notice ⟨some id⟩ before [⟨.outside (.session id .noop), .ok ()⟩]
      ⟨.ok id, false, ⟨some id⟩⟩ := by
  have hprobes : probes [⟨.outside (.session id .noop), .ok ()⟩] = [(id, .ok ())] := rfl
  constructor
  case reopened_iff =>
    refine iff_of_false Bool.false_ne_true fun hdead => ?_
    obtain ⟨e, he⟩ := hdead id rfl
    rw [hprobes, List.mem_singleton] at he
    cases he
  case kept => exact fun _ _ => rfl
  case attempt => exact iff_of_false List.not_mem_nil Bool.false_ne_true
  case tokens => rfl
  case connects =>
    intro name token
    refine iff_of_false ?_ fun h => Bool.false_ne_true h.1
    rintro ⟨reply, h⟩
    exact List.not_mem_nil h
  case connects_le => exact Nat.le_refl 0
  case noticed => exact nofun
  case unnoticed => exact fun _ => rfl
  case held => simp
  case failed => exact nofun
  case refused => exact fun e he => absurd he List.not_mem_nil
  case rejected => exact fun _ _ e he => absurd he List.not_mem_nil
  case cause => exact nofun

theorem Ensured.Sound.reopened (before : WorkLog) (hlost : Losing c lost)
    (hnoticed : Holds notice noticed ()) (happart : Apart noticed)
    (htried : Opening email tried o) :
    Ensured.Sound email notice c before (lost ++ (noticed ++ tried)) ⟨o, true, ⟨o.toOption⟩⟩ := by
  obtain ⟨hstates, htokens, hconnects, hprobes⟩ := reopened_seen hlost happart htried
  obtain ⟨lstates, -, -, lasides, -, hdead⟩ := hlost.seen
  obtain ⟨-, tasides, -, -⟩ := htried.seen
  have hattempt := htried.outcome
  rw [← htokens, ← hconnects] at hattempt
  constructor
  case reopened_iff =>
    refine iff_of_true rfl fun id hid => ?_
    obtain ⟨e, he⟩ := hdead id hid
    rw [hprobes, he]
    exact ⟨e, List.mem_singleton_self _⟩
  case kept =>
    intro id hid
    rw [hprobes] at hid
    exact absurd hid hlost.not_alive
  case attempt =>
    rw [hstates, htried.states_eq]
    exact iff_of_true List.mem_cons_self rfl
  case tokens =>
    obtain ⟨e, htoken, -, -⟩ | ⟨token, htoken, -⟩ := hattempt
    · rw [htoken]
      rfl
    · rw [htoken]
      rfl
  case connects =>
    intro name token
    obtain ⟨e, htoken, hconnect, -⟩ | ⟨token', htoken, hconnect⟩ := hattempt
    · simp [htoken, hconnect]
    · simp [htoken, hconnect]
  case connects_le =>
    obtain ⟨e, -, hconnect, -⟩ | ⟨token, -, hconnect⟩ := hattempt
    · rw [hconnect]
      exact Nat.zero_le 1
    · rw [hconnect]
      exact Nat.le_refl 1
  case noticed => exact fun _ => ⟨lost, noticed, tried, rfl, hnoticed, lasides, lstates, tasides⟩
  case unnoticed => exact nofun
  case held => cases o <;> simp [Except.toOption]
  case failed =>
    intro e he
    obtain rfl : o = .error e := he
    exact ⟨rfl, published_append (by rw [hstates, htried.states_eq]; rfl)⟩
  case refused =>
    intro e he
    obtain ⟨e', htoken, -, rfl⟩ | ⟨token, htoken, -⟩ := hattempt
    · rw [htoken, List.mem_singleton] at he
      obtain rfl := Except.error.inj he
      exact ⟨rfl, tokenFailure_kind e⟩
    · rw [htoken, List.mem_singleton] at he
      cases he
  case rejected =>
    intro name token e he
    obtain ⟨e', -, hconnect, -⟩ | ⟨token, -, hconnect⟩ := hattempt
    · rw [hconnect] at he
      exact absurd he List.not_mem_nil
    · rw [hconnect, List.mem_singleton] at he
      cases he
      rfl
  case cause =>
    intro e he
    obtain rfl : o = .error e := he
    obtain ⟨e', htoken, -, -⟩ | ⟨token, -, hconnect⟩ := hattempt
    · exact .inl ⟨e', by rw [htoken]; exact List.mem_singleton_self _⟩
    · exact .inr ⟨token, by rw [hconnect]; exact List.mem_singleton_self _⟩

theorem Ensuring.sound_after (before : WorkLog) (h : Ensuring email notice c call ensured)
    (hnotice : notice.Asks fun q => q.ofConnection = false) :
    ensured.Sound email notice c before call := by
  cases h with
  | alive id => exact .alive before id
  | reopened hlost hnoticed htried =>
      have happart : Apart _ := hnotice.of_holds hnoticed
      exact .reopened before hlost hnoticed happart htried

end OneCall

/-! ## A sequence of calls -/

/-- Any calls on a new connection, each run to its end, with all that was said in them. -/
inductive History (email : String) : WorkLog → Connection → Prop where
  | new : History email [] closed
  | ensure {log call : WorkLog} {c : Connection} {notice : Work Unit} {ensured : Ensured}
    (h : History email log c) (hnotice : notice.Asks fun q => q.ofConnection = false)
    (hcall : Holds (c.ensure email notice) call ensured) :
    History email (log ++ call) ensured.connection
  | invalidate {log call : WorkLog} {c c' : Connection} (h : History email log c)
    (hcall : Holds c.invalidate call c') : History email (log ++ call) c'
  | disconnect {log call : WorkLog} {c c' : Connection} (h : History email log c)
    (hcall : Holds c.disconnect call c') : History email (log ++ call) c'

/-- Between two calls the published state and the session agree. -/
structure Settled (log : WorkLog) (c : Connection) : Prop where
  connected_iff : published log = .connected ↔ c.session.isSome = true
  not_connecting : published log ≠ .connecting
  /-- Sessions are given up one by one in the order in which they were opened. -/
  opened_eq : opened log = released log ++ c.session.toList

/-- What is promised of a connection between two calls, and of the next call whichever it is. -/
structure Sound (email : String) (log : WorkLog) (c : Connection) : Prop extends
    Settled log c where
  ensure : ∀ notice call ensured, (notice.Asks fun q => q.ofConnection = false) →
    Holds (c.ensure email notice) call ensured → ensured.Sound email notice c log call
  /-- What would be reported of a session that was lost after it was opened is never reported. -/
  checked : ∀ lost notice, c.ensure email notice = c.ensureChecked lost email notice
  invalidate : ∀ call c', Holds c.invalidate call c' →
    c' = closed ∧ (published log = .failed → published (log ++ call) = .failed)
  disconnect : ∀ call c', Holds c.disconnect call c' →
    c' = closed ∧ published (log ++ call) = .disconnected

namespace Settled

theorem closed_of_failed (h : Settled log c) (hfailed : published log = .failed) : c = closed := by
  obtain ⟨session⟩ := c
  cases session with
  | none => rfl
  | some id =>
      have hconnected := h.connected_iff.mpr rfl
      rw [hfailed] at hconnected
      cases hconnected

/-- A call that publishes last what fits the session, and that gives up what it took over. -/
theorem next (h : Settled log c) (state : ConnectionState)
    (hstate : (states call).getLast? = some state)
    (hconnected : state = .connected ↔ c'.session.isSome = true) (hconnecting : state ≠ .connecting)
    (hopened : c.session.toList ++ opened call = released call ++ c'.session.toList) :
    Settled (log ++ call) c' where
  connected_iff := by rw [published_append hstate, hconnected]
  not_connecting := by rwa [published_append hstate]
  opened_eq := by
    rw [opened_append, released_append, h.opened_eq, List.append_assoc, hopened, List.append_assoc]

theorem ensure {ensured : Ensured} (h : Settled log c)
    (hcall : Ensuring email notice c call ensured)
    (hnotice : notice.Asks fun q => q.ofConnection = false) :
    Settled (log ++ call) ensured.connection := by
  cases hcall with
  | alive id =>
      -- A probe that succeeds publishes nothing, so the last state still stands.
      have hopened : opened [⟨.outside (.session id .noop), .ok ()⟩] = [] := rfl
      have hreleased : released [⟨.outside (.session id .noop), .ok ()⟩] = [] := rfl
      refine ⟨?_, ?_, ?_⟩
      · rw [published_append_of_nil rfl]
        exact h.connected_iff
      · rw [published_append_of_nil rfl]
        exact h.not_connecting
      · rw [opened_append, released_append, hopened, hreleased, List.append_nil, List.append_nil]
        exact h.opened_eq
  | @reopened _ lost noticed tried o hlost hnoticed htried =>
      have happart : Apart noticed := hnotice.of_holds hnoticed
      obtain ⟨hstates, -, hconnects, -⟩ := reopened_seen hlost happart htried
      obtain ⟨-, -, -, -, hgiven, -⟩ := hlost.seen
      obtain ⟨-, -, hkept, hopened⟩ := htried.seen
      refine h.next (if o.isOk then .connected else .failed) ?_ ?_ ?_ ?_
      · rw [hstates, htried.states_eq]
        rfl
      · cases o <;> simp [Except.isOk, Except.toBool, Except.toOption]
      · split <;> decide
      · rw [opened, hconnects, ← opened, hopened, released_append, released_append,
          happart.released_eq, hkept, hgiven, List.append_nil, List.append_nil]

theorem invalidate (h : Settled log c) (hcall : Holds c.invalidate call c') :
    Settled (log ++ call) c' := by
  obtain ⟨rfl, ⟨rfl, rfl⟩ | ⟨id, rfl, rfl⟩⟩ := invalidate_log hcall
  · rw [List.append_nil]
    exact h
  · exact h.next .disconnected rfl (by decide) (by decide) rfl

theorem disconnect (h : Settled log c) (hcall : Holds c.disconnect call c') :
    Settled (log ++ call) c' := by
  obtain ⟨rfl, ⟨rfl, rfl⟩ | ⟨id, reply, rfl, rfl⟩⟩ := disconnect_log hcall
  · exact h.next .disconnected rfl (by decide) (by decide) rfl
  · exact h.next .disconnected rfl (by decide) (by decide) rfl

end Settled

theorem History.settled (h : History email log c) : Settled log c := by
  induction h with
  | new => exact ⟨by decide, by decide, rfl⟩
  | ensure _ hnotice hcall ih => exact ih.ensure (ensure_log hcall) hnotice
  | invalidate _ hcall ih => exact ih.invalidate hcall
  | disconnect _ hcall ih => exact ih.disconnect hcall

/-- Whatever its surroundings reply, a connection is sound between any two calls. -/
theorem History.sound (h : History email log c) : Sound email log c where
  toSettled := h.settled
  ensure _ _ _ hnotice hcall := (ensure_log hcall).sound_after log hnotice
  checked lost notice := ensure_eq_checked lost email notice c
  invalidate call c' hcall := by
    obtain ⟨rfl, ⟨rfl, rfl⟩ | ⟨id, rfl, rfl⟩⟩ := invalidate_log hcall
    · exact ⟨rfl, fun hfailed => by rwa [List.append_nil]⟩
    · exact ⟨rfl, fun hfailed => nomatch h.settled.closed_of_failed hfailed⟩
  disconnect call c' hcall := by
    obtain ⟨rfl, ⟨rfl, rfl⟩ | ⟨id, reply, rfl, rfl⟩⟩ := disconnect_log hcall
    · exact ⟨rfl, published_append rfl⟩
    · exact ⟨rfl, published_append rfl⟩

/-- A session is opened, its next probe fails, and there is no token for another. -/
theorem History.sound_no_token :
    let opens : WorkLog := [⟨.inside (.publish .connecting), ()⟩, ⟨.outside .token, .ok "secret"⟩,
      ⟨.outside (.connect "me" "secret"), .ok 0⟩, ⟨.inside (.publish .connected), ()⟩]
    let fails : WorkLog := [⟨.outside (.session 0 .noop), .error (.io "reset")⟩,
      ⟨.inside (.release 0), ()⟩, ⟨.inside (.publish .connecting), ()⟩,
      ⟨.outside .token, .error (.io "down")⟩, ⟨.inside (.publish .failed), ()⟩]
    History "me" (opens ++ fails) closed ∧ Sound "me" (opens ++ fails) closed := by
  intro opens fails
  have hfirst : Holds (closed.ensure "me" (pure ())) opens ⟨.ok 0, true, ⟨some 0⟩⟩ :=
    .ask (.ask (.ask (.ask (.done _))))
  have hsecond : Holds (Connection.ensure "me" (pure ()) ⟨some 0⟩) fails
      ⟨.error (.auth "Token refresh failed: IO error: down"), true, closed⟩ :=
    .ask (.ask (.ask (.ask (.ask (.done _)))))
  have hquiet : (pure () : Work Unit).Asks fun q => q.ofConnection = false := trivial
  have h : History "me" (opens ++ fails) closed := .ensure (.ensure .new hquiet hfirst) hquiet hsecond
  exact ⟨h, h.sound⟩

end Connection

end MailSync
