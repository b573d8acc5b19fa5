import MailSync.Request

/-!
# The connection of a worker

At most one session at a time. Before each use the session is probed, and
a dead one is replaced; every change is published. A failed token always
counts as a failed login.
-/

namespace MailSync

/-- What a worker holds of its connection. -/
structure Connection where
  session : Option SessionId
deriving DecidableEq, Repr

namespace Connection

def closed : Connection := ⟨none⟩

/-- The outcome of making sure of a session. -/
structure Ensured where
  session : Except MailError SessionId
  /-- Whether a new session was asked for. -/
  reopened : Bool
  connection : Connection

/-- The failure of a login for want of a token. -/
def tokenFailure : MailError → MailError
  | .auth text => .auth text
  | other => .auth ("Token refresh failed: " ++ other.message)

/-- Logs in. -/
def login (email : String) : Work (Except MailError SessionId) := do
  match ← Work.outside .token with
  | .ok token => Work.outside (.connect email token)
  | .error e => return .error (tokenFailure e)

/-- Opens a session, after a notice. -/
def reopen (email : String) (notice : Work Unit) : Work Ensured := do
  notice
  Work.inside (.publish .connecting)
  match ← login email with
  | .ok id =>
    Work.inside (.publish .connected)
    return ⟨.ok id, true, ⟨some id⟩⟩
  | .error e =>
    Work.inside (.publish .failed)
    return ⟨.error e, true, closed⟩

/-- Makes sure of a live session; gives a notice before it opens a new one. -/
def ensure (email : String) (notice : Work Unit) (c : Connection) : Work Ensured := do
  match c.session with
  | none => reopen email notice
  | some id =>
    match ← Work.outside (.session id .noop) with
    | .ok _ => return ⟨.ok id, false, c⟩
    | .error _ =>
      Work.inside (.release id)
      reopen email notice

/-- Drops the session. -/
def invalidate (c : Connection) : Work Connection := do
  if let some id := c.session then
    Work.inside (.release id)
    Work.inside (.publish .disconnected)
  return closed

/-- Logs out of the session, whatever the server says to it. -/
def disconnect (c : Connection) : Work Connection := do
  if let some id := c.session then
    let _ ← Work.outside (.session id .logout)
    Work.inside (.release id)
  Work.inside (.publish .disconnected)
  return closed

end Connection

end MailSync
