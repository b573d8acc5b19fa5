import MailSync.Cache.Store
import MailSync.Imap.Mailbox
import MailSync.Imap.Opening
import MailSync.Request
import MailSync.Submission.Client

/-!
# Live accounts

A mail account that is reached over the network: its sessions are clients
of the mail server, messages go out through the submission server, and the
rows are kept in memory.
-/

namespace MailSync

structure LiveAccount where
  settings : AccountSettings
  method : LoginMethod
  credentials : Credentials
  /-- The clients behind the sessions, in the order in which they were opened. -/
  clients : List ImapClient
  store : Store

namespace LiveAccount

/-- What is done for an account, in talk with the network. -/
abbrev Errand (α : Type) := StateT LiveAccount (Dialogue NetworkCall NetworkCall.Reply) α

def fresh (settings : AccountSettings) (method : LoginMethod) (credentials : Credentials) :
    LiveAccount := ⟨settings, method, credentials, [], .empty⟩

/-- Opens a session. -/
def connect (email token : String) : Errand (Except MailError SessionId) := do
  let a ← get
  match ← (ImapClient.openSession a.settings a.method email token).run with
  | .error e => return .error e
  | .ok c =>
    set { a with clients := a.clients ++ [c] }
    return .ok a.clients.length

/-- Carries out a call of a session by commands of its client. -/
def call (id : SessionId) (c : SessionCall) : Errand c.Reply := do
  let a ← get
  match a.clients[id]? with
  | none => return .error (.imap "no such session")
  | some client =>
    let (reply, client) ←
      ((ImapMailbox.perform c).run.runM fun command => (ImapClient.perform command).run).run client
    set { a with clients := a.clients.set id client }
    return reply

/-- Parts with the connection of a session. -/
def release (id : SessionId) : Errand Unit := do
  if let some client := (← get).clients[id]? then
    let _ ← StateT.lift (Dialogue.call (NetworkCall.hangUp client.wire))

/-- Answers a call of a worker. -/
def perform : (c : OutsideCall) → Errand c.Reply
  | .token => return (← get).credentials.validToken
  | .connect email token => connect email token
  | .session id c => call id c
  | .send email token raw => do
    let a ← get
    StateT.lift (Submission.send a.settings a.method email token raw).run
  | .store c => do
    let a ← get
    let (value, store) := a.store.perform c
    set { a with store }
    return .ok value

end LiveAccount

end MailSync
