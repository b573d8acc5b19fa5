import MailSync.Imap.Client
import MailSync.BearerLogin
import MailSync.Settings
import MailSync.Text.Base64

/-!
# Opening sessions

A session is opened in three steps: a connection, its encryption from the
start or after STARTTLS, and a login. Each step fails in its own way.
-/

namespace MailSync

namespace ImapClient

/-- Answers the challenges of a login with a bearer token, counted so far. -/
def answerChallenges (email token tag : String) (count : Nat) : Nat → ImapTalk Unit
  | 0 => throw .connectionLost
  | patience + 1 => do
    match ← next with
    | none => throw .connectionLost
    | some (.proceed _) =>
      writeLine (Base64.encode (BearerLogin.reply email token count))
      answerChallenges email token tag (count + 1) patience
    | some (.tagged t s text) =>
      match s.failure? text with
      | some e => throw e
      | none => if t = tag then return () else answerChallenges email token tag count patience
    | some _ => answerChallenges email token tag count patience

def loginWithToken (email token : String) : ImapTalk Unit := do
  answerChallenges email token (← start "AUTHENTICATE XOAUTH2") 0 Traffic.patience

def loginWithPassword (email password : String) : ImapTalk Unit := do
  let email ← settle (quoted email)
  let password ← settle (quoted password)
  expectOk ("LOGIN " ++ email ++ " " ++ password)

/-- What opens a connection or fails. -/
abbrev Opening (α : Type) := Attempt NetworkCall NetworkCall.Reply MailError α

/-- Asks the network; its failure is one of the given kind. -/
def ask (failure : String → MailError) (call : NetworkCall) : Opening call.Value :=
  ExceptT.mk do return (← Dialogue.call call).mapError failure

/-- Goes on as a client; its failure is one of the given kind. -/
def talk {α : Type} (c : ImapClient) (failure : ImapError → MailError) (t : ImapTalk α) :
    Opening (α × ImapClient) :=
  ExceptT.mk do
    let (result, c) ← (t.run.run c : Traffic (Except ImapError α × ImapClient))
    return (result.mapError failure).map (·, c)

/-- The text of a failure to read a greeting. -/
def greetingFault : ImapError → String
  | .io text => text
  | e => e.message

/-- A connection that is encrypted. -/
def openEncrypted (s : AccountSettings) : Opening ImapClient := do
  let wire ← ask .io (.dial s.imapHost s.imapPort)
  let encrypt := ask .tls (.encrypt wire s.imapHost s.acceptInvalidCerts)
  match s.security with
  | .tls =>
    encrypt
    let greeted ← (ofWire wire).talk (fun e => .imap ("Failed to read greeting: " ++ greetingFault e)) next
    return greeted.2
  | .startTls =>
    let _ ← (ofWire wire).talk (fun e => .tls ("STARTTLS failed: " ++ e.message)) (expectOk "STARTTLS")
    encrypt
    return ofWire wire

/-- A connection that is logged in. -/
def openSession (s : AccountSettings) (method : LoginMethod) (email token : String) :
    Opening ImapClient := do
  let c ← openEncrypted s
  let loggedIn ← match method with
    | .token => c.talk (ImapError.ofLogin "XOAUTH2") (loginWithToken email token)
    | .password => c.talk (ImapError.ofLogin "LOGIN") (loginWithPassword email token)
  return loggedIn.2

end ImapClient

end MailSync
