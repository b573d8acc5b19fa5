import MailSync.Error
import MailSync.BearerLogin
import MailSync.Network
import MailSync.Settings
import MailSync.Submission.Envelope
import MailSync.Submission.Reply
import MailSync.Text.Base64

/-!
# Submission

A message is handed to the submission server in one conversation: greeting,
encryption, login, envelope, text. The conversation ends with a farewell
whatever became of it.
-/

namespace MailSync

/-- Why a submission failed. -/
inductive SmtpFault where
  | connection (text : String)
  | network (text : String)
  /-- The server did not answer as it should. -/
  | response (text : String)
  /-- The message cannot be submitted in this way. -/
  | client (text : String)
  | refused (reply : SmtpReply)
deriving DecidableEq, Repr

namespace SmtpFault

def message : SmtpFault → String
  | connection t => "Connection error: " ++ t
  | network t => "network error: " ++ t
  | response t => "response error: " ++ t
  | client t => "internal client error: " ++ t
  | refused r =>
    (if r.code / 100 = 4 then "transient" else "permanent") ++ " error (" ++ toString r.code ++ "): " ++
      r.text

/-- The codes by which a server refuses the credentials. -/
def loginCodes : List Nat := [530, 534, 535]

/-- The failure of the submission. -/
def toMailError (f : SmtpFault) : MailError :=
  match f with
  | refused r =>
    if r.code ∈ loginCodes then .auth ("SMTP authentication failed: " ++ f.message)
    else .smtp f.message
  | client _ => .smtp f.message
  | _ => .io f.message

end SmtpFault

/-- Doubles the dots at the start of lines; `fresh` tells whether a line starts here, and
`returned` whether the last byte was a carriage return. -/
def stuffDots (fresh returned : Bool) : Bytes → Bytes
  | [] => []
  | b :: rest =>
    let next := stuffDots (returned && b = 10) (b = 13) rest
    if fresh && b = 46 then 46 :: 46 :: next else b :: next

/-- One side of a connection to a submission server. -/
structure SmtpClient where
  wire : Wire
  /-- What the server can do, as it said last. -/
  greeting : SmtpReply

abbrev SmtpTalk (α : Type) := Attempt NetworkCall NetworkCall.Reply SmtpFault α

namespace SmtpClient

def network (failure : String → SmtpFault) (call : NetworkCall) : SmtpTalk call.Value :=
  ExceptT.mk do return (← Dialogue.call call).mapError failure

/-- Reads a reply, after the bytes received so far. -/
def readReply (wire : Wire) (received : Bytes) : Nat → SmtpTalk SmtpReply
  | 0 => throw (.response "incomplete response")
  | patience + 1 => do
    let bytes ← network .network (.read wire)
    if bytes.isEmpty then throw (.response "incomplete response")
    match SmtpReply.read (received ++ bytes) with
    | .incomplete => readReply wire (received ++ bytes) patience
    | .unreadable => throw (.response "unreadable response")
    | .complete reply => if reply.isPositive then return reply else throw (.refused reply)

def reply (wire : Wire) : SmtpTalk SmtpReply := readReply wire [] Traffic.patience

/-- Sends a line and waits for the reply. -/
def command (wire : Wire) (line : String) : SmtpTalk SmtpReply := do
  network .network (.write wire (utf8 (line ++ "\r\n")))
  reply wire

/-- Says goodbye, whatever the server makes of it. -/
def quit (wire : Wire) : Traffic Unit := do
  let _ ← (command wire "QUIT").run
  let _ ← Dialogue.call (.hangUp wire)

/-- Carries out a step; if it fails, says goodbye. -/
def orQuit {α : Type} (wire : Wire) (step : SmtpTalk α) : SmtpTalk α :=
  tryCatch step fun fault => do
    ExceptT.lift (quit wire)
    throw fault

/-- Introduces the client, and learns what the server can do. -/
def hello (wire : Wire) : SmtpTalk SmtpClient := do
  let greeting ← orQuit wire (command wire "EHLO [127.0.0.1]")
  if greeting.firstWord?.isNone then throw (.response "Could not read server name")
  return ⟨wire, greeting⟩

/-- The port of submission that is encrypted from the start. -/
def encryptedPort : UInt16 := 465

/-- A connection that is encrypted. -/
def openEncrypted (s : AccountSettings) : SmtpTalk SmtpClient := do
  let wire ← network .connection (.dial s.smtpHost s.smtpPort)
  let encrypt := network .connection (.encrypt wire s.smtpHost s.acceptInvalidCerts)
  if s.smtpPort = encryptedPort then
    encrypt
    let _ ← reply wire
    hello wire
  else
    let _ ← reply wire
    let c ← hello wire
    if !c.greeting.offers "STARTTLS" then throw (.client "STARTTLS is not supported on this server")
    let _ ← orQuit wire (command wire "STARTTLS")
    encrypt
    hello wire

/-- The name of a login mechanism, and all that it has to say. -/
def mechanism (method : LoginMethod) (email token : String) : String × Bytes :=
  match method with
  | .password => ("PLAIN", utf8 ("\x00" ++ email ++ "\x00" ++ token))
  | .token => ("XOAUTH2", BearerLogin.response email token)

/-- Logs in with a single response; a challenge cannot be answered. -/
def login (c : SmtpClient) (method : LoginMethod) (email token : String) : SmtpTalk Unit := do
  let (name, response) := mechanism method email token
  if !c.greeting.accepts name then
    throw (.client "No compatible authentication mechanism was found")
  let reply ← command c.wire ("AUTH " ++ name ++ " " ++ Base64.encode response)
  if reply.code = 334 then
    throw (if reply.firstWord?.isNone then .response "Could not read auth challenge"
      else .client "This mechanism does not expect a challenge")

def isAscii (s : String) : Bool := s.toList.all (·.toNat < 128)

/-- The features that a message needs, each with what to say when the server lacks it. -/
def needs (e : SubmissionEnvelope) (raw : Bytes) : List (String × String × String) :=
  (if (e.sender :: e.recipients).all isAscii then [] else
    [("SMTPUTF8", "SMTPUTF8",
      "Envelope contains non-ascii chars but server does not support SMTPUTF8")]) ++
  (if raw.all (· < 128) then [] else
    [("8BITMIME", "BODY=8BITMIME",
      "Message contains non-ascii chars but server does not support 8BITMIME")])

/-- Hands over one message. -/
def deliver (c : SmtpClient) (e : SubmissionEnvelope) (raw : Bytes) : SmtpTalk Unit := do
  for (feature, _, fault) in needs e raw do
    if !c.greeting.offers feature then throw (.client fault)
  let options := String.join ((needs e raw).map fun (_, option, _) => " " ++ option)
  let step := fun line => orQuit c.wire (command c.wire line)
  let _ ← step ("MAIL FROM:<" ++ e.sender ++ ">" ++ options)
  for recipient in e.recipients do
    let _ ← step ("RCPT TO:<" ++ recipient ++ ">")
  let _ ← step "DATA"
  let _ ← orQuit c.wire do
    network .network (.write c.wire (stuffDots true false raw ++ utf8 "\r\n.\r\n"))
    reply c.wire
  ExceptT.lift (quit c.wire)

/-- Submits a message to the recipients of its envelope. -/
def submit (s : AccountSettings) (method : LoginMethod) (email token : String)
    (e : SubmissionEnvelope) (raw : Bytes) : SmtpTalk Unit := do
  let c ← openEncrypted s
  c.login method email token
  c.deliver e raw

end SmtpClient

/-- Submits a message for an account: its envelope is read off its headers, and its Bcc
headers are removed. -/
def Submission.send (s : AccountSettings) (method : LoginMethod) (email token : String)
    (raw : Bytes) : Attempt NetworkCall NetworkCall.Reply MailError Unit :=
  match SubmissionEnvelope.ofMessage email raw with
  | .error e => throw e
  | .ok envelope =>
    ExceptT.mk do
      let result ← (SmtpClient.submit s method email token envelope (Bcc.strip raw)).run
      return result.mapError SmtpFault.toMailError

end MailSync
