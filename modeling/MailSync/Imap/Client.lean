import MailSync.Imap.Response
import MailSync.Network

/-!
# Clients of a mail server

A command is a line with a tag; its answer is all that comes up to the
response with that tag, or up to the end of the connection. What an answer
means for a command is read off the whole answer (`ImapAnswer`), so only
the exchange itself talks to the network.
-/

namespace MailSync

/-- What came after a command. -/
structure ImapAnswer where
  items : List (Except ImapError ImapResponse)
  /-- How the command ended, unless the connection ended before it. -/
  ending : Option (ServerStatus × StatusText)

namespace ImapAnswer

/-- Whether everything could be read, however the command ended. -/
def readable (a : ImapAnswer) : Except ImapError (List ImapResponse) := a.items.mapM id

/-- Whether the command ended well. -/
def check (a : ImapAnswer) : Except ImapError Unit := do
  let _ ← a.readable
  match a.ending with
  | none => throw .connectionLost
  | some (s, text) =>
    match s.failure? text with
    | none => return ()
    | some e => throw e

/-- The numbers that were found. -/
def found (a : ImapAnswer) : Except ImapError (List UInt32) :=
  return (← a.readable).flatMap fun r => match r with
    | .found uids => uids
    | _ => []

/-- The folders of a list, and failures. -/
def folders (a : ImapAnswer) : List (Except ImapError ListEntry) :=
  a.items.filterMap fun r => match r with
    | .ok (.folder entry) => some (.ok entry)
    | .ok _ => none
    | .error e => some (.error e)

/-- The data of messages, and failures. -/
def fetched (a : ImapAnswer) : List (Except ImapError FetchItem) :=
  a.items.filterMap fun r => match r with
    | .ok (.fetched item) => some (.ok item)
    | .ok _ => none
    | .error e => some (.error e)

/-- What one more response says about a folder that is being selected. -/
def describe (s : MailboxStatus) : ImapResponse → Except ImapError MailboxStatus
  | .messages n => return { s with messages := n }
  | .status .ok ⟨some (.uidValidity n), _⟩ => return { s with uidValidity := some n }
  | .status .ok ⟨some (.uidNext n), _⟩ => return { s with uidNext := some n }
  | .status .no text => throw (.no text.description)
  | .status .bad text => throw (.bad text.description)
  | _ => return s

/-- What the answer says about a selected folder; a refusal need not end the command. -/
def mailbox (a : ImapAnswer) : Except ImapError MailboxStatus := do
  let s ← a.items.foldlM (fun s r => r >>= describe s) ⟨0, none, none⟩
  match a.ending with
  | some (.no, text) => throw (.no text.description)
  | some (.bad, text) => throw (.bad text.description)
  | _ => return s

end ImapAnswer

/-- One side of a connection to a mail server. -/
structure ImapClient where
  wire : Wire
  reader : FrameReader
  /-- Responses that have come and have not been read. -/
  ready : List Bytes
  /-- The number of commands so far. -/
  commands : Nat

/-- What a client does over the network. -/
abbrev ImapTalk (α : Type) :=
  ExceptT ImapError (StateT ImapClient (Dialogue NetworkCall NetworkCall.Reply)) α

namespace ImapClient

def ofWire (wire : Wire) : ImapClient := ⟨wire, .fresh, [], 0⟩

/-- The tag of a command, by its number. -/
def tag (n : Nat) : String := "A" ++ ("".pushn '0' (4 - (toString n).length)) ++ toString n

def network (call : NetworkCall) : ImapTalk call.Value :=
  ExceptT.mk do return (← StateT.lift (Dialogue.call call)).mapError .io

/-- Waits for the next response; there is none once the connection has ended. -/
def nextFrame : Nat → ImapTalk (Option Bytes)
  | 0 => return none
  | patience + 1 => do
    let c ← get
    match c.ready with
    | frame :: ready =>
      set { c with ready }
      return some frame
    | [] =>
      let bytes ← network (.read c.wire)
      if bytes.isEmpty then
        if c.reader.held.isEmpty then return none else throw (.io "bytes remaining in stream")
      let (ready, reader) := c.reader.feedAll bytes
      set { c with ready, reader }
      nextFrame patience

/-- Reads the next response. -/
def next : ImapTalk (Option ImapResponse) := do
  match ← nextFrame Traffic.patience with
  | none => return none
  | some frame => some <$> (ExceptT.mk (pure (ImapResponse.ofFrame frame)) : ImapTalk ImapResponse)

def writeLine (text : String) : ImapTalk Unit := do
  network (.write (← get).wire (utf8 (text ++ "\r\n")))

/-- Sends a command, and gives its tag. -/
def start (command : String) : ImapTalk String := do
  let n := (← get).commands + 1
  modify fun c => { c with commands := n }
  writeLine (tag n ++ " " ++ command)
  return tag n

/-- Gathers the answer to the command with a tag, the last item first. -/
def gather (tag : String) (items : List (Except ImapError ImapResponse)) : Nat → ImapTalk ImapAnswer
  | 0 => return ⟨items.reverse, none⟩
  | patience + 1 => do
    let arrival ← tryCatch (Except.ok <$> nextFrame Traffic.patience) fun e => return Except.error e
    match arrival with
    | .error e => return ⟨(.error e :: items).reverse, none⟩
    | .ok none => return ⟨items.reverse, none⟩
    | .ok (some frame) =>
      match ImapResponse.ofFrame frame with
      | .ok (.tagged t s text) =>
        if t = tag then return ⟨items.reverse, some (s, text)⟩ else gather tag items patience
      | item => gather tag (item :: items) patience

/-- Sends a command and waits for its answer. -/
def exchange (command : String) : ImapTalk ImapAnswer := do
  gather (← start command) [] Traffic.patience

/-- A text between quotes; it must be a single line. -/
def quoted (text : String) : Except ImapError String :=
  if text.contains '\n' then throw (.invalidCharacter '\n')
  else if text.contains '\r' then throw (.invalidCharacter '\r')
  else
    let escaped := text.toList.flatMap fun c => if c = '\\' || c = '"' then ['\\', c] else [c]
    return "\"" ++ String.ofList escaped ++ "\""

def settle {α : Type} (result : Except ImapError α) : ImapTalk α := ExceptT.mk (pure result)

/-- Makes sure that a command ends well. -/
def expectOk (command : String) : ImapTalk Unit := do settle (← exchange command).check

/-- Carries out a command of an open session. -/
def perform : (c : ImapCommand) → ImapTalk c.Value
  | .noop => do
    let _ ← settle (← exchange "NOOP").readable
  | .list => return (← exchange "LIST \"\" *").folders
  | .select folder => do settle (← exchange ("SELECT " ++ (← settle (quoted folder)))).mailbox
  | .uidSearch query => do settle (← exchange ("UID SEARCH " ++ query)).found
  | .uidFetch set query => return (← exchange ("UID FETCH " ++ set ++ " " ++ query.text)).fetched
  | .uidCopy set folder => do expectOk ("UID COPY " ++ set ++ " " ++ (← settle (quoted folder)))
  | .uidStoreDeleted set => do
    let _ ← exchange ("UID STORE " ++ set ++ " +FLAGS.SILENT (\\Deleted)")
  | .expunge => do
    let _ ← exchange "EXPUNGE"
  | .logout => expectOk "LOGOUT"

end ImapClient

end MailSync
