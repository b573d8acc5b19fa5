import MailSync.Cache.Writer
import MailSync.Rehearsal.Script
import MailSync.Settings

/-!
# Rehearsed accounts

A mail account that exists only in memory: folders with messages, the
sessions open on them, credentials, a row store and a script. It answers
every call of a worker, and changes as a real account would.
-/

namespace MailSync

/-- A message as the server keeps it. -/
structure StoredMessage where
  uid : Uid
  flags : FlagSet
  raw : Bytes

namespace StoredMessage

/-- The bytes up to and with the first empty line, and those after it. -/
def halves : Bytes → Bytes × Bytes
  | 13 :: 10 :: 13 :: 10 :: rest => ([13, 10, 13, 10], rest)
  | b :: rest =>
    let (header, body) := halves rest
    (b :: header, body)
  | [] => ([], [])

def header (m : StoredMessage) : Bytes := (halves m.raw).1

def body (m : StoredMessage) : Bytes := (halves m.raw).2

/-- What a listing of flags tells of a message. -/
def listed (m : StoredMessage) : RemoteMessage := ⟨some m.uid, m.flags, .empty, none⟩

/-- What a listing of headers tells of a message. -/
def described (m : StoredMessage) : RemoteMessage :=
  ⟨some m.uid, m.flags, .ofBytes m.header, some (UInt32.ofNat m.raw.length)⟩

end StoredMessage

/-- A folder as the server keeps it. -/
structure StoredFolder where
  shortName : String
  attributes : List String
  messages : List StoredMessage

/-- An account in memory. -/
structure RehearsedAccount where
  credentials : Credentials
  folders : OrderedMap String StoredFolder
  /-- The number of sessions opened so far. -/
  sessions : Nat
  /-- Which folder each session has selected. -/
  selected : OrderedMap SessionId String
  /-- Whether every login is refused. -/
  refusing : Bool
  /-- Whether the next probe finds the session gone. -/
  broken : Bool
  store : Store
  script : Script
  /-- The calls that were made, in order. -/
  log : List String

namespace RehearsedAccount

def fresh (credentials : Credentials) : RehearsedAccount :=
  ⟨credentials, ∅, 0, ∅, false, false, .empty, .blank, []⟩

/-! ## Changes made from outside -/

def addFolder (a : RehearsedAccount) (name : String) (folder : StoredFolder) : RehearsedAccount :=
  { a with folders := a.folders.insert name folder }

def removeFolder (a : RehearsedAccount) (name : String) : RehearsedAccount :=
  { a with folders := a.folders.filter fun n _ => n ≠ name }

/-- Changes the messages of a folder. -/
def modifyMessages (a : RehearsedAccount) (name : String)
    (f : List StoredMessage → List StoredMessage) : RehearsedAccount :=
  { a with folders := a.folders.modify name fun d => { d with messages := f d.messages } }

/-- Adds a message, and the folder if there is none of that name. -/
def addMessage (a : RehearsedAccount) (name : String) (m : StoredMessage) : RehearsedAccount :=
  let a := if a.folders.contains name then a else a.addFolder name ⟨name, [], []⟩
  a.modifyMessages name (· ++ [m])

def removeMessage (a : RehearsedAccount) (name : String) (uid : Uid) : RehearsedAccount :=
  a.modifyMessages name (·.filter (·.uid ≠ uid))

/-- Sets the flags of the first message with a number. -/
def setFlags (uid : Uid) (flags : FlagSet) : List StoredMessage → List StoredMessage
  | [] => []
  | m :: rest => if m.uid = uid then { m with flags } :: rest else m :: setFlags uid flags rest

def changeFlags (a : RehearsedAccount) (name : String) (uid : Uid) (flags : FlagSet) :
    RehearsedAccount :=
  a.modifyMessages name (setFlags uid flags)

/-! ## Answers to a session -/

def largest (messages : List StoredMessage) : Uid := messages.foldl (fun n m => max n m.uid) 0

def inSet (messages : List StoredMessage) (set : String) (m : StoredMessage) : Bool :=
  SequenceSet.contains (largest messages) set m.uid

def messages (a : RehearsedAccount) (name : String) : List StoredMessage :=
  ((a.folders.get? name).map (·.messages)).getD []

/-- The messages of the selected folder that are in a set. -/
def matching (a : RehearsedAccount) (id : SessionId) (set : String) :
    Except MailError (List StoredMessage) :=
  match a.selected.get? id with
  | none => .error (.protocol "no folder selected")
  | some name => .ok ((a.messages name).filter (inSet (a.messages name) set))

/-- The set that a search asks for; other searches find everything. -/
def searchedSet (query : String) : String :=
  if "UID ".toList.isPrefixOf query.toList then String.ofList (query.toList.drop 4) else "1:*"

def uidLe (a b : Uid) : Bool := a ≤ b

/-- Gives messages new numbers, counted upwards from above the largest one. -/
def renumber (above : Uid) : List StoredMessage → List StoredMessage
  | [] => []
  | m :: rest => { m with uid := above + 1 } :: renumber (above + 1) rest

def moveMessages (a : RehearsedAccount) (id : SessionId) (set destination : String) :
    Except MailError Unit × RehearsedAccount :=
  match a.matching id set, a.selected.get? id with
  | .ok moved, some source =>
    if a.folders.contains destination then
      let a := a.modifyMessages source fun ms => ms.filter (!inSet ms set ·)
      (.ok (), a.modifyMessages destination fun ms => ms ++ renumber (largest ms) moved)
    else (.error (.protocol ("no such folder " ++ destination)), a)
  | .error e, _ => (.error e, a)
  | _, none => (.error (.protocol "no folder selected"), a)

def answerSession (a : RehearsedAccount) (id : SessionId) :
    (c : SessionCall) → c.Reply × RehearsedAccount
  | .noop =>
    if a.broken then (.error (.io "connection reset"), { a with broken := false }) else (.ok (), a)
  | .listFolders =>
    (.ok (a.folders.entries.map fun (name, f) => ⟨name, f.shortName, f.attributes⟩), a)
  | .select name =>
    if a.folders.contains name then
      (.ok { FolderStatus.blank with messages := UInt32.ofNat (a.messages name).length },
        { a with selected := a.selected.insert id name })
    else (.error (.protocol ("no such folder " ++ name)), a)
  | .search query =>
    ((a.matching id (searchedSet query)).map fun ms => (ms.map (·.uid)).mergeSort uidLe, a)
  | .fetchFlags set => ((a.matching id set).map (·.map StoredMessage.listed), a)
  | .fetchHeaders set => ((a.matching id set).map (·.map StoredMessage.described), a)
  | .fetchText set limit =>
    ((a.matching id set).map (·.map fun m => (m.uid, m.body.take limit.toNat)), a)
  | .fetchRaw uid =>
    match a.selected.get? id with
    | none => (.error (.protocol "no folder selected"), a)
    | some name => (.ok (((a.messages name).find? (·.uid = uid)).map (·.raw)), a)
  | .move set destination => a.moveMessages id set destination
  | .logout => (.ok (), a)

/-! ## Answers to any call -/

/-- The answer of the account itself. -/
def answer (a : RehearsedAccount) : (c : OutsideCall) → c.Reply × RehearsedAccount
  | .token => (a.credentials.validToken, a)
  | .connect _ token =>
    if a.refusing then (.error (.auth ("token " ++ token ++ " rejected")), a)
    else (.ok a.sessions, { a with sessions := a.sessions + 1 })
  | .session id call => a.answerSession id call
  | .send .. => (.ok (), a)
  | .store call =>
    let (value, store) := a.store.perform call
    (.ok value, { a with store })

/-- The answer with a prepared value, where the call takes one. -/
def answerPrepared (a : RehearsedAccount) (v : PreparedValue) :
    (c : OutsideCall) → c.Reply × RehearsedAccount
  | .token =>
    match v with
    | .token text => (.ok text, a)
    | _ => a.answer .token
  | .session id call =>
    match v.ofCall? call with
    | none => a.answer (.session id call)
    | some value =>
      match call with
      | .select name => (.ok value, { a with selected := a.selected.insert id name })
      | _ => (.ok value, a)
  | c => a.answer c

/-- Notes that a call is being made. -/
def note (a : RehearsedAccount) (line : String) : RehearsedAccount :=
  { a with log := a.log ++ [line] }

/-- What comes of a call: the outcome prepared for it, or the account's own answer. -/
def resolve (a : RehearsedAccount) (c : OutsideCall) : c.Reply × RehearsedAccount :=
  let (outcome, script) := a.script.next c.method
  let a := { a with script }
  match outcome with
  | none => a.answer c
  | some (.fail e) => (.error e, a)
  | some (.succeed v) => a.answerPrepared v c

/-- Makes a call. -/
def perform (a : RehearsedAccount) (c : OutsideCall) : c.Reply × RehearsedAccount :=
  (a.note c.line).resolve c

end RehearsedAccount

end MailSync
