import MailSync.CommandLine.Command
import MailSync.Text.Number
import MailSync.Text.Split

/-!
# Arguments

How a command is read off the arguments of the program. Options have long
names and come in any order, with their values behind an equals sign or in
the next argument; after `--` nothing is an option. Arguments are judged
one by one, so the first that is wrong decides.
-/

namespace MailSync

/-- Why the arguments name no command. -/
inductive Misuse where
  /-- Help was asked for. -/
  | help
  | wrong (why : String)
deriving DecidableEq, Repr

/-- The names of the commands. -/
inductive Verb where
  | folders
  | list
  | page
  | details
  | new
  | sync
  | move
  | send
deriving DecidableEq, Repr

namespace Verb

def named? : String → Option Verb
  | "folders" => some folders
  | "list" => some list
  | "page" => some page
  | "show" => some details
  | "new" => some new
  | "sync" => some sync
  | "move" => some move
  | "send" => some send
  | _ => none

/-- The options of a command that have values. -/
def options : Verb → List String
  | folders | send => []
  | list => ["folder", "start", "end"]
  | page => ["folder", "loaded"]
  | details | sync => ["folder"]
  | new => ["folder", "last-uid"]
  | move => ["from", "to"]

end Verb

/-- One argument. -/
inductive Argument where
  | option (name : String) (value : Option String)
  /-- The mark after which nothing is an option. -/
  | endOfOptions
  /-- An option with a single letter. -/
  | short (letters : List Char)
  | plain (text : String)
deriving DecidableEq, Repr

def Argument.read (text : String) : Argument :=
  match text.toList with
  | ['-', '-'] => .endOfOptions
  | '-' :: '-' :: rest =>
    match splitAt '=' rest with
    | some (name, value) => .option (String.ofList name) (some (String.ofList value))
    | none => .option (String.ofList rest) none
  | '-' :: c :: rest => .short (c :: rest)
  | _ => .plain text

/-- The switches that go with any command. -/
structure Switches where
  json : Bool
  passwordAuth : Bool
deriving DecidableEq, Repr

namespace Switches

def off : Switches := ⟨false, false⟩

def either (a b : Switches) : Switches := ⟨a.json || b.json, a.passwordAuth || b.passwordAuth⟩

/-- Turns on a switch that is off. -/
def turnOn? (s : Switches) (name : String) : Option (Except Misuse Switches) :=
  match name with
  | "json" =>
    some (if s.json then throw (.wrong "--json is given twice") else return { s with json := true })
  | "password-auth" =>
    some (if s.passwordAuth then throw (.wrong "--password-auth is given twice")
      else return { s with passwordAuth := true })
  | _ => none

end Switches

/-- What has been read of a command so far. -/
structure Draft where
  switches : Switches
  folder : Option String
  first : Option UInt32
  last : Option UInt32
  loaded : Option UInt32
  lastUid : Option Uid
  source : Option String
  destination : Option String
  uids : List Uid
  path : Option String

namespace Draft

def empty : Draft := ⟨.off, none, none, none, none, none, none, none, [], none⟩

/-- A number up to a limit. -/
def number (max : Nat) (name text : String) : Except Misuse Nat :=
  match Number.natural max text with
  | .ok n => return n
  | .error e => throw (.wrong (name ++ ": " ++ e.message))

/-- A position in a list of messages. It is read as a signed number, so `-0` is one. -/
def position (name text : String) : Except Misuse UInt32 :=
  match Number.integer (UInt64.size / 2) (UInt64.size / 2 - 1) text with
  | .ok n =>
    if 0 ≤ n ∧ n < UInt32.size then return UInt32.ofNat n.toNat
    else throw (.wrong (name ++ ": " ++ toString n ++ " is out of range"))
  | .error e => throw (.wrong (name ++ ": " ++ e.message))

def uid (name text : String) : Except Misuse Uid :=
  UInt64.ofNat <$> number 18446744073709551615 name text

/-- The value of an option, which must not have one yet. -/
def once {α : Type} (name : String) (old : Option α) (new : Except Misuse α) :
    Except Misuse (Option α) :=
  if old.isSome then throw (.wrong ("--" ++ name ++ " is given twice")) else some <$> new

def setOption (d : Draft) (name value : String) : Except Misuse Draft := do
  match name with
  | "folder" => return { d with folder := ← once name d.folder (pure value) }
  | "start" => return { d with first := ← once name d.first (position name value) }
  | "end" => return { d with last := ← once name d.last (position name value) }
  | "loaded" => return { d with loaded := ← once name d.loaded (position name value) }
  | "last-uid" => return { d with lastUid := ← once name d.lastUid (uid name value) }
  | "from" => return { d with source := ← once name d.source (pure value) }
  | "to" => return { d with destination := ← once name d.destination (pure value) }
  | _ => throw (.wrong ("unexpected option --" ++ name))

/-- An argument that is no option. -/
def addPlain (verb : Verb) (d : Draft) (text : String) : Except Misuse Draft := do
  match verb, d.uids, d.path with
  | .details, [], _ => return { d with uids := [← uid "uid" text] }
  | .move, uids, _ => return { d with uids := uids ++ [← uid "uid" text] }
  | .send, _, none =>
    if text = "" then throw (.wrong "no path is given") else return { d with path := some text }
  | _, _, _ => throw (.wrong ("unexpected argument " ++ text))

/-- Reads the arguments after the name of the command. -/
def read (verb : Verb) (d : Draft) : List String → Except Misuse Draft
  | [] => return d
  | text :: rest =>
    match Argument.read text with
    | .endOfOptions => rest.foldlM (addPlain verb) d
    | .plain text => do read verb (← d.addPlain verb text) rest
    | .short ('h' :: _) => throw .help
    | .short letters => throw (.wrong ("unexpected option -" ++ String.ofList letters))
    | .option "help" none => throw .help
    | .option name (some value) => do
      if name ∉ verb.options then throw (.wrong ("unexpected option --" ++ name))
      read verb (← d.setOption name value) rest
    | .option name none =>
      match d.switches.turnOn? name with
      | some switches => do read verb { d with switches := ← switches } rest
      | none =>
        if name ∉ verb.options then throw (.wrong ("unexpected option --" ++ name))
        else match rest with
          | [] => throw (.wrong ("--" ++ name ++ " needs a value"))
          | value :: rest =>
            match Argument.read value with
            | .plain value => do read verb (← d.setOption name value) rest
            | _ => throw (.wrong ("--" ++ name ++ " needs a value"))

/-- The command, with defaults for what was not given. -/
def command (verb : Verb) (d : Draft) : Except Misuse Command :=
  let folder := d.folder.getD "INBOX"
  match verb, d.uids, d.destination, d.path with
  | .folders, _, _, _ => return .folders
  | .list, _, _, _ => return .list folder (d.first.getD 1) (d.last.getD 20)
  | .page, _, _, _ => return .page folder (d.loaded.getD 0)
  | .details, uid :: _, _, _ => return .details uid folder
  | .new, _, _, _ => return .new folder (d.lastUid.getD 0)
  | .sync, _, _, _ => return .sync folder
  | .move, uid :: uids, some destination, _ =>
    return .move (uid :: uids) (d.source.getD "INBOX") destination
  | .send, _, _, some path => return .send path
  | _, _, _, _ => throw (.wrong "a required argument is missing")

end Draft

namespace Invocation

/-- What asks for help on a command that exists. -/
def helpOn : List String → Misuse
  | [] | ["help"] => .help
  | [name] => if (Verb.named? name).isSome then .help else .wrong ("no command " ++ name)
  | _ => .wrong "help is on one command"

/-- Reads the arguments, with the switches given before the command. -/
def readAfter (switches : Switches) : List String → Except Misuse Invocation
  | [] => throw (.wrong "no command is given")
  | text :: rest =>
    match Argument.read text with
    | .plain "help" => throw (helpOn rest)
    | .plain name =>
      match Verb.named? name with
      | none => throw (.wrong ("no command " ++ name))
      | some verb => do
        let d ← Draft.empty.read verb rest
        let command ← d.command verb
        let s := switches.either d.switches
        return ⟨command, s.json, s.passwordAuth⟩
    | .option "help" none | .short ('h' :: _) => throw .help
    | .option name none =>
      match switches.turnOn? name with
      | some switches => do readAfter (← switches) rest
      | none => throw (.wrong ("unexpected option --" ++ name))
    | _ => throw (.wrong ("unexpected argument " ++ text))

/-- Reads the arguments of the program. -/
def read (arguments : List String) : Except Misuse Invocation := readAfter .off arguments

end Invocation

end MailSync
