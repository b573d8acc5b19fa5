import MailSync.CommandLine.Arguments
import MailSync.CommandLine.Display
import MailSync.Live
import MailSync.Settings.File

/-!
# The command line

One run of the program: the arguments name a command, the environment the
account, and the command is performed as a single task. The run is a talk
with the network, and ends with what is printed and how the program exits.
-/

namespace MailSync.CommandLine

/-- How a run of the program ends. -/
structure Result where
  exit : UInt32
  output : String
  errors : String
deriving DecidableEq, Repr

/-- All that a run depends on, besides the network. -/
structure Circumstances where
  environment : Environment
  /-- The settings file of the working directory. -/
  settingsFile : Option String
  /-- The contents of the file that the command reads, or why it cannot be read. -/
  contents : Except String Bytes

namespace Circumstances

/-- The environment, completed by the settings file. -/
def settings (c : Circumstances) : Environment :=
  match c.settingsFile with
  | some text => SettingsFile.load c.environment text
  | none => c.environment

end Circumstances

/-- A run that ends before it begins. -/
def failure (text : String) : Result := ⟨1, "", "Error: " ++ text ++ "\n"⟩

/-- The account of a run and how it is synchronised. -/
def account (env : Environment) (i : Invocation) : Except MailError (LiveAccount × SyncSettings) := do
  let settings ← AccountSettings.ofEnvironment env
  let sync ← SyncSettings.ofEnvironment env
  let credentials ← Credentials.ofEnvironment env
  return (.fresh settings (if i.passwordAuth then .password else .token) credentials, sync)

/-- The tag of the only task of a run. -/
def tag : RequestTag := ⟨"cryptmail-cli", 1⟩

/-- The first failure among some events. -/
def failed? (events : List Event) : Option String :=
  events.findSome? fun e => match e.report with
    | .failed kind error => some (error.message ++ " (" ++ kind.title ++ ")")
    | _ => none

/-- What is printed of the events of a run, and how it exits. -/
def result (json : Bool) (events : List Event) : Result :=
  let output := String.join (events.map (Display.event json))
  match failed? events with
  | some text => ⟨1, output, "Error: " ++ text ++ "\n"⟩
  | none => ⟨0, output, ""⟩

/-- Carries out a command. -/
def perform (c : Circumstances) (i : Invocation) : Traffic Result :=
  match account c.settings i with
  | .error e => return failure e.message
  | .ok (account, settings) =>
    match i.command.file?, c.contents with
    | some path, .error why =>
      return failure ("Failed to read " ++ path ++ "\n\nCaused by:\n    " ++ why)
    | _, contents => do
      let task := i.command.task (contents.toOption.getD [])
      let (events, _) ← (Live.perform ⟨tag, task⟩).run (.fresh account settings)
      return result i.json events

def usage : String :=
  "Run mail sync tasks and print their results

Usage: cryptmail-cli [OPTIONS] <COMMAND>

Commands:
  folders  List available folders
  list     Load messages by position (1 is the oldest)
  page     Load the next page of older messages
  show     Show a single raw message by UID
  new      Load messages newer than a UID
  sync     Reconcile a folder and print the insert/update/delete sets
  move     Move messages between folders
  send     Send a raw RFC 5322 message read from a file
  help     Print this message or the help of the given subcommand(s)

Options:
      --json           Output events as JSON
      --password-auth  Authenticate with LOGIN / AUTH PLAIN instead of XOAUTH2
  -h, --help           Print help
"

/-- How a run ends whose arguments name no command. -/
def misuse : Misuse → Result
  | .help => ⟨0, usage, ""⟩
  | .wrong why => ⟨2, "", "error: " ++ why ++ "\n\nFor more information, try '--help'.\n"⟩

end MailSync.CommandLine
