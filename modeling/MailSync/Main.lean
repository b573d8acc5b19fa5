import MailSync.CommandLine

/-!
# The program

Hands arguments, environment and files to `CommandLine`, carries its talk
with the network, and prints what it ends with. The program has no sockets
of its own: a server is reached through a tunnel, a folder `host:port` in
the directory that `MAIL_TUNNELS` names, with a pipe `out` for what the
client says and a pipe `in` for what the server says. Encryption is left to
whoever holds the other end of the pipes.
-/

namespace MailSync.Program

/-- The pipes of a connection. -/
structure Tunnel where
  fromServer : IO.FS.Handle
  toServer : IO.FS.Handle

/-- The text of a failure, as the system puts it. -/
def describeFailure : IO.Error → String
  | .noFileOrDirectory .. => "No such file or directory (os error 2)"
  | .permissionDenied .. => "Permission denied (os error 13)"
  | .inappropriateType .. => "Is a directory (os error 21)"
  | e => toString e

def attempt {α : Type} (act : IO α) : IO (Except String α) := do
  try return .ok (← act) catch e => return .error (describeFailure e)

/-- Opens the tunnel to a server. -/
def dial (directory : Option String) (host : String) (port : UInt16) : IO (Except String Tunnel) :=
  match directory with
  | none => return .error "Network is unreachable (os error 101)"
  | some directory => attempt do
    let place := directory ++ "/" ++ host ++ ":" ++ toString port ++ "/"
    let toServer ← IO.FS.Handle.mk (place ++ "out") .append
    let fromServer ← IO.FS.Handle.mk (place ++ "in") .read
    return ⟨fromServer, toServer⟩

/-- Does something with a tunnel, if it is open. -/
def withTunnel {α : Type} (tunnels : List Tunnel) (wire : Wire) (act : Tunnel → IO α) :
    IO (Except String α) :=
  match tunnels[wire]? with
  | some tunnel => attempt (act tunnel)
  | none => return .error "Transport endpoint is not connected (os error 107)"

/-- Answers a question to the network through tunnels. -/
def carry (directory : Option String) (tunnels : IO.Ref (List Tunnel)) :
    (c : NetworkCall) → IO c.Reply
  | .dial host port => do
    match ← dial directory host port with
    | .error why => return .error why
    | .ok tunnel =>
      let opened ← tunnels.get
      tunnels.set (opened ++ [tunnel])
      return .ok opened.length
  | .write wire bytes => do
    withTunnel (← tunnels.get) wire fun tunnel => do
      tunnel.toServer.write ⟨bytes.toArray⟩
      tunnel.toServer.flush
  -- A longer read would wait for its last octet.
  | .read wire => do
    withTunnel (← tunnels.get) wire fun tunnel => do
      return (← tunnel.fromServer.read 1).data.toList
  | .encrypt .. | .hangUp _ => return .ok ()

/-- The environment of the program. -/
def readEnvironment : IO Environment := do
  match ← attempt (IO.FS.readBinFile "/proc/self/environ") with
  | .ok block => return .ofBlock block.data.toList
  | .error _ => return .empty

/-- The settings file of the working directory, or of the nearest directory above it. -/
def readSettingsFile : Nat → String → IO (Option String)
  | 0, _ => return none
  | above + 1, path => do
    match ← attempt (IO.FS.readFile path) with
    | .ok text => return some text
    | .error _ => readSettingsFile above ("../" ++ path)

def finish (r : CommandLine.Result) : IO UInt32 := do
  (← IO.getStdout).putStr r.output
  (← IO.getStderr).putStr r.errors
  return r.exit

/-- Runs the program. -/
def run (arguments : List String) : IO UInt32 := do
  match Invocation.read arguments with
  | .error misuse => finish (CommandLine.misuse misuse)
  | .ok invocation =>
    let environment ← readEnvironment
    let depth := (← IO.currentDir).components.length
    let settingsFile ← readSettingsFile depth ".env"
    let contents ← match invocation.command.file? with
      | some path => attempt do return (← IO.FS.readBinFile path).data.toList
      | none => pure (.ok [])
    let tunnels ← IO.mkRef []
    let talk := CommandLine.perform ⟨environment, settingsFile, contents⟩ invocation
    finish (← talk.runM (carry (environment.text? "MAIL_TUNNELS") tunnels))

end MailSync.Program

def main (arguments : List String) : IO UInt32 := MailSync.Program.run arguments
