import MailSync.Error

/-!
# Failures of IMAP commands

What can go wrong with one command, and what that means for the call that
sent it.
-/

namespace MailSync

inductive ImapError where
  | io (text : String)
  /-- The command was refused. -/
  | no (text : String)
  /-- The command was not understood. -/
  | bad (text : String)
  | connectionLost
  | append
  /-- The command would contain a character that cannot be sent. -/
  | invalidCharacter (c : Char)
  /-- A status could not be read. -/
  | unreadableStatus
  /-- A response came that nothing asked for. -/
  | unexpected (text : String)
  /-- A response did not come. -/
  | missing (text : String)
deriving DecidableEq, Repr

namespace ImapError

/-- The text of a fault in a response. -/
def responseFault? : ImapError → Option String
  | unreadableStatus => some "unable to parse status response"
  | unexpected t => some ("encountered unexpected parsed response: " ++ t)
  | missing t => some ("expected response not found for: " ++ t)
  | _ => none

def message (e : ImapError) : String :=
  match e with
  | io t => "io: " ++ t
  | no t => "no response: " ++ t
  | bad t => "bad response: " ++ t
  | connectionLost => "connection lost"
  | append => "could not append mail to mailbox"
  | invalidCharacter c => "validate: invalid character in input: '" ++ c.toString ++ "'"
  | unreadableStatus | unexpected _ | missing _ => "parse: " ++ (responseFault? e).getD ""

/-- The failure of a call, named by its context. -/
def ofCall (context : String) (e : ImapError) : MailError :=
  match e with
  | io t => .io t
  | no t | bad t => .protocol (context ++ ": " ++ t)
  | unreadableStatus | unexpected _ | missing _ =>
    .protocol (context ++ ": " ++ (responseFault? e).getD "")
  | _ => .imap (context ++ ": " ++ e.message)

/-- The failure of a login by some mechanism. -/
def ofLogin (mechanism : String) (e : ImapError) : MailError :=
  match e with
  | io t => .io t
  | connectionLost => .imap (mechanism ++ ": connection lost")
  | _ => .auth (mechanism ++ " rejected: " ++ e.message)

end ImapError

end MailSync
