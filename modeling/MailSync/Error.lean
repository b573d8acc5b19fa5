/-!
# Failures

What can go wrong while talking to the server, the store or a crypto
engine. Every failure has one text (`MailError.message`) and one kind
(`MailError.kind`); the kind alone decides how the worker reacts.
-/

namespace MailSync

/-- The number of a message within a folder. -/
abbrev Uid := UInt64

/-- A failed call, with its cause. -/
inductive MailError where
  | imap (text : String)
  | auth (text : String)
  | protocol (text : String)
  | smtp (text : String)
  | config (text : String)
  | store (text : String)
  | crypto (text : String)
  | messageRemoved (uid : Uid)
  | cancelled
  | io (text : String)
  | tls (text : String)
deriving DecidableEq, Repr, Inhabited

/-- How a failure is handled. -/
inductive ErrorKind where
  /-- A network hiccup: reported, the session is kept. -/
  | transientIo
  /-- The credentials do not work: reported, the session is dropped. -/
  | auth
  /-- This one command was refused: reported, the session is kept. -/
  | protocol
  /-- The message vanished in the meantime: never reported. -/
  | messageRemovedRace
deriving DecidableEq, Repr

namespace MailError

def kind : MailError → ErrorKind
  | .io _ | .tls _ | .imap _ | .cancelled => .transientIo
  | .auth _ => .auth
  | .protocol _ | .smtp _ | .config _ | .store _ | .crypto _ => .protocol
  | .messageRemoved _ => .messageRemovedRace

def message : MailError → String
  | .imap t => "IMAP error: " ++ t
  | .auth t => "Authentication error: " ++ t
  | .protocol t => "Server rejected command: " ++ t
  | .smtp t => "SMTP error: " ++ t
  | .config t => "Configuration error: " ++ t
  | .store t => "Message store error: " ++ t
  | .crypto t => "Crypto error: " ++ t
  | .messageRemoved uid => "Message UID " ++ toString uid ++ " was removed from the server"
  | .cancelled => "Operation cancelled"
  | .io t => "IO error: " ++ t
  | .tls t => "TLS error: " ++ t

end MailError

namespace ErrorKind

/-- The name under which a kind is reported to programs. -/
def name : ErrorKind → String
  | .transientIo => "transient_io"
  | .auth => "auth"
  | .protocol => "protocol"
  | .messageRemovedRace => "message_removed_race"

/-- The name under which a kind is shown to people. -/
def title : ErrorKind → String
  | .transientIo => "TransientIo"
  | .auth => "Auth"
  | .protocol => "Protocol"
  | .messageRemovedRace => "MessageRemovedRace"

end ErrorKind

end MailSync
