import MailSync.Dialogue
import MailSync.Text.Ascii

/-!
# The network

What a client asks of the network: connections, bytes in both directions,
and encryption. A failure is the text in which the system reports it.
-/

namespace MailSync

/-- Tells one open connection from another. -/
abbrev Wire := Nat

/-- A question to the network. -/
inductive NetworkCall where
  | dial (host : String) (port : UInt16)
  | write (wire : Wire) (bytes : Bytes)
  /-- The next bytes; none once the other side has closed. -/
  | read (wire : Wire)
  /-- Encrypt a connection from here on, with a check of the certificate or without. -/
  | encrypt (wire : Wire) (host : String) (anyCertificate : Bool)
  | hangUp (wire : Wire)
deriving DecidableEq, Repr

namespace NetworkCall

abbrev Value : NetworkCall → Type
  | dial .. => Wire
  | read _ => Bytes
  | write .. | encrypt .. | hangUp _ => Unit

abbrev Reply (c : NetworkCall) : Type := Except String c.Value

/-- A network on which nothing can be reached, and why. -/
def outOfReach (why : String) (c : NetworkCall) : c.Reply := .error why

end NetworkCall

/-- A dialogue with the network. -/
abbrev Traffic (α : Type) := Dialogue NetworkCall NetworkCall.Reply α

namespace Traffic

/-- How often a client reads in the hope that an answer ends. -/
def patience : Nat := UInt32.size

end Traffic

end MailSync
