import MailSync.Envelope
import MailSync.Error
import MailSync.Flag

/-!
# Messages of a folder

What the server tells about a message of the selected folder. The number
is missing when the message went away while it was being listed.
-/

namespace MailSync

/-- An entry of a listing. -/
structure RemoteMessage where
  uid : Option Uid
  flags : FlagSet
  envelope : Envelope
  size : Option UInt32
deriving DecidableEq

/-- The first line of an armoured OpenPGP message. -/
def pgpMarker : String := "-----BEGIN PGP MESSAGE-----"

/-- Whether a piece of a body contains an armoured OpenPGP message. -/
def looksEncrypted : Bytes → Bool
  | [] => false
  | b :: rest => (utf8 pgpMarker).isPrefixOf (b :: rest) || looksEncrypted rest

end MailSync
