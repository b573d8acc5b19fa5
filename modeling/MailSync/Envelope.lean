import MailSync.Address
import MailSync.Date
import MailSync.EncodedWord

/-!
# Envelopes

The header fields a message list shows. A block that cannot be read gives
the empty envelope; a field that cannot be read is empty on its own.
-/

namespace MailSync

/-- What a message list shows of a message. -/
structure Envelope where
  messageId : Option String
  subject : String
  sender : List EmailAddress
  recipients : List EmailAddress
  cc : List EmailAddress
  date : Option Instant
deriving DecidableEq, Repr

namespace Envelope

def empty : Envelope := ⟨none, "", [], [], [], none⟩

instance : Inhabited Envelope := ⟨empty⟩

def ofFields (fields : List HeaderField) : Envelope where
  messageId := (Header.first? fields "Message-ID").map trimmed
  subject := (Header.first? fields "Subject").getD ""
  sender := ((Header.first? fields "From").map Address.list).getD []
  recipients := ((Header.first? fields "To").map Address.list).getD []
  cc := ((Header.first? fields "Cc").map Address.list).getD []
  date := Header.first? fields "Date" >>= MailDate.instant?

/-- The envelope of the header block at the start of a message. -/
def ofBytes (raw : Bytes) : Envelope :=
  match Header.fields raw with
  | .ok fields => ofFields fields
  | .error _ => empty

end Envelope

end MailSync
