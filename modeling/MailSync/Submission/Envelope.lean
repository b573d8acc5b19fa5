import MailSync.Envelope
import MailSync.Error
import MailSync.Submission.Address

/-!
# The envelope of a submitted message

Sender and recipients are read back out of the finished message. The
recipients are those of all To, then all Cc, then all Bcc headers.
-/

namespace MailSync

/-- From whom and to whom a message is submitted. -/
structure SubmissionEnvelope where
  sender : String
  recipients : List String
deriving DecidableEq, Repr

namespace SubmissionEnvelope

/-- The address, if an envelope can take it. -/
def checked (address : String) : Except MailError String :=
  match SubmissionAddress.fault? address with
  | none => .ok address
  | some f => .error (.smtp ("Invalid address " ++ address ++ ": " ++ f.message))

/-- The first address of the first From header, else the account. -/
def senderOf (account : String) (fields : List HeaderField) : String :=
  match (Header.first? fields "From").map Address.list with
  | some (a :: _) => a.address
  | _ => account

/-- The addresses of all headers that name recipients, in order. -/
def recipientsOf (fields : List HeaderField) : List String :=
  (["To", "Cc", "Bcc"].flatMap (Header.all fields)).flatMap fun value =>
    (Address.list value).map (·.address)

/-- The envelope of a message submitted for an account. -/
def ofMessage (account : String) (raw : Bytes) : Except MailError SubmissionEnvelope := do
  let fields ← match Header.fields raw with
    | .ok fields => pure fields
    | .error e => throw (.smtp ("Unparseable message headers: " ++ e.message))
  let recipients ← (recipientsOf fields).mapM checked
  let sender ← checked (senderOf account fields)
  if recipients.isEmpty then
    throw (.smtp "Invalid envelope: missing destination address, invalid envelope")
  return ⟨sender, recipients⟩

end SubmissionEnvelope

end MailSync
