import MailSync.Event
import MailSync.Event.Json

/-!
# Cryptographic tasks

What a crypto engine is asked for, and how the outcome is reported: one
event per task, under the tag of the task.
-/

namespace MailSync

/-- A question to a crypto engine. -/
inductive CryptoCall where
  | encrypt (plaintext : Bytes) (recipients : List String)
  | decrypt (ciphertext : Bytes)
  | sign (data : Bytes)
  | verify (data signature : Bytes)
deriving DecidableEq, Repr

namespace CryptoCall

/-- What an engine answers when it does not fail. -/
abbrev Value : CryptoCall → Type
  | encrypt .. | decrypt _ | sign _ => Bytes
  | verify .. => Bool

abbrev Reply (c : CryptoCall) : Type := Except MailError c.Value

end CryptoCall

structure CryptoTask where
  tag : RequestTag
  call : CryptoCall
deriving DecidableEq, Repr

/-- What came of a task. -/
inductive CryptoReport where
  | encrypted (ciphertext : Bytes)
  | decrypted (plaintext : Bytes)
  | signed (signature : Bytes)
  | verified (valid : Bool)
  | failed (error : MailError)
deriving DecidableEq, Repr

/-- The report of an answer. -/
def CryptoReport.ofReply : (c : CryptoCall) → c.Reply → CryptoReport
  | _, .error e => failed e
  | .encrypt .., .ok ciphertext => encrypted ciphertext
  | .decrypt _, .ok plaintext => decrypted plaintext
  | .sign _, .ok signature => signed signature
  | .verify .., .ok valid => verified valid

structure CryptoEvent where
  tag : RequestTag
  report : CryptoReport
deriving DecidableEq, Repr

namespace CryptoEvent

/-- The event that ends a task. -/
def ofTask (t : CryptoTask) (reply : t.call.Reply) : CryptoEvent := ⟨t.tag, .ofReply t.call reply⟩

def bytesJson (bs : Bytes) : Json := .ofList (fun b => .int b.toNat) bs

/-- The name of a report, and its field. -/
def fields : CryptoReport → String × String × Json
  | .encrypted ciphertext => ("encrypted", "ciphertext", bytesJson ciphertext)
  | .decrypted plaintext => ("decrypted", "plaintext", bytesJson plaintext)
  | .signed signature => ("signed", "signature", bytesJson signature)
  | .verified valid => ("verified", "valid", .bool valid)
  | .failed error => ("failed", "error", .str error.message)

def toJson (e : CryptoEvent) : Json :=
  let (name, field, value) := fields e.report
  .obj [("event", .str name), ("tag", e.tag.toJson), (field, value)]

end CryptoEvent

end MailSync
