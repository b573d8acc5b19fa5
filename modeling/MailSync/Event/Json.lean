import MailSync.Event
import MailSync.Json
import MailSync.Text.Utf8

/-!
# Events as JSON

The form in which events leave the program. An event is an object whose
field `event` names the kind of its report, and whose other fields are
those of the report.
-/

namespace MailSync

namespace Folder

def toJson (f : Folder) : Json :=
  .obj [("full_name", .str f.fullName), ("alias", .str f.shortName),
    ("attributes", .ofList .str f.attributes)]

end Folder

namespace Json

def ofUid (uid : Uid) : Json := .int uid.toNat

end Json

def EmailAddress.toJson (a : EmailAddress) : Json :=
  .obj [("name", .ofOption .str a.name), ("address", .str a.address)]

def Envelope.toJson (e : Envelope) : Json :=
  .obj [("message_id", .ofOption .str e.messageId), ("subject", .str e.subject),
    ("from", .ofList EmailAddress.toJson e.sender), ("to", .ofList EmailAddress.toJson e.recipients),
    ("cc", .ofList EmailAddress.toJson e.cc),
    ("date", .ofOption (fun t => .str (Instant.text t)) e.date)]

def RemoteMessage.toJson (m : RemoteMessage) : Json :=
  .obj [("uid", .ofOption Json.ofUid m.uid), ("flags", .str (FlagSet.text m.flags)),
    ("envelope", m.envelope.toJson), ("size", .ofOption (fun n => .int n.toNat) m.size)]

def RequestTag.toJson (t : RequestTag) : Json :=
  .obj [("owner_key", .str t.owner), ("request_code", .int t.code.toInt)]

def EncryptionStates.toJson (s : EncryptionStates) : Json :=
  .obj (s.entries.map fun (uid, encrypted) => (toString uid, .bool encrypted))

/-- The kind of a report, and its fields in order. -/
def Report.fields : Report → String × List (String × Json)
  | .folders fs => ("folder_info_received", [("folders", .ofList Folder.toJson fs)])
  | .messages folder ms =>
    ("msgs_received", [("folder", folder.toJson), ("messages", .ofList RemoteMessage.toJson ms)])
  | .details folder uid raw =>
    ("msg_details_received", [("folder", folder.toJson), ("uid", .ofUid uid),
      ("raw", .str (Utf8.decodeLossy raw))])
  | .newMessages folder ms states notify =>
    ("new_msgs_received", [("folder", folder.toJson),
      ("messages", .ofList RemoteMessage.toJson ms), ("encryption_states", states.toJson),
      ("notify", .bool notify)])
  | .refreshed folder new updated deleted states notify =>
    ("refresh_msgs_received", [("folder", folder.toJson),
      ("new_msgs", .ofList RemoteMessage.toJson new),
      ("updated_msgs", .ofList RemoteMessage.toJson updated),
      ("deleted_uids", .ofList Json.ofUid deleted.toList),
      ("encryption_states", states.toJson), ("notify", .bool notify)])
  | .moved source destination uids =>
    ("msgs_moved", [("source", source.toJson), ("destination", destination.toJson),
      ("uids", .ofList Json.ofUid uids)])
  | .sent => ("msg_sent", [])
  | .progress p => ("progress", [("progress", .str p.name)])
  | .failed kind error => ("error", [("kind", .str kind.name), ("error", .str error.message)])

def Event.toJson (e : Event) : Json :=
  let (kind, fields) := e.report.fields
  .obj (("event", .str kind) :: ("tag", e.tag.toJson) :: fields)

end MailSync
