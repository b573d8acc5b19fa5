import MailSync.Event
import MailSync.Event.Json
import MailSync.Text.Utf8

/-!
# Events for people

How the outcome of a command is printed, for people or as JSON. Progress
and failures are told in other ways.
-/

namespace MailSync

namespace Display

def padding (width : Nat) (text : String) : String := "".pushn ' ' (width - text.length)

/-- A message on one line: number, flags, subject. -/
def summary (m : RemoteMessage) (marker : String) : String :=
  let uid := match m.uid with
    | some uid => toString uid
    | none => "-"
  let flags := FlagSet.text m.flags
  padding 6 uid ++ uid ++ "  " ++ flags ++ padding 20 flags ++ "  " ++ marker ++ m.envelope.subject ++
    "\n"

def summaries (messages : List RemoteMessage) (marker : RemoteMessage → String) : String :=
  String.join (messages.map fun m => summary m (marker m))

/-- The mark of a message that is known to be encrypted. -/
def encryptionMark (states : EncryptionStates) (m : RemoteMessage) : String :=
  if (m.uid >>= states.get?).getD false then "[pgp] " else ""

/-- What is printed of a report. -/
def report : Report → String
  | .folders folders => String.join (folders.map fun f => f.fullName ++ " (" ++ f.role.title ++ ")\n")
  | .messages _ messages =>
    summaries messages (fun _ => "") ++ "\n" ++ toString messages.length ++ " message(s)\n"
  | .details _ _ raw => Utf8.decodeLossy raw ++ "\n"
  | .newMessages _ messages states _ =>
    summaries messages (encryptionMark states) ++ "\n" ++ toString messages.length ++
      " new message(s)\n"
  | .refreshed _ new updated deleted _ _ =>
    "New:     " ++ toString new.length ++ "\nUpdated: " ++ toString updated.length ++
      "\nDeleted: " ++ toString deleted.toList.length ++ "\n"
  | .moved _ destination uids =>
    "Moved " ++ toString uids.length ++ " message(s) to " ++ destination.fullName ++ "\n"
  | .sent => "Message sent\n"
  | .progress _ | .failed .. => ""

/-- What is printed of an event. -/
def event (json : Bool) (e : Event) : String :=
  match json, e.report with
  | _, .progress _ => ""
  | true, _ => e.toJson.text ++ "\n"
  | false, r => report r

end Display

end MailSync
