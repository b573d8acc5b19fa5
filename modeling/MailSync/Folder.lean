import MailSync.Text.Ascii

/-!
# Folders

The server knows a folder by its full name, the cache by a short name. What a
folder is for is read off its attributes, and failing that off its name.
-/

namespace MailSync

/-- What a folder is for. -/
inductive FolderRole where
  | inbox
  | sent
  | drafts
  | trash
  | spam
  | archive
  | all
  | outbox
  | other
deriving DecidableEq, Repr

namespace FolderRole

def ofAttribute? (attr : String) : Option FolderRole :=
  match Ascii.lower (String.ofList (attr.toList.dropWhile (· = '\\'))) with
  | "inbox" => some inbox
  | "sent" => some sent
  | "drafts" => some drafts
  | "trash" => some trash
  | "junk" | "spam" => some spam
  | "archive" => some archive
  | "all" => some all
  | _ => none

def ofName (name : String) : FolderRole :=
  if Ascii.eqIgnoreCase name "inbox" then inbox
  else match name with
    | "Sent" => sent
    | "Drafts" => drafts
    | "Trash" => trash
    | "Spam" | "Junk" => spam
    | "Archive" => archive
    | "Outbox" => outbox
    | _ => other

/-- The name under which a role is reported to programs. -/
def name : FolderRole → String
  | inbox => "inbox"
  | sent => "sent"
  | drafts => "drafts"
  | trash => "trash"
  | spam => "spam"
  | archive => "archive"
  | all => "all"
  | outbox => "outbox"
  | other => "other"

/-- The name under which a role is shown to people. -/
def title : FolderRole → String
  | inbox => "Inbox"
  | sent => "Sent"
  | drafts => "Drafts"
  | trash => "Trash"
  | spam => "Spam"
  | archive => "Archive"
  | all => "All"
  | outbox => "Outbox"
  | other => "Other"

end FolderRole

/-- A folder with the attributes the server lists for it. -/
structure Folder where
  fullName : String
  /-- The name under which the cache knows the folder. -/
  shortName : String
  attributes : List String
deriving DecidableEq, Repr, Inhabited

namespace Folder

def inbox : Folder := ⟨"INBOX", "INBOX", []⟩

/-- The first attribute that names a role decides, else the full name. -/
def role (f : Folder) : FolderRole :=
  (f.attributes.findSome? FolderRole.ofAttribute?).getD (FolderRole.ofName f.fullName)

def isInbox (f : Folder) : Bool := f.role = .inbox

def isSelectable (f : Folder) : Bool :=
  !f.attributes.any fun a =>
    Ascii.eqIgnoreCase a "\\Noselect" || Ascii.eqIgnoreCase a "\\NonExistent"

end Folder

end MailSync
