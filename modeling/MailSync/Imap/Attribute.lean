import MailSync.Flag
import MailSync.Text.Escaped

/-!
# Attributes and flags of a mail server

The folder attributes and message flags that an IMAP server sends, and the
names under which they are kept.
-/

namespace MailSync

/-- An attribute in the answer to LIST. -/
inductive FolderAttribute where
  | noInferiors
  | noSelect
  | marked
  | unmarked
  | all
  | archive
  | drafts
  | flagged
  | junk
  | sent
  | trash
  /-- Any other attribute, with its backslash. -/
  | extended (text : String)
deriving DecidableEq, Repr

namespace FolderAttribute

/-- The attributes that are known by name. -/
def known : List (FolderAttribute × String) := [
  (noInferiors, "NoInferiors"), (noSelect, "NoSelect"), (marked, "Marked"),
  (unmarked, "Unmarked"), (all, "All"), (archive, "Archive"), (drafts, "Drafts"),
  (flagged, "Flagged"), (junk, "Junk"), (sent, "Sent"), (trash, "Trash")]

/-- The text that describes an attribute. -/
def description (a : FolderAttribute) : List Char :=
  match a with
  | extended text => "Extension(".toList ++ (Escaped.quote text).toList ++ [')']
  | a => ((known.lookup a).getD "").toList

/-- Takes each pair of backslashes for one. -/
def mergeBackslashes : List Char → List Char
  | '\\' :: '\\' :: rest => '\\' :: mergeBackslashes rest
  | c :: rest => c :: mergeBackslashes rest
  | [] => []

/-- What stands between a start and an end. -/
def between? (start stop cs : List Char) : Option (List Char) :=
  if start.isPrefixOf cs then
    let rest := cs.drop start.length
    if stop.isSuffixOf rest then some (rest.take (rest.length - stop.length)) else none
  else none

/-- The name a folder keeps for an attribute, read off its description. -/
def name (a : FolderAttribute) : String :=
  match between? "Extension(\"".toList "\")".toList a.description with
  | some text => String.ofList (mergeBackslashes text)
  | none => String.ofList ('\\' :: a.description)

end FolderAttribute

/-- The flag behind a token of the server; `\*` only says that keywords may be made. -/
def Flag.ofWire? (token : String) : Option Flag :=
  if token = "\\*" then none else some (Flag.ofToken token)

end MailSync
