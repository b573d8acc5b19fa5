import MailSync.DomainName.Composition
import MailSync.DomainName.Direction
import MailSync.DomainName.Joiner
import MailSync.DomainName.Table
import MailSync.Text.Punycode

/-!
# Domain names

The form of a domain name that is written in ASCII. Its characters are
first brought into one form each; then labels that are not ASCII are
written in Punycode behind `xn--`.
-/

namespace MailSync.DomainName

/-- What stands in place of a character; `none` if no domain name holds it. -/
def replacement? (c : Char) : Option (List Char) :=
  let n := c.toNat
  if inCodeRanges Table.refused c then none
  else if inCodeRanges Table.dropped c then some []
  else
    let single := Table.replaced.findSome? fun (first, cells) =>
      if first ≤ n then cells.toList[n - first]? else none
    let several := Table.spelledOut.findSome? fun (first, cells) =>
      if first ≤ n then (cells.toList.splitOn '|')[n - first]? else none
    match single, several with
    | some d, _ => some [d]
    | none, some ds => some ds
    | none, none => some [c]

/-- The one form of texts that mean the same. -/
def normal? (text : List Char) : Option (List Char) :=
  (text.mapM replacement?).map fun parts => Composition.compose parts.flatten

def isAscii (c : Char) : Bool := c.toNat < 128

/-- The mark of a label in Punycode. -/
def punycodeMark : List Char := ['x', 'n', '-', '-']

/-- Whether a label does not start with a mark, and its joiners stand where they may. -/
def isLabel (label : List Char) : Bool := !label.head?.any Mark.isMark && Joiner.areAllowed label

/-- The label that is shown. One in Punycode must be what writing it would give. -/
def shown? (label : List Char) : Option (List Char) :=
  if punycodeMark.isPrefixOf label then do
    guard (label.all isAscii)
    let text ← Punycode.decode? (label.drop punycodeMark.length)
    guard (!text.all isAscii && normal? text = some text && isLabel text)
    return text
  else if isLabel label then some label
  else none

/-- A label in ASCII. -/
def written (label : List Char) : List Char :=
  if label.all isAscii then label else punycodeMark ++ Punycode.encode label

/-- The domain name in ASCII, if it is one. -/
def ascii? (name : List Char) : Option (List Char) := do
  let labels := (← normal? name).splitOn '.'
  let shown ← labels.mapM shown?
  guard (!shown.any Direction.isMixed || shown.all Direction.isKept)
  return ['.'].intercalate (labels.map written)

end MailSync.DomainName
