import MailSync.Ordered.Set
import MailSync.Text.Ascii
import MailSync.Text.Blank

/-!
# Message flags

The six system flags, known in any case, and keywords, kept as written.
A set of flags has one canonical text (`FlagSet.text`), which is what the
cache stores; `FlagSet.matchesStored` compares a listing with that text.
-/

namespace MailSync

/-- A system flag or a keyword. -/
inductive Flag where
  | answered
  | deleted
  | draft
  | flagged
  | recent
  | seen
  | keyword (text : String)
deriving DecidableEq, Repr

namespace Flag

/-- Reads one flag token. -/
def ofToken (token : String) : Flag :=
  match Ascii.lower token with
  | "\\answered" => answered
  | "\\deleted" => deleted
  | "\\draft" => draft
  | "\\flagged" => flagged
  | "\\recent" => recent
  | "\\seen" => seen
  | _ => keyword token

/-- The token under which a flag is written. -/
def token : Flag → String
  | answered => "\\Answered"
  | deleted => "\\Deleted"
  | draft => "\\Draft"
  | flagged => "\\Flagged"
  | recent => "\\Recent"
  | seen => "\\Seen"
  | keyword t => t

/-- System flags come in the order of their names, keywords after them. -/
def rank : Flag → Nat
  | answered => 0
  | deleted => 1
  | draft => 2
  | flagged => 3
  | recent => 4
  | seen => 5
  | keyword _ => 6

/-- Flags of one rank are in the order of their tokens. -/
instance : Ord Flag := ⟨compareLex (compareOn rank) (compareOn token)⟩

theorem compare_def (a b : Flag) :
    compare a b = (compare a.rank b.rank).then (compare a.token b.token) := rfl

instance : Std.TransOrd Flag :=
  inferInstanceAs (Std.TransCmp (compareLex (compareOn rank) (compareOn token)))

theorem eq_of_rank_of_token {a b : Flag} (hr : a.rank = b.rank) (ht : a.token = b.token) :
    a = b := by
  cases a <;> cases b <;> simp_all [rank, token]

instance : Std.LawfulEqOrd Flag where
  eq_of_compare {a b} h := by
    rw [compare_def, Ordering.then_eq_eq] at h
    exact eq_of_rank_of_token (Std.LawfulEqOrd.eq_of_compare h.1)
      (Std.LawfulEqOrd.eq_of_compare h.2)

end Flag

/-- A set of flags, in the order of flags. -/
abbrev FlagSet := OrderedSet Flag

namespace FlagSet

/-- Reads flag tokens separated by blanks. -/
def ofText (text : String) : FlagSet := OrderedSet.ofList ((Blank.words text).map Flag.ofToken)

/-- The canonical text: the tokens in order, one space between them. -/
def text (flags : FlagSet) : String := " ".intercalate (flags.toList.map Flag.token)

def isSeen (flags : FlagSet) : Bool := decide (Flag.seen ∈ flags)

/-- Whether a stored text stands for these flags, up to order, repetition and case. -/
def matchesStored (flags : FlagSet) (stored : String) : Bool :=
  Ascii.eqIgnoreCase (text (ofText stored)) (text flags)

end FlagSet

end MailSync
