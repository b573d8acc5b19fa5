import MailSync.Error
import MailSync.Ordered.Set
import MailSync.Text.Number
import MailSync.Text.Split

/-!
# Sequence sets

A set of message numbers is sent to the server as its maximal runs,
`1:3,7,9:10`. Reading takes the largest number of the folder for `*`, and
the two ends of a run in either order.
-/

namespace MailSync.SequenceSet

/-- The maximal runs of consecutive numbers in an ascending list. -/
def runs : List Uid → List (Uid × Uid)
  | [] => []
  | u :: rest =>
    match runs rest with
    | [] => [(u, u)]
    | (first, last) :: more =>
      if u + 1 = first then (u, last) :: more else (u, u) :: (first, last) :: more

def runText (run : Uid × Uid) : String :=
  if run.1 = run.2 then toString run.1 else toString run.1 ++ ":" ++ toString run.2

/-- The text of a set of numbers. -/
def ofSet (uids : OrderedSet Uid) : String := ",".intercalate ((runs uids.toList).map runText)

/-- The text of the numbers in a list. -/
def ofList (uids : List Uid) : String := ofSet (OrderedSet.ofList uids)

/-! ## Reading -/

/-- One end of a run; what is not a number counts as 0. -/
def bound (largest : Uid) (cs : List Char) : Uid :=
  if cs = ['*'] then largest
  else match Number.natural (UInt64.size - 1) (String.ofList cs) with
    | .ok n => UInt64.ofNat n
    | .error _ => 0

/-- The run that an item of a set stands for. -/
def run (largest : Uid) (item : List Char) : Uid × Uid :=
  match splitAt ':' item with
  | some (a, b) =>
    let a := bound largest a
    let b := bound largest b
    (min a b, max a b)
  | none => (bound largest item, bound largest item)

/-- The runs that a text stands for. -/
def read (largest : Uid) (text : String) : List (Uid × Uid) :=
  (text.toList.splitOn ',').map (run largest)

/-- Whether a number is in the set that a text stands for. -/
def contains (largest : Uid) (text : String) (uid : Uid) : Bool :=
  (read largest text).any fun r => r.1 ≤ uid && uid ≤ r.2

end MailSync.SequenceSet
