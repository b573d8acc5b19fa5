import MailSync.Folder
import MailSync.Message
import MailSync.Reconciliation

/-!
# The row store

One row per cached message, kept under account, short name of the folder and number.
A store is a finite map of rows under their own keys; `Store.get?` is its view, and every other
question is answered from the rows of one folder, in ascending order of
their numbers.
-/

namespace MailSync

/-- What a row is kept under. -/
structure RowKey where
  account : String
  folderName : String
  uid : Uid
deriving DecidableEq, Repr

namespace RowKey

instance : Ord RowKey :=
  ⟨compareLex (compareOn account) (compareLex (compareOn folderName) (compareOn uid))⟩

instance : Std.TransOrd RowKey :=
  inferInstanceAs (Std.TransCmp
    (compareLex (compareOn account) (compareLex (compareOn folderName) (compareOn uid))))

theorem compare_def (a b : RowKey) :
    compare a b = (compare a.account b.account).then
      ((compare a.folderName b.folderName).then (compare a.uid b.uid)) := rfl

instance : Std.LawfulEqOrd RowKey where
  eq_of_compare {a b} h := by
    rw [compare_def, Ordering.then_eq_eq, Ordering.then_eq_eq] at h
    have h1 := Std.LawfulEqOrd.eq_of_compare h.1
    have h2 := Std.LawfulEqOrd.eq_of_compare h.2.1
    have h3 := Std.LawfulEqOrd.eq_of_compare h.2.2
    cases a; cases b; simp_all

end RowKey

/-- A cached message. -/
structure Row where
  account : String
  folderName : String
  uid : Uid
  /-- The stored flag text. -/
  flags : Option String
  /-- Whether the message is encrypted, once that has been found out. -/
  encrypted : Option Bool
  /-- Whether the message came in with a wish to be announced. -/
  isNew : Bool
  envelope : Envelope
deriving DecidableEq

namespace Row

def key (r : Row) : RowKey := ⟨r.account, r.folderName, r.uid⟩

/-- The row of a listed message; without a number there is none. -/
def ofRemote? (account folderName : String) (m : RemoteMessage) (encrypted : Option Bool)
    (isNew : Bool) : Option Row :=
  m.uid.map fun uid =>
    { account, folderName, uid, flags := some (FlagSet.text m.flags), encrypted, isNew,
      envelope := m.envelope }

def isSeen (r : Row) : Bool := r.flags.any fun text => FlagSet.isSeen (FlagSet.ofText text)

end Row

structure Store where
  rows : OrderedMap RowKey Row
  /-- A row is kept under its own key. -/
  keyed : ∀ {k : RowKey} {r : Row}, rows.get? k = some r → r.key = k

namespace Store

def empty : Store := ⟨∅, fun h => nomatch h⟩

instance : Inhabited Store := ⟨empty⟩

def get? (s : Store) (account folderName : String) (uid : Uid) : Option Row :=
  s.rows.get? ⟨account, folderName, uid⟩

def size (s : Store) : Nat := s.rows.size

/-- The rows of a folder. -/
def folderRows (s : Store) (account folderName : String) : List Row :=
  s.rows.values.filter fun r => r.account = account && r.folderName = folderName

/-- Writes a row over the one under the same key. -/
def insertRow (s : Store) (r : Row) : Store where
  rows := s.rows.insert r.key r
  keyed h := by
    rw [OrderedMap.get?_insert] at h
    split at h
    next hk =>
      cases h
      exact hk
    next => exact s.keyed h

/-- Writes rows in order. -/
def addRows (s : Store) (rows : List Row) : Nat × Store := (rows.length, rows.foldl insertRow s)

/-- Writes the flags of the row under a key, if there is one. -/
def setFlags (s : Store) (key : RowKey) (flags : String) : Store where
  rows := s.rows.modify key fun r => { r with flags := some flags }
  keyed h := by
    rw [OrderedMap.get?_modify] at h
    split at h
    next =>
      obtain ⟨r, hr, rfl⟩ := Option.map_eq_some_iff.mp h
      exact (s.keyed hr : r.key = _)
    next => exact s.keyed h

/-- Writes flags in order; counts the updates that found their row. -/
def updateFlags (s : Store) (account folderName : String) :
    List (Uid × String) → Nat × Store
  | [] => (0, s)
  | (uid, flags) :: rest =>
    let key : RowKey := ⟨account, folderName, uid⟩
    let (count, after) := (s.setFlags key flags).updateFlags account folderName rest
    (count + (s.rows.contains key).toNat, after)

/-- The store without some rows of a folder. -/
def without (s : Store) (account folderName : String) (uids : OrderedSet Uid) : Store where
  rows := s.rows.filter fun k _ =>
    !(k.account = account && k.folderName = folderName && k.uid ∈ uids)
  keyed h := by
    rw [OrderedMap.get?_filter] at h
    exact s.keyed (Option.eq_some_of_filter_eq_some h)

/-- Deletes rows; counts those that were there. -/
def delete (s : Store) (account folderName : String) (uids : OrderedSet Uid) : Nat × Store :=
  let kept := s.without account folderName uids
  (s.size - kept.size, kept)

/-- The cached numbers of a folder with their stored flags. -/
def uidFlags (s : Store) (account folderName : String) : Snapshot :=
  OrderedMap.ofList ((s.folderRows account folderName).map fun r => (r.uid, r.flags))

/-- The rows of a folder that came in with a wish to be announced. -/
def newRows (s : Store) (account folderName : String) : List Row :=
  (s.folderRows account folderName).filter (·.isNew)

def unseenUids (s : Store) (account folderName : String) : List Uid :=
  ((s.folderRows account folderName).filter (!·.isSeen)).map (·.uid)

end Store

/-- A question to a row store. -/
inductive StoreCall where
  | addRows (rows : List Row)
  | updateFlags (account folderName : String) (updates : List (Uid × String))
  | delete (account folderName : String) (uids : OrderedSet Uid)
  | uidFlags (account folderName : String)
  | newRows (account folderName : String)
  | unseenUids (account folderName : String)
deriving DecidableEq

namespace StoreCall

/-- What a store answers when it does not fail. -/
abbrev Value : StoreCall → Type
  | addRows _ | updateFlags .. | delete .. => Nat
  | uidFlags .. => Snapshot
  | newRows .. => List Row
  | unseenUids .. => List Uid

/-- A store may fail at any call. -/
abbrev Reply (c : StoreCall) : Type := Except MailError c.Value

end StoreCall

/-- The answer of the store in memory, which never fails. -/
def Store.perform (s : Store) : (c : StoreCall) → c.Value × Store
  | .addRows rows => s.addRows rows
  | .updateFlags account folderName updates => s.updateFlags account folderName updates
  | .delete account folderName uids => s.delete account folderName uids
  | .uidFlags account folderName => (s.uidFlags account folderName, s)
  | .newRows account folderName => (s.newRows account folderName, s)
  | .unseenUids account folderName => (s.unseenUids account folderName, s)

end MailSync
