import MailSync.Message
import MailSync.Ordered.Map

/-!
# Reconciliation

One listing of a folder against one snapshot of the cache: which numbers
need a new row, which need new flags, and which are gone. Entries without
a number are counted and otherwise left alone.
-/

namespace MailSync

/-- The cached numbers of a folder with their stored flags. -/
abbrev Snapshot := OrderedMap Uid (Option String)

/-- The outcome of a reconciliation. -/
structure Diff where
  insert : OrderedSet Uid
  update : OrderedSet Uid
  delete : OrderedSet Uid
  /-- The number of entries without a number. -/
  skipped : Nat
deriving DecidableEq

def Diff.isEmpty (d : Diff) : Bool := d.insert.isEmpty && d.update.isEmpty && d.delete.isEmpty

namespace Reconciliation

/-- The numbers of a listing, in its order. -/
def uids (remote : List RemoteMessage) : List Uid := remote.filterMap (·.uid)

/-- The entries that are not cached. -/
def toInsert (cached : Uid → Bool) (remote : List RemoteMessage) : List RemoteMessage :=
  remote.filter fun m => m.uid.any fun uid => !cached uid

/-- The cached entries whose flags are not the stored ones; no stored flags count as none. -/
def toUpdate (cached : Snapshot) (remote : List RemoteMessage) : List RemoteMessage :=
  remote.filter fun m =>
    match m.uid >>= cached.get? with
    | none => false
    | some stored => !FlagSet.matchesStored m.flags (stored.getD "")

/-- The cached numbers that are not listed. -/
def toDelete (cached : OrderedSet Uid) (remote : List RemoteMessage) : OrderedSet Uid :=
  let listed := OrderedSet.ofList (uids remote)
  cached.filter fun uid => uid ∉ listed

def diff (cached : Snapshot) (remote : List RemoteMessage) : Diff where
  insert := OrderedSet.ofList (uids (toInsert cached.contains remote))
  update := OrderedSet.ofList (uids (toUpdate cached remote))
  delete := toDelete (OrderedSet.ofList cached.keys) remote
  skipped := (remote.filter (·.uid.isNone)).length

end Reconciliation

end MailSync
