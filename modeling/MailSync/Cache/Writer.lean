import MailSync.Cache.Store
import MailSync.Dialogue
import MailSync.Event

/-!
# Writing events to the cache

The usual consumer of events: it turns each into calls to a row store,
always in the same order, and finds the rows that deserve an announcement.
-/

namespace MailSync

/-- What an event did to the cache. -/
structure CacheUpdate where
  inserted : Nat
  updated : Nat
  deleted : Nat
  /-- The rows to announce. -/
  notify : List Row
deriving DecidableEq

namespace CacheUpdate

def unchanged : CacheUpdate := ⟨0, 0, 0, []⟩

def isUnchanged (u : CacheUpdate) : Bool := u = unchanged

end CacheUpdate

/-- Writes the events of one account. -/
structure CacheWriter where
  account : String

namespace CacheWriter

/-- A dialogue with a row store. -/
abbrev Writing (α : Type) := Attempt StoreCall StoreCall.Reply MailError α

def call (c : StoreCall) : Writing c.Value := ExceptT.mk (Dialogue.call c)

/-- The rows of listed messages. -/
def rows (w : CacheWriter) (folder : Folder) (messages : List RemoteMessage)
    (states : EncryptionStates) (isNew : Bool) : List Row :=
  messages.filterMap fun m =>
    Row.ofRemote? w.account folder.shortName m (m.uid >>= states.get?) isNew

/-- The rows to announce in a folder: new ones that are not seen. -/
def announced (w : CacheWriter) (folder : Folder) : Writing (List Row) := do
  let unseen ← call (.unseenUids w.account folder.shortName)
  let new ← call (.newRows w.account folder.shortName)
  return new.filter fun r => r.uid ∈ unseen

def announcedIf (w : CacheWriter) (notify : Bool) (folder : Folder) : Writing (List Row) :=
  if notify then w.announced folder else pure []

/-- Writes one event. -/
def apply (w : CacheWriter) (event : Event) : Writing CacheUpdate :=
  match event.report with
  | .messages folder messages => do
    let inserted ← call (.addRows (w.rows folder messages ∅ false))
    return { CacheUpdate.unchanged with inserted }
  | .newMessages folder messages states notify => do
    let inserted ← call (.addRows (w.rows folder messages states notify))
    return { CacheUpdate.unchanged with inserted, notify := ← w.announcedIf notify folder }
  | .refreshed folder new updated deleted states notify => do
    let deleted ← call (.delete w.account folder.shortName deleted)
    let inserted ← call (.addRows (w.rows folder new states notify))
    let flags := updated.filterMap fun m => m.uid.map fun uid => (uid, FlagSet.text m.flags)
    let updated ← call (.updateFlags w.account folder.shortName flags)
    return { inserted, updated, deleted, notify := ← w.announcedIf notify folder }
  | .moved source _ uids => do
    let deleted ← call (.delete w.account source.shortName (OrderedSet.ofList uids))
    return { CacheUpdate.unchanged with deleted }
  | _ => return CacheUpdate.unchanged

/-- Writes one event to the store in memory. -/
def applyTo (w : CacheWriter) (event : Event) (s : Store) : Except MailError CacheUpdate × Store :=
  (w.apply event).run.run (fun c s => let (v, s) := s.perform c; (.ok v, s)) s

end CacheWriter

end MailSync
