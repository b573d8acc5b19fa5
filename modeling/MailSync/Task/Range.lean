import MailSync.Request
import MailSync.SequenceSet

/-!
# Loading a range of a folder

Messages are counted from 1 in the order of their numbers. A range is cut
to the messages there are, and what is loaded is listed in ascending order
whatever the order of the answer.
-/

namespace MailSync

/-- A message without a number comes before all others. -/
def RemoteMessage.uidLe (a b : RemoteMessage) : Bool :=
  match a.uid, b.uid with
  | none, _ => true
  | some _, none => false
  | some x, some y => x ≤ y

theorem RemoteMessage.uidLe_trans (a b c : RemoteMessage) (hab : a.uidLe b = true)
    (hbc : b.uidLe c = true) : a.uidLe c = true := by
  unfold uidLe at *
  cases ha : a.uid with
  | none => rfl
  | some x => cases hb : b.uid with
    | none => simp [ha, hb] at hab
    | some y => cases hc : c.uid with
      | none => simp [hb, hc] at hbc
      | some z =>
          simp only [ha, hb, hc, decide_eq_true_eq] at hab hbc ⊢
          exact UInt64.le_trans hab hbc

theorem RemoteMessage.uidLe_total (a b : RemoteMessage) : (a.uidLe b || b.uidLe a) = true := by
  unfold uidLe
  cases a.uid with
  | none => rfl
  | some x => cases b.uid with
    | none => rfl
    | some y => simpa using UInt64.le_total x y

namespace Task

/-- The elements at positions `first` to `last`, as far as there are such. -/
def slice {α : Type} (first last : Int) (items : List α) : List α :=
  (items.take last.toNat).drop (max first 1 - 1).toNat

/-- Loads the messages at positions `first` to `last` of the selected folder. -/
def messagesAt (s : SessionId) (first last : Int) : Trial (List RemoteMessage) := do
  let uids ← Trial.session s (.search "ALL")
  let wanted := slice first last uids
  if wanted.isEmpty then return []
  let messages ← Trial.session s (.fetchHeaders (SequenceSet.ofList wanted))
  return messages.mergeSort RemoteMessage.uidLe

def loadMessages (s : SessionId) (folder : Folder) (first last : UInt32) : Trial Report := do
  let _ ← Trial.session s (.select folder.fullName)
  return .messages folder (← messagesAt s first.toNat last.toNat)

/-- Loads the page that ends before the messages already loaded, the newest of
which is the last of the folder. -/
def loadPage (pageSize : UInt32) (s : SessionId) (folder : Folder) (alreadyLoaded : UInt32) :
    Trial Report := do
  let status ← Trial.session s (.select folder.fullName)
  let last : Int := status.messages.toNat - alreadyLoaded.toNat
  if last < 1 then return .messages folder []
  return .messages folder (← messagesAt s (last - pageSize.toNat + 1) last)

end Task

end MailSync
