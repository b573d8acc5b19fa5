import MailSync.Error

/-!
# Message numbers on the wire

A server numbers messages with 32 bits.
-/

namespace MailSync

/-- The number as a server knows it. -/
def Uid.wire? (uid : Uid) : Except MailError UInt32 :=
  if uid.toNat < UInt32.size then .ok (UInt32.ofNat uid.toNat)
  else .error (.protocol ("UID " ++ toString uid ++ " out of range"))

theorem Uid.wire?_eq_ok_iff {uid : Uid} {n : UInt32} : uid.wire? = .ok n ↔ n.toUInt64 = uid := by
  rw [wire?]
  split
  next h =>
    rw [Except.ok.injEq, ← UInt32.toNat_inj, ← UInt64.toNat_inj, UInt32.toNat_toUInt64,
      UInt32.toNat_ofNat_of_lt' h]
    exact eq_comm
  next h =>
    refine iff_of_false (fun h => nomatch h) ?_
    rintro rfl
    exact h (n.toNat_toUInt64 ▸ n.toNat_lt)

end MailSync
