/-!
# Splitting texts

Cutting a list at the first occurrence of a separator.
-/

namespace MailSync

variable {α : Type} [DecidableEq α]

/-- What stands before and after the first separator. -/
def splitAt (sep : α) : List α → Option (List α × List α)
  | [] => none
  | c :: rest =>
    if c = sep then some ([], rest)
    else (splitAt sep rest).map fun (before, after) => (c :: before, after)

theorem splitAt_eq_some {sep : α} {l before after : List α} (h : splitAt sep l = some (before, after)) :
    l = before ++ sep :: after := by
  induction l generalizing before with
  | nil => simp [splitAt] at h
  | cons c rest ih =>
    simp only [splitAt] at h
    split at h
    next hc => simp_all
    next =>
      simp only [Option.map_eq_some_iff, Prod.mk.injEq, Prod.exists] at h
      obtain ⟨b, a, hba, rfl, rfl⟩ := h
      simp [ih hba]

end MailSync
