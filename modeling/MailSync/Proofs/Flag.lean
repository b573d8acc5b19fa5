import MailSync.Flag
import MailSync.Proofs.Text

/-!
# The stored text of a flag set

A set of flags is stored as one text. `ofText_text` says that the text is
read back as the same set, provided every flag is one that `Flag.ofToken`
reads from a word; `matchesStored_text` draws the consequence that a row
just written never asks for new flags.

Only system flags have more than one spelling (`Flag.ofToken_eq_iff`), so two
texts make the same set exactly if each has every word of the other in some
spelling (`ofText_eq_iff`).
-/

namespace MailSync

namespace Flag

/-- A flag as it is read from a word: a system flag is never held as a keyword. -/
def IsRead (f : Flag) : Prop := ∃ token, Blank.IsWord token ∧ f = ofToken token

/-- A flag that is read from a word is written as that word, unless it is a system flag: those
are written in one way, which is a word and is read back. -/
theorem token_ofToken (t : String) :
    (ofToken t).token = t ∨
      Blank.IsWord (ofToken t).token ∧ ofToken (ofToken t).token = ofToken t := by
  rw [ofToken]
  split
  case h_7 => exact .inl rfl
  all_goals exact .inr (by decide +kernel)

theorem IsRead.ofToken_token {f : Flag} (h : f.IsRead) : ofToken f.token = f := by
  obtain ⟨t, _, rfl⟩ := h
  rcases token_ofToken t with ht | ⟨_, hsystem⟩
  · rw [ht]
  · exact hsystem

theorem IsRead.isWord_token {f : Flag} (h : f.IsRead) : Blank.IsWord f.token := by
  obtain ⟨t, hword, rfl⟩ := h
  rcases token_ofToken t with ht | ⟨hsystem, _⟩
  · rw [ht]
    exact hword
  · exact hsystem

/-! ## Spellings -/

/-- The names of the system flags, in lower case. -/
def systemNames : List String :=
  ["\\answered", "\\deleted", "\\draft", "\\flagged", "\\recent", "\\seen"]

/-- Two words are spellings of one flag: the name of a system flag in any case, or the same word. -/
def Respelled (w w' : String) : Prop :=
  w = w' ∨ Ascii.lower w ∈ systemNames ∧ Ascii.lower w' = Ascii.lower w

/-- A word is the name of a system flag, or a keyword. -/
theorem ofToken_cases (w : String) :
    (Ascii.lower w ∈ systemNames ∧ Ascii.lower (ofToken w).token = Ascii.lower w ∧
        ∀ t, ofToken w ≠ keyword t) ∨
      (Ascii.lower w ∉ systemNames ∧ ofToken w = keyword w) := by
  rw [ofToken]
  split
  case h_7 => exact .inr ⟨by simp_all [systemNames], rfl⟩
  all_goals
    next hname =>
      rw [hname]
      exact .inl ⟨by decide, by decide +kernel, nofun⟩

theorem ofToken_eq_iff {w w' : String} : ofToken w = ofToken w' ↔ Respelled w w' := by
  constructor
  · intro h
    rcases ofToken_cases w with ⟨hsystem, hname, hno⟩ | ⟨-, hkeyword⟩ <;>
      rcases ofToken_cases w' with ⟨-, hname', hno'⟩ | ⟨-, hkeyword'⟩
    · exact .inr ⟨hsystem, by rw [← hname', ← h, hname]⟩
    · exact absurd (h.trans hkeyword') (hno w')
    · exact absurd (h.symm.trans hkeyword) (hno' w)
    · exact .inl (keyword.inj (hkeyword.symm.trans (h.trans hkeyword')))
  · rintro (rfl | ⟨hsystem, hname⟩)
    · rfl
    · rw [ofToken, ofToken, hname]
      split
      case h_7 => simp_all [systemNames]
      all_goals rfl

/-- Every one of some words is, in some spelling, among others. -/
def Covers (ws' ws : List String) : Prop := ∀ w ∈ ws, ∃ w' ∈ ws', Respelled w w'

theorem covers_iff {ws ws' : List String} : Covers ws' ws ↔ ws.map ofToken ⊆ ws'.map ofToken := by
  constructor
  · intro h f hf
    obtain ⟨w, hw, rfl⟩ := List.mem_map.mp hf
    obtain ⟨w', hw', hspelled⟩ := h w hw
    exact List.mem_map.mpr ⟨w', hw', (ofToken_eq_iff.mpr hspelled).symm⟩
  · intro h w hw
    obtain ⟨w', hw', heq⟩ := List.mem_map.mp (h (List.mem_map_of_mem hw))
    exact ⟨w', hw', ofToken_eq_iff.mp heq.symm⟩

end Flag

namespace FlagSet

theorem isRead_of_mem_ofText {text : String} {f : Flag} (h : f ∈ ofText text) : f.IsRead := by
  rw [ofText, OrderedSet.mem_ofList] at h
  obtain ⟨token, htoken, rfl⟩ := List.mem_map.mp h
  exact ⟨token, Blank.isWord_of_mem_words htoken, rfl⟩

/-- The tokens of a set in their order, as its text holds them, are read back one by one. -/
theorem words_text {flags : FlagSet} (h : ∀ f ∈ flags, f.IsRead) :
    Blank.words (text flags) = flags.toList.map Flag.token := by
  refine Blank.words_intercalate fun w hw => ?_
  obtain ⟨f, hf, rfl⟩ := List.mem_map.mp hw
  exact (h f hf).isWord_token

/-- The text of a set is read back as the set. -/
theorem ofText_text {flags : FlagSet} (h : ∀ f ∈ flags, f.IsRead) : ofText (text flags) = flags := by
  refine OrderedSet.ext fun f => ?_
  rw [ofText, words_text h, List.map_map, OrderedSet.mem_ofList, List.mem_map]
  constructor
  · rintro ⟨g, hg, rfl⟩
    rw [Function.comp_apply, (h g hg).ofToken_token]
    exact hg
  · exact fun hf => ⟨f, hf, (h f hf).ofToken_token⟩

/-- Different sets have different texts. -/
theorem text_inj {flags flags' : FlagSet} (h : ∀ f ∈ flags, f.IsRead) (h' : ∀ f ∈ flags', f.IsRead) :
    text flags = text flags' ↔ flags = flags' := by
  constructor
  · intro htext
    rw [← ofText_text h, htext, ofText_text h']
  · rintro rfl
    rfl

/-- Two texts make the same set if they have the same flags, in whatever spelling. -/
theorem ofText_eq_iff {s s' : String} : ofText s = ofText s' ↔
    Flag.Covers (Blank.words s') (Blank.words s) ∧ Flag.Covers (Blank.words s) (Blank.words s') := by
  rw [Flag.covers_iff, Flag.covers_iff]
  constructor
  · intro h
    have hmem : ∀ f, f ∈ (Blank.words s).map Flag.ofToken ↔ f ∈ (Blank.words s').map Flag.ofToken :=
      fun f => by rw [← OrderedSet.mem_ofList, ← OrderedSet.mem_ofList, ← ofText, h, ofText]
    exact ⟨fun f => (hmem f).mp, fun f => (hmem f).mpr⟩
  · rintro ⟨hsub, hsup⟩
    refine OrderedSet.ext fun f => ?_
    rw [ofText, ofText, OrderedSet.mem_ofList, OrderedSet.mem_ofList]
    exact ⟨fun hf => hsub hf, fun hf => hsup hf⟩

/-- A set matches the text under which it was stored. -/
theorem matchesStored_text {flags : FlagSet} (h : ∀ f ∈ flags, f.IsRead) :
    matchesStored flags (text flags) = true := by
  rw [matchesStored, ofText_text h, Ascii.eqIgnoreCase, decide_eq_true_eq]

end FlagSet

end MailSync
