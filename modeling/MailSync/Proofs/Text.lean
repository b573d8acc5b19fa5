import MailSync.Text.Blank
import MailSync.Text.Number
import MailSync.Text.Split

/-!
# What is written can be read

The two codings of text that the cache and the server see: words with one
space between them are read back as the same words
(`Blank.words_intercalate`), and the decimal text of a number as the number
(`Number.natural_toString`). What else is read as a number is a numeral with a
plus sign or with zeros in front (`Number.natural_eq_ok_iff`).
-/

namespace MailSync

/-! ## Words -/

namespace Blank

/-- A word is what `words` yields: at least one character, and no blank. -/
def IsWord (s : String) : Prop := s ≠ "" ∧ ∀ c ∈ s.toList, isBlank c = false

instance (s : String) : Decidable (IsWord s) :=
  decidable_of_iff (s ≠ "" ∧ s.toList.all (!isBlank ·) = true) (by simp [IsWord])

/-- A text of some words, with blanks anywhere around them and at least one between two of them. -/
inductive Spaced : List String → List Char → Prop where
  | blank {cs : List Char} (blanks : ∀ c ∈ cs, isBlank c = true) : Spaced [] cs
  | word {before rest : List Char} {w : String} {ws : List String}
    (blanks : ∀ c ∈ before, isBlank c = true) (isWord : IsWord w)
    (apart : ∀ c, rest.head? = some c → isBlank c = true) (others : Spaced ws rest) :
    Spaced (w :: ws) (before ++ w.toList ++ rest)

namespace Spaced

variable {ws : List String} {cs : List Char}

theorem isWord (h : Spaced ws cs) : ∀ w ∈ ws, IsWord w := by
  induction h with
  | blank _ => exact fun w hw => absurd hw List.not_mem_nil
  | word _ hword _ _ ih => exact List.forall_mem_cons.mpr ⟨hword, ih⟩

theorem cons_blank {c : Char} (hc : isBlank c = true) (h : Spaced ws cs) : Spaced ws (c :: cs) := by
  cases h with
  | blank hblanks => exact .blank (List.forall_mem_cons.mpr ⟨hc, hblanks⟩)
  | word hblanks hword hapart hothers =>
      exact .word (List.forall_mem_cons.mpr ⟨hc, hblanks⟩) hword hapart hothers

/-- A word at the start of a text. -/
theorem cons_word {w rest : List Char} (hne : w ≠ []) (hw : ∀ c ∈ w, isBlank c = false)
    (hapart : ∀ c, rest.head? = some c → isBlank c = true) (h : Spaced ws rest) :
    Spaced (String.ofList w :: ws) (w ++ rest) := by
  have hword : IsWord (String.ofList w) := ⟨by simpa [← String.toList_inj] using hne, by simpa using hw⟩
  have hspaced : Spaced (String.ofList w :: ws) ([] ++ (String.ofList w).toList ++ rest) :=
    .word (fun c hc => absurd hc List.not_mem_nil) hword hapart h
  rwa [List.nil_append, String.toList_ofList] at hspaced

end Spaced

/-- The words cut out of a text, where the end of a first one was carried along. -/
theorem spaced_wordsFrom {word : List Char} (hword : ∀ c ∈ word, isBlank c = false) (cs : List Char) :
    Spaced ((wordsFrom word cs).map String.ofList) (word.reverse ++ cs) := by
  have hcarried : ∀ c ∈ word.reverse, isBlank c = false := fun c hc =>
    hword c (List.mem_reverse.mp hc)
  -- a blank or the end makes a word of what was carried along, if there is anything
  induction cs generalizing word with
  | nil =>
      rw [wordsFrom]
      split
      next hnil =>
        rw [List.isEmpty_iff.mp hnil]
        exact .blank (by simp)
      next hne =>
        exact .cons_word (by simpa using hne) hcarried (by simp) (.blank (by simp))
  | cons c cs ih =>
      rw [wordsFrom]
      split
      next hc =>
        have hnone : ∀ d ∈ ([] : List Char), isBlank d = false := nofun
        have hrest : Spaced ((wordsFrom [] cs).map String.ofList) (c :: cs) :=
          (ih hnone hnone).cons_blank hc
        split
        next hnil => rwa [List.isEmpty_iff.mp hnil]
        next hne =>
          refine .cons_word (by simpa using hne) hcarried ?_ hrest
          rintro _ ⟨⟩
          exact hc
      next hc =>
        have hnext : ∀ d ∈ c :: word, isBlank d = false :=
          List.forall_mem_cons.mpr ⟨Bool.eq_false_iff.mpr hc, hword⟩
        have hspaced := ih hnext fun d hd => hnext d (List.mem_reverse.mp hd)
        rwa [List.reverse_cons, List.append_assoc, List.singleton_append] at hspaced

/-- Characters that are not blank are carried along. -/
theorem wordsFrom_append {cs : List Char} (h : ∀ c ∈ cs, isBlank c = false) (word rest : List Char) :
    wordsFrom word (cs ++ rest) = wordsFrom (cs.reverse ++ word) rest := by
  induction cs generalizing word with
  | nil => rfl
  | cons c cs ih =>
      rw [List.forall_mem_cons] at h
      rw [List.cons_append, wordsFrom, h.1, if_neg (by simp), ih h.2, List.reverse_cons,
        List.append_assoc, List.singleton_append]

theorem wordsFrom_blanks {cs : List Char} (h : ∀ c ∈ cs, isBlank c = true) (rest : List Char) :
    wordsFrom [] (cs ++ rest) = wordsFrom [] rest := by
  induction cs with
  | nil => rfl
  | cons c cs ih =>
      rw [List.forall_mem_cons] at h
      rw [List.cons_append, wordsFrom, if_pos h.1, if_pos List.isEmpty_nil, ih h.2]

/-- A word comes to its end at a blank or with the text. -/
theorem wordsFrom_end {word rest : List Char} (hne : word ≠ [])
    (hapart : ∀ c, rest.head? = some c → isBlank c = true) :
    wordsFrom word rest = word.reverse :: wordsFrom [] rest := by
  have hempty : ¬ word.isEmpty = true := by simpa using hne
  cases rest with
  | nil => rw [wordsFrom, if_neg hempty, wordsFrom, if_pos List.isEmpty_nil]
  | cons c rest =>
      have hc := hapart c rfl
      rw [wordsFrom, if_pos hc, if_neg hempty, wordsFrom, if_pos hc, if_pos List.isEmpty_nil]

/-- The words of a text are the ones it is made of, whatever blanks it has. -/
theorem words_eq_iff {s : String} {ws : List String} : words s = ws ↔ Spaced ws s.toList := by
  constructor
  · rintro rfl
    exact spaced_wordsFrom (fun c hc => absurd hc List.not_mem_nil) s.toList
  · intro h
    rw [words]
    generalize s.toList = cs at h
    induction h with
    | @blank cs hblanks =>
        have hnone := wordsFrom_blanks hblanks []
        rw [List.append_nil] at hnone
        rw [hnone]
        rfl
    | @word before rest w ws hblanks hword hapart _ ih =>
        have hne : w.toList.reverse ++ [] ≠ [] := by simpa using hword.1
        rw [List.append_assoc, wordsFrom_blanks hblanks, wordsFrom_append hword.2,
          wordsFrom_end hne hapart, List.map_cons, ih, List.append_nil, List.reverse_reverse,
          String.ofList_toList]

theorem isWord_of_mem_words {s w : String} (h : w ∈ words s) : IsWord w :=
  (words_eq_iff.mp rfl).isWord w h

/-- Words with one space between them are read back. -/
theorem words_intercalate {ws : List String} (h : ∀ w ∈ ws, IsWord w) :
    words (" ".intercalate ws) = ws := by
  rw [words_eq_iff, String.toList_intercalate]
  induction ws with
  | nil => exact .blank (fun c hc => absurd hc List.not_mem_nil)
  | cons w ws ih =>
      obtain ⟨hword, hwords⟩ := List.forall_mem_cons.mp h
      have hne : w.toList ≠ [] := by simpa using hword.1
      cases ws with
      | nil =>
        have hend : Spaced [] [] := .blank (fun c hc => absurd hc List.not_mem_nil)
        have hspaced := Spaced.cons_word hne hword.2 (by simp) hend
        simpa using hspaced
      | cons w' ws =>
        have hspaced := Spaced.cons_word hne hword.2 (by rintro _ ⟨⟩; rfl)
          ((ih hwords).cons_blank (c := ' ') rfl)
        simpa using hspaced

end Blank

/-! ## Cutting at a separator -/

section Split

variable {α : Type} [DecidableEq α] {sep : α}

theorem splitAt_eq_none {l : List α} (h : sep ∉ l) : splitAt sep l = none := by
  induction l with
  | nil => rfl
  | cons c rest ih =>
      rw [List.mem_cons, not_or] at h
      rw [splitAt, if_neg (Ne.symm h.1), ih h.2, Option.map_none]

theorem splitAt_append {before : List α} (h : sep ∉ before) (after : List α) :
    splitAt sep (before ++ sep :: after) = some (before, after) := by
  induction before with
  | nil => rw [List.nil_append, splitAt, if_pos rfl]
  | cons c rest ih =>
      rw [List.mem_cons, not_or] at h
      rw [List.cons_append, splitAt, if_neg (Ne.symm h.1), ih h.2, Option.map_some]

end Split

/-! ## Decimal numbers -/

namespace Number

theorem digit?_digitChar {d : Nat} (h : d < 10) : digit? d.digitChar = some d := by
  revert d
  decide

/-- The digits of a number are read as that number, the last of them by one more step. -/
theorem digits_toDigits {max n : Nat} {e : NumberError} (h : n ≤ max) (rest : List Char) :
    digits max e 0 (Nat.toDigits 10 n ++ rest) = digits max e n rest := by
  induction n using Nat.strongRecOn generalizing rest with
  | ind n ih =>
      have step : ∀ m d, d < 10 → m * 10 + d ≤ max →
          digits max e m (d.digitChar :: rest) = digits max e (m * 10 + d) rest := by
        intro m d hd hle
        rw [digits, digit?_digitChar hd]
        exact if_pos hle
      rcases Nat.lt_or_ge n 10 with hn | hn
      · rw [Nat.toDigits_of_lt_base hn, List.singleton_append, step 0 n hn (by omega)]
        congr 1
        omega
      · rw [Nat.toDigits_of_base_le (by decide) hn, List.append_assoc, ih (n / 10) (by omega) (by omega),
          List.singleton_append, step (n / 10) (n % 10) (by omega) (by omega)]
        congr 1
        omega

theorem natural_of_head {max : Nat} {s : String} {c : Char} {cs : List Char}
    (hs : s.toList = c :: cs) (hc : c ≠ '+') : natural max s = digits max .tooLarge 0 (c :: cs) := by
  rw [natural, hs]
  split
  next h => cases h
  next h => cases h; exact absurd rfl hc
  next h => cases h; exact absurd rfl hc
  next => rfl

theorem toList_toString (n : Nat) : (toString n).toList = Nat.toDigits 10 n := by
  rw [Nat.toString_eq_repr, Nat.toList_repr]

/-- Nothing but digits stands in the text of a number. -/
theorem not_mem_toString {c : Char} (hc : c.isDigit = false) (n : Nat) : c ∉ (toString n).toList := by
  rw [toList_toString]
  intro h
  have hdigit : c.isDigit = true := Nat.isDigit_of_mem_toDigits (by decide) (Nat.le_refl 10) h
  rw [hc] at hdigit
  cases hdigit

theorem digit?_eq_some {c : Char} {d : Nat} (h : digit? c = some d) : d < 10 ∧ c = d.digitChar := by
  rw [digit?, Option.ite_none_right_eq_some, Option.some.injEq] at h
  obtain ⟨⟨hlow, hhigh⟩, rfl⟩ := h
  rw [Char.le_def, UInt32.le_iff_toNat_le] at hlow hhigh
  change 48 ≤ c.toNat at hlow
  change c.toNat ≤ 57 at hhigh
  refine ⟨by omega, ?_⟩
  have hall : ∀ d < 10, Nat.digitChar d = Char.ofNat (d + 48) := by decide
  rw [hall _ (by omega), Nat.sub_add_cancel hlow, Char.ofNat_toNat]

/-- Digits that are read after the first ones stand in the decimal text after them. -/
theorem toDigits_of_digits {max value n : Nat} {e : NumberError} {cs : List Char}
    (hvalue : 0 < value) (h : digits max e value cs = .ok n) :
    Nat.toDigits 10 n = Nat.toDigits 10 value ++ cs := by
  induction cs generalizing value with
  | nil =>
      rw [digits, Except.ok.injEq] at h
      rw [h, List.append_nil]
  | cons c cs ih =>
      rw [digits] at h
      split at h
      · cases h
      next d hd =>
        split at h
        · obtain ⟨hlt, rfl⟩ := digit?_eq_some hd
          have hdiv : (value * 10 + d) / 10 = value := by omega
          have hmod : (value * 10 + d) % 10 = d := by omega
          rw [ih (by omega) h, Nat.toDigits_of_base_le (by decide) (by omega : 10 ≤ value * 10 + d),
            hdiv, hmod, List.append_assoc, List.singleton_append]
        · cases h

/-- Digits that do not begin with a zero are the decimal text of the number read from them. -/
theorem eq_toDigits_of_digits {max n : Nat} {e : NumberError} {cs : List Char} (hnil : cs ≠ [])
    (hhead : cs.head? ≠ some '0') (h : digits max e 0 cs = .ok n) : cs = Nat.toDigits 10 n := by
  cases cs with
  | nil => exact absurd rfl hnil
  | cons c cs =>
      rw [digits] at h
      split at h
      · cases h
      next d hd =>
        obtain ⟨hlt, rfl⟩ := digit?_eq_some hd
        have hpos : 0 < d := Nat.pos_of_ne_zero fun hzero => hhead (by rw [hzero]; rfl)
        split at h
        · rw [toDigits_of_digits (by omega) h, Nat.zero_mul, Nat.zero_add,
            Nat.toDigits_of_lt_base hlt, List.singleton_append]
        · cases h

/-- The decimal text of a number begins with a zero only if it is one. -/
theorem head?_toDigits {n : Nat} (h : 0 < n) : (Nat.toDigits 10 n).head? ≠ some '0' := by
  induction n using Nat.strongRecOn with
  | ind n ih =>
      rcases Nat.lt_or_ge n 10 with hn | hn
      · have hall : ∀ d < 10, 0 < d → Nat.digitChar d ≠ '0' := by decide
        rw [Nat.toDigits_of_lt_base hn]
        simpa using hall n hn h
      · have hne := ih (n / 10) (by omega) (by omega)
        obtain ⟨c, cs, hcs⟩ := List.exists_cons_of_ne_nil (Nat.toDigits_ne_nil (n := n / 10) (b := 10))
        rw [hcs] at hne
        rw [Nat.toDigits_of_base_le (by decide) hn, hcs]
        exact hne

/-- The decimal text of a number is read back. -/
theorem natural_toString {max n : Nat} (h : n ≤ max) : natural max (toString n) = .ok n := by
  obtain ⟨c, cs, hcs⟩ := List.exists_cons_of_ne_nil (Nat.toDigits_ne_nil (n := n) (b := 10))
  have hs : (toString n).toList = c :: cs := by rw [toList_toString, hcs]
  have hc : c ≠ '+' := by
    rintro rfl
    exact not_mem_toString (by decide) n (hs ▸ List.mem_cons_self)
  rw [natural_of_head hs hc, ← hcs, ← List.append_nil (Nat.toDigits 10 n), digits_toDigits h, digits]

/-! ### Numerals -/

theorem digit?_eq (c : Char) :
    digit? c = if c.isDigit = true then some (c.toNat - '0'.toNat) else none := by
  rw [digit?, Char.isDigit]
  congr 1
  simp [Char.le_def]

theorem le_ofDigitChars (cs : List Char) (value : Nat) : value ≤ Nat.ofDigitChars 10 cs value := by
  induction cs generalizing value with
  | nil => exact Nat.le_refl value
  | cons c cs ih =>
      rw [Nat.ofDigitChars_cons]
      have := ih (10 * value + (c.toNat - '0'.toNat))
      omega

theorem digits_eq_ok_iff {max value n : Nat} {e : NumberError} {cs : List Char}
    (hvalue : value ≤ max) : digits max e value cs = .ok n ↔
      (∀ c ∈ cs, c.isDigit = true) ∧ Nat.ofDigitChars 10 cs value = n ∧ n ≤ max := by
  induction cs generalizing value with
  | nil =>
      rw [digits, Except.ok.injEq, Nat.ofDigitChars_nil]
      constructor
      · rintro rfl
        exact ⟨fun c hc => absurd hc List.not_mem_nil, rfl, hvalue⟩
      · exact fun h => h.2.1
  | cons c cs ih =>
      rw [digits, digit?_eq, Nat.ofDigitChars_cons, List.forall_mem_cons, Nat.mul_comm 10 value]
      by_cases hc : c.isDigit = true
      · rw [if_pos hc]
        have hle := le_ofDigitChars cs (value * 10 + (c.toNat - '0'.toNat))
        dsimp only
        split
        next hnext => rw [ih hnext, and_iff_right hc]
        next hnext =>
          refine iff_of_false (by simp) ?_
          rintro ⟨-, rfl, hmax⟩
          exact hnext (Nat.le_trans hle hmax)
      · rw [if_neg hc]
        exact iff_of_false (by simp) fun h => hc h.1.1

/-- Decimal digits, at least one, and their value. -/
structure IsDecimal (ds : List Char) (n : Nat) : Prop where
  nonempty : ds ≠ []
  digits : ∀ c ∈ ds, c.isDigit = true
  value : Nat.ofDigitChars 10 ds 0 = n

/-- Decimal digits, before which a plus sign may stand. -/
def Numeral (s : String) (n : Nat) : Prop :=
  ∃ ds, (s.toList = ds ∨ s.toList = '+' :: ds) ∧ IsDecimal ds n

theorem IsDecimal.ne_sign {ds : List Char} {n : Nat} (h : IsDecimal ds n) (cs : List Char) :
    ds ≠ '+' :: cs := by
  rintro rfl
  exact absurd (h.digits '+' List.mem_cons_self) (by decide)

theorem numeral_iff {s : String} {n : Nat} : Numeral s n ↔
    IsDecimal s.toList n ∨ ∃ ds, s.toList = '+' :: ds ∧ IsDecimal ds n := by
  constructor
  · rintro ⟨ds, rfl | h, hds⟩
    · exact .inl hds
    · exact .inr ⟨ds, h, hds⟩
  · rintro (h | ⟨ds, hs, hds⟩)
    · exact ⟨_, .inl rfl, h⟩
    · exact ⟨ds, .inr hs, hds⟩

/-- A numeral is read exactly if its number is not too large. -/
theorem natural_eq_ok_iff {max n : Nat} {s : String} :
    natural max s = .ok n ↔ Numeral s n ∧ n ≤ max := by
  have hread : ∀ {ds : List Char}, ds ≠ [] →
      (digits max .tooLarge 0 ds = .ok n ↔ IsDecimal ds n ∧ n ≤ max) := by
    intro ds hne
    rw [digits_eq_ok_iff (Nat.zero_le max)]
    constructor
    · rintro ⟨hdigits, hvalue, hmax⟩
      exact ⟨⟨hne, hdigits, hvalue⟩, hmax⟩
    · rintro ⟨⟨-, hdigits, hvalue⟩, hmax⟩
      exact ⟨hdigits, hvalue, hmax⟩
  rw [natural, numeral_iff]
  split
  next h =>
    rw [h]
    exact iff_of_false nofun (by rintro ⟨⟨hne, -⟩ | ⟨ds, hds, -⟩, -⟩ <;> simp_all)
  next h =>
    rw [h]
    refine iff_of_false nofun ?_
    rintro ⟨hds | ⟨ds, hds, hne, -⟩, -⟩
    · exact hds.ne_sign [] rfl
    · cases hds
      exact hne rfl
  next ds hne h =>
    rw [hread hne, h]
    refine and_congr_left fun _ => ⟨fun hds => .inr ⟨ds, rfl, hds⟩, ?_⟩
    rintro (hds | ⟨ds', hds, hdecimal⟩)
    · exact absurd rfl (hds.ne_sign ds)
    · cases hds
      exact hdecimal
  next hne _ hsign =>
    rw [hread hne]
    refine and_congr_left fun _ => ⟨.inl, ?_⟩
    rintro (hds | ⟨ds, hds, -⟩)
    · exact hds
    · exact absurd hds (hsign ds)

end Number

end MailSync
