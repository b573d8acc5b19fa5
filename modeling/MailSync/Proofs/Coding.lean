import Mathlib.Data.Bool.AllAny
import MailSync.Text.Base64
import MailSync.Text.Utf8

/-!
# What is encoded is decoded

The two codings a text goes through on its way into an encoded word, and
back: its characters as octets of UTF-8 (`Utf8.pieces_utf8`), and octets as
Base64 (`Base64.decode?_encodeChars`). No other octets are read as that text
(`Utf8.decode?_eq_some_iff`).
-/

namespace MailSync

/-! ## UTF-8 -/

theorem utf8_eq (s : String) : utf8 s = s.toList.flatMap String.utf8EncodeChar := by
  have h : s.toByteArray = s.toList.utf8Encode := by
    rw [← String.toByteArray_ofList, String.ofList_toList]
  rw [utf8, String.toUTF8, h, List.utf8Encode, List.toList_data_toByteArray]

/-- The octets of an ASCII text are its characters. -/
theorem utf8_ascii {s : String} (h : ∀ c ∈ s.toList, c.val ≤ 127) :
    utf8 s = s.toList.map (·.val.toUInt8) := by
  rw [utf8_eq]
  generalize s.toList = cs at h
  induction cs with
  | nil => rfl
  | cons c cs ih =>
      obtain ⟨hc, hcs⟩ := List.forall_mem_cons.mp h
      rw [List.flatMap_cons, List.map_cons, ih hcs,
        String.utf8EncodeChar_eq_singleton (Char.utf8Size_eq_one_iff.mpr hc), List.singleton_append]

namespace Utf8

/-- An octet that goes on with a sequence. -/
theorem continued_cons {bits more n : Nat} {low high : UInt8} {rest : Bytes}
    (hlow : low.toNat ≤ n) (hhigh : n ≤ high.toNat) (hsize : n < 256) :
    continued bits (more + 1) low high (UInt8.ofNat n :: rest) =
      continued (bits * 64 + (n - 0x80)) more 0x80 0xBF rest := by
  have hn := UInt8.toNat_ofNat_of_lt' hsize
  have hin : low ≤ UInt8.ofNat n ∧ UInt8.ofNat n ≤ high := by
    rw [UInt8.le_iff_toNat_le, UInt8.le_iff_toNat_le, hn]
    exact ⟨hlow, hhigh⟩
  rw [continued, if_pos hin, hn]

/-- `lead?` in numbers. -/
theorem lead?_ofNat {n : Nat} (h : n < 256) : lead? (UInt8.ofNat n) =
    if 0xC2 ≤ n ∧ n ≤ 0xDF then some ⟨0x80, 0xBF, 1, n - 0xC0⟩
    else if n = 0xE0 then some ⟨0xA0, 0xBF, 2, 0⟩
    else if n = 0xED then some ⟨0x80, 0x9F, 2, 13⟩
    else if 0xE1 ≤ n ∧ n ≤ 0xEF then some ⟨0x80, 0xBF, 2, n - 0xE0⟩
    else if n = 0xF0 then some ⟨0x90, 0xBF, 3, 0⟩
    else if 0xF1 ≤ n ∧ n ≤ 0xF3 then some ⟨0x80, 0xBF, 3, n - 0xF0⟩
    else if n = 0xF4 then some ⟨0x80, 0x8F, 3, 4⟩
    else none := by
  simp only [lead?, UInt8.le_iff_toNat_le, ← UInt8.toNat_inj, UInt8.toNat_ofNat_of_lt' h]
  rfl

theorem step_lead {n : Nat} {l : Lead} {rest : Bytes} (hlow : 0x80 ≤ n) (hsize : n < 256)
    (h : lead? (UInt8.ofNat n) = some l) :
    step (UInt8.ofNat n) rest = continued l.bits l.more l.low l.high rest := by
  have hlarge : ¬ UInt8.ofNat n < 0x80 := by
    rw [UInt8.lt_iff_toNat_lt, UInt8.toNat_ofNat_of_lt' hsize]
    exact Nat.not_lt.mpr hlow
  rw [step, if_neg hlarge, h]

theorem step_two {a b : Nat} {rest : Bytes} (ha : 0xC2 ≤ a ∧ a ≤ 0xDF) (hb : 0x80 ≤ b ∧ b ≤ 0xBF) :
    step (UInt8.ofNat a) (UInt8.ofNat b :: rest) =
      (some (Char.ofNat ((a - 0xC0) * 64 + (b - 0x80))), rest) := by
  have hlead : lead? (UInt8.ofNat a) = some ⟨0x80, 0xBF, 1, a - 0xC0⟩ := by
    rw [lead?_ofNat (by omega), if_pos ha]
  rw [step_lead (by omega) (by omega) hlead, continued_cons hb.1 hb.2 (by omega), continued]

/-- The second of three octets has other bounds after the least first one, and after the one of the
surrogates. -/
theorem step_three {a b c : Nat} {rest : Bytes} (ha : 0xE0 ≤ a ∧ a ≤ 0xEF)
    (hb : 0x80 ≤ b ∧ b ≤ 0xBF) (hleast : a = 0xE0 → 0xA0 ≤ b) (hsurrogate : a = 0xED → b ≤ 0x9F)
    (hc : 0x80 ≤ c ∧ c ≤ 0xBF) :
    step (UInt8.ofNat a) (UInt8.ofNat b :: UInt8.ofNat c :: rest) =
      (some (Char.ofNat (((a - 0xE0) * 64 + (b - 0x80)) * 64 + (c - 0x80))), rest) := by
  have hnot : ¬ (0xC2 ≤ a ∧ a ≤ 0xDF) := by omega
  have hlead := lead?_ofNat (show a < 256 by omega)
  rw [if_neg hnot] at hlead
  by_cases hfirst : a = 0xE0
  · rw [if_pos hfirst] at hlead
    rw [step_lead (by omega) (by omega) hlead, continued_cons (hleast hfirst) hb.2 (by omega),
      continued_cons hc.1 hc.2 (by omega), continued, hfirst]
  by_cases hlast : a = 0xED
  · rw [if_neg hfirst, if_pos hlast] at hlead
    rw [step_lead (by omega) (by omega) hlead, continued_cons hb.1 (hsurrogate hlast) (by omega),
      continued_cons hc.1 hc.2 (by omega), continued, hlast]
  · have hother : 0xE1 ≤ a ∧ a ≤ 0xEF := by omega
    rw [if_neg hfirst, if_neg hlast, if_pos hother] at hlead
    rw [step_lead (by omega) (by omega) hlead, continued_cons hb.1 hb.2 (by omega),
      continued_cons hc.1 hc.2 (by omega), continued]

/-- The second of four octets has other bounds after the least and the greatest first one. -/
theorem step_four {a b c d : Nat} {rest : Bytes} (ha : 0xF0 ≤ a ∧ a ≤ 0xF4)
    (hb : 0x80 ≤ b ∧ b ≤ 0xBF) (hleast : a = 0xF0 → 0x90 ≤ b) (hgreatest : a = 0xF4 → b ≤ 0x8F)
    (hc : 0x80 ≤ c ∧ c ≤ 0xBF) (hd : 0x80 ≤ d ∧ d ≤ 0xBF) :
    step (UInt8.ofNat a) (UInt8.ofNat b :: UInt8.ofNat c :: UInt8.ofNat d :: rest) =
      (some (Char.ofNat ((((a - 0xF0) * 64 + (b - 0x80)) * 64 + (c - 0x80)) * 64 + (d - 0x80))),
        rest) := by
  have hnot : ¬ (0xC2 ≤ a ∧ a ≤ 0xDF) ∧ a ≠ 0xE0 ∧ a ≠ 0xED ∧ ¬ (0xE1 ≤ a ∧ a ≤ 0xEF) := by omega
  have hlead := lead?_ofNat (show a < 256 by omega)
  rw [if_neg hnot.1, if_neg hnot.2.1, if_neg hnot.2.2.1, if_neg hnot.2.2.2] at hlead
  by_cases hfirst : a = 0xF0
  · rw [if_pos hfirst] at hlead
    rw [step_lead (by omega) (by omega) hlead, continued_cons (hleast hfirst) hb.2 (by omega),
      continued_cons hc.1 hc.2 (by omega), continued_cons hd.1 hd.2 (by omega), continued, hfirst]
  by_cases hlast : a = 0xF4
  · have hother : ¬ (0xF1 ≤ a ∧ a ≤ 0xF3) := by omega
    rw [if_neg hfirst, if_neg hother, if_pos hlast] at hlead
    rw [step_lead (by omega) (by omega) hlead, continued_cons hb.1 (hgreatest hlast) (by omega),
      continued_cons hc.1 hc.2 (by omega), continued_cons hd.1 hd.2 (by omega), continued, hlast]
  · have hother : 0xF1 ≤ a ∧ a ≤ 0xF3 := by omega
    rw [if_neg hfirst, if_pos hother] at hlead
    rw [step_lead (by omega) (by omega) hlead, continued_cons hb.1 hb.2 (by omega),
      continued_cons hc.1 hc.2 (by omega), continued_cons hd.1 hd.2 (by omega), continued]

/-- A character is read from its octets. -/
theorem step_encode (c : Char) (rest : Bytes) : ∃ b more,
    String.utf8EncodeChar c = b :: more ∧ step b (more ++ rest) = (some c, rest) := by
  have hvalid : c.toNat < 0xD800 ∨ 0xDFFF < c.toNat ∧ c.toNat < 0x110000 := c.valid
  have hread : ∀ {n}, n = c.toNat → (some (Char.ofNat n), rest) = (some c, rest) := by
    rintro _ rfl
    rw [Char.ofNat_toNat]
  rw [String.utf8EncodeChar]
  simp only [Char.toNat_val]
  generalize c.toNat = n at *
  split
  next h =>
    have hn := UInt8.toNat_ofNat_of_lt' (show n < 256 by omega)
    have hsmall : UInt8.ofNat n < 0x80 := by
      rw [UInt8.lt_iff_toNat_lt, hn]
      exact Nat.lt_succ_of_le h
    refine ⟨_, _, rfl, ?_⟩
    rw [step, if_pos hsmall, hn]
    exact hread rfl
  split
  next h₁ h =>
    refine ⟨_, _, rfl, (step_two ?_ ?_).trans (hread ?_)⟩ <;> omega
  split
  next h₁ h₂ h =>
    refine ⟨_, _, rfl, (step_three ?_ ?_ ?_ ?_ ?_).trans (hread ?_)⟩ <;> omega
  next h₁ h₂ h =>
    refine ⟨_, _, rfl, (step_four ?_ ?_ ?_ ?_ ?_ ?_).trans (hread ?_)⟩ <;> omega

theorem pieces_encode (cs : List Char) :
    pieces (cs.flatMap String.utf8EncodeChar) = cs.map some := by
  induction cs with
  | nil => rw [List.flatMap_nil, pieces, List.map_nil]
  | cons c cs ih =>
      obtain ⟨b, more, hencode, hstep⟩ := step_encode c (cs.flatMap String.utf8EncodeChar)
      rw [List.flatMap_cons, hencode, List.cons_append, pieces, hstep, ih, List.map_cons]

theorem pieces_utf8 (s : String) : pieces (utf8 s) = s.toList.map some := by
  rw [utf8_eq, pieces_encode]

theorem decode?_utf8 (s : String) : decode? (utf8 s) = some s := by
  rw [decode?, pieces_utf8]
  simp

theorem decodeLossy_utf8 (s : String) : decodeLossy (utf8 s) = s := by
  rw [decodeLossy, pieces_utf8, List.map_map]
  exact (congrArg String.ofList (List.map_id _)).trans String.ofList_toList

/-! ### No other octets -/

/-- A sequence that goes on has an octet within the bounds. -/
theorem continued_some {bits more : Nat} {low high : UInt8} {rest after : Bytes} {c : Char}
    (h : continued bits (more + 1) low high rest = (some c, after)) :
    ∃ n rest', rest = UInt8.ofNat n :: rest' ∧ (low.toNat ≤ n ∧ n ≤ high.toNat) ∧
      continued (bits * 64 + (n - 0x80)) more 0x80 0xBF rest' = (some c, after) := by
  cases rest with
  | nil => cases h
  | cons b rest =>
      rw [continued] at h
      split at h
      next hb =>
        rw [UInt8.le_iff_toNat_le, UInt8.le_iff_toNat_le] at hb
        exact ⟨b.toNat, rest, by rw [UInt8.ofNat_toNat], hb, h⟩
      next => cases h

theorem continued_zero {bits : Nat} {low high : UInt8} {rest after : Bytes} {c : Char}
    (h : continued bits 0 low high rest = (some c, after)) :
    Char.ofNat bits = c ∧ rest = after := by
  rw [continued] at h
  exact ⟨Option.some.inj (Prod.mk.inj h).1, (Prod.mk.inj h).2⟩

/-- The octets of a code point, by its size. -/
theorem encode_ofNat {n : Nat} (h : n.isValidChar) : String.utf8EncodeChar (Char.ofNat n) =
    if n ≤ 0x7F then [UInt8.ofNat n]
    else if n ≤ 0x7FF then [UInt8.ofNat (n / 64 % 32 + 192), UInt8.ofNat (n % 64 + 128)]
    else if n ≤ 0xFFFF then [UInt8.ofNat (n / 4096 % 16 + 224), UInt8.ofNat (n / 64 % 64 + 128),
      UInt8.ofNat (n % 64 + 128)]
    else [UInt8.ofNat (n / 262144 % 8 + 240), UInt8.ofNat (n / 4096 % 64 + 128),
      UInt8.ofNat (n / 64 % 64 + 128), UInt8.ofNat (n % 64 + 128)] := by
  have hn : (Char.ofNat n).val.toNat = n := by
    rw [Char.ofNat, dif_pos h]
    rfl
  simp only [String.utf8EncodeChar, hn]

theorem encode_two {a b n : Nat} (ha : 0xC2 ≤ a ∧ a ≤ 0xDF) (hb : 0x80 ≤ b ∧ b ≤ 0xBF)
    (hn : n = (a - 0xC0) * 64 + (b - 0x80)) :
    String.utf8EncodeChar (Char.ofNat n) = [UInt8.ofNat a, UInt8.ofNat b] := by
  have h₁ : n / 64 % 32 + 192 = a := by omega
  have h₂ : n % 64 + 128 = b := by omega
  rw [encode_ofNat (.inl (by omega)), if_neg (by omega), if_pos (by omega), h₁, h₂]

theorem encode_three {a b c n : Nat} (ha : 0xE0 ≤ a ∧ a ≤ 0xEF) (hb : 0x80 ≤ b ∧ b ≤ 0xBF)
    (hleast : a = 0xE0 → 0xA0 ≤ b) (hsurrogate : a = 0xED → b ≤ 0x9F)
    (hc : 0x80 ≤ c ∧ c ≤ 0xBF) (hn : n = ((a - 0xE0) * 64 + (b - 0x80)) * 64 + (c - 0x80)) :
    String.utf8EncodeChar (Char.ofNat n) = [UInt8.ofNat a, UInt8.ofNat b, UInt8.ofNat c] := by
  have h₁ : n / 4096 % 16 + 224 = a := by omega
  have h₂ : n / 64 % 64 + 128 = b := by omega
  have h₃ : n % 64 + 128 = c := by omega
  have hvalid : n < 0xD800 ∨ 0xDFFF < n ∧ n < 0x110000 := by omega
  rw [encode_ofNat hvalid, if_neg (by omega), if_neg (by omega), if_pos (by omega), h₁, h₂, h₃]

theorem encode_four {a b c d n : Nat} (ha : 0xF0 ≤ a ∧ a ≤ 0xF4) (hb : 0x80 ≤ b ∧ b ≤ 0xBF)
    (hleast : a = 0xF0 → 0x90 ≤ b) (hgreatest : a = 0xF4 → b ≤ 0x8F)
    (hc : 0x80 ≤ c ∧ c ≤ 0xBF) (hd : 0x80 ≤ d ∧ d ≤ 0xBF)
    (hn : n = (((a - 0xF0) * 64 + (b - 0x80)) * 64 + (c - 0x80)) * 64 + (d - 0x80)) :
    String.utf8EncodeChar (Char.ofNat n) =
      [UInt8.ofNat a, UInt8.ofNat b, UInt8.ofNat c, UInt8.ofNat d] := by
  have h₁ : n / 262144 % 8 + 240 = a := by omega
  have h₂ : n / 4096 % 64 + 128 = b := by omega
  have h₃ : n / 64 % 64 + 128 = c := by omega
  have h₄ : n % 64 + 128 = d := by omega
  have hvalid : n < 0xD800 ∨ 0xDFFF < n ∧ n < 0x110000 := by omega
  rw [encode_ofNat hvalid, if_neg (by omega), if_neg (by omega), if_neg (by omega), h₁, h₂, h₃, h₄]

/-- What a first octet promises: how many octets follow, and how the bounds of the second depend on
it. -/
theorem lead?_some {n : Nat} (h : n < 256) {l : Lead} (hl : lead? (UInt8.ofNat n) = some l) :
    0x80 ≤ l.low.toNat ∧ l.high.toNat ≤ 0xBF ∧
      (l.more = 1 ∧ l.bits = n - 0xC0 ∧ (0xC2 ≤ n ∧ n ≤ 0xDF) ∨
        l.more = 2 ∧ l.bits = n - 0xE0 ∧ (0xE0 ≤ n ∧ n ≤ 0xEF) ∧
          (n = 0xE0 → 0xA0 ≤ l.low.toNat) ∧ (n = 0xED → l.high.toNat ≤ 0x9F) ∨
        l.more = 3 ∧ l.bits = n - 0xF0 ∧ (0xF0 ≤ n ∧ n ≤ 0xF4) ∧
          (n = 0xF0 → 0x90 ≤ l.low.toNat) ∧ (n = 0xF4 → l.high.toNat ≤ 0x8F)) := by
  rw [lead?_ofNat h] at hl
  split at hl
  next ha =>
    cases hl
    exact ⟨Nat.le_refl _, Nat.le_refl _, .inl ⟨rfl, rfl, ha⟩⟩
  split at hl
  next ha =>
    cases hl
    subst ha
    decide
  next hleast =>
  split at hl
  next ha =>
    cases hl
    subst ha
    decide
  next hlast =>
  split at hl
  next ha =>
    cases hl
    exact ⟨Nat.le_refl _, Nat.le_refl _, .inr (.inl ⟨rfl, rfl, by omega,
      fun h => absurd h hleast, fun h => absurd h hlast⟩)⟩
  split at hl
  next ha =>
    cases hl
    subst ha
    decide
  split at hl
  next ha =>
    cases hl
    exact ⟨Nat.le_refl _, Nat.le_refl _, .inr (.inr ⟨rfl, rfl, by omega, by omega, by omega⟩)⟩
  split at hl
  next ha =>
    cases hl
    subst ha
    decide
  next => cases hl

/-- A character is read from its own octets only. -/
theorem step_some {b : UInt8} {rest after : Bytes} {c : Char} (h : step b rest = (some c, after)) :
    b :: rest = String.utf8EncodeChar c ++ after := by
  obtain ⟨n, hn, rfl⟩ : ∃ n, n < 256 ∧ b = UInt8.ofNat n :=
    ⟨b.toNat, b.toNat_lt, UInt8.ofNat_toNat.symm⟩
  rw [step] at h
  split at h
  next hsmall =>
    have hascii : n < 0x80 := by
      rwa [UInt8.lt_iff_toNat_lt, UInt8.toNat_ofNat_of_lt' hn] at hsmall
    rw [UInt8.toNat_ofNat_of_lt' hn] at h
    obtain ⟨hc, rfl⟩ := Prod.mk.inj h
    obtain rfl := Option.some.inj hc
    rw [encode_ofNat (.inl (by omega)), if_pos (by omega)]
    rfl
  next =>
    split at h
    next => cases h
    next l hl =>
      obtain ⟨hlow, hhigh, ⟨hmore, hbits, ha⟩ | ⟨hmore, hbits, ha, hleast, hlast⟩ |
        ⟨hmore, hbits, ha, hleast, hlast⟩⟩ := lead?_some hn hl <;> rw [hmore, hbits] at h
      · obtain ⟨n₁, _, rfl, hb, h⟩ := continued_some h
        obtain ⟨rfl, rfl⟩ := continued_zero h
        rw [encode_two ha (by omega) rfl]
        rfl
      · obtain ⟨n₁, _, rfl, hb, h⟩ := continued_some h
        obtain ⟨n₂, _, rfl, hc, h⟩ := continued_some h
        change 0x80 ≤ n₂ ∧ n₂ ≤ 0xBF at hc
        obtain ⟨rfl, rfl⟩ := continued_zero h
        rw [encode_three ha (by omega) (by omega) (by omega) hc rfl]
        rfl
      · obtain ⟨n₁, _, rfl, hb, h⟩ := continued_some h
        obtain ⟨n₂, _, rfl, hc, h⟩ := continued_some h
        obtain ⟨n₃, _, rfl, hd, h⟩ := continued_some h
        change 0x80 ≤ n₂ ∧ n₂ ≤ 0xBF at hc
        change 0x80 ≤ n₃ ∧ n₃ ≤ 0xBF at hd
        obtain ⟨rfl, rfl⟩ := continued_zero h
        rw [encode_four ha (by omega) (by omega) (by omega) hc hd rfl]
        rfl

theorem eq_encode_of_pieces {bs : Bytes} {cs : List Char} (h : pieces bs = cs.map some) :
    bs = cs.flatMap String.utf8EncodeChar := by
  induction hlen : bs.length using Nat.strongRecOn generalizing bs cs with
  | ind len ih =>
      cases bs with
      | nil =>
          rw [pieces] at h
          cases cs with
          | nil => rfl
          | cons c cs => cases h
      | cons b rest =>
          rw [pieces] at h
          cases cs with
          | nil => cases h
          | cons c cs =>
              obtain ⟨hhead, htail⟩ := List.cons.inj h
              have hstep : step b rest = (some c, (step b rest).2) := Prod.ext hhead rfl
              have hshorter : (step b rest).2.length < len :=
                hlen ▸ Nat.lt_succ_of_le (length_step b rest)
              rw [step_some hstep, List.flatMap_cons, ← ih _ hshorter htail rfl]

/-- Octets are the text that they are the octets of, and no other octets are text. -/
theorem decode?_eq_some_iff {bs : Bytes} {s : String} : decode? bs = some s ↔ bs = utf8 s := by
  constructor
  · intro h
    rw [decode?, Option.ite_none_right_eq_some, Option.some.injEq] at h
    obtain ⟨hall, rfl⟩ := h
    rw [utf8_eq, String.toList_ofList]
    refine eq_encode_of_pieces ?_
    generalize pieces bs = ps at hall
    induction ps with
    | nil => rfl
    | cons p ps ih =>
        rw [List.all_cons, Bool.and_eq_true] at hall
        obtain ⟨c, rfl⟩ := Option.isSome_iff_exists.mp hall.1
        show _ = some c :: (ps.filterMap id).map some
        rw [← ih hall.2]
  · rintro rfl
    exact decode?_utf8 s

end Utf8

namespace Base64

/-! ## Base64 -/

/-- The characters that stand for six bits, and the padding. -/
def alphabet : List Char :=
  "ABCDEFGHIJKLMNOPQRSTUVWXYZabcdefghijklmnopqrstuvwxyz0123456789+/=".toList

theorem symbol_mem {n : Nat} (h : n < 64) : symbol n ∈ alphabet := by
  revert n
  decide

theorem value?_symbol {n : Nat} (h : n < 64) : value? (symbol n) = some n := by
  revert n
  decide

theorem mem_encodeChars {bs : Bytes} {c : Char} (h : c ∈ encodeChars bs) : c ∈ alphabet := by
  have hpad : '=' ∈ alphabet := by decide
  induction bs using encodeChars.induct with
  | case1 => cases h
  | case2 a =>
      have ha := a.toNat_lt
      simp only [encodeChars, List.mem_cons, List.not_mem_nil, or_false] at h
      rcases h with rfl | rfl | rfl | rfl
      · exact symbol_mem (by omega)
      · exact symbol_mem (by omega)
      · exact hpad
      · exact hpad
  | case3 a b =>
      have ha := a.toNat_lt
      have hb := b.toNat_lt
      simp only [encodeChars, List.mem_cons, List.not_mem_nil, or_false] at h
      rcases h with rfl | rfl | rfl | rfl
      · exact symbol_mem (by omega)
      · exact symbol_mem (by omega)
      · exact symbol_mem (by omega)
      · exact hpad
  | case4 a b d rest ih =>
      have ha := a.toNat_lt
      have hb := b.toNat_lt
      have hd := d.toNat_lt
      simp only [encodeChars, List.mem_cons] at h
      rcases h with rfl | rfl | rfl | rfl | h
      · exact symbol_mem (by omega)
      · exact symbol_mem (by omega)
      · exact symbol_mem (by omega)
      · exact symbol_mem (by omega)
      · exact ih h

theorem symbol_ne_pad {n : Nat} (h : n < 64) : symbol n ≠ '=' := by
  revert n
  decide

theorem head?_encodeChars (bs : Bytes) : (encodeChars bs).head? ≠ some '=' := by
  have hfirst : ∀ {n : Nat}, n < 64 → some (symbol n) ≠ some '=' := fun h heq =>
    symbol_ne_pad h (Option.some.inj heq)
  match bs with
  | [] => exact Option.some_ne_none _ ∘ Eq.symm
  | [a] =>
      have ha := a.toNat_lt
      exact hfirst (by omega)
  | [a, b] =>
      have ha := a.toNat_lt
      have hb := b.toNat_lt
      exact hfirst (by omega)
  | a :: b :: d :: rest =>
      have ha := a.toNat_lt
      have hb := b.toNat_lt
      have hd := d.toNat_lt
      exact hfirst (by omega)

section Groups

variable {w x y z : Nat}

theorem group?_one (hw : w < 64) (hx : x < 64) :
    group? (symbol w) (symbol x) '=' '=' = some [UInt8.ofNat (w * 4 + x / 16)] := by
  simp [group?, value?_symbol hw, value?_symbol hx]

theorem group?_two (hw : w < 64) (hx : x < 64) (hy : y < 64) :
    group? (symbol w) (symbol x) (symbol y) '=' =
      some [UInt8.ofNat (w * 4 + x / 16), UInt8.ofNat (x % 16 * 16 + y / 4)] := by
  simp [group?, value?_symbol hw, value?_symbol hx, value?_symbol hy, symbol_ne_pad hy]

theorem group?_three (hw : w < 64) (hx : x < 64) (hy : y < 64) (hz : z < 64) :
    group? (symbol w) (symbol x) (symbol y) (symbol z) =
      some [UInt8.ofNat (w * 4 + x / 16), UInt8.ofNat (x % 16 * 16 + y / 4),
        UInt8.ofNat (y % 4 * 64 + z)] := by
  simp [group?, value?_symbol hw, value?_symbol hx, value?_symbol hy, value?_symbol hz,
    symbol_ne_pad hy, symbol_ne_pad hz]

end Groups

theorem groups?_encodeChars (bs : Bytes) : groups? (encodeChars bs) = some bs := by
  have hread : ∀ {n : Nat} {b : UInt8}, n = b.toNat → UInt8.ofNat n = b := by
    rintro _ b rfl
    exact UInt8.ofNat_toNat
  induction bs using encodeChars.induct with
  | case1 => rfl
  | case2 a =>
      have ha := a.toNat_lt
      rw [encodeChars, groups?, group?_one (by omega) (by omega), hread (b := a) (by omega)]
      rfl
  | case3 a b =>
      have ha := a.toNat_lt
      have hb := b.toNat_lt
      rw [encodeChars, groups?, group?_two (by omega) (by omega) (by omega),
        hread (b := a) (by omega), hread (b := b) (by omega)]
      rfl
  | case4 a b d rest ih =>
      have ha := a.toNat_lt
      have hb := b.toNat_lt
      have hd := d.toNat_lt
      rw [encodeChars, groups?, group?_three (by omega) (by omega) (by omega) (by omega),
        hread (b := a) (by omega), hread (b := b) (by omega), hread (b := d) (by omega), ih]
      rfl

theorem decode?_encodeChars (bs : Bytes) : decode? (encodeChars bs) = some bs := by
  have hkept : (encodeChars bs).filter (fun c => c ≠ '\r' ∧ c ≠ '\n') = encodeChars bs := by
    refine List.filter_eq_self.mpr fun c hc => ?_
    have hsymbols : ∀ c ∈ alphabet, c ≠ '\r' ∧ c ≠ '\n' :=
      List.all_iff_forall_prop.mp (by decide)
    exact decide_eq_true (hsymbols c (mem_encodeChars hc))
  rw [decode?, hkept, groups?_encodeChars]

end Base64

end MailSync
