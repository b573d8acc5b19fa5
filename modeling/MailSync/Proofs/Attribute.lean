import MailSync.Imap.Mailbox
import MailSync.Imap.Response
import Mathlib.Data.Bool.AllAny

/-!
# The names of attributes

A folder keeps an attribute that is not known by the text the server sent,
which is read back from an escaped description of it. The text survives that
exactly if none of its characters but the backslash has an escaped form
(`FolderAttribute.name_extended_eq_iff`), as in printable ASCII without
quotation marks (`FolderAttribute.Plain`). A known attribute is kept by its
name, so the case of its letters may change
(`FolderAttribute.lower_name_ofWire`); what a folder is for and whether it
holds messages does not depend on that (`Folder.accords_of_lower`).
-/

namespace MailSync

/-! ## Escaped characters -/

namespace Escaped

theorem backslash_not_mem_hex (n : Nat) : '\\' ∉ hex n := by
  have hdigit : ∀ d : Nat, '\\' ≠ d.digitChar := fun d => (Nat.digitChar_ne '\\' rfl).symm
  rw [hex]
  induction n using Nat.strongRecOn with
  | ind n ih =>
      by_cases hn : n < 16
      · rw [Nat.toDigits_of_lt_base hn, List.mem_singleton]
        exact hdigit n
      · rw [Nat.toDigits_of_base_le (by decide) (Nat.not_lt.mp hn), List.mem_append,
          List.mem_singleton, not_or]
        exact ⟨ih (n / 16) (by omega), hdigit _⟩

/-- A character is its own escaped form, or that form is a backslash and more, without another
backslash. -/
theorem char_cases {c : Char} (hc : c ≠ '\\') :
    char c = [c] ∨ ∃ d cs, char c = '\\' :: d :: cs ∧ '\\' ∉ d :: cs := by
  fun_cases char c
  case case2 => exact absurd rfl hc
  case case7 =>
    refine .inr ⟨'u', '\x7b' :: (hex c.toNat ++ ['\x7d']), rfl, ?_⟩
    simp [backslash_not_mem_hex]
  case case8 => exact .inl rfl
  all_goals exact .inr ⟨_, [], rfl, by decide⟩

/-- Printable ASCII has no escaped form, quotation marks and backslashes apart. -/
theorem char_printable {c : Char} (hlow : ' ' ≤ c) (hhigh : c ≤ '~') (hquote : c ≠ '"')
    (hbackslash : c ≠ '\\') : char c = [c] := by
  have hranges : ∀ r ∈ hiddenRanges, 0x80 ≤ r.1 := List.all_iff_forall_prop.mp (by decide +kernel)
  have hascii : c.toNat ≤ 0x7E := hhigh
  have hvisible : inCodeRanges hiddenRanges c = false := by
    rw [Bool.eq_false_iff, Ne, inCodeRanges_iff]
    rintro ⟨r, hr, hle, -⟩
    have := hranges r hr
    omega
  have hcontrol : ∀ {d : Char}, d < ' ' → c ≠ d := by
    rintro d hd rfl
    exact absurd hlow (Char.not_le.mpr hd)
  have hdelete : c ≠ '\x7f' := by
    rintro rfl
    exact absurd hhigh (by decide)
  rw [char, hvisible]
  · simp [hlow, hdelete]
  · exact hquote
  · exact hbackslash
  all_goals exact hcontrol (by decide)

end Escaped

namespace FolderAttribute

/-! ## Texts that are kept -/

theorem mergeBackslashes_cons {c : Char} {rest : List Char}
    (h : c = '\\' → rest.head? ≠ some '\\') :
    mergeBackslashes (c :: rest) = c :: mergeBackslashes rest := by
  rw [mergeBackslashes]
  rintro rest' hc rfl
  exact h hc rfl

theorem mergeBackslashes_append {cs : List Char} (h : '\\' ∉ cs) (rest : List Char) :
    mergeBackslashes (cs ++ rest) = cs ++ mergeBackslashes rest := by
  induction cs with
  | nil => rfl
  | cons c cs ih =>
      rw [List.mem_cons, not_or] at h
      rw [List.cons_append, mergeBackslashes_cons fun hc => absurd hc.symm h.1, ih h.2,
        List.cons_append]

/-- What is kept of a character: its escaped form, the two backslashes of a backslash being one
again. -/
def kept (c : Char) : List Char := if c = '\\' then [c] else Escaped.char c

theorem mergeBackslashes_char (c : Char) (rest : List Char) :
    mergeBackslashes (Escaped.char c ++ rest) = kept c ++ mergeBackslashes rest := by
  rw [kept]
  split
  next hc =>
    subst hc
    rfl
  next hc =>
    rcases Escaped.char_cases hc with hself | ⟨d, cs, hescaped, hnone⟩
    · rw [hself]
      exact mergeBackslashes_cons fun h => absurd h hc
    · have hd : d ≠ '\\' := fun h => hnone (h ▸ List.mem_cons_self)
      have hpair : mergeBackslashes ('\\' :: (d :: cs ++ rest)) =
          '\\' :: mergeBackslashes (d :: cs ++ rest) :=
        mergeBackslashes_cons fun _ h => hd (Option.some.inj h)
      rw [hescaped, List.cons_append, hpair, mergeBackslashes_append hnone]
      rfl

/-- What stands between a start and an end is found again. -/
theorem between?_append (start stop cs : List Char) :
    between? start stop (start ++ cs ++ stop) = some cs := by
  rw [between?, List.append_assoc, if_pos (List.isPrefixOf_iff_prefix.mpr (List.prefix_append _ _)),
    List.drop_left]
  simp

theorem description_extended (s : String) : (extended s).description =
    "Extension(\"".toList ++ Escaped.body s ++ "\")".toList := by
  have hstart : "Extension(\"".toList = "Extension(".toList ++ "\"".toList := by decide +kernel
  have hstop : "\")".toList = "\"".toList ++ [')'] := by decide +kernel
  have hquote : (Escaped.quote s).toList = "\"".toList ++ Escaped.body s ++ "\"".toList := by
    simp [Escaped.quote]
  rw [hstart, hstop]
  calc (extended s).description
      = "Extension(".toList ++ (Escaped.quote s).toList ++ [')'] := rfl
    _ = _ := by simp only [hquote, List.append_assoc]

theorem name_extended (s : String) :
    (extended s).name = String.ofList (s.toList.flatMap kept) := by
  have hmerged : ∀ cs : List Char,
      mergeBackslashes (cs.flatMap Escaped.char) = cs.flatMap kept := by
    intro cs
    induction cs with
    | nil => rfl
    | cons c cs ih => rw [List.flatMap_cons, mergeBackslashes_char, ih, List.flatMap_cons]
  rw [name, description_extended, between?_append]
  show String.ofList (mergeBackslashes (s.toList.flatMap Escaped.char)) = _
  rw [hmerged]

theorem kept_ne_nil (c : Char) : kept c ≠ [] := by
  rw [kept]
  split
  next => exact List.cons_ne_nil _ _
  next hc =>
    rcases Escaped.char_cases hc with h | ⟨d, cs, h, -⟩
    · exact h ▸ List.cons_ne_nil _ _
    · exact h ▸ List.cons_ne_nil _ _

theorem length_le_flatMap_kept (cs : List Char) : cs.length ≤ (cs.flatMap kept).length := by
  induction cs with
  | nil => exact Nat.le_refl 0
  | cons c cs ih =>
      have hc := List.length_pos_iff.mpr (kept_ne_nil c)
      rw [List.flatMap_cons, List.length_append, List.length_cons]
      omega

theorem flatMap_kept_eq_self_iff {cs : List Char} :
    cs.flatMap kept = cs ↔ ∀ c ∈ cs, kept c = [c] := by
  induction cs with
  | nil => simp
  | cons c cs ih =>
      rw [List.flatMap_cons, List.forall_mem_cons, ← ih]
      constructor
      · intro h
        -- something is kept of every character, so by the lengths only one is kept of this one
        have hlength := congrArg List.length h
        have hrest := length_le_flatMap_kept cs
        have hc := List.length_pos_iff.mpr (kept_ne_nil c)
        rw [List.length_append, List.length_cons] at hlength
        exact List.append_inj h (by rw [List.length_singleton]; omega)
      · rintro ⟨hc, hcs⟩
        rw [hc, hcs, List.singleton_append]

/-- Which texts are kept as they are. -/
theorem name_extended_eq_iff {s : String} :
    (extended s).name = s ↔ ∀ c ∈ s.toList, c = '\\' ∨ Escaped.char c = [c] := by
  have hkept : ∀ c, kept c = [c] ↔ c = '\\' ∨ Escaped.char c = [c] := by
    intro c
    rw [kept]
    split
    next hc => simp [hc]
    next hc => simp [hc]
  rw [name_extended, ← String.toList_inj, String.toList_ofList, flatMap_kept_eq_self_iff]
  simp only [hkept]

-- a quotation mark is kept with the backslash of its escaped form
example : (extended "\\A\"").name = "\\A\\\"" := by decide +kernel

/-- Printable ASCII without quotation marks. -/
def Plain (s : String) : Prop := ∀ c ∈ s.toList, ' ' ≤ c ∧ c ≤ '~' ∧ c ≠ '"'

instance (s : String) : Decidable (Plain s) :=
  decidable_of_iff (s.toList.all fun c => ' ' ≤ c ∧ c ≤ '~' ∧ c ≠ '"') (by simp [Plain])

theorem Plain.name_extended {s : String} (h : Plain s) : (extended s).name = s := by
  refine name_extended_eq_iff.mpr fun c hc => ?_
  obtain ⟨hlow, hhigh, hquote⟩ := h c hc
  by_cases hbackslash : c = '\\'
  · exact .inl hbackslash
  · exact .inr (Escaped.char_printable hlow hhigh hquote hbackslash)

/-! ## Names up to case -/

theorem name_of_known {a : FolderAttribute} {name : String} (h : (a, name) ∈ known) :
    a.name = "\\" ++ name := by
  have hknown : ∀ p ∈ known, p.1.name = "\\" ++ p.2 :=
    List.all_iff_forall_prop.mp (by decide +kernel)
  exact hknown _ h

/-- An attribute is kept by the text that was sent, up to case. -/
theorem lower_name_ofWire {s : String} (h : Plain s) :
    Ascii.lower (ofWire s).name = Ascii.lower s := by
  rw [ofWire]
  split
  next a name hfound =>
    have hcase := List.find?_some hfound
    have hsame : Ascii.lower ("\\" ++ name) = Ascii.lower s := of_decide_eq_true hcase
    rw [name_of_known (List.mem_of_find?_eq_some hfound), hsame]
  next => rw [h.name_extended]

end FolderAttribute

/-! ## Folders -/

theorem Ascii.eqIgnoreCase_congr {s t : String} (h : lower s = lower t) (name : String) :
    eqIgnoreCase s name = eqIgnoreCase t name := by
  rw [eqIgnoreCase, h, eqIgnoreCase]

theorem Ascii.toLower_eq_backslash_iff {c : Char} : c.toLower = '\\' ↔ c = '\\' := by
  constructor
  · intro h
    unfold Char.toLower at h
    split at h
    next hupper =>
      have hsum : c.val + ('a'.val - 'A'.val) = 92 := congrArg Char.val h
      grind
    next => exact h
  · rintro rfl
    rfl

/-- The role that an attribute names does not depend on the case of its letters. -/
theorem FolderRole.ofAttribute?_congr {s t : String} (h : Ascii.lower s = Ascii.lower t) :
    ofAttribute? s = ofAttribute? t := by
  have hdrop : ∀ s : String, Ascii.lower (String.ofList (s.toList.dropWhile (· = '\\'))) =
      String.ofList ((Ascii.lower s).toList.dropWhile (· = '\\')) := by
    intro s
    apply String.toList_injective
    simp [Ascii.lower, String.toList_map, List.dropWhile_map, Function.comp_def,
      Ascii.toLower_eq_backslash_iff]
  rw [ofAttribute?, hdrop, h, ← hdrop, ofAttribute?]

namespace Folder

variable {f g : Folder}

theorem role_congr (hname : f.fullName = g.fullName)
    (h : f.attributes.map Ascii.lower = g.attributes.map Ascii.lower) : f.role = g.role := by
  have hlower : ∀ attributes : List String, attributes.findSome? FolderRole.ofAttribute? =
      (attributes.map Ascii.lower).findSome? FolderRole.ofAttribute? := by
    intro attributes
    rw [List.findSome?_map]
    congr 1
    funext s
    exact FolderRole.ofAttribute?_congr (Ascii.lower_lower s).symm
  rw [role, hlower, h, hname, ← hlower, role]

theorem isSelectable_congr
    (h : f.attributes.map Ascii.lower = g.attributes.map Ascii.lower) :
    f.isSelectable = g.isSelectable := by
  have hcase := fun s => Ascii.eqIgnoreCase_congr (Ascii.lower_lower s)
  have hlower : ∀ attributes : List String,
      (attributes.any fun a =>
        Ascii.eqIgnoreCase a "\\Noselect" || Ascii.eqIgnoreCase a "\\NonExistent") =
      (attributes.map Ascii.lower).any fun a =>
        Ascii.eqIgnoreCase a "\\Noselect" || Ascii.eqIgnoreCase a "\\NonExistent" := by
    intro attributes
    rw [List.any_map]
    congr 1
    funext s
    rw [Function.comp_apply, hcase, hcase]
  rw [isSelectable, hlower, h, ← hlower, isSelectable]

/-- A folder that is for the same as with these attributes, and holds messages if it would with
them. -/
structure Accords (f : Folder) (attributes : List String) : Prop where
  role : f.role = { f with attributes }.role
  isSelectable : f.isSelectable = { f with attributes }.isSelectable

theorem accords_of_lower {attributes : List String}
    (h : f.attributes.map Ascii.lower = attributes.map Ascii.lower) : f.Accords attributes :=
  ⟨role_congr rfl h, isSelectable_congr h⟩

end Folder

/-- A listed folder accords with the attributes that were sent for it. -/
theorem ListEntry.folder_accords {e : ListEntry} {sent : List String}
    (hsent : ∀ s ∈ sent, FolderAttribute.Plain s) (h : e.attributes = sent.map .ofWire) :
    e.folder.Accords sent := by
  refine Folder.accords_of_lower ?_
  show (e.attributes.map (·.name)).map Ascii.lower = _
  rw [h, List.map_map, List.map_map]
  exact List.map_congr_left fun s hs => FolderAttribute.lower_name_ofWire (hsent s hs)

end MailSync
