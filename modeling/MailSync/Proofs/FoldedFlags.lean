import MailSync.Proofs.Flag
import MailSync.Proofs.Reconciliation

/-!
# Stored flags in another case

The flags of a listing are compared with a stored text up to case. Both sides are
put into their canonical form first, and then the case is given up: so keywords
that differ in case alone are still two, and stand where their letters put them.

The comparison is therefore one of lists (`FlagSet.matchesStored_iff`). Texts that
match have the same words up to case, and a message with other words is never
missed. The converse needs that lower-casing keeps the keywords of a set apart and
in their order (`FlagSet.KeepsOrder`), as it does where they are in lower case
already. `FlagSet.compares_folded` collects what a comparison tells, and
`FlagSet.compares_folded_keywords` is an update of flags that have not changed.
-/

namespace MailSync

/-! ## Texts in lower case -/

theorem Ascii.lower_intercalate (ws : List String) :
    lower (" ".intercalate ws) = " ".intercalate (ws.map lower) := by
  refine String.toList_injective ?_
  rw [lower, String.toList_map, String.toList_intercalate, String.toList_intercalate, List.map_map]
  induction ws with
  | nil => rfl
  | cons w ws ih => cases ws <;> simp_all [lower, String.toList_map]

/-- Neither an upper-case letter nor its lower-case form is blank. -/
theorem isBlank_toLower (c : Char) : isBlank c.toLower = isBlank c := by
  delta Char.toLower
  split
  next hupper =>
    have hfirst : 65 ≤ c.toNat := UInt32.le_iff_toNat_le.mp hupper.1
    have hlast : c.toNat ≤ 90 := UInt32.le_iff_toNat_le.mp hupper.2
    have hnext : (c.val + 32).toNat = c.toNat + 32 := by
      rw [UInt32.toNat_add, Nat.mod_eq_of_lt (by change c.toNat + 32 < _; omega)]
      rfl
    have hcode : ∀ h, (Char.mk (c.val + 32) h).toNat = c.toNat + 32 := fun _ => hnext
    grind [isBlank]
  next => rfl

theorem Blank.IsWord.lower {w : String} (h : IsWord w) : IsWord (Ascii.lower w) := by
  refine ⟨?_, ?_⟩
  · rw [Ascii.lower, ne_eq, String.map_eq_empty]
    exact h.1
  · intro c hc
    rw [Ascii.lower, String.toList_map] at hc
    obtain ⟨d, hd, rfl⟩ := List.mem_map.mp hc
    rw [isBlank_toLower]
    exact h.2 d hd

/-! ## Flags in lower case -/

namespace Flag

/-- The flag with its keyword in lower case. -/
def fold : Flag → Flag
  | keyword t => keyword (Ascii.lower t)
  | f => f

theorem rank_fold (f : Flag) : f.fold.rank = f.rank := by cases f <;> rfl

/-- A system flag is what it is; all keywords are of the last rank. -/
theorem fold_cases (f : Flag) : (f.rank < 6 ∧ f.fold = f) ∨ ∃ t, f = keyword t := by
  cases f with
  | keyword t => exact .inr ⟨t, rfl⟩
  | _ => exact .inl ⟨by decide, rfl⟩

theorem lower_token_fold (f : Flag) : Ascii.lower f.fold.token = Ascii.lower f.token := by
  cases f with
  | keyword t => exact Ascii.lower_lower t
  | _ => rfl

/-- The name of a system flag may be lower-cased. -/
theorem ofToken_lower_of_mem {w : String} (h : Ascii.lower w ∈ systemNames) :
    ofToken (Ascii.lower w) = ofToken w :=
  ofToken_eq_iff.mpr (.inr ⟨by rwa [Ascii.lower_lower], (Ascii.lower_lower w).symm⟩)

/-- A word may be lower-cased before it is read, or after. -/
theorem ofToken_lower (w : String) : ofToken (Ascii.lower w) = (ofToken w).fold := by
  rcases ofToken_cases w with ⟨hsystem, -, hno⟩ | ⟨hnone, hkeyword⟩
  · rw [ofToken_lower_of_mem hsystem]
    cases h : ofToken w with
    | keyword t => exact absurd h (hno t)
    | _ => rfl
  · rw [hkeyword, fold]
    rcases ofToken_cases (Ascii.lower w) with ⟨hsystem, -, -⟩ | ⟨-, hlower⟩
    · rw [Ascii.lower_lower] at hsystem
      exact absurd hsystem hnone
    · exact hlower

theorem IsRead.ofToken_lower_token {f : Flag} (h : f.IsRead) :
    ofToken (Ascii.lower f.token) = f.fold := by
  rw [ofToken_lower, h.ofToken_token]

/-- A word in lower case, and the name of a system flag in any case, are not changed by folding. -/
theorem fold_ofToken {w : String} (h : Ascii.lower w = w ∨ Ascii.lower w ∈ systemNames) :
    (ofToken w).fold = ofToken w := by
  rw [← ofToken_lower]
  rcases h with h | h
  · rw [h]
  · exact ofToken_lower_of_mem h

/-- Flags are in the order of their kinds, and only then of their words. -/
theorem compare_fold {f g : Flag} (hlt : compare f g = .lt)
    (hkeywords : ∀ a b, f = keyword a → g = keyword b →
      compare (Ascii.lower a) (Ascii.lower b) = .lt) : compare f.fold g.fold = .lt := by
  rcases fold_cases f with ⟨hf, hfold⟩ | ⟨a, rfl⟩ <;>
    rcases fold_cases g with ⟨hg, hfold'⟩ | ⟨b, rfl⟩
  · rwa [hfold, hfold']
  · have hrank : compare f.rank (keyword b).rank = .lt := Nat.compare_eq_lt.mpr hf
    rw [compare_def, rank_fold, rank_fold, hrank]
    rfl
  · have hrank : compare (keyword a).rank g.rank = .gt := Nat.compare_eq_gt.mpr hg
    rw [compare_def, hrank] at hlt
    cases hlt
  · exact hkeywords a b rfl rfl

end Flag

/-- Two lists have the same words up to case. -/
def SameUpToCase (ws ws' : List String) : Prop :=
  ∀ w, w ∈ ws.map Ascii.lower ↔ w ∈ ws'.map Ascii.lower

/-- A word is among others in lower case if it is in lower case and its flag is among theirs. -/
theorem mem_map_lower_iff {ws : List String} {w : String} : w ∈ ws.map Ascii.lower ↔
    Ascii.lower w = w ∧ Flag.ofToken w ∈ (ws.map Ascii.lower).map Flag.ofToken := by
  constructor
  · intro h
    obtain ⟨v, hv, rfl⟩ := List.mem_map.mp h
    exact ⟨Ascii.lower_lower v, List.mem_map_of_mem h⟩
  · rintro ⟨hw, h⟩
    obtain ⟨v', hv', hflag⟩ := List.mem_map.mp h
    obtain ⟨v, -, rfl⟩ := List.mem_map.mp hv'
    rcases Flag.ofToken_eq_iff.mp hflag with rfl | ⟨-, hlower⟩
    · exact hv'
    · rw [hw, Ascii.lower_lower] at hlower
      rwa [hlower]

namespace FlagSet

variable {flags flags' : FlagSet}

/-- The flags in lower case, each where it stands. -/
def folded (flags : FlagSet) : List Flag := flags.toList.map Flag.fold

/-- Lower-casing keeps the keywords of a set apart, and in their order. -/
def KeepsOrder (flags : FlagSet) : Prop :=
  ∀ a b, Flag.keyword a ∈ flags → Flag.keyword b ∈ flags → compare a b = .lt →
    compare (Ascii.lower a) (Ascii.lower b) = .lt

/-- In a set that keeps its order, the flags in lower case are in order. -/
theorem keepsOrder_iff :
    KeepsOrder flags ↔ flags.folded.Pairwise (fun f g => compare f g = .lt) := by
  rw [folded, List.pairwise_map]
  constructor
  · intro h
    refine flags.ascending.imp_of_mem fun {f g} hf hg hlt => Flag.compare_fold hlt ?_
    rintro a b rfl rfl
    exact h a b hf hg hlt
  · intro h a b ha hb hlt
    -- the smaller keyword stands before the greater one, and the list in lower case has both there
    obtain ⟨i, hi, ha⟩ := List.mem_iff_getElem.mp ha
    obtain ⟨j, hj, hb⟩ := List.mem_iff_getElem.mp hb
    have hcompare : compare flags.toList[i] flags.toList[j] = .lt := by rwa [ha, hb]
    have hij : i < j := by
      refine Nat.lt_of_not_le fun hle => ?_
      rcases Nat.eq_or_lt_of_le hle with rfl | hji
      · simp [Std.ReflCmp.compare_self] at hcompare
      · have hback := List.pairwise_iff_getElem.mp flags.ascending j i hj hi hji
        exact Std.OrientedCmp.not_lt_of_lt hcompare hback
    have hfold := List.pairwise_iff_getElem.mp h i j hi hj hij
    rwa [ha, hb] at hfold

/-- A set whose keywords are in lower case keeps its order. -/
theorem keepsOrder_of_fold (h : ∀ f ∈ flags, f.fold = f) : KeepsOrder flags := by
  rw [keepsOrder_iff, folded, List.map_congr_left h, List.map_id']
  exact flags.ascending

/-- The text of a set in lower case is made of the flags in lower case. -/
theorem lower_text (flags : FlagSet) :
    Ascii.lower (text flags) = " ".intercalate (flags.folded.map (Ascii.lower ·.token)) := by
  rw [text, Ascii.lower_intercalate, folded, List.map_map, List.map_map]
  congr 1
  exact List.map_congr_left fun f _ => f.lower_token_fold.symm

theorem ofToken_words_lower_text (h : ∀ f ∈ flags, f.IsRead) :
    (Blank.words (Ascii.lower (text flags))).map Flag.ofToken = flags.folded := by
  rw [text, Ascii.lower_intercalate, List.map_map, Blank.words_intercalate, List.map_map, folded]
  · exact List.map_congr_left fun f hf => (h f hf).ofToken_lower_token
  · intro w hw
    obtain ⟨f, hf, rfl⟩ := List.mem_map.mp hw
    exact (h f hf).isWord_token.lower

/-- Flags are compared with a text one by one, in lower case. -/
theorem matchesStored_iff {t : String} (h : ∀ f ∈ flags, f.IsRead) :
    matchesStored flags t = true ↔ flags.folded = (ofText t).folded := by
  rw [matchesStored, Ascii.eqIgnoreCase, decide_eq_true_eq]
  constructor
  · -- the lists are read back from the two texts in lower case
    intro htext
    rw [← ofToken_words_lower_text h, ← htext,
      ofToken_words_lower_text fun f => isRead_of_mem_ofText]
  · intro hfolded
    rw [lower_text, lower_text, hfolded]

theorem mem_folded_ofText {s : String} {f : Flag} :
    f ∈ (ofText s).folded ↔ f ∈ ((Blank.words s).map Ascii.lower).map Flag.ofToken := by
  have hread : f ∈ (ofText s).folded ↔ f ∈ ((Blank.words s).map Flag.ofToken).map Flag.fold := by
    rw [folded, List.mem_map, List.mem_map]
    exact exists_congr fun g => and_congr_left fun _ => OrderedSet.mem_ofList
  have hfold : Flag.fold ∘ Flag.ofToken = Flag.ofToken ∘ Ascii.lower :=
    funext fun w => (Flag.ofToken_lower w).symm
  rw [hread, List.map_map, List.map_map, hfold]

theorem sameUpToCase_iff {s t : String} : SameUpToCase (Blank.words s) (Blank.words t) ↔
    ∀ f, f ∈ (ofText s).folded ↔ f ∈ (ofText t).folded := by
  constructor
  · intro h f
    rw [mem_folded_ofText, mem_folded_ofText, List.mem_map, List.mem_map]
    exact exists_congr fun w => and_congr_left fun _ => h w
  · intro h w
    rw [mem_map_lower_iff, mem_map_lower_iff, ← mem_folded_ofText, ← mem_folded_ofText, h]

/-- Where one set keeps its order, only another one that does has the same list of flags. -/
theorem folded_eq_iff (h : KeepsOrder flags) : flags.folded = flags'.folded ↔
    (∀ f, f ∈ flags.folded ↔ f ∈ flags'.folded) ∧ KeepsOrder flags' := by
  rw [keepsOrder_iff] at h ⊢
  constructor
  · intro heq
    exact ⟨fun f => by rw [heq], heq ▸ h⟩
  · rintro ⟨hsame, h'⟩
    exact congrArg OrderedSet.toList (OrderedSet.ext hsame : OrderedSet.mk _ h = OrderedSet.mk _ h')

/-! ## What a comparison tells -/

/-- What is found out by comparing the flags of `s`, a text of the words `ws`, with the stored text
`t` of the words `wt`. -/
structure ComparesFolded (s t : String) (ws wt : List String) : Prop where
  /-- The flags match if, in lower case, they are the same one by one. -/
  listed : matchesStored (ofText s) t = true ↔ (ofText s).folded = (ofText t).folded
  /-- They match only if the words are the same up to case. -/
  same : matchesStored (ofText s) t = true → SameUpToCase ws wt
  /-- Flags that keep their order match the same words up to case, if these keep theirs. -/
  ordered : KeepsOrder (ofText s) →
    (matchesStored (ofText s) t = true ↔ SameUpToCase ws wt ∧ KeepsOrder (ofText t))
  /-- With all keywords in lower case, nothing else counts. -/
  lowerCase : (∀ w ∈ ws ++ wt, Ascii.lower w = w ∨ Ascii.lower w ∈ Flag.systemNames) →
    (matchesStored (ofText s) t = true ↔ SameUpToCase ws wt)
  /-- A message with the flags of `s` is to be updated exactly if its flags, in lower case, are not
  one by one the ones that are stored for it. -/
  update : ∀ (cached : Snapshot) (remote : List RemoteMessage), ∀ m ∈ remote, ∀ uid stored,
    m.flags = ofText s → m.uid = some uid → cached.get? uid = some stored → stored.getD "" = t →
      (m ∈ Reconciliation.toUpdate cached remote ↔ (ofText s).folded ≠ (ofText t).folded)

theorem compares_folded {s t : String} {ws wt : List String} (hs : Blank.Spaced ws s.toList)
    (ht : Blank.Spaced wt t.toList) : ComparesFolded s t ws wt := by
  obtain rfl := Blank.words_eq_iff.mpr hs
  obtain rfl := Blank.words_eq_iff.mpr ht
  have hlisted : matchesStored (ofText s) t = true ↔ (ofText s).folded = (ofText t).folded :=
    matchesStored_iff fun f => isRead_of_mem_ofText
  have hordered (h : KeepsOrder (ofText s)) : matchesStored (ofText s) t = true ↔
      SameUpToCase (Blank.words s) (Blank.words t) ∧ KeepsOrder (ofText t) := by
    rw [hlisted, folded_eq_iff h, sameUpToCase_iff]
  constructor
  case listed => exact hlisted
  case same =>
    intro hmatch
    rw [sameUpToCase_iff, hlisted.mp hmatch]
    exact fun f => Iff.rfl
  case ordered => exact hordered
  case lowerCase =>
    -- neither text has a flag that folding changes, so both sets keep their order
    intro hwords
    have hkeeps : ∀ u, (∀ w ∈ Blank.words u, w ∈ Blank.words s ++ Blank.words t) →
        KeepsOrder (ofText u) := by
      intro u hu
      refine keepsOrder_of_fold fun f hf => ?_
      rw [ofText, OrderedSet.mem_ofList] at hf
      obtain ⟨w, hw, rfl⟩ := List.mem_map.mp hf
      exact Flag.fold_ofToken (hwords w (hu w hw))
    rw [hordered (hkeeps s fun w => List.mem_append_left _)]
    exact and_iff_left (hkeeps t fun w => List.mem_append_right _)
  case update =>
    rintro cached remote m hm uid stored hflags huid hcached rfl
    rw [Reconciliation.mem_toUpdate_iff_of_get? huid hcached, ne_eq, ← hlisted, Bool.not_eq_true,
      ← hflags]
    exact and_iff_right hm

/-- Two keywords change places when they are lower-cased, so that a message is to be updated
although its flags differ from the stored ones in case only. -/
theorem compares_folded_keywords :
    let m : RemoteMessage := ⟨some 1, ofText "$B $a", .empty, none⟩
    let cached : Snapshot := OrderedMap.ofList [(1, some "$b $a")]
    SameUpToCase ["$B", "$a"] ["$b", "$a"] ∧ matchesStored (ofText "$B $a") "$b $a" = false ∧
      m ∈ Reconciliation.toUpdate cached [m] := by
  intro m cached
  have hs : Blank.Spaced ["$B", "$a"] "$B $a".toList := Blank.words_eq_iff.mp (by decide +kernel)
  have ht : Blank.Spaced ["$b", "$a"] "$b $a".toList := Blank.words_eq_iff.mp (by decide +kernel)
  have hcompares := compares_folded hs ht
  have hstale : matchesStored (ofText "$B $a") "$b $a" = false := by decide +kernel
  have hfolded : (ofText "$B $a").folded ≠ (ofText "$b $a").folded := fun heq =>
    Bool.eq_false_iff.mp hstale (hcompares.listed.mpr heq)
  refine ⟨?_, hstale, ?_⟩
  · have hlower : ["$B", "$a"].map Ascii.lower = ["$b", "$a"] := by decide +kernel
    have hlower' : ["$b", "$a"].map Ascii.lower = ["$b", "$a"] := by decide +kernel
    rw [SameUpToCase, hlower, hlower']
    exact fun w => Iff.rfl
  · exact (hcompares.update cached [m] m (List.mem_singleton_self m) 1 (some "$b $a") rfl
      rfl (by decide +kernel) rfl).mpr hfolded

end FlagSet

end MailSync
