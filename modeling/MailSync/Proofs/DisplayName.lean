import MailSync.Proofs.EncodedWord
import MailSync.Proofs.Recipients

/-!
# Names that hold address syntax

The names in an address header are decoded before the header is read as a
list of addresses, so the text of a name is read as part of the list. A name
is harmless exactly if it leaves the reader where an address in brackets may
follow, with nothing filed (`AddressReader.Quiet`). What a list comes to is
proved along the reader: it goes on after any list of addresses as it does
from the start (`Resumes.step`), and so each item with a quiet name adds its
address and nothing else.
-/

namespace MailSync

open SubmissionEnvelope (addressesOf)

/-! ## The reader goes on as from the start -/

/-- States that differ in a name only. -/
inductive AddressState.Same : AddressState → AddressState → Prop where
  | start : Same .start .start
  | opened : Same .opened .opened
  | quoted (name name' : List Char) : Same (.quoted name) (.quoted name')
  | escaped (name name' : List Char) : Same (.escaped name) (.escaped name')
  | afterQuoted (name name' : List Char) : Same (.afterQuoted name) (.afterQuoted name')
  | bracketed (name name' : Option (List Char)) (address : List Char) :
      Same (.bracketed name address) (.bracketed name' address)
  | afterBracketed : Same .afterBracketed .afterBracketed
  | plain (text : List Char) : Same (.plain text) (.plain text)
  | comment (text : List Char) : Same (.comment text) (.comment text)
  | trailer : Same .trailer .trailer

namespace AddressState.Same

theorem refl (s : AddressState) : s.Same s := by
  cases s <;> constructor

theorem bracketed_iff {s s' : AddressState} {text : List Char} (h : s.Same s') :
    (∃ label, s = .bracketed label text) ↔ ∃ label, s' = .bracketed label text := by
  cases h <;> simp

end AddressState.Same

namespace AddressReader

/-- Reads some characters. -/
def read (r : AddressReader) (cs : List Char) : Option AddressReader := cs.foldlM step r

/-- The addresses of the group being read. -/
def members (r : AddressReader) : Option (List String) :=
  r.group.map fun g => g.members.map (·.address)

/-- `r'` stands where `r` does but for names, and has filed these addresses before. -/
structure Resumes (found : List String) (r r' : AddressReader) : Prop where
  entries : addressesOf r'.entries = found ++ addressesOf r.entries
  members : r.members = r'.members
  state : r.state.Same r'.state

variable {found : List String} {r r' : AddressReader}

theorem addressesOf_concat (entries : List AddressEntry) (entry : AddressEntry) :
    addressesOf (entries ++ [entry]) =
      addressesOf entries ++ entry.addresses.map (·.address) := by
  simp [addressesOf]

namespace Resumes

theorem goTo (h : Resumes found r r') {state state' : AddressState} (hstate : state.Same state')
    (blanks blanks' : List Char) : Resumes found { r with blanks := blanks, state := state }
      { r' with blanks := blanks', state := state' } :=
  ⟨h.entries, h.members, hstate⟩

/-- Groups are open in both or in neither. -/
theorem cases_group (h : Resumes found r r') : (r.group = none ∧ r'.group = none) ∨
    ∃ g g' : OpenGroup, r.group = some g ∧ r'.group = some g' ∧
      g.members.map (·.address) = g'.members.map (·.address) := by
  have hmembers := h.members
  rw [AddressReader.members, AddressReader.members] at hmembers
  cases hr : r.group with
  | none =>
      rw [hr] at hmembers
      exact .inl ⟨rfl, Option.map_eq_none_iff.mp hmembers.symm⟩
  | some g =>
      rw [hr] at hmembers
      obtain ⟨g', hr', hsame⟩ := Option.map_eq_some_iff.mp hmembers.symm
      exact .inr ⟨g, g', rfl, hr', hsame.symm⟩

theorem file (h : Resumes found r r') (name name' : Option (List Char)) (address : List Char)
    (next : AddressState) :
    Option.Rel (Resumes found) (r.file name address next) (r'.file name' address next) := by
  rw [AddressReader.file, AddressReader.file]
  split
  next =>
    rcases h.cases_group with ⟨hr, hr'⟩ | ⟨g, g', hr, hr', hsame⟩
    · rw [hr, hr']
      refine .some ⟨?_, rfl, .refl next⟩
      rw [addressesOf_concat, addressesOf_concat, h.entries, List.append_assoc]
      rfl
    · rw [hr, hr']
      refine .some ⟨h.entries, ?_, .refl next⟩
      simp [AddressReader.members, hsame]
  next => exact .none

theorem openGroup (h : Resumes found r r') (name name' : List Char) :
    Option.Rel (Resumes found) (r.openGroup name) (r'.openGroup name') := by
  rw [AddressReader.openGroup, AddressReader.openGroup]
  rcases h.cases_group with ⟨hr, hr'⟩ | ⟨g, g', hr, hr', hsame⟩
  · rw [hr, hr']
    exact .some ⟨h.entries, rfl, .refl _⟩
  · rw [hr, hr']
    exact .none

theorem semicolon (h : Resumes found r r') : Resumes found r.semicolon r'.semicolon := by
  rw [AddressReader.semicolon, AddressReader.semicolon]
  rcases h.cases_group with ⟨hr, hr'⟩ | ⟨g, g', hr, hr', hsame⟩
  · rw [hr, hr']
    exact ⟨h.entries, rfl, .refl _⟩
  · rw [hr, hr']
    refine ⟨?_, rfl, .refl _⟩
    rw [addressesOf_concat, addressesOf_concat, h.entries, List.append_assoc]
    exact congrArg (fun members => found ++ (addressesOf r.entries ++ members)) hsame.symm

theorem startItem (h : Resumes found r r') (c : Char) :
    Option.Rel (Resumes found) (r.startItem c) (r'.startItem c) := by
  delta AddressReader.startItem
  split
  next => exact .some (h.goTo (.refl _) _ _)
  next =>
    split
    · exact .some (h.goTo (.refl _) _ _)
    · exact .some (h.goTo (.refl _) _ _)
    · rcases h.cases_group with ⟨hr, hr'⟩ | ⟨g, g', hr, hr', -⟩
      · rw [hr, hr']
        exact .none
      · rw [hr, hr']
        exact .some h.semicolon
    · exact .some (h.goTo (.refl _) _ _)

theorem map_semicolon {o o' : Option AddressReader} (h : Option.Rel (Resumes found) o o') :
    Option.Rel (Resumes found) (o.map AddressReader.semicolon)
      (o'.map AddressReader.semicolon) := by
  cases h with
  | none => exact .none
  | some h => exact .some h.semicolon

/-- One character is read alike. -/
theorem step (h : Resumes found r r') (c : Char) :
    Option.Rel (Resumes found) (r.step c) (r'.step c) := by
  obtain ⟨entries, group, blanks, state⟩ := r
  obtain ⟨entries', group', blanks', state'⟩ := r'
  have hstate := h.state
  dsimp only at hstate
  delta AddressReader.step
  cases hstate with
  | start | opened => exact h.startItem c
  | quoted name name' =>
      dsimp only
      split
      · exact .some (h.goTo (.escaped _ _) _ _)
      · exact .some (h.goTo (.afterQuoted _ _) _ _)
      · exact .some (h.goTo (.quoted _ _) _ _)
  | escaped name name' => exact .some (h.goTo (.quoted _ _) _ _)
  | afterQuoted name name' =>
      dsimp only
      split
      next => exact .some (h.goTo (.afterQuoted _ _) _ _)
      next =>
        split
        · exact .some (h.goTo (.bracketed _ _ _) _ _)
        · exact h.openGroup _ _
        · exact .some (h.goTo (.quoted _ _) _ _)
        · exact .some (h.goTo (.afterQuoted _ _) _ _)
  | bracketed name name' address =>
      dsimp only
      split
      · exact h.file _ _ _ _
      · exact .some (h.goTo (.bracketed _ _ _) _ _)
  | afterBracketed =>
      dsimp only
      split
      next => exact .some h
      next =>
        split
        · exact .some (h.goTo .start _ _)
        · exact .some h.semicolon
        · exact .some (h.goTo .trailer _ _)
        · exact .none
  | plain text =>
      dsimp only
      split
      · exact .some (h.goTo (.bracketed _ _ _) _ _)
      · exact h.file _ _ _ _
      · exact map_semicolon (h.file _ _ _ _)
      · exact h.openGroup _ _
      · exact .some (h.goTo (.comment _) _ _)
      · exact .some (h.goTo (.plain _) _ _)
  | comment text =>
      dsimp only
      split
      · exact .some (h.goTo (.plain _) _ _)
      · exact .some h
  | trailer =>
      dsimp only
      split
      · exact .some (h.goTo .afterBracketed _ _)
      · exact .some h

theorem read (h : Resumes found r r') (cs : List Char) :
    Option.Rel (Resumes found) (r.read cs) (r'.read cs) := by
  induction cs generalizing r r' with
  | nil => exact .some h
  | cons c cs ih =>
      have hstep := h.step c
      rw [AddressReader.read, AddressReader.read, List.foldlM_cons, List.foldlM_cons]
      generalize r.step c = o, r'.step c = o' at hstep
      cases hstep with
      | none => exact .none
      | some hs => exact ih hs

theorem exists_right {s : AddressReader} {cs : List Char} (h : Resumes found r r')
    (hread : r.read cs = some s) : ∃ s', r'.read cs = some s' ∧ Resumes found s s' := by
  have hrel := h.read cs
  rw [hread] at hrel
  generalize r'.read cs = o' at hrel
  cases hrel with
  | some hs => exact ⟨_, rfl, hs⟩

theorem exists_left {s' : AddressReader} {cs : List Char} (h : Resumes found r r')
    (hread : r'.read cs = some s') : ∃ s, r.read cs = some s ∧ Resumes found s s' := by
  have hrel := h.read cs
  rw [hread] at hrel
  generalize r.read cs = o at hrel
  cases hrel with
  | some hs => exact ⟨_, rfl, hs⟩

end Resumes

/-! ## Reading an item -/

theorem read_append (r : AddressReader) (cs cs' : List Char) :
    r.read (cs ++ cs') = (r.read cs).bind (·.read cs') := List.foldlM_append

theorem read_cons (r : AddressReader) (c : Char) (cs : List Char) :
    r.read (c :: cs) = (r.step c).bind (·.read cs) := List.foldlM_cons

theorem read_concat (r : AddressReader) (cs : List Char) (c : Char) :
    r.read (cs ++ [c]) = (r.read cs).bind (·.step c) := by
  rw [read_append]
  exact congrArg _ (funext fun s => Option.bind_fun_some (s.step c))

/-- What each of these characters preserves holds after all of them. -/
theorem read_preserves {P : AddressReader → Prop} {good : Char → Prop}
    (hstep : ∀ r c, P r → good c → ∃ r', r.step c = some r' ∧ P r') (cs : List Char) (h : P r)
    (hcs : ∀ c ∈ cs, good c) : ∃ r', r.read cs = some r' ∧ P r' := by
  induction cs generalizing r with
  | nil => exact ⟨r, rfl, h⟩
  | cons c cs ih =>
      rw [List.forall_mem_cons] at hcs
      obtain ⟨s, hs, hp⟩ := hstep r c h hcs.1
      rw [read_cons, hs]
      exact ih hp hcs.2

/-- A reader in this state, with these addresses filed and no group open. -/
structure Stands (found : List String) (state : AddressState) (r : AddressReader) : Prop where
  entries : addressesOf r.entries = found
  group : r.group = none
  state : r.state = state

theorem Stands.resumes (h : Stands found .start r) : Resumes found begin r := by
  refine ⟨?_, ?_, ?_⟩
  · rw [h.entries]
    exact (List.append_nil found).symm
  · rw [members, members, h.group]
    rfl
  · rw [h.state]
    exact .start

theorem read_bracketed {label : Option (List Char)} {text address : List Char}
    (hstate : r.state = .bracketed label text) (hclosed : '>' ∉ address) :
    r.read address = some { r with state := .bracketed label (text ++ address) } := by
  induction address generalizing r text with
  | nil =>
      rw [List.append_nil, ← hstate]
      rfl
  | cons c address ih =>
      obtain ⟨hc, hclosed⟩ := not_or.mp (List.mem_cons.not.mp hclosed)
      have hstep : r.step c = some { r with state := .bracketed label (text ++ [c]) } := by
        delta step
        rw [hstate]
        dsimp only
        split
        · exact absurd rfl hc
        · rfl
      rw [read_cons, hstep, Option.bind_some, ih rfl hclosed, List.append_assoc]
      rfl

/-- What stands between brackets is filed. -/
theorem read_address {label : Option (List Char)} {text address : List Char}
    (h : Stands found (.bracketed label text) r) (hsigned : '@' ∈ address)
    (hclosed : '>' ∉ address) : ∃ r', r.read (address ++ ['>']) = some r' ∧
      Stands (found ++ [String.ofList (text ++ address)]) .afterBracketed r' := by
  rw [read_append, read_bracketed h.state hclosed, Option.bind_some]
  have hfile : AddressReader.step { r with state := .bracketed label (text ++ address) } '>' =
      some { r with
        entries := r.entries ++
          [.single ⟨label.map String.ofList, String.ofList (text ++ address)⟩]
        state := .afterBracketed } := by
    show AddressReader.file _ _ _ _ = _
    rw [file, if_pos (List.mem_append_right _ hsigned)]
    dsimp only
    rw [h.group]
  rw [read_cons, hfile]
  refine ⟨_, rfl, ?_, h.group, rfl⟩
  rw [addressesOf_concat, h.entries]
  rfl

/-- Behind a bracket, a comma and blanks lead to the next item. -/
theorem read_separator (h : Stands found .afterBracketed r) (blanks : Nat) :
    ∃ r', r.read (',' :: List.replicate blanks ' ') = some r' ∧ Stands found .start r' := by
  have hblank : ∀ r : AddressReader, Stands found .start r →
      r.read (List.replicate blanks ' ') = some r := by
    intro r h
    have hspace : r.step ' ' = some r := by
      obtain ⟨entries, group, held, state⟩ := r
      obtain rfl : state = .start := h.state
      rfl
    induction blanks with
    | zero => rfl
    | succ n ih => rw [List.replicate_succ, read_cons, hspace, Option.bind_some, ih]
  have hcomma : r.step ',' = some { r with state := .start } := by
    delta step
    rw [h.state]
    rfl
  rw [read_cons, hcomma]
  exact ⟨_, hblank _ ⟨h.entries, h.group, rfl⟩, h.entries, h.group, rfl⟩

/-- A bracket that opens from the start opens later as well, with nothing filed in between. -/
theorem Resumes.opens_iff {text : List Char} (h : Resumes found r r') :
    (∃ label, Stands [] (.bracketed label text) r) ↔
      ∃ label, Stands found (.bracketed label text) r' := by
  have hentries : addressesOf r.entries = [] ↔ addressesOf r'.entries = found := by
    rw [h.entries]
    exact List.append_right_eq_self.symm
  have hgroup : r.group = none ↔ r'.group = none := by
    rcases h.cases_group with ⟨hr, hr'⟩ | ⟨g, g', hr, hr', -⟩ <;> simp [hr, hr']
  constructor
  · rintro ⟨label, hr⟩
    obtain ⟨label', hstate⟩ := h.state.bracketed_iff.mp ⟨label, hr.state⟩
    exact ⟨label', hentries.mp hr.entries, hgroup.mp hr.group, hstate⟩
  · rintro ⟨label', hr'⟩
    obtain ⟨label, hstate⟩ := h.state.bracketed_iff.mpr ⟨label', hr'.state⟩
    exact ⟨label, hentries.mpr hr'.entries, hgroup.mpr hr'.group, hstate⟩

/-- An address in brackets, as it stands behind a name. -/
def inBrackets (address : List Char) : List Char := ' ' :: '<' :: address ++ ['>']

theorem append_inBrackets (name address : List Char) :
    name ++ inBrackets address = (name ++ [' ', '<']) ++ (address ++ ['>']) := by
  simp [inBrackets]

theorem append_opening (name : List Char) : name ++ [' ', '<'] = (name ++ [' ']) ++ ['<'] := by
  simp

/-- A name after which the bracket of an address opens, with nothing filed and no group open. -/
def Quiet (name : List Char) : Prop :=
  ∃ r label, begin.read (name ++ [' ', '<']) = some r ∧ Stands [] (.bracketed label []) r

theorem read_quiet {name address : List Char} (h : Stands found .start r) (hname : Quiet name)
    (hsigned : '@' ∈ address) (hclosed : '>' ∉ address) :
    ∃ r', r.read (name ++ inBrackets address) = some r' ∧
      Stands (found ++ [String.ofList address]) .afterBracketed r' := by
  obtain ⟨s, label, hread, hs⟩ := hname
  obtain ⟨s', hread', hrel⟩ := h.resumes.exists_right hread
  obtain ⟨label', hs'⟩ := hrel.opens_iff.mp ⟨label, hs⟩
  rw [append_inBrackets, read_append, hread']
  exact read_address hs' hsigned hclosed

/-! ## Reading a list -/

/-- The addresses of the list that was read, if it may end here. -/
def listed (o : Option AddressReader) : List String :=
  (o.bind finish).toList.flatMap addressesOf

theorem map_address_ofList (cs : List Char) :
    (Address.list (String.ofList cs)).map (·.address) = listed (begin.read cs) := by
  rw [SubmissionEnvelope.map_address_list, Address.entries?, String.toList_ofList]
  rfl

theorem Stands.listed (h : Stands found .afterBracketed r) : listed (some r) = found := by
  have hfinish : r.finish = some r.entries := by
    rw [finish, h.group, h.state]
  rw [AddressReader.listed, Option.bind_some, hfinish, Option.toList_some, List.flatMap_singleton,
    h.entries]

/-- Inside quotes or a comment. -/
def Shut (r : AddressReader) : Prop :=
  match r.state with
  | .quoted _ | .escaped _ | .comment _ | .trailer => True
  | _ => False

theorem Shut.step {c : Char} (h : r.Shut) (hc : c ≠ '"' ∧ c ≠ ')') :
    ∃ r', r.step c = some r' ∧ r'.Shut := by
  obtain ⟨entries, group, blanks, state⟩ := r
  delta AddressReader.step
  cases state with
  | quoted name =>
      dsimp only
      split
      · exact ⟨_, rfl, trivial⟩
      · exact absurd rfl hc.1
      · exact ⟨_, rfl, trivial⟩
  | escaped name => exact ⟨_, rfl, trivial⟩
  | comment text =>
      dsimp only
      rw [if_neg hc.2]
      exact ⟨_, rfl, h⟩
  | trailer =>
      dsimp only
      rw [if_neg hc.2]
      exact ⟨_, rfl, h⟩
  | start | opened | afterQuoted _ | bracketed _ _ | afterBracketed | plain _ => exact h.elim

/-- Only a quote or a parenthesis leads out. -/
theorem Shut.read {cs : List Char} (h : r.Shut) (hcs : ∀ c ∈ cs, c ≠ '"' ∧ c ≠ ')') :
    ∃ r', r.read cs = some r' ∧ r'.Shut :=
  read_preserves (fun _ _ => Shut.step) cs h hcs

theorem Shut.finish (h : r.Shut) : r.finish = none := by
  obtain ⟨entries, group, blanks, state⟩ := r
  cases state with
  | quoted _ | escaped _ | comment _ | trailer => cases group <;> rfl
  | start | opened | afterQuoted _ | bracketed _ _ | afterBracketed | plain _ => exact h.elim

/-- A bracket opens an address, unless it is inside quotes or a comment. -/
theorem step_bracket (h : r.step '<' = some r') :
    (∃ label text, r'.state = .bracketed label text) ∨ r'.Shut := by
  obtain ⟨entries, group, blanks, state⟩ := r
  cases state with
  | start | opened | afterQuoted _ | bracketed _ _ | plain _ =>
      obtain rfl := Option.some.inj h
      exact .inl ⟨_, _, rfl⟩
  | quoted _ | escaped _ | comment _ | trailer =>
      obtain rfl := Option.some.inj h
      exact .inr trivial
  | afterBracketed => cases h

/-- In a group that is not closed, the list may not end. -/
theorem read_grouped {label : Option (List Char)} {text address : List Char} {g : OpenGroup}
    (hstate : r.state = .bracketed label text) (hgroup : r.group = some g)
    (hsigned : '@' ∈ address) (hclosed : '>' ∉ address) :
    ∃ r', r.read (address ++ ['>']) = some r' ∧ r'.finish = none := by
  rw [read_append, read_bracketed hstate hclosed, Option.bind_some, read_cons]
  have hfile : ∃ members, AddressReader.step
      { r with state := .bracketed label (text ++ address) } '>' =
        some { r with group := some { g with members := members }, state := .afterBracketed } := by
    show ∃ _, AddressReader.file _ _ _ _ = _
    rw [file, if_pos (List.mem_append_right _ hsigned)]
    dsimp only
    rw [hgroup]
    exact ⟨_, rfl⟩
  obtain ⟨members, hfile⟩ := hfile
  rw [hfile]
  exact ⟨_, rfl, rfl⟩

/-- Behind a bracket that was read, an address is filed if the bracket has opened it outside a
group, and else the list may not end. -/
theorem listed_bracket {address : List Char} (h : r.step '<' = some r')
    (hsigned : '@' ∈ address) (hplain : ∀ c ∈ address, c ≠ '"' ∧ c ≠ ')' ∧ c ≠ '>') :
    listed (r'.read (address ++ ['>'])) = [] ∨
      ∃ label text, Stands (addressesOf r'.entries) (.bracketed label text) r' ∧
        listed (r'.read (address ++ ['>'])) =
          addressesOf r'.entries ++ [String.ofList (text ++ address)] := by
  have hclosed : '>' ∉ address := fun hmem => (hplain _ hmem).2.2 rfl
  have hharmless : ∀ c ∈ address ++ ['>'], c ≠ '"' ∧ c ≠ ')' := by
    rw [List.forall_mem_append]
    exact ⟨fun c hc => ⟨(hplain c hc).1, (hplain c hc).2.1⟩,
      List.forall_mem_singleton.mpr (by decide)⟩
  rcases step_bracket h with ⟨label, text, hstate⟩ | hshut
  · cases hgroup : r'.group with
    | none =>
        have hopen : Stands (addressesOf r'.entries) (.bracketed label text) r' :=
          ⟨rfl, hgroup, hstate⟩
        obtain ⟨s, hread, hs⟩ := read_address hopen hsigned hclosed
        exact .inr ⟨label, text, hopen, by rw [hread, hs.listed]⟩
    | some g =>
        obtain ⟨s, hread, hs⟩ := read_grouped hstate hgroup hsigned hclosed
        refine .inl ?_
        rw [hread, listed, Option.bind_some, hs]
        rfl
  · obtain ⟨s, hread, hs⟩ := hshut.read hharmless
    refine .inl ?_
    rw [hread, listed, Option.bind_some, hs.finish]
    rfl

theorem quiet_of_listed {name address : List Char} (h : Stands found .start r)
    (hsigned : '@' ∈ address) (hplain : ∀ c ∈ address, c ≠ '"' ∧ c ≠ ')' ∧ c ≠ '>')
    (hlist : listed (r.read (name ++ inBrackets address)) = found ++ [String.ofList address]) :
    Quiet name := by
  have hnonempty : found ++ [String.ofList address] ≠ [] := by simp
  rw [append_inBrackets, read_append] at hlist
  cases hread : r.read (name ++ [' ', '<']) with
  | none =>
      rw [hread] at hlist
      exact absurd hlist.symm hnonempty
  | some s' =>
      rw [hread, Option.bind_some] at hlist
      obtain ⟨s, hs, hrel⟩ := h.resumes.exists_left hread
      rw [append_opening, read_concat] at hread
      obtain ⟨t, -, hstep⟩ := Option.bind_eq_some_iff.mp hread
      rcases listed_bracket hstep hsigned hplain with hnone | ⟨label, text, hopen, hfiled⟩
      · exact absurd (hlist.symm.trans hnone) hnonempty
      · obtain ⟨hfound, htext⟩ := List.append_singleton_inj.mp (hfiled.symm.trans hlist)
        obtain rfl : text = [] := List.append_left_eq_self.mp (String.ofList_injective htext)
        rw [hfound] at hopen
        obtain ⟨label', hstands⟩ := hrel.opens_iff.mpr ⟨label, hopen⟩
        exact ⟨s, label', hs, hstands⟩

/-- An item is read as its address exactly if its name is quiet. -/
theorem listed_item_iff {name address : List Char} (h : Stands found .start r)
    (hsigned : '@' ∈ address) (hplain : ∀ c ∈ address, c ≠ '"' ∧ c ≠ ')' ∧ c ≠ '>') :
    listed (r.read (name ++ inBrackets address)) =
      found ++ [String.ofList address] ↔ Quiet name := by
  refine ⟨quiet_of_listed h hsigned hplain, fun hquiet => ?_⟩
  obtain ⟨r', hread, hr'⟩ := read_quiet h hquiet hsigned fun hmem => (hplain _ hmem).2.2 rfl
  rw [hread, hr'.listed]

/-! ## Names without marks -/

/-- Before an item or in a name that has not ended, with nothing filed. -/
def Idle (r : AddressReader) : Prop := Stands [] .start r ∨ ∃ text, Stands [] (.plain text) r

theorem Idle.step {c : Char} (h : r.Idle) (hc : c ∉ ['"', '(', ',', ':', ';', '<']) :
    ∃ r', r.step c = some r' ∧ r'.Idle := by
  simp only [List.mem_cons, List.not_mem_nil, or_false, not_or] at hc
  obtain ⟨hquote, hparen, hcomma, hcolon, hsemicolon, hbracket⟩ := hc
  obtain ⟨entries, group, blanks, state⟩ := r
  delta AddressReader.step
  rcases h with h | ⟨text, h⟩
  · obtain rfl : state = .start := h.state
    show ∃ r', startItem _ c = some r' ∧ r'.Idle
    delta startItem
    split
    next => exact ⟨_, rfl, .inl ⟨h.entries, h.group, rfl⟩⟩
    next =>
      split
      · exact absurd rfl hquote
      · exact absurd rfl hbracket
      · exact absurd rfl hsemicolon
      · exact ⟨_, rfl, .inr ⟨_, h.entries, h.group, rfl⟩⟩
  · obtain rfl : state = .plain text := h.state
    dsimp only
    split
    · exact absurd rfl hbracket
    · exact absurd rfl hcomma
    · exact absurd rfl hsemicolon
    · exact absurd rfl hcolon
    · exact absurd rfl hparen
    · exact ⟨_, rfl, .inr ⟨_, h.entries, h.group, rfl⟩⟩

/-- A name with none of the marks of address lists is quiet. -/
theorem quiet_of_plain {name : List Char}
    (h : ∀ c ∈ name, c ∉ ['"', '(', ',', ':', ';', '<']) : Quiet name := by
  have hspaced : ∀ c ∈ name ++ [' '], c ∉ ['"', '(', ',', ':', ';', '<'] := by
    rw [List.forall_mem_append]
    exact ⟨h, List.forall_mem_singleton.mpr (by decide)⟩
  have hbegin : begin.Idle := .inl ⟨rfl, rfl, rfl⟩
  obtain ⟨r, hread, hidle⟩ := read_preserves (fun _ _ => Idle.step) _ hbegin hspaced
  rw [Quiet, append_opening, read_concat, hread]
  obtain ⟨entries, group, blanks, state⟩ := r
  rcases hidle with hr | ⟨text, hr⟩
  · obtain rfl : state = .start := hr.state
    exact ⟨_, _, rfl, hr.entries, hr.group, rfl⟩
  · obtain rfl : state = .plain text := hr.state
    exact ⟨_, _, rfl, hr.entries, hr.group, rfl⟩

end AddressReader

/-! ## Headers of named addresses -/

/-- An address with a name for it. -/
structure NamedAddress where
  name : String
  address : String

namespace NamedAddress

open AddressReader (Quiet Stands inBrackets)

/-- The item with its name written out. -/
def shown (i : NamedAddress) : List Char := i.name.toList ++ inBrackets i.address.toList

/-- The item with its name as an encoded word. -/
def encoded (i : NamedAddress) : List Char :=
  '=' :: '?' :: EncodedWord.wordFor i.name ++ '?' :: '=' :: inBrackets i.address.toList

/-- A comma with blanks behind it. -/
def separator (blanks : Nat) : List Char := ',' :: List.replicate blanks ' '

/-- A list of items. -/
def list (blanks : Nat) (items : List (List Char)) : List Char :=
  (separator blanks).intercalate items

/-- An address that can stand in brackets, in a header of one line. -/
structure Bare (address : String) : Prop where
  signed : '@' ∈ address.toList
  plain : ∀ c ∈ address.toList, c ∉ ['"', ')', '>', '\n'] ∧ c.toNat < 128
  unencoded : EncodedWord.splitAtPair '=' '?' address.toList = none

variable {blanks : Nat} {before after items : List NamedAddress} {i : NamedAddress}

theorem list_cons_cons (blanks : Nat) (item next : List Char) (items : List (List Char)) :
    list blanks (item :: next :: items) =
      item ++ separator blanks ++ list blanks (next :: items) := by
  rw [list, List.intercalate_cons_cons, list]

theorem list_append_cons (blanks : Nat) (before after : List (List Char)) (item : List Char) :
    list blanks (before ++ item :: after) =
      before.flatMap (· ++ separator blanks) ++ list blanks (item :: after) := by
  induction before with
  | nil => rfl
  | cons first before ih =>
      rw [List.flatMap_cons, List.append_assoc, ← ih]
      cases before with
      | nil => exact list_cons_cons ..
      | cons next before => exact list_cons_cons ..

/-- What comes first in an item comes first in the list. -/
theorem list_append_head (blanks : Nat) (start item : List Char) (after : List (List Char)) :
    list blanks ((start ++ item) :: after) = start ++ list blanks (item :: after) := by
  cases after with
  | nil => simp [list]
  | cons next after => rw [list_cons_cons, list_cons_cons]; simp

theorem splitAtPair_bracket (h : Bare i.address) {tail : List Char} (htail : '=' ∉ tail) :
    EncodedWord.splitAtPair '=' '?' (inBrackets i.address.toList ++ tail) = none := by
  have hclosing : EncodedWord.splitAtPair '=' '?' ('>' :: tail) = none :=
    EncodedWord.splitAtPair_eq_none (by simpa using htail)
  have haddress : EncodedWord.splitAtPair '=' '?' (i.address.toList ++ '>' :: tail) = none := by
    rw [EncodedWord.splitAtPair_append h.unencoded (by simp), hclosing]
    rfl
  have htext : inBrackets i.address.toList ++ tail =
      ' ' :: '<' :: (i.address.toList ++ '>' :: tail) := by simp [inBrackets]
  rw [htext, EncodedWord.splitAtPair_cons (by decide), EncodedWord.splitAtPair_cons (by decide),
    haddress]
  rfl

/-- Behind the word for a name, a bracket and a separator can stand. -/
theorem legible (h : Bare i.address) {tail : List Char} (htail : ∀ c ∈ tail, c ∈ [',', ' ']) :
    EncodedWord.Legible (i.name, inBrackets i.address.toList ++ tail) := by
  have hmarks : ∀ c ∈ [',', ' '], c ≠ '=' ∧ c.toNat < 128 ∧ c ≠ '\n' ∧
      EncodedWord.bounds c = true := List.all_iff_forall_prop.mp (by decide)
  have hframe : ∀ c ∈ [' ', '<', '>'], c.toNat < 128 ∧ c ≠ '\n' :=
    List.all_iff_forall_prop.mp (by decide)
  have hchars : ∀ c ∈ inBrackets i.address.toList ++ tail, c.toNat < 128 ∧ c ≠ '\n' := by
    intro c hc
    simp only [inBrackets, List.mem_append, List.mem_cons, List.not_mem_nil, or_false] at hc
    rcases hc with ((hc | hc | hc) | hc) | hc
    · exact hframe c (by simp [hc])
    · exact hframe c (by simp [hc])
    · exact ⟨(h.plain c hc).2, fun heq => (h.plain c hc).1 (by simp [heq])⟩
    · exact hframe c (by simp [hc])
    · exact ⟨(hmarks c (htail c hc)).2.1, (hmarks c (htail c hc)).2.2.1⟩
  constructor
  case apart =>
    constructor
    case word => exact EncodedWord.splitAtPair_wordFor i.name
    case text =>
      exact splitAtPair_bracket h fun hmem => (hmarks _ (htail _ hmem)).1 rfl
    case first => exact ⟨' ', _, rfl, by decide⟩
    case last =>
      rcases List.eq_nil_or_concat tail with rfl | ⟨init, c, rfl⟩
      · exact ⟨'>', ' ' :: '<' :: i.address.toList, List.append_nil _, by decide⟩
      · refine ⟨c, inBrackets i.address.toList ++ init, by simp, (hmarks c (htail c ?_)).2.2.2⟩
        simp
  case ascii => exact fun c hc => (hchars c hc).1
  case unbroken => exact fun hmem => (hchars _ hmem).2 rfl
  case solid => exact ⟨'<', by simp [inBrackets], by decide⟩

/-- Names are decoded where they stand. -/
theorem text_encoded {f : HeaderField} (hbare : ∀ i ∈ items, Bare i.address)
    (h : f.value = utf8 (String.ofList (list blanks (items.map encoded)))) :
    f.text = String.ofList (list blanks (items.map shown)) := by
  have hseparator : ∀ c ∈ separator blanks, c ∈ [',', ' '] := by
    intro c hc
    rcases List.mem_cons.mp hc with rfl | hc
    · decide
    · rw [List.eq_of_mem_replicate hc]
      decide
  rcases List.eq_nil_or_concat items with rfl | ⟨init, last, rfl⟩
  · have hnone : ∀ item ∈ ([] : List (String × List Char)), EncodedWord.Legible item :=
      fun item hitem => by cases hitem
    exact HeaderField.text_written hnone h
  · let segments : List (String × List Char) :=
      init.map (fun i => (i.name, inBrackets i.address.toList ++ separator blanks)) ++
        [(last.name, inBrackets last.address.toList ++ [])]
    have hencoded : list blanks ((init.concat last).map encoded) =
        EncodedWord.written (EncodedWord.pieces segments) := by
      rw [List.concat_eq_append, List.map_append, List.map_singleton, list_append_cons]
      simp [segments, list, EncodedWord.written, EncodedWord.pieces, encoded, List.flatMap_map]
    have hshown : list blanks ((init.concat last).map shown) =
        segments.flatMap fun segment => segment.1.toList ++ segment.2 := by
      rw [List.concat_eq_append, List.map_append, List.map_singleton, list_append_cons]
      simp [segments, list, shown, List.flatMap_map]
    have hlegible : ∀ segment ∈ segments, EncodedWord.Legible segment := by
      intro segment hsegment
      rcases List.mem_append.mp hsegment with hmem | hmem
      · obtain ⟨i, hi, rfl⟩ := List.mem_map.mp hmem
        exact legible (hbare i (by simp [hi])) hseparator
      · obtain rfl := List.mem_singleton.mp hmem
        exact legible (hbare last (by simp)) fun c hc => by cases hc
    rw [hencoded] at h
    rw [hshown]
    exact HeaderField.text_written hlegible h

/-! ## Lists of items -/

theorem Bare.closed {address : String} (h : Bare address) : '>' ∉ address.toList := fun hmem =>
  absurd (h.plain _ hmem).1 (by decide)

/-- Items with quiet names, each with a separator behind it, add their addresses. -/
theorem read_items (blanks : Nat) {found : List String} {r : AddressReader}
    (h : Stands found .start r) (hbare : ∀ i ∈ items, Bare i.address)
    (hquiet : ∀ i ∈ items, Quiet i.name.toList) :
    ∃ r', r.read (items.flatMap fun i => i.shown ++ separator blanks) = some r' ∧
      Stands (found ++ items.map (·.address)) .start r' := by
  induction items generalizing found r with
  | nil => exact ⟨r, rfl, by rwa [List.map_nil, List.append_nil]⟩
  | cons i items ih =>
      rw [List.forall_mem_cons] at hbare hquiet
      obtain ⟨r₁, hread₁, hr₁⟩ :=
        AddressReader.read_quiet h hquiet.1 hbare.1.signed hbare.1.closed
      obtain ⟨r₂, hread₂, hr₂⟩ := AddressReader.read_separator hr₁ blanks
      obtain ⟨r₃, hread₃, hr₃⟩ := ih hr₂ hbare.2 hquiet.2
      refine ⟨r₃, ?_, ?_⟩
      · rw [List.flatMap_cons, AddressReader.read_append, AddressReader.read_append, shown, hread₁,
          Option.bind_some, separator, hread₂, Option.bind_some, ← separator, hread₃]
      · rw [String.ofList_toList, List.append_assoc] at hr₃
        exact hr₃

/-- The addresses of a list with its names written out. -/
def addressesShown (blanks : Nat) (items : List NamedAddress) : List String :=
  AddressReader.listed (AddressReader.begin.read (list blanks (items.map shown)))

theorem read_list (blanks : Nat) (after : List NamedAddress) (i : NamedAddress)
    (hbare : ∀ j ∈ before, Bare j.address) (hquiet : ∀ j ∈ before, Quiet j.name.toList) :
    ∃ r, Stands (before.map (·.address)) .start r ∧
      AddressReader.begin.read (list blanks ((before ++ i :: after).map shown)) =
        r.read (list blanks ((i :: after).map shown)) := by
  have hbegin : Stands [] .start AddressReader.begin := ⟨rfl, rfl, rfl⟩
  obtain ⟨r, hread, hr⟩ := read_items blanks hbegin hbare hquiet
  refine ⟨r, hr, ?_⟩
  rw [List.map_append, List.map_cons, list_append_cons, List.flatMap_map,
    AddressReader.read_append, hread]
  rfl

theorem addressesShown_concat_iff (hbare : ∀ j ∈ before, Bare j.address) (hi : Bare i.address)
    (hquiet : ∀ j ∈ before, Quiet j.name.toList) :
    addressesShown blanks (before ++ [i]) = (before ++ [i]).map (·.address) ↔
      Quiet i.name.toList := by
  obtain ⟨r, hr, hread⟩ := read_list blanks [] i hbare hquiet
  have hsingle : list blanks ([i].map shown) = i.shown := by simp [list]
  rw [addressesShown, hread, hsingle, List.map_append, List.map_singleton]
  have hiff : AddressReader.listed (r.read i.shown) = _ ↔ Quiet i.name.toList :=
    AddressReader.listed_item_iff hr hi.signed fun c hc => by
      have hplain := (hi.plain c hc).1
      simp only [List.mem_cons, not_or] at hplain
      exact ⟨hplain.1, hplain.2.1, hplain.2.2.1⟩
  rw [String.ofList_toList] at hiff
  exact hiff

theorem addressesShown_eq (hbare : ∀ j ∈ items, Bare j.address)
    (hquiet : ∀ j ∈ items, Quiet j.name.toList) :
    addressesShown blanks items = items.map (·.address) := by
  rcases List.eq_nil_or_concat items with rfl | ⟨init, last, rfl⟩
  · rfl
  · rw [List.concat_eq_append] at *
    rw [List.forall_mem_append] at hbare hquiet
    exact (addressesShown_concat_iff hbare.1 (hbare.2 last List.mem_cons_self) hquiet.1).mpr
      (hquiet.2 last List.mem_cons_self)

/-- A name that cannot be read takes the whole list with it. -/
theorem addressesShown_eq_nil (hbare : ∀ j ∈ before, Bare j.address)
    (hquiet : ∀ j ∈ before, Quiet j.name.toList)
    (hname : AddressReader.begin.read i.name.toList = none) :
    addressesShown blanks (before ++ i :: after) = [] := by
  obtain ⟨r, hr, hread⟩ := read_list blanks after i hbare hquiet
  have hrel := hr.resumes.read i.name.toList
  rw [hname] at hrel
  have hnone : r.read i.name.toList = none := by
    generalize r.read i.name.toList = o at hrel
    cases hrel
    rfl
  rw [addressesShown, hread, List.map_cons, shown, list_append_head, AddressReader.read_append,
    hnone]
  rfl

example : AddressReader.begin.read "Doe, John".toList = none := by decide +kernel

/-- A name that ends a list of items and begins another adds their addresses. -/
theorem list_names_items {inner : List NamedAddress} {rest : String}
    (hname : i.name.toList =
      inner.flatMap (fun j => j.shown ++ separator blanks) ++ rest.toList) :
    list blanks ((before ++ i :: after).map shown) =
      list blanks ((before ++ inner ++ ⟨rest, i.address⟩ :: after).map shown) := by
  have hshown : i.shown = (inner.map shown).flatMap (· ++ separator blanks) ++
      (⟨rest, i.address⟩ : NamedAddress).shown := by
    rw [shown, hname, List.flatMap_map, List.append_assoc]
    rfl
  rw [List.map_append, List.map_cons, list_append_cons, hshown, list_append_head,
    List.map_append, List.map_append, List.map_cons, list_append_cons, List.flatMap_append,
    List.append_assoc]

/-! ## Both readers of a header -/

/-- The addresses in a header. -/
def mailboxes (f : HeaderField) : List String := (Address.list f.text).map (·.address)

/-- A header that lists these items, each name as an encoded word. -/
structure Lists (f : HeaderField) (blanks : Nat) (items : List NamedAddress) : Prop where
  value : f.value = utf8 (String.ofList (list blanks (items.map encoded)))
  bare : ∀ i ∈ items, Bare i.address

/-- A header that is read as if its names were written out. -/
structure ReadAsShown (f : HeaderField) (blanks : Nat) (items : List NamedAddress) : Prop where
  text : f.text = String.ofList (list blanks (items.map shown))
  /-- With quiet names it has the addresses of its items. -/
  keeps : (∀ i ∈ items, Quiet i.name.toList) → mailboxes f = items.map (·.address)
  /-- With a last name that is not quiet it has not. -/
  keeps_iff : ∀ before i, items = before ++ [i] → (∀ j ∈ before, Quiet j.name.toList) →
    (mailboxes f = items.map (·.address) ↔ Quiet i.name.toList)
  /-- A name that is a list of items and the start of another adds the addresses of the list. -/
  adds : ∀ before i after inner (rest : String), items = before ++ i :: after →
    i.name.toList = inner.flatMap (fun j => j.shown ++ separator blanks) ++ rest.toList →
    (∀ j ∈ inner, Bare j.address) →
    (∀ j ∈ before ++ inner ++ ⟨rest, i.address⟩ :: after, Quiet j.name.toList) →
    mailboxes f = (before ++ inner ++ i :: after).map (·.address)
  /-- A name that cannot be read takes all addresses away. -/
  drops : ∀ before i after, items = before ++ i :: after →
    (∀ j ∈ before, Quiet j.name.toList) → AddressReader.begin.read i.name.toList = none →
    mailboxes f = []

theorem Lists.readAsShown {f : HeaderField} (h : Lists f blanks items) :
    ReadAsShown f blanks items := by
  have htext := text_encoded h.bare h.value
  have hmailboxes : mailboxes f = addressesShown blanks items := by
    rw [mailboxes, htext, AddressReader.map_address_ofList, addressesShown]
  constructor
  case text => exact htext
  case keeps =>
    intro hquiet
    rw [hmailboxes, addressesShown_eq h.bare hquiet]
  case keeps_iff =>
    rintro before i rfl hquiet
    have hbare := List.forall_mem_append.mp h.bare
    rw [hmailboxes]
    exact addressesShown_concat_iff hbare.1 (hbare.2 i List.mem_cons_self) hquiet
  case adds =>
    rintro before i after inner rest rfl hname hinner hquiet
    obtain ⟨hbefore, hi⟩ := List.forall_mem_append.mp h.bare
    obtain ⟨hi, hafter⟩ := List.forall_mem_cons.mp hi
    have hbare : ∀ j ∈ before ++ inner ++ ⟨rest, i.address⟩ :: after, Bare j.address :=
      List.forall_mem_append.mpr ⟨List.forall_mem_append.mpr ⟨hbefore, hinner⟩,
        List.forall_mem_cons.mpr ⟨hi, hafter⟩⟩
    rw [hmailboxes, addressesShown, list_names_items hname, ← addressesShown,
      addressesShown_eq hbare hquiet]
    simp
  case drops =>
    rintro before i after rfl hquiet hname
    rw [hmailboxes]
    exact addressesShown_eq_nil (List.forall_mem_append.mp h.bare).1 hquiet hname

/-- The headers that name recipients: To, then Cc, then Bcc. -/
def recipientFields (fields : List HeaderField) : List HeaderField :=
  ["To", "Cc", "Bcc"].flatMap fun name => fields.filter (·.hasName name)

/-- The addresses in the first header with a name. -/
def firstMailboxes (fields : List HeaderField) (name : String) : List String :=
  ((fields.find? (·.hasName name)).map mailboxes).getD []

theorem recipientsOf_eq_mailboxes (fields : List HeaderField) :
    SubmissionEnvelope.recipientsOf fields = (recipientFields fields).flatMap mailboxes := by
  rw [SubmissionEnvelope.recipientsOf, recipientFields, List.flatMap_assoc, List.flatMap_assoc]
  refine List.flatMap_congr fun name _ => ?_
  rw [Header.all, List.flatMap_map]
  rfl

theorem map_address_first (fields : List HeaderField) (name : String) :
    (((Header.first? fields name).map Address.list).getD []).map (·.address) =
      firstMailboxes fields name := by
  rw [Header.first?, firstMailboxes]
  cases fields.find? (·.hasName name) <;> rfl

/-- What becomes of the names in the headers of a message. -/
structure NamesRead (account : String) (raw : Bytes) (fields : List HeaderField) : Prop where
  /-- The message is submitted to the addresses in its headers, or refused. -/
  submission : (SubmissionEnvelope.ofMessage account raw =
      .ok ⟨SubmissionEnvelope.senderOf account fields, (recipientFields fields).flatMap mailboxes⟩ ∧
        SubmissionEnvelope.Submittable account fields) ∨
    (∃ text, SubmissionEnvelope.ofMessage account raw = .error (.smtp text)) ∧
      ¬ SubmissionEnvelope.Submittable account fields
  /-- A message list shows the addresses in the first header of each name. -/
  envelope : (Envelope.ofBytes raw).recipients.map (·.address) = firstMailboxes fields "To" ∧
    (Envelope.ofBytes raw).cc.map (·.address) = firstMailboxes fields "Cc" ∧
    (Envelope.ofBytes raw).sender.map (·.address) = firstMailboxes fields "From"
  headers : ∀ f ∈ fields, ∀ blanks items, Lists f blanks items → ReadAsShown f blanks items

/-- The names in a header are read as a part of its list, for a message that is submitted and for
one that is shown. -/
theorem names_read {raw : Bytes} {fields : List HeaderField} (account : String)
    (h : Header.fields raw = .ok fields) : NamesRead account raw fields := by
  constructor
  case submission =>
    rw [← recipientsOf_eq_mailboxes]
    exact SubmissionEnvelope.ofMessage_cases account h
  case envelope =>
    have hfields : Envelope.ofBytes raw = Envelope.ofFields fields := by
      rw [Envelope.ofBytes, h]
    rw [hfields]
    exact ⟨map_address_first fields "To", map_address_first fields "Cc",
      map_address_first fields "From"⟩
  case headers => exact fun f _ blanks items hlists => hlists.readAsShown

/-- A correspondent whose name is `Eve <eve@evil.example>, Bob` has mail to him sent to Eve as
well. -/
theorem names_read_injected :
    let name := "Eve <eve@evil.example>, Bob"
    let raw := utf8 ("To: =?utf-8?B?" ++ Base64.encode (utf8 name) ++
      "?= <bob@example.com>\r\n\r\nhi")
    let f : HeaderField := ⟨utf8 "To", utf8 ("=?utf-8?B?" ++ Base64.encode (utf8 name) ++
      "?= <bob@example.com>")⟩
    Header.fields raw = .ok [f] ∧ Lists f 1 [⟨name, "bob@example.com"⟩] ∧
      SubmissionEnvelope.ofMessage "me@example.com" raw =
        .ok ⟨"me@example.com", ["eve@evil.example", "bob@example.com"]⟩ ∧
      (Envelope.ofBytes raw).recipients.map (·.address) =
        ["eve@evil.example", "bob@example.com"] := by
  intro name raw f
  have hread : (Header.fields raw).toOption = some [f] := by decide +kernel
  have hfields : Header.fields raw = .ok [f] := by
    cases h : Header.fields raw with
    | error e => rw [h] at hread; cases hread
    | ok fields => rw [h] at hread; exact congrArg Except.ok (Option.some.inj hread)
  have hlists : Lists f 1 [⟨name, "bob@example.com"⟩] := by
    refine ⟨by decide +kernel, fun i hi => ?_⟩
    obtain rfl := List.mem_singleton.mp hi
    exact ⟨by decide +kernel, List.all_iff_forall_prop.mp (by decide +kernel), by decide +kernel⟩
  obtain ⟨hsubmission, ⟨hshown, -, -⟩, hheaders⟩ := names_read "me@example.com" hfields
  have hnames : mailboxes f = ["eve@evil.example", "bob@example.com"] := by
    refine (hheaders f List.mem_cons_self 1 _ hlists).adds [] _ [] [⟨"Eve", "eve@evil.example"⟩]
      "Bob" rfl (by decide +kernel) (fun j hj => ?_) fun j hj => ?_
    · obtain rfl := List.mem_singleton.mp hj
      exact ⟨by decide +kernel, List.all_iff_forall_prop.mp (by decide +kernel), by decide +kernel⟩
    · refine AddressReader.quiet_of_plain ?_
      rcases List.mem_pair.mp hj with rfl | rfl
      · exact List.all_iff_forall_prop.mp (by decide +kernel)
      · exact List.all_iff_forall_prop.mp (by decide +kernel)
  refine ⟨hfields, hlists, ?_, ?_⟩
  · have haccepted : (SubmissionEnvelope.ofMessage "me@example.com" raw).toBool = true := by
      decide +kernel
    rcases hsubmission with ⟨hok, -⟩ | ⟨⟨text, herror⟩, -⟩
    · have hrecipients : recipientFields [f] = [f] := by decide +kernel
      have hsender : SubmissionEnvelope.senderOf "me@example.com" [f] = "me@example.com" := by
        decide +kernel
      rw [hok, hrecipients, hsender, List.flatMap_singleton, hnames]
    · rw [herror] at haccepted
      cases haccepted
  · have hfirst : [f].find? (·.hasName "To") = some f := by decide +kernel
    rw [hshown, firstMailboxes, hfirst]
    exact hnames

end NamedAddress

end MailSync
