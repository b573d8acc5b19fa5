import MailSync.Proofs.Attribute
import MailSync.Proofs.Coding
import MailSync.Proofs.Mailbox
import MailSync.Proofs.Text

/-!
# What a server lists a folder with

A LIST response begins with the attributes of a folder, in parentheses. They
are read as they were sent, whatever comes after them (`Datum.read?_list`,
`ListEntry.attributes_of_response`), so what a listed folder is for and whether
it holds messages is what the server said (`ImapMailbox.listFolders_keeps`).
A bracket in them is a character like any other.
-/

namespace MailSync

open Dialogue

/-! ## Attributes on the wire -/

namespace FolderAttribute

/-- An attribute that can stand in a LIST response: a backslash, and nothing behind it that would
end it there. -/
structure Listable (s : String) : Prop where
  plain : Plain s
  flag : s.toList.head? = some '\\'
  whole : ∀ c ∈ s.toList, c ≠ ' ' ∧ c ≠ '(' ∧ c ≠ ')'

instance (s : String) : Decidable (Listable s) :=
  decidable_of_iff (Plain s ∧ s.toList.head? = some '\\' ∧
      s.toList.all fun c => c ≠ ' ' ∧ c ≠ '(' ∧ c ≠ ')')
    ⟨fun h => ⟨h.1, h.2.1, by simpa using h.2.2⟩, fun h => ⟨h.1, h.2, by simpa using h.3⟩⟩

/-- A character of an atom: printable ASCII that has no other use in a response. -/
def IsAtomChar (c : Char) : Prop :=
  '!' ≤ c ∧ c ≤ '~' ∧ c ∉ ['(', ')', '\x7b', '%', '*', '"', '\\', ']']

theorem listable_of_atom {cs : List Char} (h : ∀ c ∈ cs, IsAtomChar c) :
    Listable (String.ofList ('\\' :: cs)) := by
  have hatom : ∀ c ∈ cs, (' ' ≤ c ∧ c ≤ '~' ∧ c ≠ '"') ∧ c ≠ ' ' ∧ c ≠ '(' ∧ c ≠ ')' := by
    intro c hc
    obtain ⟨hlow, hhigh, hspecial⟩ := h c hc
    have hblank : c ≠ ' ' := by
      rintro rfl
      exact absurd hlow (by decide)
    simp only [List.mem_cons, List.not_mem_nil, or_false, not_or] at hspecial
    exact ⟨⟨Char.le_trans (by decide) hlow, hhigh, hspecial.2.2.2.2.2.1⟩, hblank, hspecial.1,
      hspecial.2.1⟩
  refine ⟨?_, ?_, ?_⟩
  · rw [Plain, String.toList_ofList]
    exact List.forall_mem_cons.mpr ⟨by decide, fun c hc => (hatom c hc).1⟩
  · rw [String.toList_ofList, List.head?_cons]
  · rw [String.toList_ofList]
    exact List.forall_mem_cons.mpr ⟨by decide, fun c hc => (hatom c hc).2⟩

/-- The octets of a flag. -/
def IsFlag (bytes : Bytes) : Prop :=
  ∃ rest, bytes = 92 :: rest ∧ ∀ b ∈ rest, b ≠ 32 ∧ b ≠ 40 ∧ b ≠ 41

theorem Listable.isFlag {s : String} (h : Listable s) : IsFlag (utf8 s) := by
  have hascii : ∀ c ∈ s.toList, c.val ≤ 127 := fun c hc =>
    UInt32.le_trans (h.plain c hc).2.1 (by decide)
  obtain ⟨cs, hcs⟩ := List.head?_eq_some_iff.mp h.flag
  refine ⟨cs.map (·.val.toUInt8), by rw [utf8_ascii hascii, hcs]; rfl, ?_⟩
  intro b hb
  obtain ⟨c, hc, rfl⟩ := List.mem_map.mp hb
  have hmem : c ∈ s.toList := hcs ▸ List.mem_cons_of_mem _ hc
  have hne : ∀ d : Char, d.val ≤ 127 → c ≠ d → c.val.toUInt8 ≠ d.val.toUInt8 := by
    intro d hd hcd heq
    have hc : c.val.toNat ≤ 127 := hascii c hmem
    have hd : d.val.toNat ≤ 127 := hd
    have hnat := congrArg UInt8.toNat heq
    rw [UInt32.toNat_toUInt8, UInt32.toNat_toUInt8, Nat.mod_eq_of_lt (by omega),
      Nat.mod_eq_of_lt (by omega)] at hnat
    exact hcd (Char.ext (UInt32.toNat_inj.mp hnat))
  obtain ⟨hspace, hopen, hclose⟩ := h.whole c hmem
  exact ⟨hne ' ' (by decide) hspace, hne '(' (by decide) hopen, hne ')' (by decide) hclose⟩

end FolderAttribute

/-! ## Reading a list of flags -/

namespace Datum

open FolderAttribute

namespace Reader

variable {items inner : List Datum} {outer : List (List Datum)} {rest : Bytes}

/-- The octets of a flag are read as they come, brackets among them. -/
theorem foldlM_flag {read bytes : Bytes} (hread : read.getLast? = some 92)
    (hbytes : ∀ b ∈ bytes, b ≠ 32 ∧ b ≠ 40 ∧ b ≠ 41) :
    bytes.foldlM feed ⟨.atom read false, items, outer⟩ =
      some ⟨.atom (bytes.reverse ++ read) false, items, outer⟩ := by
  induction bytes generalizing read with
  | nil => rfl
  | cons b bytes ih =>
      obtain ⟨⟨hspace, hopen, hclose⟩, hbytes⟩ := List.forall_mem_cons.mp hbytes
      have hfeed : feed ⟨.atom read false, items, outer⟩ b =
          some ⟨.atom (b :: read) false, items, outer⟩ := by
        simp [feed, opensBracket, hspace, hopen, hclose, hread]
      have hlast : (b :: read).getLast? = some 92 := by
        rw [List.getLast?_cons, hread]
        rfl
      rw [List.foldlM_cons, hfeed, List.reverse_cons, List.append_assoc]
      exact ih hlast hbytes

/-- A list of flags is one item of what it stands in. -/
theorem foldlM_list {flags : List Bytes} (hflags : ∀ f ∈ flags, IsFlag f) :
    ([32].intercalate flags ++ 41 :: rest).foldlM feed ⟨.between, items, inner :: outer⟩ =
      rest.foldlM feed ⟨.between, .list (items.reverse ++ flags.map .atom) :: inner, outer⟩ := by
  induction flags generalizing items with
  | nil =>
      rw [List.map_nil, List.append_nil]
      rfl
  | cons f flags ih =>
      obtain ⟨⟨bytes, rfl, hbytes⟩, hothers⟩ := List.forall_mem_cons.mp hflags
      have hflag : ∀ tail : Bytes,
          (92 :: bytes ++ tail).foldlM feed ⟨.between, items, inner :: outer⟩ =
            tail.foldlM feed ⟨.atom (92 :: bytes).reverse false, items, inner :: outer⟩ := by
        intro tail
        show (bytes ++ tail).foldlM feed ⟨.atom [92] false, items, inner :: outer⟩ = _
        rw [List.foldlM_append, foldlM_flag rfl hbytes, List.reverse_cons]
        rfl
      -- the octet behind the flag ends it, and ends the list too if no other flag comes
      cases flags with
      | nil =>
          have hend : feed ⟨.atom (92 :: bytes).reverse false, items, inner :: outer⟩ 41 =
              some ⟨.between, .list (.atom (92 :: bytes) :: items).reverse :: inner, outer⟩ := by
            simp [feed, push, start, close?]
          rw [List.intercalate_singleton, hflag, List.foldlM_cons, hend, List.reverse_cons]
          rfl
      | cons g flags =>
          have hend : feed ⟨.atom (92 :: bytes).reverse false, items, inner :: outer⟩ 32 =
              some ⟨.between, .atom (92 :: bytes) :: items, inner :: outer⟩ := by
            simp [feed, push, start]
          rw [List.intercalate_cons_cons, List.append_assoc, List.append_assoc, hflag,
            List.singleton_append, List.foldlM_cons, hend]
          show List.foldlM feed _ _ = _
          rw [ih hothers, List.reverse_cons, List.append_assoc]
          rfl

/-- What lies below all data of all open lists, which come from the innermost to the outermost. -/
def Bottom (d : Datum) (items : List Datum) : List (List Datum) → Prop
  | [] => items.getLast? = some d
  | inner :: outer => Bottom d inner outer

theorem Bottom.cons {d : Datum} (h : Bottom d items outer) (d' : Datum) :
    Bottom d (d' :: items) outer := by
  cases outer with
  | nil =>
      show (d' :: items).getLast? = some d
      rw [List.getLast?_cons, h]
      rfl
  | cons _ _ => exact h

/-- A reader whose first datum is this one. -/
def Begins (d : Datum) (r : Reader) : Prop := Bottom d r.items r.outer

namespace Begins

variable {d : Datum} {r r' : Reader} {b : UInt8}

theorem goTo (h : Begins d r) (p : Place) : Begins d { r with place := p } := h

theorem push (h : Begins d r) (d' : Datum) : Begins d (r.push d') := Bottom.cons h d'

theorem openLiteral (h : Begins d r) (n : Nat) : Begins d (r.openLiteral n) := by
  rw [Reader.openLiteral]
  split
  next => exact h.push _
  next => exact h.goTo _

theorem start (h : Begins d r) (hstart : r.start b = some r') : Begins d r' := by
  rw [Reader.start] at hstart
  split at hstart
  next => exact Option.some.inj hstart ▸ h
  split at hstart
  next => exact Option.some.inj hstart ▸ h
  split at hstart
  next =>
    rw [Begins] at h
    rw [close?] at hstart
    split at hstart
    next => cases hstart
    next inner outer houter =>
      rw [houter] at h
      have hinner : Bottom d inner outer := h
      exact Option.some.inj hstart ▸ hinner.cons _
  split at hstart
  next => exact Option.some.inj hstart ▸ h.goTo _
  split at hstart
  next => exact Option.some.inj hstart ▸ h.goTo _
  next => exact Option.some.inj hstart ▸ h.goTo _

/-- What came first is not touched by another octet. -/
theorem feed (h : Begins d r) (hfeed : r.feed b = some r') : Begins d r' := by
  rw [Reader.feed] at hfeed
  split at hfeed
  next => exact h.start hfeed
  next => exact Option.some.inj hfeed ▸ h.goTo _
  next =>
    split at hfeed
    next => exact (h.push _).start hfeed
    next => exact Option.some.inj hfeed ▸ h.goTo _
  next => exact Option.some.inj hfeed ▸ h.goTo _
  next =>
    split at hfeed
    next => exact Option.some.inj hfeed ▸ h.push _
    next => exact Option.some.inj hfeed ▸ h.goTo _
  next =>
    split at hfeed
    next => exact Option.some.inj hfeed ▸ h.goTo _
    split at hfeed
    next => exact Option.some.inj hfeed ▸ h.goTo _
    next => cases hfeed
  next =>
    split at hfeed
    next => exact Option.some.inj hfeed ▸ h
    split at hfeed
    next => exact Option.some.inj hfeed ▸ h.openLiteral _
    next => cases hfeed
  next =>
    split at hfeed
    next => exact Option.some.inj hfeed ▸ h.push _
    next => exact Option.some.inj hfeed ▸ h.goTo _
  next => cases hfeed

theorem foldlM {bytes : Bytes} (h : Begins d r) (hread : bytes.foldlM Reader.feed r = some r') :
    Begins d r' := by
  induction bytes generalizing r with
  | nil => exact Option.some.inj hread ▸ h
  | cons b bytes ih =>
      rw [List.foldlM_cons] at hread
      obtain ⟨r₁, hfeed, hread⟩ := Option.bind_eq_some_iff.mp hread
      exact ih (h.feed hfeed) hread

theorem head? {data : List Datum} (h : Begins d r) (hfinish : r.finish? = some data) :
    data.head? = some d := by
  rw [Begins] at h
  rw [finish?] at hfinish
  split at hfinish
  next houter _ =>
    rw [houter] at h
    rw [← Option.some.inj hfinish, List.head?_reverse]
    exact h
  next houter _ =>
    rw [houter] at h
    rw [← Option.some.inj hfinish, List.head?_reverse]
    exact Bottom.cons h _
  next => cases hfinish

end Begins

end Reader

/-- A list of flags at the start is read as one, whatever comes after it. -/
theorem read?_list {flags : List Bytes} {rest : Bytes} {data : List Datum}
    (hflags : ∀ f ∈ flags, IsFlag f)
    (h : read? (40 :: ([32].intercalate flags ++ 41 :: rest)) = some data) :
    data.head? = some (.list (flags.map .atom)) := by
  obtain ⟨r, hread, hfinish⟩ := Option.bind_eq_some_iff.mp h
  have hlist : rest.foldlM Reader.feed ⟨.between, [.list (flags.map .atom)], []⟩ = some r :=
    (Reader.foldlM_list hflags).symm.trans hread
  have hfirst : Reader.Begins (.list (flags.map .atom)) ⟨.between, [.list (flags.map .atom)], []⟩ :=
    rfl
  exact (hfirst.foldlM hlist).head? hfinish

end Datum

/-! ## Reading a response -/

theorem ImapResponse.ofFrame_eq_ok_iff {frame : Bytes} {r : ImapResponse} :
    ofFrame frame = .ok r ↔ ofLine? (frame.take (frame.length - 2)) = some r := by
  rw [ofFrame]
  split
  next r' hr' => rw [hr', Except.ok.injEq, Option.some.injEq]
  next hnone =>
    rw [hnone]
    exact iff_of_false nofun nofun

namespace ListEntry

variable {e : ListEntry} {sent : List String} {rest : Bytes}

/-- A response to LIST that gives these attributes, and whatever it says after them. -/
def response (sent : List String) (rest : Bytes) : Bytes :=
  utf8 "* LIST (" ++ [32].intercalate (sent.map utf8) ++ 41 :: rest ++ utf8 "\r\n"

/-- What follows the word LIST is read as data. -/
theorem ofLine?_list (data : Bytes) : ImapResponse.ofLine? (utf8 "* LIST " ++ data) =
    (Datum.read? data >>= ofData?).map .folder := by
  have hword : utf8 "* LIST " = [42, 32, 76, 73, 83, 84, 32] := by decide +kernel
  have hfirst : firstWord (utf8 "* LIST " ++ data) = ([42], [76, 73, 83, 84, 32] ++ data) := by
    rw [hword]
    rfl
  have hsecond : firstWord ([76, 73, 83, 84, 32] ++ data) = ([76, 73, 83, 84], data) := rfl
  have hstatus : ServerStatus.read? [76, 73, 83, 84] = none := by decide +kernel
  have hnumber : wireNumber? [76, 73, 83, 84] = none := by decide +kernel
  have hname : Ascii.upper (Utf8.ofLatin1 [76, 73, 83, 84]) = "LIST" := by decide +kernel
  rw [ImapResponse.ofLine?, hfirst]
  show (if ([42] : Bytes) = [43] then _ else if ([42] : Bytes) = [42] then _ else _) = _
  rw [if_neg (by decide), if_pos rfl, ImapResponse.ofUntagged?, hsecond]
  simp only [hstatus, hnumber, hname]
  cases Datum.read? data with
  | none => rfl
  | some data => cases hentry : ofData? data <;> simp [hentry]

/-- The entry that a response is read as comes from the data in it. -/
theorem data_of_response (h : ImapResponse.ofFrame (response sent rest) = .ok (.folder e)) :
    ∃ data, Datum.read? (40 :: ([32].intercalate (sent.map utf8) ++ 41 :: rest)) = some data ∧
      ofData? data = some e := by
  have hline : (response sent rest).take ((response sent rest).length - 2) =
      utf8 "* LIST " ++ 40 :: ([32].intercalate (sent.map utf8) ++ 41 :: rest) := by
    have hopen : utf8 "* LIST (" = utf8 "* LIST " ++ [40] := by decide +kernel
    have hend : (utf8 "\r\n").length = 2 := by decide +kernel
    rw [response, List.length_append, hend, Nat.add_sub_cancel, List.take_left, hopen]
    simp only [List.append_assoc, List.cons_append, List.nil_append]
  rw [ImapResponse.ofFrame_eq_ok_iff, hline, ofLine?_list] at h
  obtain ⟨e', hread, hfolder⟩ := Option.map_eq_some_iff.mp h
  obtain rfl := ImapResponse.folder.inj hfolder
  exact Option.bind_eq_some_iff.mp hread

theorem strings?_atoms (texts : List String) :
    (Datum.list ((texts.map utf8).map .atom)).strings? = some texts := by
  show ((texts.map utf8).map Datum.atom).mapM Datum.string? = some texts
  induction texts with
  | nil => rfl
  | cons s texts ih =>
      have hs : Datum.string? (.atom (utf8 s)) = some s := Utf8.decode?_utf8 s
      rw [List.map_cons, List.map_cons, List.mapM_cons, hs, ih]
      rfl

/-- A folder that is read from a response has the attributes that were sent. -/
theorem attributes_of_response (hsent : ∀ s ∈ sent, FolderAttribute.Listable s)
    (h : ImapResponse.ofFrame (response sent rest) = .ok (.folder e)) :
    e.attributes = sent.map .ofWire := by
  obtain ⟨data, hread, hentry⟩ := data_of_response h
  have hfirst := Datum.read?_list (List.forall_mem_map.mpr fun s hs => (hsent s hs).isFlag) hread
  rw [ofData?.eq_def] at hentry
  split at hentry
  next attributes delimiter name =>
    obtain rfl := Option.some.inj hfirst
    obtain ⟨texts, htexts, hentry⟩ := Option.bind_eq_some_iff.mp hentry
    obtain ⟨missing, _, hentry⟩ := Option.bind_eq_some_iff.mp hentry
    rw [strings?_atoms] at htexts
    obtain rfl := Option.some.inj htexts
    cases missing with
    | some bytes | none =>
        obtain ⟨_, _, hentry⟩ := Option.bind_eq_some_iff.mp hentry
        obtain ⟨_, _, hentry⟩ := Option.bind_eq_some_iff.mp hentry
        rw [← Option.some.inj hentry]
  next => cases hentry

end ListEntry

/-! ## Listed folders -/

namespace ImapMailbox

open FolderAttribute

variable {log : List (Exchange ImapCommand ImapCommand.Reply)} {folders : List Folder}

/-- An attribute that is not known is kept as it was sent, and a listed folder accords with the
attributes that were sent for it, also those of the response that it is read from. -/
theorem listFolders_keeps (h : Holds (perform .listFolders).run log (.ok folders)) :
    (∀ s, Plain s → (extended s).name = s) ∧
      (∀ cs, (∀ c ∈ cs, IsAtomChar c) → Listable (String.ofList ('\\' :: cs))) ∧
      ∃ items, log = [⟨.list, .ok items⟩] ∧ folders = (readable items).map (·.folder) ∧
        ∀ e ∈ readable items, ∀ sent,
          ((∀ s ∈ sent, Plain s) → e.attributes = sent.map .ofWire → e.folder.Accords sent) ∧
            ∀ rest, (∀ s ∈ sent, Listable s) →
              ImapResponse.ofFrame (ListEntry.response sent rest) = .ok (.folder e) →
                e.folder.Accords sent := by
  refine ⟨fun s hs => hs.name_extended, fun cs hcs => listable_of_atom hcs, ?_⟩
  obtain ⟨reply, rfl, ho⟩ := holds_listFolders_iff.mp h
  cases reply with
  | error e => cases ho
  | ok items =>
      refine ⟨items, rfl, Except.ok.inj ho, ?_⟩
      intro e _ sent
      refine ⟨ListEntry.folder_accords, ?_⟩
      intro rest hsent hresponse
      exact ListEntry.folder_accords (fun s hs => (hsent s hs).plain)
        (ListEntry.attributes_of_response hsent hresponse)

/-- A folder for spam that is only listed; another of its attributes has backslashes and a bracket
in it. -/
theorem listFolders_keeps_spam :
    let sent := ["\\A\\\\B[\\", "\\Spam", "\\NonExistent"]
    let rest := utf8 " \"/\" Work/Spam"
    let e : ListEntry := ⟨"Work/Spam", some "/", sent.map .extended⟩
    Holds (perform .listFolders).run [⟨.list, .ok [.ok e]⟩] (.ok [e.folder]) ∧
      (∀ s ∈ sent, Listable s) ∧
      ImapResponse.ofFrame (ListEntry.response sent rest) = .ok (.folder e) ∧
      (extended "\\A\\\\B[\\").name = "\\A\\\\B[\\" ∧ e.folder.Accords sent := by
  intro sent rest e
  have h : Holds (perform .listFolders).run [⟨.list, .ok [.ok e]⟩] (.ok [e.folder]) :=
    holds_listFolders_iff.mpr ⟨.ok [.ok e], rfl, rfl⟩
  have hsent : ∀ s ∈ sent, Listable s :=
    List.forall_mem_cons.mpr ⟨by decide, List.forall_mem_cons.mpr ⟨by decide,
      List.forall_mem_singleton.mpr (by decide)⟩⟩
  have hresponse : ImapResponse.ofFrame (ListEntry.response sent rest) = .ok (.folder e) :=
    ImapResponse.ofFrame_eq_ok_iff.mpr (by decide +kernel)
  obtain ⟨hname, -, items, hlog, -, hfolders⟩ := listFolders_keeps h
  cases hlog
  have haccords := (hfolders e (List.mem_singleton_self e) sent).2 rest hsent hresponse
  exact ⟨h, hsent, hresponse, hname _ (by decide), haccords⟩

end ImapMailbox

end MailSync
