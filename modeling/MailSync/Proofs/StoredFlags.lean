import MailSync.Cache.Store
import MailSync.Imap.Mailbox
import MailSync.Proofs.Flag
import MailSync.Proofs.Reconciliation

/-!
# Stored flags are canonical

The text under which the flags of a message are stored is a normal form. It is
read back as the same flags; and texts that differ only in the order of their
words, their repetitions, the blanks around them or the case of the names of
system flags, and no others, are stored alike.

`FlagSet.ofText_canonical` collects this together with what it is for: the row
that a listed message makes is as seen as the message, and the message asks for
no new flags of it.
-/

namespace MailSync

/-- The flags of a response that lists the words of a text, whatever it says of new keywords, are the
ones that are read from the text. -/
theorem FetchItem.message_flags {item : FetchItem} {s : String}
    (h : Blank.Spaced (item.flags.filter (· ≠ "\\*")) s.toList) :
    item.message.flags = FlagSet.ofText s := by
  have hflags : item.flags.filterMap Flag.ofWire? =
      (item.flags.filter (· ≠ "\\*")).map Flag.ofToken := by
    rw [← List.filterMap_eq_map, List.filterMap_filter]
    congr 1
    funext token
    by_cases htoken : token = "\\*" <;> simp [Flag.ofWire?, htoken]
  rw [FetchItem.message, FlagSet.ofText, hflags, Blank.words_eq_iff.mpr h]

namespace Row

/-- The row of a listed message, where its flags are ones that are read from words. -/
theorem exists_ofRemote? {m : RemoteMessage} {uid : Uid} (huid : m.uid = some uid)
    (hread : ∀ f ∈ m.flags, f.IsRead) (account folderName : String) (encrypted : Option Bool)
    (isNew : Bool) : ∃ r, ofRemote? account folderName m encrypted isNew = some r ∧ r.uid = uid ∧
      r.flags = some (FlagSet.text m.flags) ∧ r.isSeen = FlagSet.isSeen m.flags := by
  refine ⟨_, by rw [ofRemote?, huid, Option.map_some], rfl, rfl, ?_⟩
  rw [isSeen, Option.any_some, FlagSet.ofText_text hread]

end Row

/-- Flags that are stored as they are listed are up to date. -/
theorem Reconciliation.not_mem_toUpdate {cached : Snapshot} {m : RemoteMessage} {uid : Uid}
    (huid : m.uid = some uid) (hcached : cached.get? uid = some (some (FlagSet.text m.flags)))
    (hread : ∀ f ∈ m.flags, f.IsRead) (remote : List RemoteMessage) : m ∉ toUpdate cached remote := by
  rw [mem_toUpdate_iff_of_get? huid hcached, Option.getD_some, FlagSet.matchesStored_text hread]
  exact fun hm => Bool.noConfusion hm.2

namespace FlagSet

/-- What makes the text under which the flags of `s` are stored a canonical one. -/
structure Canonical (s : String) : Prop where
  readBack : ofText (text (ofText s)) = ofText s
  /-- The stored text, read and stored again, is the same. -/
  fixed : text (ofText (text (ofText s))) = text (ofText s)
  /-- Two texts are stored alike exactly if either has all the words of the other, where the name
  of a system flag may be in any case. -/
  respelled : ∀ s' ws ws', Blank.Spaced ws s.toList → Blank.Spaced ws' s'.toList →
    (text (ofText s') = text (ofText s) ↔ Flag.Covers ws ws' ∧ Flag.Covers ws' ws)
  injective : ∀ s', text (ofText s') = text (ofText s) ↔ ofText s' = ofText s
  matched : matchesStored (ofText s) (text (ofText s)) = true
  /-- Such flags are the ones of a response that lists the words of `s`. -/
  served : ∀ item : FetchItem, Blank.Spaced (item.flags.filter (· ≠ "\\*")) s.toList →
    item.message.flags = ofText s
  /-- The row of a message with these flags is as seen as the message, and up to date. -/
  row : ∀ (m : RemoteMessage) (uid : Uid), m.flags = ofText s → m.uid = some uid →
    ∀ account folderName encrypted isNew,
      ∃ r, Row.ofRemote? account folderName m encrypted isNew = some r ∧ r.uid = uid ∧
        r.isSeen = isSeen m.flags ∧
        ∀ (cached : Snapshot) (remote : List RemoteMessage), cached.get? uid = some r.flags →
          m ∉ Reconciliation.toUpdate cached remote

/-- Flags are stored under a canonical text. -/
theorem ofText_canonical (s : String) : Canonical s := by
  have hread : ∀ s, ∀ f ∈ ofText s, f.IsRead := fun s f => isRead_of_mem_ofText
  have hback : ofText (text (ofText s)) = ofText s := ofText_text (hread s)
  constructor
  case readBack => exact hback
  case fixed => rw [hback]
  case respelled =>
    intro s' ws ws' hws hws'
    rw [text_inj (hread s') (hread s), ofText_eq_iff, Blank.words_eq_iff.mpr hws,
      Blank.words_eq_iff.mpr hws']
  case injective => exact fun s' => text_inj (hread s') (hread s)
  case matched => exact matchesStored_text (hread s)
  case served => exact fun item => FetchItem.message_flags
  case row =>
    intro m uid hflags huid account folderName encrypted isNew
    have hm : ∀ f ∈ m.flags, f.IsRead := by
      rw [hflags]
      exact hread s
    obtain ⟨r, hr, hnumber, hstored, hseen⟩ :=
      Row.exists_ofRemote? huid hm account folderName encrypted isNew
    refine ⟨r, hr, hnumber, hseen, fun cached remote hcached => ?_⟩
    rw [hstored] at hcached
    exact Reconciliation.not_mem_toUpdate huid hcached hm remote

example : text (ofText " $Work\t\\SEEN \\Flagged\u00a0\\seen ") = "\\Flagged \\Seen $Work" := by
  decide +kernel

end FlagSet

end MailSync
