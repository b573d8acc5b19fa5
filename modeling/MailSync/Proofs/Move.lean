import Mathlib.Data.List.Nodup
import MailSync.Proofs.Mailbox
import MailSync.Proofs.Server

/-!
# Moving messages

Messages are copied, marked and removed, by one command each. Only the first
is looked at closely: if it fails, nothing else is done
(`ImapMailbox.Moving`). So a move leaves either the mail as it was, or copies
of all messages in the set, with or without what was to follow
(`ImapMailbox.move_outcome`).
-/

namespace MailSync

open Dialogue StoredMessage ListEntry Server
open RehearsedAccount (inSet)

/-! ## What is left -/

namespace StoredMessage

/-- What is left of a mailbox in which a set may have been marked, and which may have been
expunged. -/
def leave (set : String) (stored expunged : Bool) (ms : List StoredMessage) : List StoredMessage :=
  let marked := if stored then markSet set ms else ms
  if expunged then purge marked else marked

/-- Whether a message does not stay: it is expunged, and was marked before or is marked now. -/
def gone (uids : List Uid) (stored expunged : Bool) (m : StoredMessage) : Bool :=
  expunged && (m.isDeleted || (stored && uids.contains m.uid))

theorem inSet_ofList {uids : List Uid} (h : uids ≠ []) (ms : List StoredMessage)
    (m : StoredMessage) : inSet ms (SequenceSet.ofList uids) m = uids.contains m.uid := by
  rw [Bool.eq_iff_iff, inSet, SequenceSet.contains_ofList _ h, List.contains_iff_mem]

theorem filter_inSet_ofList {uids : List Uid} (h : uids ≠ []) (ms : List StoredMessage) :
    ms.filter (inSet ms (SequenceSet.ofList uids)) = ms.filter (uids.contains ·.uid) :=
  List.filter_congr fun m _ => inSet_ofList h ms m

def afterMark (uids : List Uid) (stored : Bool) (m : StoredMessage) : StoredMessage :=
  if stored && uids.contains m.uid then m.marked else m

theorem isDeleted_afterMark (uids : List Uid) (stored : Bool) (m : StoredMessage) :
    (afterMark uids stored m).isDeleted = (m.isDeleted || (stored && uids.contains m.uid)) := by
  rw [afterMark]
  split
  next hmarked => rw [hmarked, marked_isDeleted, Bool.or_true]
  next hkept => rw [Bool.not_eq_true _ |>.mp hkept, Bool.or_false]

theorem leave_eq {uids : List Uid} (h : uids ≠ []) (stored expunged : Bool)
    (ms : List StoredMessage) : leave (SequenceSet.ofList uids) stored expunged ms =
      (ms.filter (!gone uids stored expunged ·)).map (afterMark uids stored) := by
  have hmarked : (if stored then markSet (SequenceSet.ofList uids) ms else ms) =
      ms.map (afterMark uids stored) := by
    cases stored with
    | false => exact (List.map_id' ms).symm
    | true => exact List.map_congr_left fun m _ => by rw [inSet_ofList h, afterMark, Bool.true_and]
  rw [leave, hmarked]
  cases expunged with
  | false => simp [gone]
  | true =>
      rw [if_pos rfl, purge, List.filter_map]
      congr 1
      refine List.filter_congr fun m _ => ?_
      rw [Function.comp_apply, isDeleted_afterMark, gone, Bool.true_and]

/-- A message that is to stay: it was not marked before, and is not in the set. -/
def stays (uids : List Uid) (m : StoredMessage) : Bool := !(m.isDeleted || uids.contains m.uid)

section Stays

variable {uids : List Uid} {m : StoredMessage}

theorem stays_iff : m.stays uids = true ↔ m.isDeleted = false ∧ uids.contains m.uid = false := by
  rw [stays, Bool.not_eq_true', Bool.or_eq_false_iff]

theorem gone_of_stays (h : m.stays uids = true) (stored expunged : Bool) :
    gone uids stored expunged m = false := by
  obtain ⟨hdeleted, huid⟩ := stays_iff.mp h
  rw [gone, hdeleted, huid, Bool.and_false, Bool.or_false, Bool.and_false]

theorem afterMark_of_stays (h : m.stays uids = true) (stored : Bool) :
    afterMark uids stored m = m := by
  rw [afterMark, (stays_iff.mp h).2, Bool.and_false]
  exact if_neg Bool.false_ne_true

end Stays

theorem map_afterMark_stays (uids : List Uid) (stored : Bool) (ms : List StoredMessage) :
    (ms.filter (·.stays uids)).map (afterMark uids stored) = ms.filter (·.stays uids) :=
  (List.map_congr_left fun _ hm =>
    afterMark_of_stays (List.mem_filter.mp hm).2 stored).trans (List.map_id _)

theorem leave_removed {uids : List Uid} (h : uids ≠ []) (ms : List StoredMessage) :
    leave (SequenceSet.ofList uids) true true ms = ms.filter (·.stays uids) :=
  (leave_eq h true true ms).trans (map_afterMark_stays uids true ms)

theorem sublist_leave {uids : List Uid} (h : uids ≠ []) (stored expunged : Bool)
    (ms : List StoredMessage) : (ms.filter (·.stays uids)).Sublist
      (leave (SequenceSet.ofList uids) stored expunged ms) := by
  rw [leave_eq h, ← map_afterMark_stays uids stored]
  refine (List.monotone_filter_right ms fun m hm => ?_).map _
  rw [gone_of_stays hm, Bool.not_false]

end StoredMessage

/-- The mail after messages were copied, by what else was carried out. -/
def Mail.moved (mail : Mail) (set source destination : String) (copies : List StoredMessage)
    (stored expunged : Bool) : Mail :=
  (mail.modify destination (· ++ copies)).modify source (leave set stored expunged)

namespace Mail

variable {mail : Mail} {set source destination : String} {copies : List StoredMessage}

theorem moved_copied (mail : Mail) (set source destination : String) (copies : List StoredMessage) :
    mail.moved set source destination copies false false = mail.modify destination (· ++ copies) :=
  modify_id ..

theorem moved_expunged (stored : Bool) :
    mail.moved set source destination copies stored true =
      (mail.moved set source destination copies stored false).modify source purge := by
  rw [moved, moved, modify_modify]
  rfl

theorem moved_source (stored expunged : Bool) {ms : List StoredMessage} (h : mail source = some ms) :
    mail.moved set source destination copies stored expunged source =
      some (leave set stored expunged (if source = destination then ms ++ copies else ms)) := by
  rw [moved, modify_self]
  split
  next heq =>
    subst heq
    rw [modify_self, h]
    rfl
  next hne =>
    rw [modify_of_ne mail hne, h]
    rfl

theorem moved_destination (stored expunged : Bool) (hne : source ≠ destination)
    {ds : List StoredMessage} (h : mail destination = some ds) :
    mail.moved set source destination copies stored expunged destination = some (ds ++ copies) := by
  rw [moved, modify_of_ne _ hne.symm, modify_self, h]
  rfl

theorem moved_other (stored expunged : Bool) {name : String} (hsource : name ≠ source)
    (hdestination : name ≠ destination) :
    mail.moved set source destination copies stored expunged name = mail name := by
  rw [moved, modify_of_ne _ hsource, modify_of_ne _ hdestination]

end Mail

/-- What a move comes to if everything was carried out. -/
structure Mail.Transferred (uids : List Uid) (source destination : String) (mail mail' : Mail)
    (ms ds copies : List StoredMessage) : Prop where
  hsource : mail source = some ms
  hdestination : mail destination = some ds
  /-- The messages of the set are copied, and no others. -/
  hcopies : List.Forall₂ IsCopy (ms.filter (uids.contains ·.uid)) copies
  /-- The source loses the set, and what was marked in it before. -/
  left : mail' source =
    some ((if source = destination then ms ++ copies else ms).filter (·.stays uids))
  gained : source ≠ destination → mail' destination = some (ds ++ copies)
  other : ∀ name, name ≠ source → name ≠ destination → mail' name = mail name

section Copies

variable {s : State} {uids : List Uid} {source destination : String} {ms ds copies : List StoredMessage}

/-- Nothing is copied for an empty list, whose text is empty. -/
theorem Server.Copied.nonempty
    (h : Copied s (SequenceSet.ofList uids) destination source ms ds copies) : uids ≠ [] := by
  rintro rfl
  exact h.hset rfl

theorem Server.Copied.transferred
    (h : Copied s (SequenceSet.ofList uids) destination source ms ds copies) :
    Mail.Transferred uids source (spelled destination) s.mail
      (s.mail.moved (SequenceSet.ofList uids) source (spelled destination) copies true true)
      ms ds copies where
  hsource := h.hsource
  hdestination := h.hdestination
  hcopies := by
    have hcopies := h.hcopies
    rwa [filter_inSet_ofList h.nonempty] at hcopies
  left := by rw [Mail.moved_source true true h.hsource, leave_removed h.nonempty]
  gained hne := Mail.moved_destination true true hne h.hdestination
  other _ hsource hdestination := Mail.moved_other true true hsource hdestination

end Copies

namespace ImapMailbox

variable {set destination : String} {log : List (Exchange ImapCommand ImapCommand.Reply)}
  {o : Except MailError Unit} {s s' : State}

/-- The conversation of a move, up to the first command that fails. -/
inductive Moving (set destination : String) :
    List (Exchange ImapCommand ImapCommand.Reply) → Except MailError Unit → Prop where
  | uncopied (e : ImapError) : Moving set destination [⟨.uidCopy set destination, .error e⟩]
      (.error (e.ofCall ("UID COPY to " ++ destination)))
  | unmarked (e : ImapError) : Moving set destination
      [⟨.uidCopy set destination, .ok ()⟩, ⟨.uidStoreDeleted set, .error e⟩]
      (.error (e.ofCall "UID STORE"))
  | expunged (reply : ImapCommand.expunge.Reply) : Moving set destination
      [⟨.uidCopy set destination, .ok ()⟩, ⟨.uidStoreDeleted set, .ok ()⟩, ⟨.expunge, reply⟩]
      (reply.mapError (·.ofCall "EXPUNGE"))

theorem move_log (h : Holds (move set destination).run log o) : Moving set destination log o := by
  rcases Attempt.holds_bind_iff.mp h with ⟨e, hcopy, rfl⟩ | ⟨copied, log₁, _, rfl, hcopy, h₁⟩
  · obtain ⟨reply, rfl, ho⟩ := holds_send_iff.mp hcopy
    cases reply with
    | ok _ => cases ho
    | error e =>
        cases ho
        exact .uncopied e
  obtain ⟨reply, rfl, ho⟩ := holds_send_iff.mp hcopy
  cases reply with
  | error e => cases ho
  | ok _ =>
      rcases Attempt.holds_bind_iff.mp h₁ with ⟨e, hstore, rfl⟩ | ⟨stored, log₂, _, rfl, hstore, h₂⟩
      · obtain ⟨reply, rfl, ho⟩ := holds_send_iff.mp hstore
        cases reply with
        | ok _ => cases ho
        | error e =>
            cases ho
            exact .unmarked e
      · obtain ⟨reply, rfl, ho⟩ := holds_send_iff.mp hstore
        cases reply with
        | error e => cases ho
        | ok _ =>
            obtain ⟨reply, rfl, rfl⟩ := holds_send_iff.mp h₂
            exact .expunged reply

/-- What a move can come to: a failure that leaves the mail as it was, or copies of all messages
in the set. -/
inductive MoveOutcome (set destination : String) (s : State) : Except MailError Unit → Mail → Prop where
  | kept (e : MailError) : MoveOutcome set destination s (.error e) s.mail
  | copied {o : Except MailError Unit} {source : String} {ms ds copies : List StoredMessage}
    (stored expunged : Bool) (h : Copied s set destination source ms ds copies) :
    MoveOutcome set destination s o
      (s.mail.moved set source (spelled destination) copies stored expunged)

theorem copied_marked {reply : (ImapCommand.uidStoreDeleted set).Reply}
    (hlog : Along Serves s [⟨.uidCopy set destination, .ok ()⟩, ⟨.uidStoreDeleted set, reply⟩] s') :
    ∃ source ms ds copies stored, Copied s set destination source ms ds copies ∧
      s'.line.selected = some source ∧
      s'.mail = s.mail.moved set source (spelled destination) copies stored false := by
  -- The copy was confirmed, so it is there; of the mark nobody can say.
  obtain ⟨s₁, hcopy, hlog⟩ := along_cons_iff.mp hlog
  have hstore := along_singleton_iff.mp hlog
  obtain ⟨hselected, ⟨-, e, he⟩ | ⟨source, ms, ds, copies, hcopied, hmail⟩⟩ := hcopy.copy
  · cases he
  rw [hcopied.hselected] at hselected
  obtain ⟨hselected', hstored | ⟨source', hsource, hstored⟩⟩ := hstore.store
  · refine ⟨source, ms, ds, copies, false, hcopied, hselected'.trans hselected, ?_⟩
    rw [hstored, hmail, Mail.moved_copied]
  · obtain rfl := Option.some.inj (hselected.symm.trans hsource)
    refine ⟨source, ms, ds, copies, true, hcopied, hselected'.trans hselected, ?_⟩
    rw [hstored, hmail]
    rfl

/-- Whatever is refused and wherever the connection breaks, a move leaves the mail as it was and
fails, or has copied everything. -/
theorem move_outcome (h : Holds (move set destination).run log o) (hlog : Along Serves s log s') :
    MoveOutcome set destination s o s'.mail := by
  cases move_log h with
  | uncopied e =>
      -- A failure may be all that was heard of a copy that was made.
      obtain ⟨-, ⟨hmail, -⟩ | ⟨source, ms, ds, copies, hcopied, hmail⟩⟩ :=
        (along_singleton_iff.mp hlog).copy
      · rw [hmail]
        exact .kept _
      · rw [hmail, ← Mail.moved_copied _ set source]
        exact .copied false false hcopied
  | unmarked e =>
      obtain ⟨source, ms, ds, copies, stored, hcopied, -, hmail⟩ := copied_marked hlog
      rw [hmail]
      exact .copied stored false hcopied
  | expunged reply =>
      have hsplit : Along Serves s ([⟨.uidCopy set destination, .ok ()⟩,
          ⟨.uidStoreDeleted set, .ok ()⟩] ++ [⟨.expunge, reply⟩]) s' := hlog
      obtain ⟨s₂, hbefore, hlast⟩ := along_append_iff.mp hsplit
      obtain ⟨source, ms, ds, copies, stored, hcopied, hselected, hmail⟩ := copied_marked hbefore
      rcases (along_singleton_iff.mp hlast).expunge with hkept | ⟨source', hsource, hexpunged⟩
      · rw [hkept, hmail]
        exact .copied stored false hcopied
      · obtain rfl := Option.some.inj (hselected.symm.trans hsource)
        rw [hexpunged, hmail, ← Mail.moved_expunged]
        exact .copied stored true hcopied

/-! ## A move that reports success -/

/-- With a server that removes what it is asked to, a move that reports success has done all. -/
theorem move_transfers {uids : List Uid}
    (h : Holds (move (SequenceSet.ofList uids) destination).run log (.ok ()))
    (hlog : Along Obeys s log s') : ∃ source ms ds copies, s.line.cut = false ∧
      s.line.selected = some source ∧
      Mail.Transferred uids source (spelled destination) s.mail s'.mail ms ds copies := by
  obtain ⟨reply, rfl⟩ : ∃ reply, log = [⟨.uidCopy (SequenceSet.ofList uids) destination, .ok ()⟩,
      ⟨.uidStoreDeleted (SequenceSet.ofList uids), .ok ()⟩, ⟨.expunge, reply⟩] := by
    generalize ho : (Except.ok () : Except MailError Unit) = o at h
    cases move_log h with
    | uncopied _ | unmarked _ => cases ho
    | expunged reply => exact ⟨reply, rfl⟩
  obtain ⟨s₁, hcopy, hlog⟩ := along_cons_iff.mp hlog
  obtain ⟨s₂, hstore, hlog⟩ := along_cons_iff.mp hlog
  have hexpunge := along_singleton_iff.mp hlog
  obtain ⟨hselected, ⟨-, e, he⟩ | ⟨source, ms, ds, copies, hcopied, hmail⟩⟩ := hcopy.serves.copy
  · cases he
  rw [hcopied.hselected] at hselected
  obtain ⟨hselected₂, _, hsource, hmarked⟩ := (hstore.effect rfl).marks
  obtain rfl := Option.some.inj (hselected.symm.trans hsource)
  obtain ⟨-, _, hsource, hpurged⟩ := (hexpunge.effect rfl).purges
  obtain rfl := Option.some.inj ((hselected₂.trans hselected).symm.trans hsource)
  refine ⟨source, ms, ds, copies, hcopied.hline, hcopied.hselected, ?_⟩
  rw [hpurged, hmarked, hmail, Mail.modify_modify]
  exact hcopied.transferred

/-! ## Moves that a server allows -/

section Allowed

variable {source : String} {ms ds copies : List StoredMessage}

theorem copy_allowed (h : Copied s set destination source ms ds copies)
    (hname : ∃ text, ImapClient.quoted destination = .ok text) :
    Obeys s ⟨.uidCopy set destination, .ok ()⟩
      ⟨s.mail.modify (spelled destination) (· ++ copies), s.line⟩ := by
  obtain ⟨mail, selected, cut⟩ := s
  obtain ⟨hline, hset, hselected, hsource, hdestination, hcopies, hnumbers⟩ := h
  obtain rfl : cut = false := hline
  obtain ⟨text, hname⟩ := hname
  have hsent : (ImapCommand.uidCopy set destination).line = .ok ("UID COPY " ++ set ++ " " ++ text) := by
    rw [ImapCommand.line, hname]
    rfl
  exact (Effect.copy hset hselected hsource hdestination hcopies hnumbers).obeys hsent

theorem exists_moved (h : Copied s set destination source ms ds copies)
    (hname : ∃ text, ImapClient.quoted destination = .ok text) :
    ∃ log, Holds (move set destination).run log (.ok ()) ∧ Along Obeys s log
      ⟨s.mail.moved set source (spelled destination) copies true true, s.line⟩ := by
  have hcopy := copy_allowed h hname
  obtain ⟨mail, selected, cut⟩ := s
  obtain rfl : cut = false := h.hline
  have hstore : Effect (mail.modify (spelled destination) (· ++ copies)) selected
      (.uidStoreDeleted set) _ selected := .store h.hset h.hselected
  have hexpunge : Effect ((mail.modify (spelled destination) (· ++ copies)).modify source (markSet set))
      selected .expunge _ selected := .expunge h.hselected
  have hmove : Holds (move set destination).run [⟨.uidCopy set destination, .ok ()⟩,
      ⟨.uidStoreDeleted set, .ok ()⟩, ⟨.expunge, .ok ()⟩] (.ok ()) := .ask (.ask (.ask (.done _)))
  refine ⟨_, hmove, .cons hcopy (.cons (hstore.obeys rfl) (.cons (hexpunge.obeys rfl) ?_))⟩
  rw [Mail.moved_expunged]
  exact .nil _

theorem exists_broken (h : Copied s set destination source ms ds copies)
    (hname : ∃ text, ImapClient.quoted destination = .ok text) :
    ∃ log e s', Holds (move set destination).run log (.error e) ∧ Along Serves s log s' ∧
      s'.mail = s.mail.moved set source (spelled destination) copies false false := by
  have hmove : Holds (move set destination).run [⟨.uidCopy set destination, .ok ()⟩,
      ⟨.uidStoreDeleted set, .error .connectionLost⟩]
      (.error (ImapError.connectionLost.ofCall "UID STORE")) := .ask (.ask (.done _))
  have hbroken : Answers ⟨s.mail.modify (spelled destination) (· ++ copies), s.line⟩
      (.uidStoreDeleted set) (.error .connectionLost) _ := .unheard nofun (.inl rfl)
  refine ⟨_, _, _, hmove, .cons (copy_allowed h hname).serves
    (.cons (.answered rfl hbroken) (.nil _)), ?_⟩
  rw [Mail.moved_copied]

end Allowed

end ImapMailbox

end MailSync
