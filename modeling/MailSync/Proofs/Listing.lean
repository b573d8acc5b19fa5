import MailSync.Proofs.Mailbox
import MailSync.Proofs.Sync

/-!
# What a listing over IMAP deletes

A synchronisation takes what the fetch brought for the whole folder. Only
numbers of items that could be read are listed, so a number is deleted from
the cache if no readable item carries it (`syncFolder_deletes`), also where an
item that could not be read was about it (`syncFolder_deletes_unread`).
-/

namespace MailSync

open Dialogue

/-- What a server answers while it has `count` messages, and fetches the flags of all as `items`. -/
def ImapMailbox.Yields (count : UInt32) (items : List (Except ImapError FetchItem)) :
    (c : ImapCommand) → c.Reply → Prop
  | .select _, .ok status => status.messages = count
  | .uidFetch set .flags, .ok items' => set = "1:*" → items' = items
  | _, _ => True

namespace Task

/-- The replies of a session over IMAP with a server that yields these items, while the cache is
kept in memory. -/
def ListsOver (count : UInt32) (items : List (Except ImapError FetchItem)) (cache : Store) :
    (q : Request) → q.Reply → Prop
  | .outside (.session _ c), reply => ∃ log, Holds (ImapMailbox.perform c).run log reply ∧
      ∀ x ∈ log, ImapMailbox.Yields count items x.question x.reply
  | .outside (.store c), reply => reply = .ok (cache.perform c).1
  | _, _ => True

variable {p : Profile} {s : SessionId} {folder : Folder} {count : UInt32}
  {items : List (Except ImapError FetchItem)} {cache : Store}
  {log : List (Exchange Request Request.Reply)} {report : Report}

theorem listing_lists {status : FolderStatus} {remote : List RemoteMessage}
    (h : Holds (listing s status).run log (.ok remote))
    (hlog : ∀ x ∈ log, ListsOver count items cache x.question x.reply) :
    remote = if status.messages = 0 then [] else (readable items).map (·.message) := by
  rw [listing] at h
  split
  next hzero =>
    rw [if_pos hzero] at h
    obtain ⟨-, hremote⟩ := holds_done_iff.mp h
    exact Except.ok.inj hremote
  next hsome =>
    rw [if_neg hsome] at h
    obtain rfl := Trial.holds_outside_iff.mp h
    obtain ⟨log', hfetch, hyields⟩ := hlog _ (List.mem_singleton_self _)
    obtain ⟨reply, rfl, ho⟩ := ImapMailbox.holds_fetchFlags_iff.mp hfetch
    cases reply with
    | error e => cases ho
    | ok items' =>
        obtain rfl : items' = items := hyields _ (List.mem_singleton_self _) rfl
        exact Except.ok.inj ho

theorem select_yields {status : FolderStatus}
    (h : Holds (Trial.session s (.select folder.fullName)).run log (.ok status))
    (hlog : ∀ x ∈ log, ListsOver count items cache x.question x.reply) :
    status.messages = count := by
  obtain rfl := Trial.holds_outside_iff.mp h
  obtain ⟨log', hselect, hyields⟩ := hlog _ (List.mem_singleton_self _)
  obtain ⟨reply, rfl, ho⟩ := ImapMailbox.holds_select_iff.mp hselect
  cases reply with
  | error e => cases ho
  | ok status' =>
      obtain rfl := Except.ok.inj ho
      exact hyields _ (List.mem_singleton_self _)

theorem snapshot_shows {cached : Snapshot}
    (h : Holds (snapshot p folder).run log (.ok cached))
    (hlog : ∀ x ∈ log, ListsOver count items cache x.question x.reply) :
    cached = cache.uidFlags p.email folder.shortName := by
  obtain rfl := Trial.holds_outside_iff.mp h
  exact Except.ok.inj (hlog _ (List.mem_singleton_self _))

/-- What a synchronisation over IMAP deletes: what is cached and carried by no item that could be
read. So it deletes nothing that a complete listing shows. -/
theorem syncFolder_deletes (h : Holds (syncFolder p s folder).run log (.ok report))
    (hlog : ∀ x ∈ log, ListsOver count items cache x.question x.reply) :
    ∃ new updated deleted states notify,
      report = .refreshed folder new updated deleted states notify ∧
      ∀ uid, uid ∈ deleted ↔ (cache.get? p.email folder.shortName uid).isSome ∧
        (count ≠ 0 → ∀ f, .ok f ∈ items → f.keptUid? ≠ some uid) := by
  rw [syncFolder] at h
  obtain ⟨before, _, status, rfl, hselect, h⟩ := Attempt.holds_bind_ok_iff.mp h
  obtain ⟨before', _, remote, rfl, hlisting, h⟩ := Attempt.holds_bind_ok_iff.mp h
  obtain ⟨before'', _, cached, rfl, hsnapshot, h⟩ := Attempt.holds_bind_ok_iff.mp h
  obtain ⟨_, _, new, rfl, -, h⟩ := Attempt.holds_bind_ok_iff.mp h
  obtain ⟨_, _, states, rfl, -, h⟩ := Attempt.holds_bind_ok_iff.mp h
  obtain ⟨_, _, notify, rfl, -, h⟩ := Attempt.holds_bind_ok_iff.mp h
  obtain ⟨-, hreport⟩ := holds_done_iff.mp h
  rw [List.forall_mem_append, List.forall_mem_append, List.forall_mem_append] at hlog
  have hstatus := select_yields hselect hlog.1
  have hremote := listing_lists hlisting hlog.2.1
  have hcached := snapshot_shows hsnapshot hlog.2.2.1
  refine ⟨new, _, _, states, notify, Except.ok.inj hreport, ?_⟩
  intro uid
  rw [Reconciliation.mem_delete_iff, hcached, Store.get?_uidFlags, Option.isSome_map]
  refine and_congr_right fun _ => ?_
  rw [Reconciliation.mem_uids_iff, hremote, hstatus]
  split
  next hzero => simp [hzero]
  next hsome =>
    constructor
    · intro hunlisted _ f hf huid
      exact hunlisted ⟨f.message, List.mem_map_of_mem (mem_readable_iff.mpr hf), huid⟩
    · rintro hunread ⟨m, hm, huid⟩
      obtain ⟨f, hf, rfl⟩ := List.mem_map.mp hm
      exact hunread hsome f (mem_readable_iff.mp hf) huid

/-- The conversation of a synchronisation that finds nothing new. -/
theorem syncFolder_holds_of_cached (status : FolderStatus) {remote : List RemoteMessage}
    {cached : Snapshot} (hsome : status.messages ≠ 0)
    (hcached : (Reconciliation.diff cached remote).insert.isEmpty = true) (foreground : Bool) :
    Holds (syncFolder p s folder).run
      [⟨.outside (.session s (.select folder.fullName)), .ok status⟩,
        ⟨.outside (.session s (.fetchFlags "1:*")), .ok remote⟩,
        ⟨.outside (.store (.uidFlags p.email folder.shortName)), .ok cached⟩,
        ⟨.inside .isForeground, foreground⟩]
      (.ok (.refreshed folder [] (within (Reconciliation.diff cached remote).update remote)
        (Reconciliation.diff cached remote).delete ∅ (!foreground && folder.isInbox))) := by
  have hlisting : Holds (listing s status).run
      [⟨.outside (.session s (.fetchFlags "1:*")), .ok remote⟩] (.ok remote) := by
    rw [listing, if_neg hsome]
    exact Trial.holds_outside_iff.mpr rfl
  have hheaders : Holds (headersOf s (Reconciliation.diff cached remote).insert).run [] (.ok []) := by
    rw [headersOf, if_pos hcached]
    exact .done _
  have hstates : Holds (encryptionStates p.settings s []).run [] (.ok ∅) := by
    rw [encryptionStates]
    split
    next => exact .done _
    next => exact .done _
  rw [syncFolder]
  refine Attempt.holds_bind_ok_iff.mpr ⟨[_], _, status, rfl, Trial.holds_outside_iff.mpr rfl, ?_⟩
  refine Attempt.holds_bind_ok_iff.mpr ⟨[_], _, remote, rfl, hlisting, ?_⟩
  refine Attempt.holds_bind_ok_iff.mpr ⟨[_], _, cached, rfl, Trial.holds_outside_iff.mpr rfl, ?_⟩
  refine Attempt.holds_bind_ok_iff.mpr ⟨[], _, [], rfl, hheaders, ?_⟩
  refine Attempt.holds_bind_ok_iff.mpr ⟨[], _, ∅, rfl, hstates, ?_⟩
  exact .ask (.done _)

/-- Of two messages that are cached and held by the server, the fetch brings one and fails to bring
the other, which is deleted. -/
theorem syncFolder_deletes_unread :
    let items : List (Except ImapError FetchItem) := [.ok ⟨[.uid 1]⟩, .error .connectionLost]
    let cached : Store := (Store.empty.addRows
      [⟨"me", "INBOX", 1, none, none, false, .empty⟩,
        ⟨"me", "INBOX", 2, none, none, false, .empty⟩]).2
    ∃ log new updated deleted states notify,
      Holds (syncFolder ⟨"me", .default⟩ 0 .inbox).run log
        (.ok (.refreshed .inbox new updated deleted states notify)) ∧
      (∀ x ∈ log, ListsOver 2 items cached x.question x.reply) ∧ 2 ∈ deleted := by
  intro items cached
  let listed := (readable items).map (·.message)
  have hcached : (cached.get? "me" "INBOX" 2).isSome = true := by decide +kernel
  have hinsert : (Reconciliation.diff (cached.uidFlags "me" "INBOX") listed).insert.isEmpty =
      true := by decide +kernel
  have hselect : ListsOver 2 items cached (.outside (.session 0 (.select "INBOX")))
      (.ok ⟨2, none, none⟩) :=
    ⟨_, ImapMailbox.holds_select_iff.mpr ⟨.ok ⟨2, none, none⟩, rfl, rfl⟩,
      List.forall_mem_singleton.mpr rfl⟩
  have hfetch : ListsOver 2 items cached (.outside (.session 0 (.fetchFlags "1:*"))) (.ok listed) :=
    ⟨_, ImapMailbox.holds_fetchFlags_iff.mpr ⟨.ok items, rfl, rfl⟩,
      List.forall_mem_singleton.mpr fun _ => rfl⟩
  let log : List (Exchange Request Request.Reply) :=
    [⟨.outside (.session 0 (.select "INBOX")), .ok ⟨2, none, none⟩⟩,
      ⟨.outside (.session 0 (.fetchFlags "1:*")), .ok listed⟩,
      ⟨.outside (.store (.uidFlags "me" "INBOX")), .ok (cached.uidFlags "me" "INBOX")⟩,
      ⟨.inside .isForeground, false⟩]
  have h : Holds (syncFolder ⟨"me", .default⟩ 0 .inbox).run log _ :=
    syncFolder_holds_of_cached ⟨2, none, none⟩ (by decide) hinsert false
  have hlog : ∀ x ∈ log, ListsOver 2 items cached x.question x.reply :=
    List.forall_mem_cons.mpr ⟨hselect, List.forall_mem_cons.mpr ⟨hfetch,
      List.forall_mem_cons.mpr ⟨rfl, List.forall_mem_singleton.mpr trivial⟩⟩⟩
  obtain ⟨new, updated, deleted, states, notify, hreport, hdeleted⟩ := syncFolder_deletes h hlog
  rw [hreport] at h
  refine ⟨log, new, updated, deleted, states, notify, h, hlog, (hdeleted 2).mpr ⟨hcached, ?_⟩⟩
  rintro - f hf
  obtain rfl : f = ⟨[.uid 1]⟩ := by simpa [items] using hf
  decide

end Task

end MailSync
