import MailSync.Imap.Mailbox
import MailSync.Proofs.Dialogue

/-!
# What a mailbox says

The calls of a session that come down to one command, read as conversations:
which command is sent, and how the outcome of the call follows from the
reply (`holds_listFolders_iff`, `holds_fetchFlags_iff`). An item that cannot
be read is in no outcome.
-/

namespace MailSync

open Dialogue

theorem mem_readable_iff {ε α : Type} {items : List (Except ε α)} {a : α} :
    a ∈ readable items ↔ .ok a ∈ items := by
  rw [readable, List.mem_filterMap]
  constructor
  · rintro ⟨item, hitem, htoOption⟩
    cases item with
    | ok a' =>
        obtain rfl : a' = a := Option.some.inj htoOption
        exact hitem
    | error e => cases htoOption
  · intro h
    exact ⟨.ok a, h, rfl⟩

namespace ImapMailbox

variable {context : String} {c : ImapCommand} {log : List (Exchange ImapCommand ImapCommand.Reply)}

theorem holds_send_iff {o : Except MailError c.Value} : Holds (send context c).run log o ↔
    ∃ reply : c.Reply, log = [⟨c, reply⟩] ∧ o = reply.mapError (·.ofCall context) := by
  rw [send, ExceptT.run_mk, holds_bind_iff]
  constructor
  · rintro ⟨before, after, reply, rfl, hcall, hafter⟩
    obtain rfl := holds_call_iff.mp hcall
    refine ⟨reply, ?_⟩
    cases reply with
    | ok value | error e =>
        obtain ⟨rfl, rfl⟩ := holds_pure_iff.mp hafter
        exact ⟨rfl, rfl⟩
  · rintro ⟨reply, rfl, rfl⟩
    refine ⟨[⟨c, reply⟩], [], reply, rfl, holds_call_iff.mpr rfl, ?_⟩
    cases reply with
    | ok value | error e => exact holds_pure_iff.mpr ⟨rfl, rfl⟩

/-- A call of one command. -/
theorem holds_send_map_iff {α : Type} {f : c.Value → α} {o : Except MailError α} :
    Holds (send context c >>= fun value => pure (f value) : Commands α).run log o ↔
      ∃ reply : c.Reply, log = [⟨c, reply⟩] ∧ o = (reply.mapError (·.ofCall context)).map f := by
  rw [Attempt.holds_map_iff]
  constructor
  · rintro ⟨o, hsend, rfl⟩
    obtain ⟨reply, rfl, rfl⟩ := holds_send_iff.mp hsend
    exact ⟨reply, rfl, rfl⟩
  · rintro ⟨reply, rfl, rfl⟩
    exact ⟨_, holds_send_iff.mpr ⟨reply, rfl, rfl⟩, rfl⟩

theorem holds_listFolders_iff {o : Except MailError (List Folder)} :
    Holds (perform .listFolders).run log o ↔
      ∃ reply : ImapCommand.list.Reply, log = [⟨.list, reply⟩] ∧
        o = (reply.mapError (·.ofCall "LIST")).map fun items => (readable items).map (·.folder) :=
  holds_send_map_iff

theorem holds_select_iff {folder : String} {o : Except MailError FolderStatus} :
    Holds (perform (.select folder)).run log o ↔
      ∃ reply : (ImapCommand.select folder).Reply, log = [⟨.select folder, reply⟩] ∧
        o = (reply.mapError (·.ofCall ("SELECT " ++ folder))).map (·.folderStatus) :=
  holds_send_map_iff

theorem holds_fetch_iff {set : String} {query : FetchQuery} {o : Except MailError (List FetchItem)} :
    Holds (fetch set query).run log o ↔
      ∃ reply : (ImapCommand.uidFetch set query).Reply, log = [⟨.uidFetch set query, reply⟩] ∧
        o = (reply.mapError (·.ofCall "UID FETCH")).map readable :=
  holds_send_map_iff

/-- A call of one fetch. -/
theorem holds_fetch_map_iff {α : Type} {set : String} {query : FetchQuery}
    {f : List FetchItem → α} {o : Except MailError α} :
    Holds (fetch set query >>= fun items => pure (f items) : Commands α).run log o ↔
      ∃ reply : (ImapCommand.uidFetch set query).Reply, log = [⟨.uidFetch set query, reply⟩] ∧
        o = (reply.mapError (·.ofCall "UID FETCH")).map fun items => f (readable items) := by
  rw [Attempt.holds_map_iff]
  constructor
  · rintro ⟨o, hfetch, rfl⟩
    obtain ⟨reply, rfl, rfl⟩ := holds_fetch_iff.mp hfetch
    refine ⟨reply, rfl, ?_⟩
    cases reply <;> rfl
  · rintro ⟨reply, rfl, rfl⟩
    refine ⟨_, holds_fetch_iff.mpr ⟨reply, rfl, rfl⟩, ?_⟩
    cases reply <;> rfl

theorem holds_fetchFlags_iff {set : String} {o : Except MailError (List RemoteMessage)} :
    Holds (perform (.fetchFlags set)).run log o ↔
      ∃ reply : (ImapCommand.uidFetch set .flags).Reply, log = [⟨.uidFetch set .flags, reply⟩] ∧
        o = (reply.mapError (·.ofCall "UID FETCH")).map fun items =>
          (readable items).map (·.message) :=
  holds_fetch_map_iff

theorem holds_fetchHeaders_iff {set : String} {o : Except MailError (List RemoteMessage)} :
    Holds (perform (.fetchHeaders set)).run log o ↔
      ∃ reply : (ImapCommand.uidFetch set .headers).Reply, log = [⟨.uidFetch set .headers, reply⟩] ∧
        o = (reply.mapError (·.ofCall "UID FETCH")).map fun items =>
          (readable items).map (·.message) :=
  holds_fetch_map_iff

theorem holds_fetchText_iff {set : String} {limit : UInt32}
    {o : Except MailError (List (Uid × Bytes))} :
    Holds (perform (.fetchText set limit)).run log o ↔
      ∃ reply : (ImapCommand.uidFetch set (.snippet limit)).Reply,
        log = [⟨.uidFetch set (.snippet limit), reply⟩] ∧
          o = (reply.mapError (·.ofCall "UID FETCH")).map fun items =>
            (readable items).filterMap (·.snippet?) :=
  holds_fetch_map_iff

/-- The whole message in the first item that names it. -/
def rawIn (uid : Uid) (items : List FetchItem) : Option Bytes :=
  (items.find? fun f => f.keptUid? = some uid).bind (·.part? .whole)

theorem find?_eq_rawIn {uid : Uid} {n : UInt32} (h : uid.wire? = .ok n) :
    (fun items : List FetchItem => (items.find? (·.uid? = some n)).bind (·.part? .whole)) =
      rawIn uid := by
  funext items
  have hsame : ∀ f : FetchItem, f.uid? = some n ↔ f.keptUid? = some uid := by
    intro f
    rw [FetchItem.keptUid?, ← Uid.wire?_eq_ok_iff.mp h]
    cases f.uid? with
    | none => simp
    | some m => simp [UInt32.toUInt64_inj]
  simp only [rawIn, hsame]

/-- A number that no server gives is not asked for. -/
theorem holds_fetchRaw_iff {uid : Uid} {o : Except MailError (Option Bytes)} :
    Holds (perform (.fetchRaw uid)).run log o ↔
      (∃ e, uid.wire? = .error e ∧ log = [] ∧ o = .error e) ∨
        ∃ n, uid.wire? = .ok n ∧ ∃ reply : (ImapCommand.uidFetch (toString n) .whole).Reply,
          log = [⟨.uidFetch (toString n) .whole, reply⟩] ∧
            o = (reply.mapError (·.ofCall "UID FETCH")).map fun items =>
              rawIn uid (readable items) := by
  have hnumber : ∀ {before : List (Exchange ImapCommand ImapCommand.Reply)} {o},
      Holds (ExceptT.mk (pure uid.wire?) : Commands UInt32).run before o ↔
        before = [] ∧ o = uid.wire? := holds_pure_iff
  rw [perform, fetchRaw, Attempt.holds_bind_iff]
  simp only [hnumber]
  cases hwire : uid.wire? with
  | error e =>
      constructor
      · rintro (⟨e', ⟨rfl, he⟩, rfl⟩ | ⟨before, after, n, -, ⟨-, hn⟩, -⟩)
        · obtain rfl := Except.error.inj he
          exact .inl ⟨_, rfl, rfl, rfl⟩
        · cases hn
      · rintro (⟨e', he, rfl, rfl⟩ | ⟨n, hn, -⟩)
        · exact .inl ⟨e', ⟨rfl, he.symm⟩, rfl⟩
        · cases hn
  | ok n =>
      constructor
      · rintro (⟨e', ⟨-, he⟩, -⟩ | ⟨before, after, n', rfl, ⟨rfl, hn⟩, h⟩)
        · cases he
        · obtain rfl := Except.ok.inj hn
          refine .inr ⟨_, rfl, ?_⟩
          rw [← find?_eq_rawIn hwire]
          exact holds_fetch_map_iff.mp h
      · rintro (⟨e', he, -⟩ | ⟨n', hn, h⟩)
        · cases he
        · obtain rfl := Except.ok.inj hn
          rw [← find?_eq_rawIn hwire] at h
          exact .inr ⟨[], log, _, rfl, ⟨rfl, rfl⟩, holds_fetch_map_iff.mpr h⟩

end ImapMailbox

end MailSync
