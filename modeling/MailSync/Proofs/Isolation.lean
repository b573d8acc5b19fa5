import MailSync.Proofs.Mailbox
import MailSync.Proofs.Sync
import MailSync.Proofs.Worker

/-!
# Folders apart

The cache knows a listed folder by the last piece of its name only
(`ListEntry.called_iff`). Folders whose last pieces differ are apart: what a
synchronisation of one writes is not seen in the other, whatever the server
replies (`CacheWriter.get?_applyTo_elsewhere`). Folders of one last piece share
their rows.
-/

namespace MailSync

open Dialogue

/-! ## Last pieces -/

namespace ListEntry

variable {mark name piece piece' : List Char}

theorem takeUntil_eq_or (mark cs : List Char) :
    (¬ mark <:+: cs ∧ takeUntil mark cs = cs) ∨
      (takeUntil mark cs ++ mark <+: cs ∧ ∀ s, s ++ mark <+: cs → takeUntil mark cs <+: s) := by
  induction cs with
  | nil =>
      by_cases hmark : mark = []
      · right
        subst hmark
        exact ⟨List.nil_prefix, fun s _ => List.nil_prefix⟩
      · left
        exact ⟨fun h => hmark (List.infix_nil.mp h), rfl⟩
  | cons c rest ih =>
      rw [takeUntil]
      split
      next hhere =>
        right
        exact ⟨List.isPrefixOf_iff_prefix.mp hhere, fun s _ => List.nil_prefix⟩
      next hhere =>
        rw [List.isPrefixOf_iff_prefix] at hhere
        rcases ih with ⟨hnone, heq⟩ | ⟨hfound, hfirst⟩
        · left
          rw [heq, List.infix_cons_iff]
          exact ⟨not_or.mpr ⟨hhere, hnone⟩, rfl⟩
        · right
          refine ⟨List.cons_prefix_cons.mpr ⟨rfl, hfound⟩, ?_⟩
          intro s hs
          cases s with
          | nil => exact absurd hs hhere
          | cons a s =>
              obtain ⟨rfl, hrest⟩ := List.cons_prefix_cons.mp hs
              exact List.cons_prefix_cons.mpr ⟨rfl, hfirst s hrest⟩

/-- What stands after the last mark of a name. -/
inductive LastPiece (mark name : List Char) : List Char → Prop where
  | whole : ¬ mark <:+: name → LastPiece mark name name
  | after {piece : List Char} : mark ++ piece <:+ name →
      (∀ s, mark ++ s <:+ name → piece <:+ s) → LastPiece mark name piece

theorem LastPiece.unique (h : LastPiece mark name piece) (h' : LastPiece mark name piece') :
    piece = piece' := by
  have found : ∀ {s : List Char}, mark ++ s <:+ name → mark <:+: name := fun hs =>
    (List.prefix_append mark _).isInfix.trans hs.isInfix
  cases h with
  | whole hnone =>
      cases h' with
      | whole _ => rfl
      | after hfound' _ => exact absurd (found hfound') hnone
  | after hfound hlast =>
      cases h' with
      | whole hnone' => exact absurd (found hfound) hnone'
      | after hfound' hlast' =>
          have hle := (hlast _ hfound').length_le
          exact (hlast _ hfound').eq_of_length (Nat.le_antisymm hle (hlast' _ hfound).length_le)

theorem lastPiece_lastPiece (mark name : List Char) :
    LastPiece mark name (lastPiece mark name) := by
  rw [lastPiece]
  rcases takeUntil_eq_or mark.reverse name.reverse with ⟨hnone, heq⟩ | ⟨hfound, hfirst⟩
  · rw [heq, List.reverse_reverse]
    exact .whole fun h => hnone (List.reverse_infix.mpr h)
  · refine .after ?_ ?_
    · rw [← List.reverse_prefix, List.reverse_append, List.reverse_reverse]
      exact hfound
    · intro s hs
      rw [← List.reverse_prefix, List.reverse_reverse]
      apply hfirst
      rw [← List.reverse_append, List.reverse_prefix]
      exact hs

variable {e : ListEntry}

/-- What a listed folder is called: the inbox has one name, any other folder is called by the last
piece of its name. -/
inductive Called (e : ListEntry) : String → Prop where
  | inbox : Ascii.eqIgnoreCase e.name "INBOX" = true → Called e "INBOX"
  | undivided : Ascii.eqIgnoreCase e.name "INBOX" = false → e.delimiter = none → Called e e.name
  | divided {d : String} {piece : List Char} : Ascii.eqIgnoreCase e.name "INBOX" = false →
      e.delimiter = some d → LastPiece d.toList e.name.toList piece →
      Called e (String.ofList piece)

theorem called_iff {s : String} : e.Called s ↔ s = e.shortName := by
  rw [shortName]
  constructor
  · intro h
    cases h with
    | inbox hinbox => rw [if_pos hinbox]
    | undivided hinbox hdelimiter => rw [hinbox, if_neg Bool.false_ne_true, hdelimiter]
    | divided hinbox hdelimiter hpiece =>
        rw [hinbox, if_neg Bool.false_ne_true, hdelimiter,
          hpiece.unique (lastPiece_lastPiece _ _)]
  · rintro rfl
    cases hinbox : Ascii.eqIgnoreCase e.name "INBOX" with
    | true => exact .inbox hinbox
    | false =>
        rw [if_neg Bool.false_ne_true]
        cases hdelimiter : e.delimiter with
        | none => exact .undivided hinbox hdelimiter
        | some d => exact .divided hinbox hdelimiter (lastPiece_lastPiece _ _)

end ListEntry

/-! ## What a refresh writes elsewhere -/

/-- The rows of a refresh are kept under its folder. -/
theorem CacheWriter.get?_applyTo_elsewhere (w : CacheWriter) (cache : Store) (tag : RequestTag)
    {folder : Folder} {report : Report} (hreport : (TaskKind.syncFolder folder).Answers report)
    {other : String} (h : other ≠ folder.shortName) (account : String) (uid : Uid) :
    (w.applyTo ⟨tag, report⟩ cache).2.get? account other uid = cache.get? account other uid := by
  cases report with
  | refreshed folder' new updated deleted states notify =>
      obtain rfl : folder' = folder := hreport
      obtain ⟨announced, happly⟩ := w.applyTo_refreshed cache tag folder' new updated deleted states
        notify
      have hrows : ∀ r ∈ w.rows folder' new states notify, r.key ≠ ⟨account, other, uid⟩ := by
        intro r hr hkey
        obtain ⟨m, -, uid', -, rfl⟩ := mem_rows_iff.mp hr
        exact h (congrArg RowKey.folderName hkey).symm
      rw [happly, Store.get?_updateFlags_of_ne h, Store.get?_addRows_of_notMem hrows,
        Store.get?_delete_of_ne h]
  | progress _ | folders _ | messages _ _ | newMessages _ _ _ _ | details _ _ _ | moved _ _ _ | sent
  | failed _ _ => cases hreport

namespace Task

variable {p : Profile} {s : SessionId} {folder : Folder} {remote : List RemoteMessage}
  {cache after : Store} {log : List (Exchange Request Request.Reply)} {report : Report}

theorem syncFolder_answers (h : Holds (syncFolder p s folder).run log (.ok report)) :
    (TaskKind.syncFolder folder).Answers report :=
  Attempt.Ends.of_holds (inSession_ends (fun _ _ => True) p s (.syncFolder folder)) h
    fun _ _ => trivial

/-- Two folders of which none is touched by the other. -/
structure Apart (p : Profile) (f g : Folder) : Prop where
  frame : ∀ {s log report}, Holds (syncFolder p s f).run log (.ok report) →
    ∀ tag cache account uid,
      ((CacheWriter.mk p.email).applyTo ⟨tag, report⟩ cache).2.get? account g.shortName uid =
        cache.get? account g.shortName uid
  /-- With the other one synchronised in between, a folder that did not change is found unchanged. -/
  again : ∀ {remote cache s₁ log₁ report₁ s₂ log₂ report₂ s₃ log₃ report₃}, Sound remote →
    Holds (syncFolder p s₁ f).run log₁ (.ok report₁) →
    (∀ x ∈ log₁, Serves remote cache x.question x.reply) →
    Holds (syncFolder p s₂ g).run log₂ (.ok report₂) →
    Holds (syncFolder p s₃ f).run log₃ (.ok report₃) →
    ∀ tag, let after := ((CacheWriter.mk p.email).applyTo ⟨tag, report₂⟩
        ((CacheWriter.mk p.email).applyTo ⟨tag, report₁⟩ cache).2).2
      (∀ x ∈ log₃, Serves remote after x.question x.reply) → ∃ notify announced,
        report₃ = .refreshed f [] [] ∅ ∅ notify ∧
          (CacheWriter.mk p.email).applyTo ⟨tag, report₃⟩ after = (.ok ⟨0, 0, 0, announced⟩, after)

theorem apart_of_ne {f g : Folder} (hne : f.shortName ≠ g.shortName) : Apart p f g := by
  refine ⟨?_, ?_⟩
  · intro s log report h tag cache account uid
    exact CacheWriter.get?_applyTo_elsewhere _ cache tag (syncFolder_answers h) hne.symm account uid
  · intro remote cache s₁ log₁ report₁ s₂ log₂ report₂ s₃ log₃ report₃ hremote h₁ hlog₁ h₂ h₃ tag
      after hlog₃
    have hagrees := (syncFolder_outcome h₁ hlog₁).agrees hremote tag
    have hkept := CacheWriter.get?_applyTo_elsewhere ⟨p.email⟩
      ((CacheWriter.mk p.email).applyTo ⟨tag, report₁⟩ cache).2 tag (syncFolder_answers h₂) hne p.email
    have hagrees : Reconciliation.Agrees (after.uidFlags p.email f.shortName) remote := by
      refine ⟨?_, ?_⟩
      · intro uid
        rw [← hagrees.uids uid, Store.get?_uidFlags, Store.get?_uidFlags, hkept uid]
      · intro m hm uid huid stored hstored
        rw [Store.get?_uidFlags, hkept uid, ← Store.get?_uidFlags] at hstored
        exact hagrees.flags m hm uid huid stored hstored
    obtain ⟨notify, rfl⟩ := Reconciled.eq_of_agrees (syncFolder_outcome h₃ hlog₃) hagrees
    obtain ⟨announced, happly⟩ :=
      (CacheWriter.mk p.email).applyTo_refreshed_nothing after tag f ∅ notify
    exact ⟨notify, announced, rfl, happly⟩

end Task

/-! ## Listed folders -/

namespace ImapMailbox

variable {log : List (Exchange ImapCommand ImapCommand.Reply)} {folders : List Folder}

/-- Two listed folders have one key exactly if they are called the same, and are apart otherwise. -/
theorem listed_apart (h : Holds (perform .listFolders).run log (.ok folders)) (p : Profile) :
    ∃ items, log = [⟨.list, .ok items⟩] ∧ folders = (readable items).map (·.folder) ∧
      ∀ e₁ ∈ readable items, ∀ e₂ ∈ readable items, ∀ s₁ s₂, e₁.Called s₁ → e₂.Called s₂ →
        (e₁.folder.shortName = e₂.folder.shortName ↔ s₁ = s₂) ∧
          (s₁ ≠ s₂ → Task.Apart p e₁.folder e₂.folder) := by
  obtain ⟨reply, rfl, ho⟩ := holds_listFolders_iff.mp h
  cases reply with
  | error e => cases ho
  | ok items =>
      refine ⟨items, rfl, Except.ok.inj ho, ?_⟩
      intro e₁ _ e₂ _ s₁ s₂ h₁ h₂
      obtain rfl := ListEntry.called_iff.mp h₁
      obtain rfl := ListEntry.called_iff.mp h₂
      exact ⟨Iff.rfl, fun hne => Task.apart_of_ne hne⟩

/-- The inbox and a folder below another one; the item between them cannot be read. -/
theorem listed_apart_work :
    let items : List (Except ImapError ListEntry) :=
      [.ok ⟨"INBOX", some "/", []⟩, .error .connectionLost, .ok ⟨"Work/Sent", some "/", []⟩]
    let folders : List Folder := [⟨"INBOX", "INBOX", []⟩, ⟨"Work/Sent", "Sent", []⟩]
    Holds (perform .listFolders).run [⟨.list, .ok items⟩] (.ok folders) ∧
      Task.Apart ⟨"me", .default⟩ ⟨"INBOX", "INBOX", []⟩ ⟨"Work/Sent", "Sent", []⟩ := by
  intro items folders
  have hinbox : ListEntry.folder ⟨"INBOX", some "/", []⟩ = ⟨"INBOX", "INBOX", []⟩ := by
    decide +kernel
  have hsent : ListEntry.folder ⟨"Work/Sent", some "/", []⟩ = ⟨"Work/Sent", "Sent", []⟩ := by
    decide +kernel
  have hlisted : folders = (readable items).map (·.folder) := by
    show _ = [ListEntry.folder _, ListEntry.folder _]
    rw [hinbox, hsent]
  have h : Holds (perform .listFolders).run [⟨.list, .ok items⟩] (.ok folders) :=
    holds_listFolders_iff.mpr ⟨.ok items, rfl, congrArg Except.ok hlisted⟩
  obtain ⟨items', hlog, -, hapart⟩ := listed_apart h ⟨"me", .default⟩
  cases hlog
  have hne : ListEntry.shortName ⟨"INBOX", some "/", []⟩ ≠
      ListEntry.shortName ⟨"Work/Sent", some "/", []⟩ := by decide +kernel
  refine ⟨h, ?_⟩
  rw [← hinbox, ← hsent]
  exact (hapart _ (.head _) _ (.tail _ (.head _)) _ _ (ListEntry.called_iff.mpr rfl)
    (ListEntry.called_iff.mpr rfl)).2 hne

/-- Of two folders with one last piece, a synchronisation of the one deletes a message of the
other. -/
theorem sent_not_apart :
    let work : ListEntry := ⟨"Work/Sent", some "/", []⟩
    let home : ListEntry := ⟨"Home/Sent", some "/", []⟩
    let cached : Store :=
      (Store.empty.addRows [⟨"me", "Sent", 7, some "\\Seen", none, false, .empty⟩]).2
    Holds (perform .listFolders).run [⟨.list, .ok [.ok work, .ok home]⟩]
        (.ok [work.folder, home.folder]) ∧
      work.folder.fullName ≠ home.folder.fullName ∧
      work.folder.shortName = home.folder.shortName ∧
      (cached.get? "me" home.folder.shortName 7).isSome ∧
      ∃ log report, Holds (Task.syncFolder ⟨"me", .default⟩ 0 work.folder).run log (.ok report) ∧
        (∀ x ∈ log, Task.Serves [] cached x.question x.reply) ∧
        ((CacheWriter.mk "me").applyTo ⟨⟨"me", 1⟩, report⟩ cached).2.get? "me"
          home.folder.shortName 7 = none := by
  intro work home cached
  have hname : home.folder.shortName = "Sent" := by decide +kernel
  have hsame : work.folder.shortName = home.folder.shortName := by decide +kernel
  refine ⟨holds_listFolders_iff.mpr ⟨.ok [.ok work, .ok home], rfl, rfl⟩, by decide, hsame, ?_, ?_⟩
  · rw [hname, Store.get?_addRows_of_unique (List.mem_singleton_self _) rfl
      fun r hr _ => List.mem_singleton.mp hr]
    rfl
  · have hdistinct : (Reconciliation.uids []).Nodup := List.nodup_nil
    obtain ⟨log, outcome, h, hlog⟩ := exists_holds (Task.exists_allowed hdistinct cached)
      (Task.syncFolder ⟨"me", .default⟩ 0 work.folder).run
    have houtcome := Task.syncFolder_outcome h fun x hx => (hlog x hx).1
    cases outcome with
    | error e =>
        obtain ⟨x, hx, he⟩ := houtcome
        exact ((hlog x hx).2 e he).elim
    | ok report =>
        refine ⟨log, report, h, fun x hx => (hlog x hx).1, ?_⟩
        -- Nothing is listed, so nothing is left under the common key.
        have hagrees := Task.Reconciled.agrees houtcome ⟨List.nodup_nil, nofun⟩ ⟨"me", 1⟩
        rw [← hsame]
        refine Option.not_isSome_iff_eq_none.mp fun hsome => ?_
        have hlisted := (hagrees.uids 7).mp (by rw [Store.get?_uidFlags, Option.isSome_map]; exact hsome)
        cases hlisted

end ImapMailbox

end MailSync
