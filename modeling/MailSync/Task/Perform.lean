import MailSync.Connection
import MailSync.Task
import MailSync.Task.Range
import MailSync.Task.Sync

/-!
# Performing tasks

A task ends with one report or one failure. All but submission need a live
session, and are given up if the worker is to stop before or after the
session has been made sure of.
-/

namespace MailSync.Task

def updateLabels (s : SessionId) : Trial Report :=
  return .folders (← Trial.session s .listFolders)

def loadDetails (s : SessionId) (folder : Folder) (uid : Uid) : Trial Report := do
  let _ ← Trial.session s (.select folder.fullName)
  match ← Trial.session s (.fetchRaw uid) with
  | some raw => return .details folder uid raw
  | none => throw (.messageRemoved uid)

/-- Moves messages; there is nothing to do for none. -/
def moveMessages (s : SessionId) (source destination : Folder) (uids : List Uid) :
    Trial Report := do
  unless uids.isEmpty do
    let _ ← Trial.session s (.select source.fullName)
    Trial.session s (.move (SequenceSet.ofList uids) destination.fullName)
  return .moved source destination uids

def sendMessage (p : Profile) (raw : Bytes) : Trial Report := do
  let token ← Trial.outside .token
  Trial.checkCancelled
  Trial.outside (.send p.email token raw)
  return .sent

/-- The part of a task that has a live session. -/
def inSession (p : Profile) (s : SessionId) : TaskKind → Trial Report
  | .updateLabels => updateLabels s
  | .loadMessages folder first last => loadMessages s folder first last
  | .loadDetails folder uid => loadDetails s folder uid
  | .loadPage folder alreadyLoaded => loadPage p.settings.pageSize s folder alreadyLoaded
  | .loadNew folder lastUid => loadNew p s folder lastUid
  | .move source destination uids => moveMessages s source destination uids
  | .send raw => sendMessage p raw
  | .syncFolder folder => syncFolder p s folder

/-- Reports the progress of a task. -/
def note (t : Task) (progress : Progress) : Work Unit :=
  Work.inside (.emit ⟨t.tag, .progress progress⟩)

/-- Makes sure of a session for a task, and reports a new one. -/
def openSession (p : Profile) (t : Task) (c : Connection) :
    Work (Except MailError SessionId × Connection) := do
  if ← Work.inside .isCancelled then return (.error .cancelled, c)
  let ensured ← c.ensure p.email (t.note .connecting)
  match ensured.session with
  | .error e => return (.error e, ensured.connection)
  | .ok id =>
    if ensured.reopened then t.note .connected
    if ← Work.inside .isCancelled then return (.error .cancelled, ensured.connection)
    return (.ok id, ensured.connection)

/-- Performs a task, with the connection before and after. -/
def perform (p : Profile) (t : Task) (c : Connection) :
    Work (Except MailError Report × Connection) := do
  match t.kind with
  | .send raw => return (← (sendMessage p raw).run, c)
  | kind =>
    let (session, c) ← t.openSession p c
    match session with
    | .error e => return (.error e, c)
    | .ok id => return (← (inSession p id kind).run, c)

end MailSync.Task
