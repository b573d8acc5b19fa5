import MailSync.Main
import MailSync.Queue.Counter
import MailSync.Rehearsal
import MailSync.Rehearsal.Crypto
import MailSync.Proofs.Dialogue
import MailSync.Proofs.Connection
import MailSync.Proofs.Flag
import MailSync.Proofs.SequenceSet
import MailSync.Proofs.Cache
import MailSync.Proofs.Reconciliation
import MailSync.Proofs.Sync
import MailSync.Proofs.Worker
import MailSync.Proofs.Engine.Ledger
import MailSync.Proofs.Engine.Succession
import MailSync.Proofs.Story
import MailSync.Proofs.Routine
import MailSync.Proofs.Selection
import MailSync.Proofs.Engine.Life
import MailSync.Proofs.Turn
import MailSync.Proofs.Engine.Career
import MailSync.Proofs.Engine.Display
import MailSync.Proofs.Submission
import MailSync.Proofs.HeaderLine
import MailSync.Proofs.BlindCopy
import MailSync.Proofs.Announcement
import MailSync.Proofs.Client
import MailSync.Proofs.Server
import MailSync.Proofs.Move
import MailSync.Proofs.Relocation
import MailSync.Proofs.Engine.Telling
import MailSync.Proofs.Engine.Order
import MailSync.Proofs.Engine.Fate
import MailSync.Proofs.Mailbox
import MailSync.Proofs.Notice
import MailSync.Proofs.Isolation
import MailSync.Proofs.Listing
import MailSync.Proofs.Replay
import MailSync.Proofs.Engine.Mirror
import MailSync.Proofs.Provenance
import MailSync.Proofs.Queue
import MailSync.Proofs.Engine.Stopping
import MailSync.Proofs.CryptoPool
import MailSync.Proofs.WakeUp
import MailSync.Proofs.Paging
import MailSync.Proofs.Recipients
import MailSync.Proofs.Refresh
import MailSync.Proofs.NewMail
import MailSync.Proofs.Coding
import MailSync.Proofs.EncodedWord
import MailSync.Proofs.DisplayName
import MailSync.Proofs.MaximalRuns
import MailSync.Proofs.Positions
import MailSync.Proofs.StoredFlags
import MailSync.Proofs.FoldedFlags
import MailSync.Proofs.Table
import MailSync.Proofs.Effect
import MailSync.Proofs.Settings
import MailSync.Proofs.StrayLine
import MailSync.Proofs.Attribute
import MailSync.Proofs.ListResponse
