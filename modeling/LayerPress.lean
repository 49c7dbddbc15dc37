import LayerPress.Host.Process
import LayerPress.Main
import LayerPress.Number.Text
import LayerPress.Proofs.DeletionRace
import LayerPress.Proofs.RecordInvariant
import LayerPress.Proofs.Register
import LayerPress.Proofs.Reimport
import LayerPress.Proofs.ResetRace
import LayerPress.Records.Schema
import LayerPress.Rehearsal.Report
import LayerPress.Proofs.ColumnRows
import LayerPress.Proofs.ImportAttempt
import LayerPress.Proofs.ImportTrace
import LayerPress.Proofs.Itinerary
import LayerPress.Proofs.SameAnswers
import LayerPress.Proofs.SoundStore
import LayerPress.Proofs.Survey
import LayerPress.Proofs.AllOrNothing
import LayerPress.Proofs.LoadedRecord
import LayerPress.Proofs.OutcomeRecord
import LayerPress.Proofs.RowReaders
import LayerPress.Proofs.TableOwners
import LayerPress.Proofs.TeardownReversal
import LayerPress.Proofs.Unpublished
import LayerPress.Proofs.JobHistory
import LayerPress.Proofs.Retention
import LayerPress.Proofs.Subscribers
import LayerPress.Proofs.TerminalEvents
import LayerPress.Proofs.IdempotentPublishing
import LayerPress.Proofs.PublishingRace
import LayerPress.Proofs.BusyLayer
import LayerPress.Proofs.BadArchives
import LayerPress.Proofs.DeletionTargets
import LayerPress.Proofs.ConnectionStrings
import LayerPress.Proofs.ServiceStart
import LayerPress.Proofs.TrailingSlashes
import LayerPress.Proofs.ExtentHistory
import LayerPress.Proofs.MaskedTexts
import LayerPress.Proofs.EntryOrder
import LayerPress.Proofs.PublishingProtocol
import LayerPress.Proofs.AttributeUpsert
import LayerPress.Proofs.BulkReset
import LayerPress.Proofs.BulkImport
import LayerPress.Proofs.TeardownHalves
import LayerPress.Proofs.LoadReports
import LayerPress.Proofs.Redated
import LayerPress.Proofs.BestEffort
import LayerPress.Proofs.LayerDeletion
import LayerPress.Proofs.Repetitions
import LayerPress.Proofs.AcceptedSettings
import LayerPress.Proofs.StatementTokens
import LayerPress.Proofs.CanonicalNames
import LayerPress.Proofs.LabelRuns
