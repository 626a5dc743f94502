import TaskAttest.Library.SortedMap
import TaskAttest.Library.Utf8
import TaskAttest.Library.Json.Value
import TaskAttest.Library.Json.Text
import TaskAttest.Library.Json.Parse
import TaskAttest.Library.Json.RoundTrip
import TaskAttest.Library.Json.Limit
import TaskAttest.Library.Json.Codec
import TaskAttest.Library.Json.Size
import TaskAttest.Library.Transition
import TaskAttest.Library.FileSystem
import TaskAttest.Library.Program
import TaskAttest.Library.Framing
import TaskAttest.Library.Sha256
import TaskAttest.Model
import TaskAttest.Serialize
import TaskAttest.Error
import TaskAttest.Hash
import TaskAttest.Disk
import TaskAttest.Path
import TaskAttest.PathProperties
import TaskAttest.Text
import TaskAttest.ReceiptDocument
import TaskAttest.ReceiptDocumentProperties
import TaskAttest.Store
import TaskAttest.StoreProperties
import TaskAttest.BlobStore
import TaskAttest.BlobStoreProperties
import TaskAttest.Verify
import TaskAttest.VerifyProperties
import TaskAttest.Commands
import TaskAttest.ReceiptBindingProperties
import TaskAttest.Source
import TaskAttest.SourceProperties
import TaskAttest.Capture
import TaskAttest.Supervise
import TaskAttest.SuperviseProperties
import TaskAttest.Publish
import TaskAttest.PublishProperties
import TaskAttest.Summary
import TaskAttest.Toolchain
import TaskAttest.Workspace
import TaskAttest.Library.FirstMatch
import TaskAttest.Library.Pointwise
import TaskAttest.LanguageChecks
import TaskAttest.Workflow
import TaskAttest.WorkflowProperties
import TaskAttest.Discover
import TaskAttest.DiscoverProperties
import TaskAttest.SelectionProperties
import TaskAttest.WorkflowCheckProperties
import TaskAttest.ObservationProperties
import TaskAttest.ScriptProperties
import TaskAttest.WorkflowIdProperties
import TaskAttest.Execute
import TaskAttest.ExecuteProperties
import TaskAttest.RunProperties
import TaskAttest.RunReceiptProperties
import TaskAttest.RunShapeProperties
import TaskAttest.ClockProperties
import TaskAttest.EvidenceProperties
import TaskAttest.JsonPublication
import TaskAttest.JsonPublicationProperties
import TaskAttest.ReceiptWriteProperties
import TaskAttest.ReceiptLookupProperties
import TaskAttest.Library.Interleaving
import TaskAttest.ErrorProperties
import TaskAttest.UntouchedProperties
import TaskAttest.RunCommand
import TaskAttest.RunCommandProperties
import TaskAttest.RecoveryProperties
import TaskAttest.DurabilityProperties
import TaskAttest.TextProperties
import TaskAttest.SummaryProperties
import TaskAttest.LossyProperties
import TaskAttest.CaptureProperties
import TaskAttest.TailProperties
import TaskAttest.BudgetProperties
import TaskAttest.CleanupProperties
import TaskAttest.IdleProperties
import TaskAttest.CancellationProperties
import TaskAttest.ScriptIdProperties
import TaskAttest.InspectionProperties
import TaskAttest.VerdictProperties
import TaskAttest.CoverageProperties
import TaskAttest.RequirementProperties
import TaskAttest.SummarySizeProperties
import TaskAttest.Library.Json.Lines
import TaskAttest.Output
import TaskAttest.CommandLine
import TaskAttest.CommandLineProperties
import TaskAttest.ProgressProperties
import TaskAttest.StreamProperties
import TaskAttest.Library.Ownership
import TaskAttest.Library.Parallel
import TaskAttest.SharedRun
import TaskAttest.SharedRunProperties
import TaskAttest.SharedStore
import TaskAttest.SharedCallProperties
import TaskAttest.SharedStoreProperties
import TaskAttest.SharedHistoryProperties
import TaskAttest.OriginProperties
import TaskAttest.ChildProperties
import TaskAttest.Library.Processes
import TaskAttest.ProcessGroup
import TaskAttest.ProcessGroupProperties
import TaskAttest.TerminationProperties
