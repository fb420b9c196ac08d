import TransceiverRegistry.Canonical.Acceptance
import TransceiverRegistry.Canonical.Delimited
import TransceiverRegistry.Canonical.Documents
import TransceiverRegistry.Canonical.Members
import TransceiverRegistry.Canonical.Progress
import TransceiverRegistry.Canonical.Reader
import TransceiverRegistry.Canonical.RoundTrip
import TransceiverRegistry.Canonical.Uniqueness
import TransceiverRegistry.Canonical.Utf8
import TransceiverRegistry.Canonical.Value
import TransceiverRegistry.Canonical.Weight
import TransceiverRegistry.Canonical.Writer
import TransceiverRegistry.Codec.Capability
import TransceiverRegistry.Codec.Compatibility
import TransceiverRegistry.Codec.Decision
import TransceiverRegistry.Codec.Encoders
import TransceiverRegistry.Codec.Fields
import TransceiverRegistry.Codec.Handles
import TransceiverRegistry.Codec.Health
import TransceiverRegistry.Codec.Identity
import TransceiverRegistry.Codec.Lifecycle
import TransceiverRegistry.Codec.Record
import TransceiverRegistry.Codec.Reports
import TransceiverRegistry.Codec.RoundTrip
import TransceiverRegistry.Codec.Views
import TransceiverRegistry.Compat.Agreement
import TransceiverRegistry.Compat.Approval
import TransceiverRegistry.Compat.Decision
import TransceiverRegistry.Compat.Evaluation
import TransceiverRegistry.Compat.Inputs
import TransceiverRegistry.Compat.Order
import TransceiverRegistry.Core.Base
import TransceiverRegistry.Core.Checksum
import TransceiverRegistry.Core.Digest
import TransceiverRegistry.Core.Hashing
import TransceiverRegistry.Core.Taxonomy
import TransceiverRegistry.Lib.Binary64
import TransceiverRegistry.Lib.Binary64Order
import TransceiverRegistry.Lib.Blocks
import TransceiverRegistry.Lib.Checksum
import TransceiverRegistry.Lib.Fencing
import TransceiverRegistry.Lib.FileStore
import TransceiverRegistry.Lib.Gate
import TransceiverRegistry.Lib.Grouping
import TransceiverRegistry.Lib.History
import TransceiverRegistry.Lib.Keyed
import TransceiverRegistry.Lib.Ledger
import TransceiverRegistry.Lib.LittleEndian
import TransceiverRegistry.Lib.Newest
import TransceiverRegistry.Lib.OrderedMap
import TransceiverRegistry.Lib.Outcome
import TransceiverRegistry.Lib.Panel
import TransceiverRegistry.Lib.Placement
import TransceiverRegistry.Lib.Remainder
import TransceiverRegistry.Lib.Revision
import TransceiverRegistry.Lib.Run
import TransceiverRegistry.Lib.Scanner
import TransceiverRegistry.Lib.SecureHash
import TransceiverRegistry.Lib.Sort
import TransceiverRegistry.Lib.Stateful
import TransceiverRegistry.Lib.Streak
import TransceiverRegistry.Lib.Supersession
import TransceiverRegistry.Lib.Tables
import TransceiverRegistry.Lib.Threads
import TransceiverRegistry.Lib.Ties
import TransceiverRegistry.Lib.Utf8
import TransceiverRegistry.Model.Capability
import TransceiverRegistry.Model.Classification
import TransceiverRegistry.Model.Compatibility
import TransceiverRegistry.Model.Consensus
import TransceiverRegistry.Model.Health
import TransceiverRegistry.Model.Identity
import TransceiverRegistry.Model.Lifecycle
import TransceiverRegistry.Model.Tally
import TransceiverRegistry.Model.Views
import TransceiverRegistry.Registry.Answers
import TransceiverRegistry.Registry.Attaching
import TransceiverRegistry.Registry.Batches
import TransceiverRegistry.Registry.Bounds
import TransceiverRegistry.Registry.Budget
import TransceiverRegistry.Registry.Caps
import TransceiverRegistry.Registry.Chronicle
import TransceiverRegistry.Registry.Coherent
import TransceiverRegistry.Registry.Consistency
import TransceiverRegistry.Registry.Eviction
import TransceiverRegistry.Registry.Evidence
import TransceiverRegistry.Registry.Evidenced
import TransceiverRegistry.Registry.Fencing
import TransceiverRegistry.Registry.Flags
import TransceiverRegistry.Registry.Frame
import TransceiverRegistry.Registry.HealthReport
import TransceiverRegistry.Registry.HealthView
import TransceiverRegistry.Registry.Historical
import TransceiverRegistry.Registry.History
import TransceiverRegistry.Registry.Housed
import TransceiverRegistry.Registry.Hysteresis
import TransceiverRegistry.Registry.Inspection
import TransceiverRegistry.Registry.Inversion
import TransceiverRegistry.Registry.Judgement
import TransceiverRegistry.Registry.Knowledge
import TransceiverRegistry.Registry.LastWrite
import TransceiverRegistry.Registry.Liveness
import TransceiverRegistry.Registry.ModuleStep
import TransceiverRegistry.Registry.Occupancy
import TransceiverRegistry.Registry.Operation
import TransceiverRegistry.Registry.Placement
import TransceiverRegistry.Registry.Policies
import TransceiverRegistry.Registry.Policy
import TransceiverRegistry.Registry.PortStatements
import TransceiverRegistry.Registry.Published
import TransceiverRegistry.Registry.Publishing
import TransceiverRegistry.Registry.Queries
import TransceiverRegistry.Registry.Reconcile
import TransceiverRegistry.Registry.Replay
import TransceiverRegistry.Registry.ReportRows
import TransceiverRegistry.Registry.RetiredEpoch
import TransceiverRegistry.Registry.Revising
import TransceiverRegistry.Registry.Samples
import TransceiverRegistry.Registry.Severity
import TransceiverRegistry.Registry.Shown
import TransceiverRegistry.Registry.SlotBudget
import TransceiverRegistry.Registry.Slots
import TransceiverRegistry.Registry.Staleness
import TransceiverRegistry.Registry.State
import TransceiverRegistry.Registry.Statements
import TransceiverRegistry.Registry.Succession
import TransceiverRegistry.Registry.Summary
import TransceiverRegistry.Registry.TableStep
import TransceiverRegistry.Registry.Trim
import TransceiverRegistry.Snapshot.Ages
import TransceiverRegistry.Snapshot.Autosave
import TransceiverRegistry.Snapshot.Capacity
import TransceiverRegistry.Snapshot.Consistency
import TransceiverRegistry.Snapshot.Corruption
import TransceiverRegistry.Snapshot.CurrentOnly
import TransceiverRegistry.Snapshot.DigestOrder
import TransceiverRegistry.Snapshot.DigestTells
import TransceiverRegistry.Snapshot.Disk
import TransceiverRegistry.Snapshot.Durable
import TransceiverRegistry.Snapshot.File
import TransceiverRegistry.Snapshot.Frames
import TransceiverRegistry.Snapshot.Insertion
import TransceiverRegistry.Snapshot.Knowledge
import TransceiverRegistry.Snapshot.LifecycleOrder
import TransceiverRegistry.Snapshot.Lineage
import TransceiverRegistry.Snapshot.Loading
import TransceiverRegistry.Snapshot.Oversized
import TransceiverRegistry.Snapshot.PolicyRestart
import TransceiverRegistry.Snapshot.Preservation
import TransceiverRegistry.Snapshot.Projection
import TransceiverRegistry.Snapshot.Rebuilt
import TransceiverRegistry.Snapshot.RecordLaws
import TransceiverRegistry.Snapshot.Records
import TransceiverRegistry.Snapshot.Reload
import TransceiverRegistry.Snapshot.Restart
import TransceiverRegistry.Snapshot.Revalidation
import TransceiverRegistry.Snapshot.SampleLedger
import TransceiverRegistry.Snapshot.Survival
import TransceiverRegistry.Snapshot.Trailing
import TransceiverRegistry.Snapshot.Truncation
import TransceiverRegistry.Snapshot.Whole
import TransceiverRegistry.Snapshot.Written
import TransceiverRegistry.Wire.Calls
import TransceiverRegistry.Wire.Dispatch
import TransceiverRegistry.Wire.Fence
import TransceiverRegistry.Wire.Frame
import TransceiverRegistry.Wire.Linear
import TransceiverRegistry.Wire.Race
import TransceiverRegistry.Wire.Reading
import TransceiverRegistry.Wire.Request
import TransceiverRegistry.Wire.Response
import TransceiverRegistry.Wire.Server
import TransceiverRegistry.Wire.Serving
import TransceiverRegistry.Wire.Stream
import TransceiverRegistry.Wire.Succession
