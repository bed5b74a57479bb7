import AiopsTriage.Anomaly.Detect
import AiopsTriage.Anomaly.FindingsCache
import AiopsTriage.Anomaly.SampleOrder
import AiopsTriage.Audit.Identity
import AiopsTriage.Audit.Replay
import AiopsTriage.Audit.Tampering
import AiopsTriage.CaseFile.Assembly
import AiopsTriage.CaseFile.Chain
import AiopsTriage.CaseFile.Sealed
import AiopsTriage.CaseFile.Stages
import AiopsTriage.CaseFile.Storage
import AiopsTriage.CaseFile.Triage
import AiopsTriage.CaseFile.Writers
import AiopsTriage.Contracts
import AiopsTriage.Denylist
import AiopsTriage.Denylist.Removal
import AiopsTriage.Denylist.Values
import AiopsTriage.Diagnosis.Chain
import AiopsTriage.Diagnosis.ColdPath
import AiopsTriage.Diagnosis.Outcome
import AiopsTriage.Events
import AiopsTriage.Gating.Admission
import AiopsTriage.Gating.Dedupe
import AiopsTriage.Gating.Evaluate
import AiopsTriage.Gating.Fingerprint
import AiopsTriage.Gating.Inputs
import AiopsTriage.Gating.Isolation
import AiopsTriage.Gating.Reduce
import AiopsTriage.Gating.Rulebook
import AiopsTriage.Gating.StormControl
import AiopsTriage.Gating.Version1
import AiopsTriage.Health.Alerts
import AiopsTriage.Health.Metrics
import AiopsTriage.Health.Registry
import AiopsTriage.HotPath.Body
import AiopsTriage.HotPath.Delivery
import AiopsTriage.HotPath.Dispatch
import AiopsTriage.HotPath.Handoff
import AiopsTriage.HotPath.Loop
import AiopsTriage.HotPath.Orders
import AiopsTriage.HotPath.Suppression
import AiopsTriage.HotPath.Wiring
import AiopsTriage.Integrations.Correlation
import AiopsTriage.Integrations.ExternalId
import AiopsTriage.Integrations.FallbackAlerts
import AiopsTriage.Integrations.LinkageWrites
import AiopsTriage.Integrations.Payload
import AiopsTriage.Integrations.SearchQueries
import AiopsTriage.Integrations.ServiceNow
import AiopsTriage.Integrations.Upsert
import AiopsTriage.Lib.Activation
import AiopsTriage.Lib.BatchService
import AiopsTriage.Lib.CheckThenAct
import AiopsTriage.Lib.Clauses
import AiopsTriage.Lib.Codec
import AiopsTriage.Lib.Dict
import AiopsTriage.Lib.DictOrder
import AiopsTriage.Lib.Fallible
import AiopsTriage.Lib.Folds
import AiopsTriage.Lib.InsertRace
import AiopsTriage.Lib.Json
import AiopsTriage.Lib.JsonNull
import AiopsTriage.Lib.Latch
import AiopsTriage.Lib.Paging
import AiopsTriage.Lib.PyText
import AiopsTriage.Lib.PyValue
import AiopsTriage.Lib.Ranks
import AiopsTriage.Lib.ReadThrough
import AiopsTriage.Lib.RollingWindow
import AiopsTriage.Lib.Runs
import AiopsTriage.Lib.SameValue
import AiopsTriage.Lib.Segments
import AiopsTriage.Lib.SortByKey
import AiopsTriage.Lib.Streak
import AiopsTriage.Lib.Windows
import AiopsTriage.Lib.WriteOnce
import AiopsTriage.Linkage.Attempt
import AiopsTriage.Linkage.Concurrent
import AiopsTriage.Linkage.Inserts
import AiopsTriage.Linkage.Lifecycle
import AiopsTriage.Linkage.Recovery
import AiopsTriage.Linkage.Repository
import AiopsTriage.Linkage.Schema
import AiopsTriage.Linkage.Selection
import AiopsTriage.Linkage.Stage
import AiopsTriage.Linkage.StateMachine
import AiopsTriage.Linkage.Survival
import AiopsTriage.Outbox.Backlog
import AiopsTriage.Outbox.Concurrent
import AiopsTriage.Outbox.DeliverySlo
import AiopsTriage.Outbox.Fairness
import AiopsTriage.Outbox.Inserts
import AiopsTriage.Outbox.Interleaving
import AiopsTriage.Outbox.Lifecycle
import AiopsTriage.Outbox.Liveness
import AiopsTriage.Outbox.Publisher
import AiopsTriage.Outbox.Publishing
import AiopsTriage.Outbox.Ready
import AiopsTriage.Outbox.Repository
import AiopsTriage.Outbox.Schema
import AiopsTriage.Outbox.StateMachine
import AiopsTriage.Outbox.Worker
import AiopsTriage.Peak.Classify
import AiopsTriage.Peak.Profile
import AiopsTriage.Peak.Streak
import AiopsTriage.Peak.Sustained
import AiopsTriage.Peak.Unknown
import AiopsTriage.Platform
import AiopsTriage.Registry.Assembly
import AiopsTriage.Registry.Compat
import AiopsTriage.Registry.Document
import AiopsTriage.Registry.Integrity
import AiopsTriage.Registry.Loader
import AiopsTriage.Registry.Ownership
import AiopsTriage.Registry.Reload
import AiopsTriage.Registry.RoundTrip
import AiopsTriage.Registry.Streams
import AiopsTriage.Registry.Topics
import AiopsTriage.Registry.Versions
import AiopsTriage.Retention.Calendar
import AiopsTriage.Retention.Cutoff
import AiopsTriage.Retention.Exact
import AiopsTriage.Retention.Keys
import AiopsTriage.Retention.Purge
import AiopsTriage.Retention.Runner
import AiopsTriage.Scheduler.Cadence
import AiopsTriage.Scheduler.DegradedMode
import AiopsTriage.Scheduler.Seconds
import AiopsTriage.Scheduler.Ticks
import AiopsTriage.Stages.Evidence
import AiopsTriage.Stages.Outputs
import AiopsTriage.Topology.Resolver
import AiopsTriage.Topology.Stage
