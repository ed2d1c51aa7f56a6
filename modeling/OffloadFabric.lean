import OffloadFabric.Authority
import OffloadFabric.BigEndian
import OffloadFabric.Calls
import OffloadFabric.Canonical
import OffloadFabric.Changes
import OffloadFabric.Checks
import OffloadFabric.Chronicle
import OffloadFabric.Codec
import OffloadFabric.Commit
import OffloadFabric.Core
import OffloadFabric.Decisions
import OffloadFabric.Digest
import OffloadFabric.Effects
import OffloadFabric.Evolution
import OffloadFabric.Explain
import OffloadFabric.Fabric
import OffloadFabric.Ingestion
import OffloadFabric.Json
import OffloadFabric.Legitimacy
import OffloadFabric.Lifecycle
import OffloadFabric.Model
import OffloadFabric.ModelCodec
import OffloadFabric.MoveChecks
import OffloadFabric.Operations
import OffloadFabric.OrderedMap
import OffloadFabric.Planning
import OffloadFabric.Reason
import OffloadFabric.Registration
import OffloadFabric.State
import OffloadFabric.StateCodec
import OffloadFabric.Store
import OffloadFabric.StoreAssembly
import OffloadFabric.StoreDurability
import OffloadFabric.StoreFrames
import OffloadFabric.StoreLayout
import OffloadFabric.StoreRecovery
import OffloadFabric.Strong
import OffloadFabric.Tenure
import OffloadFabric.Acceptance
import OffloadFabric.Ambiguity
import OffloadFabric.EvidenceGate
import OffloadFabric.FenceSafety
import OffloadFabric.Withdrawal
import OffloadFabric.Refusals
import OffloadFabric.Enrolment
import OffloadFabric.Generations
import OffloadFabric.Origins
import OffloadFabric.Placement
import OffloadFabric.Pairing
import OffloadFabric.FailedAttempts
import OffloadFabric.Watermarks
import OffloadFabric.Dormancy
import OffloadFabric.Ceilings
import OffloadFabric.Ledger
import OffloadFabric.CanonicalForms
import OffloadFabric.ByteStream
import OffloadFabric.Wire
import OffloadFabric.StoreLimits
import OffloadFabric.StoreParsing
import OffloadFabric.Idempotence
import OffloadFabric.Selection
import OffloadFabric.Breadth
import OffloadFabric.Dependencies
import OffloadFabric.Aftermath
import OffloadFabric.Requirements
import OffloadFabric.Accounts
import OffloadFabric.Redelivery
import OffloadFabric.Incarnations
import OffloadFabric.Budget
import OffloadFabric.Resumption
import OffloadFabric.Cancellations
import OffloadFabric.Outbox
import OffloadFabric.Deliveries
import OffloadFabric.RequestKeys
import OffloadFabric.JsonGrammar
import OffloadFabric.CanonicalJson
import OffloadFabric.Reports
import OffloadFabric.Retention
import OffloadFabric.Suspension
import OffloadFabric.Shadow
import OffloadFabric.Pending
import OffloadFabric.Commands
import OffloadFabric.Serving
import OffloadFabric.ShiftRegister
import OffloadFabric.Checksums
import OffloadFabric.Corruption
import OffloadFabric.Machine
import OffloadFabric.DurableLog
import OffloadFabric.RingLog
import OffloadFabric.Narration
import OffloadFabric.Client
import OffloadFabric.Surfaces
import OffloadFabric.Survival
import OffloadFabric.Continuity
import OffloadFabric.Snapshots
import OffloadFabric.FreshStart
import OffloadFabric.StoreCompaction
