import OffloadFabric.Model
import OffloadFabric.OrderedMap

/-!
Configuration and durable state of the coordinator: the registries, the retained
evidence, the fences and their witnesses, the request cache and the counters.
-/
namespace OffloadFabric

/-- Role of an enrolled reporting source. -/
inductive SourceRole where
  | failureReporter | capabilityReporter | dependencyReporter | effectReporter | operator
  | topologyReporter
  deriving DecidableEq, Inhabited, Repr

instance : Enumerated SourceRole where
  values := [.failureReporter, .capabilityReporter, .dependencyReporter, .effectReporter,
    .operator, .topologyReporter]
  ordinal
    | .failureReporter => 0
    | .capabilityReporter => 1
    | .dependencyReporter => 2
    | .effectReporter => 3
    | .operator => 4
    | .topologyReporter => 5
  values_ordinal e := by cases e <;> rfl

structure FabricConfig where
  /-- Whether correctness-critical state is persisted. -/
  storeDirectory : Bool := false
  maxServices : Nat := 1024
  maxTargets : Nat := 4096
  maxEvidenceRecords : Nat := 4096
  maxDependenciesPerService : Nat := 64
  maxAttemptHistory : Nat := 64
  maxExplanations : Nat := 2048
  maxRequestCache : Nat := 2048
  maxIntentQueue : Nat := 1024
  maxPlanSteps : Nat := 32
  maxSources : Nat := 256
  maxFallbackCandidates : Nat := 256
  maxJournalBytes : UInt64 := 8388608
  requireEnrolledEffectReporter : Bool := true
  initialPolicy : PolicyDescriptor := {}

/-! ### Counters -/

inductive StatField where
  | servicesRegistered | targetsRegistered | sourcesEnrolled | capabilitiesIngested
  | failuresIngested | dependenciesIngested | evidenceRejectedStale | evidenceRejectedConflict
  | evidenceRejectedDuplicate | evidenceRejectedUnauthorized | evidenceRejectedCapacity
  | evidenceEvicted | placementsEstablished | failoversAccepted | failoversRefused
  | failoversDuplicate | failbacksAccepted | failbacksRefused | effectsAccepted | effectsRefused
  | effectsVerified | ambiguityPending | ambiguityResolved | intentsEmitted | intentsDropped
  | intentsConsumed | attemptsRecorded | attemptsEvicted | explanationsRecorded
  | explanationsEvicted | fallbackCandidatesTruncated | dependencyDepthTruncated
  | requestsCancelled | cancelsTooLate | journalTransactions | journalCompactions
  | recoveryReissues | effectReportsReplayed | withdrawnServices
  deriving DecidableEq, Inhabited, Repr

/-- The counters in the order of their encoding. -/
def StatField.all : List StatField :=
  [.servicesRegistered, .targetsRegistered, .sourcesEnrolled, .capabilitiesIngested,
   .failuresIngested, .dependenciesIngested, .evidenceRejectedStale, .evidenceRejectedConflict,
   .evidenceRejectedDuplicate, .evidenceRejectedUnauthorized, .evidenceRejectedCapacity,
   .evidenceEvicted, .placementsEstablished, .failoversAccepted, .failoversRefused,
   .failoversDuplicate, .failbacksAccepted, .failbacksRefused, .effectsAccepted, .effectsRefused,
   .effectsVerified, .ambiguityPending, .ambiguityResolved, .intentsEmitted, .intentsDropped,
   .intentsConsumed, .attemptsRecorded, .attemptsEvicted, .explanationsRecorded,
   .explanationsEvicted, .fallbackCandidatesTruncated, .dependencyDepthTruncated,
   .requestsCancelled, .cancelsTooLate, .journalTransactions, .journalCompactions,
   .recoveryReissues, .effectReportsReplayed, .withdrawnServices]

/-- Accounting counters; they saturate instead of wrapping. -/
@[ext] structure FabricStats where
  count : StatField → UInt64 := fun _ => 0

instance : Inhabited FabricStats := ⟨{}⟩

namespace FabricStats

def set (stats : FabricStats) (field : StatField) (value : UInt64) : FabricStats :=
  ⟨fun other => if other = field then value else stats.count other⟩

def bump (stats : FabricStats) (field : StatField) : FabricStats :=
  stats.set field (saturatingInc (stats.count field))

end FabricStats

/-! ### Slots and runtimes -/

@[ext] structure WitnessKey where
  service : ServiceName := .nil
  target : TargetName := .nil
  deriving DecidableEq, Inhabited

/-- Keys are ordered by service, then by target. -/
instance : LinearOrder WitnessKey :=
  LinearOrder.lift' (fun key => toLex (key.service, key.target)) fun _ _ h => by
    have h := toLex_inj.mp h
    exact WitnessKey.ext (congrArg Prod.fst h) (congrArg Prod.snd h)

/-- A target held a placement at a fence token; it may not resume below a newer incarnation. -/
@[ext] structure FenceWitness where
  token : FenceToken := {}
  incarnation : TargetIncarnation := {}
  topologyGeneration : TopologyGeneration := {}
  deriving DecidableEq, Inhabited

@[ext] structure SourceWatermark where
  sequence : EvidenceSeq := {}
  digest : Digest := {}
  tick : LogicalTick := {}
  deriving DecidableEq, Inhabited

@[ext] structure CapabilitySlot where
  evidence : CapabilityEvidence := {}
  /-- Set on restart: persisted evidence never silently becomes current. -/
  requiresReconfirmation : Bool := true
  deriving DecidableEq, Inhabited

@[ext] structure DependencySlot where
  observation : DependencyObservation := {}
  requiresReconfirmation : Bool := true
  deriving DecidableEq, Inhabited

inductive RequestKind where
  | failover | ambiguityResolution | failback | resume | effect | intentAck | placement
  deriving DecidableEq, Inhabited, Repr

instance : Enumerated RequestKind where
  values := [.failover, .ambiguityResolution, .failback, .resume, .effect, .intentAck, .placement]
  ordinal
    | .failover => 0
    | .ambiguityResolution => 1
    | .failback => 2
    | .resume => 3
    | .effect => 4
    | .intentAck => 5
    | .placement => 6
  values_ordinal e := by cases e <;> rfl

@[ext] structure RequestCacheEntry where
  kind : RequestKind := .failover
  outcome : Reason := .ok
  accepted : Bool := false
  duplicate : Bool := false
  attempt : AttemptId := {}
  generation : FailoverGeneration := {}
  fence : FenceToken := {}
  leaseTerm : LeaseTerm := {}
  policyGeneration : PolicyGeneration := {}
  topologyGeneration : TopologyGeneration := {}
  fromTarget : TargetRef := {}
  toTarget : TargetRef := {}
  hasIntent : Bool := false
  planStepMask : UInt32 := 0
  responseDigest : Digest := {}
  recorded : LogicalTick := {}
  deriving DecidableEq, Inhabited

@[ext] structure ServiceRuntime where
  descriptor : ServiceDescriptor := {}
  lifecycle : LifecyclePhase := .registered
  recovery : RecoveryPhase := .none
  continuity : ContinuityClass := .unknown
  active : Option TargetRef := none
  fallback : Option TargetRef := none
  generation : FailoverGeneration := {}
  fence : FenceToken := {}
  lease : Option LeaseRecord := none
  nextAttempt : UInt64 := 1
  currentAttempt : AttemptId := {}
  history : List AttemptRecord := []
  effectsSeen : List EffectId := []
  attemptsEvicted : UInt64 := 0
  /-- Recovery attempts started since the last verified effect. -/
  attemptsSinceVerified : UInt32 := 0
  activationAccepted : Bool := false
  effectVerified : Bool := false
  stateTransferVerified : Bool := false
  failoverRecorded : Bool := false
  ambiguityPending : Bool := false
  pendingAmbiguity : EvidenceId := {}
  preFailoverTarget : Option TargetRef := none
  preFailoverCapability : CapabilityGeneration := {}
  preFailoverTopology : TopologyGeneration := {}
  preFailoverPolicy : PolicyGeneration := {}
  lastChange : LogicalTick := {}
  lastReason : Reason := .ok
  deriving DecidableEq, Inhabited

namespace ServiceRuntime

/-- The newest record of the current attempt. -/
def currentAttemptRecord (runtime : ServiceRuntime) : Option AttemptRecord :=
  runtime.history.reverse.find? fun record => record.id = runtime.currentAttempt

/-- Rewrite the first record whose attempt is `id`. -/
def modifyFirst (id : AttemptId) (f : AttemptRecord → AttemptRecord) :
    List AttemptRecord → List AttemptRecord
  | [] => []
  | record :: rest => if record.id = id then f record :: rest else record :: modifyFirst id f rest

/-- Rewrite the newest record whose attempt is `id`, if the history still holds one. -/
def modifyNewest (id : AttemptId) (f : AttemptRecord → AttemptRecord)
    (history : List AttemptRecord) : List AttemptRecord :=
  (modifyFirst id f history.reverse).reverse

end ServiceRuntime

@[ext] structure State where
  epoch : CoordinatorEpoch := {}
  boot : BootId := {}
  tick : LogicalTick := {}
  topologyGeneration : TopologyGeneration := {}
  policyGeneration : PolicyGeneration := {}
  policy : PolicyDescriptor := {}
  nextEvidenceId : UInt64 := 1
  nextAttemptId : UInt64 := 1
  nextLeaseId : UInt64 := 1
  nextPlanId : UInt64 := 1
  targets : OrderedMap TargetName TargetRecord := .empty
  capabilities : OrderedMap TargetName CapabilitySlot := .empty
  services : OrderedMap ServiceName ServiceRuntime := .empty
  dependencies : OrderedMap ServiceName (OrderedMap ServiceName DependencySlot) := .empty
  failures : OrderedMap EvidenceId FailureEvidence := .empty
  failureOrder : List EvidenceId := []
  latestFailure : OrderedMap ServiceName EvidenceId := .empty
  fences : OrderedMap ServiceName FenceRecord := .empty
  witnesses : OrderedMap WitnessKey FenceWitness := .empty
  sources : OrderedMap SourceName SourceRole := .empty
  /-- Per-source high-water mark; a sequence not above it is a replay. -/
  watermarks : OrderedMap SourceName SourceWatermark := .empty
  requestCache : OrderedMap RequestKey RequestCacheEntry := .empty
  requestOrder : List RequestKey := []
  stats : FabricStats := {}

instance : Inhabited State := ⟨{}⟩

end OffloadFabric
