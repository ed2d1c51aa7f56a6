import OffloadFabric.Digest
import OffloadFabric.Reason
import OffloadFabric.Strong

/-!
The governed domain model: topology, capability evidence, service descriptors,
failure and dependency evidence, policy, leases, fences, attempts, intents,
effects and requests. Field defaults are those of the runtime's own records.
-/
namespace OffloadFabric

/-- An enumeration stored as its ordinal in one byte. -/
class Enumerated (E : Type) where
  values : List E
  ordinal : E → UInt8
  values_ordinal : ∀ e, values[(ordinal e).toNat]? = some e

/-! ### Topology -/

inductive DeviceKind where
  | hostCpu | smartNic | dpu | synthetic
  deriving DecidableEq, Inhabited, Repr

instance : Enumerated DeviceKind where
  values := [.hostCpu, .smartNic, .dpu, .synthetic]
  ordinal
    | .hostCpu => 0
    | .smartNic => 1
    | .dpu => 2
    | .synthetic => 3
  values_ordinal e := by cases e <;> rfl

/-- Immutable boot identity of a host and a device, ordered host first. -/
@[ext] structure TargetIncarnation where
  host : Incarnation := {}
  device : Incarnation := {}
  deriving Inhabited

namespace TargetIncarnation

instance : LinearOrder TargetIncarnation :=
  LinearOrder.lift' (fun i => toLex (i.host, i.device)) fun _ _ h => by
    have h := toLex_inj.mp h
    exact TargetIncarnation.ext (congrArg Prod.fst h) (congrArg Prod.snd h)

theorem le_iff (a b : TargetIncarnation) :
    a ≤ b ↔ a.host < b.host ∨ a.host = b.host ∧ a.device ≤ b.device :=
  Prod.Lex.le_iff

end TargetIncarnation

/-- A concrete placement: which target, at which incarnation. -/
@[ext] structure TargetRef where
  target : TargetName := .nil
  incarnation : TargetIncarnation := {}
  deriving DecidableEq, Inhabited

def TargetRef.valid (ref : TargetRef) : Bool := !ref.target.isEmpty

@[ext] structure TargetRecord where
  name : TargetName := .nil
  host : HostName := .nil
  device : DeviceName := .nil
  kind : DeviceKind := .synthetic
  scope : ScopeName := .nil
  incarnation : TargetIncarnation := {}
  topologyGeneration : TopologyGeneration := {}
  deriving DecidableEq, Inhabited

/-! ### Capabilities -/

def kCapabilityCodeCount : Nat := 11

/-- A set of capability codes as a bit mask. -/
@[ext] structure CapabilitySet where
  mask : UInt64 := 0
  deriving DecidableEq, Inhabited

namespace CapabilitySet

def containsAll (set other : CapabilitySet) : Bool := set.mask &&& other.mask == other.mask

/-- No bit outside the codes this build knows. -/
def known (set : CapabilitySet) : Prop :=
  set.mask &&& ~~~((1 : UInt64) <<< kCapabilityCodeCount.toUInt64 - 1) = 0

instance (set : CapabilitySet) : Decidable set.known := inferInstanceAs (Decidable (_ = _))

end CapabilitySet

@[ext] structure CapabilityEvidence where
  target : TargetName := .nil
  generation : CapabilityGeneration := {}
  capabilities : CapabilitySet := {}
  topologyGeneration : TopologyGeneration := {}
  incarnation : TargetIncarnation := {}
  source : SourceName := .nil
  tick : LogicalTick := {}
  contentDigest : Digest := {}
  deriving DecidableEq, Inhabited

/-! ### Service descriptors -/

inductive Statefulness where
  | stateless | stateful
  deriving DecidableEq, Inhabited, Repr

instance : Enumerated Statefulness where
  values := [.stateless, .stateful]
  ordinal
    | .stateless => 0
    | .stateful => 1
  values_ordinal e := by cases e <;> rfl

inductive Precondition where
  | fenceAdvance | verifiedEffect | stateTransfer | dependencyHealth | operatorAuthorization
  | fallbackCapabilitySupport
  deriving DecidableEq, Inhabited, Repr

instance : Enumerated Precondition where
  values := [.fenceAdvance, .verifiedEffect, .stateTransfer, .dependencyHealth,
    .operatorAuthorization, .fallbackCapabilitySupport]
  ordinal
    | .fenceAdvance => 0
    | .verifiedEffect => 1
    | .stateTransfer => 2
    | .dependencyHealth => 3
    | .operatorAuthorization => 4
    | .fallbackCapabilitySupport => 5
  values_ordinal e := by cases e <;> rfl

/-- A set of preconditions as a bit mask. -/
@[ext] structure PreconditionSet where
  mask : UInt32 := 0
  deriving DecidableEq, Inhabited

namespace PreconditionSet

def contains (set : PreconditionSet) (value : Precondition) : Bool :=
  set.mask &&& ((1 : UInt32) <<< (Enumerated.ordinal value).toUInt32) != 0

/-- No bit outside the preconditions this build knows. -/
def known (set : PreconditionSet) : Prop := set.mask &&& ~~~((1 : UInt32) <<< 6 - 1) = 0

instance (set : PreconditionSet) : Decidable set.known := inferInstanceAs (Decidable (_ = _))

end PreconditionSet

inductive DependencyKind where
  | hard | soft
  deriving DecidableEq, Inhabited, Repr

instance : Enumerated DependencyKind where
  values := [.hard, .soft]
  ordinal
    | .hard => 0
    | .soft => 1
  values_ordinal e := by cases e <;> rfl

inductive DependencyRequirement where
  | anyTarget | sameScope | distinctTarget
  deriving DecidableEq, Inhabited, Repr

instance : Enumerated DependencyRequirement where
  values := [.anyTarget, .sameScope, .distinctTarget]
  ordinal
    | .anyTarget => 0
    | .sameScope => 1
    | .distinctTarget => 2
  values_ordinal e := by cases e <;> rfl

@[ext] structure DependencySpec where
  service : ServiceName := .nil
  kind : DependencyKind := .hard
  requirement : DependencyRequirement := .anyTarget
  deriving DecidableEq, Inhabited

@[ext] structure ServiceDescriptor where
  name : ServiceName := .nil
  scope : ScopeName := .nil
  statefulness : Statefulness := .stateless
  requiredCapabilities : CapabilitySet := {}
  preconditions : PreconditionSet := {}
  dependencies : List DependencySpec := []
  lastKnownStateGeneration : StateGeneration := {}
  deriving DecidableEq, Inhabited

/-! ### Failure and dependency evidence -/

inductive FailureClass where
  | targetMissing | targetUnresponsive | serviceCrash | linkDown | offloadEngineFault
  | plannedMaintenance | operatorDeclared | syntheticInjected
  deriving DecidableEq, Inhabited, Repr

instance : Enumerated FailureClass where
  values := [.targetMissing, .targetUnresponsive, .serviceCrash, .linkDown, .offloadEngineFault,
    .plannedMaintenance, .operatorDeclared, .syntheticInjected]
  ordinal
    | .targetMissing => 0
    | .targetUnresponsive => 1
    | .serviceCrash => 2
    | .linkDown => 3
    | .offloadEngineFault => 4
    | .plannedMaintenance => 5
    | .operatorDeclared => 6
    | .syntheticInjected => 7
  values_ordinal e := by cases e <;> rfl

inductive AmbiguityState where
  | unambiguous | ambiguous | splitBrainSuspected
  deriving DecidableEq, Inhabited, Repr

instance : Enumerated AmbiguityState where
  values := [.unambiguous, .ambiguous, .splitBrainSuspected]
  ordinal
    | .unambiguous => 0
    | .ambiguous => 1
    | .splitBrainSuspected => 2
  values_ordinal e := by cases e <;> rfl

/-- Who observed, with which sequence, and the epoch and boot that accepted it. -/
@[ext] structure Provenance where
  source : SourceName := .nil
  sequence : EvidenceSeq := {}
  tick : LogicalTick := {}
  epoch : CoordinatorEpoch := {}
  boot : BootId := {}
  deriving DecidableEq, Inhabited

@[ext] structure FailureEvidence where
  id : EvidenceId := {}
  service : ServiceName := .nil
  target : TargetRef := {}
  failureClass : FailureClass := .targetUnresponsive
  ambiguity : AmbiguityState := .unambiguous
  provenance : Provenance := {}
  topologyGeneration : TopologyGeneration := {}
  capabilityGeneration : CapabilityGeneration := {}
  policyGeneration : PolicyGeneration := {}
  contentDigest : Digest := {}
  deriving DecidableEq, Inhabited

inductive DependencyHealth where
  | unknown | healthy | degraded | failed
  deriving DecidableEq, Inhabited, Repr

instance : Enumerated DependencyHealth where
  values := [.unknown, .healthy, .degraded, .failed]
  ordinal
    | .unknown => 0
    | .healthy => 1
    | .degraded => 2
    | .failed => 3
  values_ordinal e := by cases e <;> rfl

@[ext] structure DependencyObservation where
  service : ServiceName := .nil
  dependency : ServiceName := .nil
  health : DependencyHealth := .unknown
  observedTarget : TargetRef := {}
  provenance : Provenance := {}
  topologyGeneration : TopologyGeneration := {}
  contentDigest : Digest := {}
  deriving DecidableEq, Inhabited

/-! ### Policy, leases and fences -/

@[ext] structure PolicyDescriptor where
  generation : PolicyGeneration := {}
  scope : ScopeName := .nil
  maxAttemptsPerGeneration : UInt32 := 4
  maxPlanSteps : UInt32 := 16
  maxFallbackCandidates : UInt32 := 32
  evidenceMaxAgeTicks : UInt32 := 1000000
  dependencyMaxDepth : UInt32 := 8
  requireOperatorForAmbiguous : Bool := true
  allowDegradedContinuity : Bool := true
  allowFailback : Bool := true
  deriving DecidableEq, Inhabited

/-- Durable fence: the token and the holder it was minted for. -/
@[ext] structure FenceRecord where
  service : ServiceName := .nil
  token : FenceToken := {}
  holder : TargetRef := {}
  attempt : AttemptId := {}
  epoch : CoordinatorEpoch := {}
  issued : LogicalTick := {}
  deriving DecidableEq, Inhabited

@[ext] structure LeaseRecord where
  service : ServiceName := .nil
  id : LeaseId := {}
  term : LeaseTerm := {}
  scope : ScopeName := .nil
  holder : TargetRef := {}
  epoch : CoordinatorEpoch := {}
  issued : LogicalTick := {}
  deriving DecidableEq, Inhabited

/-! ### Lifecycle, recovery and continuity -/

inductive LifecyclePhase where
  | unregistered | registered | active | recoveryPending | recoveryAuthorized | recoveryInFlight
  | fallbackActive | failed | withdrawn
  deriving DecidableEq, Inhabited, Repr

instance : Enumerated LifecyclePhase where
  values := [.unregistered, .registered, .active, .recoveryPending, .recoveryAuthorized,
    .recoveryInFlight, .fallbackActive, .failed, .withdrawn]
  ordinal
    | .unregistered => 0
    | .registered => 1
    | .active => 2
    | .recoveryPending => 3
    | .recoveryAuthorized => 4
    | .recoveryInFlight => 5
    | .fallbackActive => 6
    | .failed => 7
    | .withdrawn => 8
  values_ordinal e := by cases e <;> rfl

inductive RecoveryPhase where
  | none | intentRecorded | authorized | activationRequested | effectReported | verified | refused
  | ambiguityPending
  deriving DecidableEq, Inhabited, Repr

instance : Enumerated RecoveryPhase where
  values := [.none, .intentRecorded, .authorized, .activationRequested, .effectReported, .verified,
    .refused, .ambiguityPending]
  ordinal
    | .none => 0
    | .intentRecorded => 1
    | .authorized => 2
    | .activationRequested => 3
    | .effectReported => 4
    | .verified => 5
    | .refused => 6
    | .ambiguityPending => 7
  values_ordinal e := by cases e <;> rfl

inductive ContinuityClass where
  | unknown | none | degraded | full
  deriving DecidableEq, Inhabited, Repr

instance : Enumerated ContinuityClass where
  values := [.unknown, .none, .degraded, .full]
  ordinal
    | .unknown => 0
    | .none => 1
    | .degraded => 2
    | .full => 3
  values_ordinal e := by cases e <;> rfl

inductive AttemptOutcome where
  | pending | committed | acknowledged | effectReported | verified | refused | cancelled
  | outcomeUnknown | superseded
  deriving DecidableEq, Inhabited, Repr

instance : Enumerated AttemptOutcome where
  values := [.pending, .committed, .acknowledged, .effectReported, .verified, .refused, .cancelled,
    .outcomeUnknown, .superseded]
  ordinal
    | .pending => 0
    | .committed => 1
    | .acknowledged => 2
    | .effectReported => 3
    | .verified => 4
    | .refused => 5
    | .cancelled => 6
    | .outcomeUnknown => 7
    | .superseded => 8
  values_ordinal e := by cases e <;> rfl

/-- Persistent recovery attempt record. -/
@[ext] structure AttemptRecord where
  id : AttemptId := {}
  service : ServiceName := .nil
  generation : FailoverGeneration := {}
  fence : FenceToken := {}
  fromTarget : TargetRef := {}
  toTarget : TargetRef := {}
  leaseTerm : LeaseTerm := {}
  epoch : CoordinatorEpoch := {}
  opened : LogicalTick := {}
  phase : RecoveryPhase := .none
  outcome : AttemptOutcome := .pending
  durableCommitted : Bool := false
  acknowledged : Bool := false
  restartDowngraded : Bool := false
  lastReason : Reason := .ok
  deriving DecidableEq, Inhabited

/-- The only thing the fabric emits towards an executor. -/
@[ext] structure FailoverIntent where
  attempt : AttemptId := {}
  service : ServiceName := .nil
  generation : FailoverGeneration := {}
  fence : FenceToken := {}
  leaseTerm : LeaseTerm := {}
  fromTarget : TargetRef := {}
  toTarget : TargetRef := {}
  epoch : CoordinatorEpoch := {}
  policyGeneration : PolicyGeneration := {}
  topologyGeneration : TopologyGeneration := {}
  issued : LogicalTick := {}
  reissueAfterRestart : Bool := false
  deriving DecidableEq, Inhabited

inductive EffectKind where
  | activationAccepted | serviceHealthy | stateTransferComplete | deactivationAcknowledged
  deriving DecidableEq, Inhabited, Repr

inductive EffectResult where
  | positive | negative
  deriving DecidableEq, Inhabited, Repr

@[ext] structure EffectReport where
  id : EffectId := {}
  service : ServiceName := .nil
  attempt : AttemptId := {}
  generation : FailoverGeneration := {}
  fence : FenceToken := {}
  target : TargetRef := {}
  kind : EffectKind := .activationAccepted
  result : EffectResult := .positive
  stateGeneration : StateGeneration := {}
  provenance : Provenance := {}
  deriving DecidableEq, Inhabited

/-! ### Requests -/

inductive RecoveryTrigger where
  | failureEvidence | plannedMaintenance | operatorCommand
  deriving DecidableEq, Inhabited, Repr

structure FailoverRequest where
  key : RequestKey := {}
  service : ServiceName := .nil
  trigger : RecoveryTrigger := .failureEvidence
  evidence : EvidenceId := {}
  requester : SourceName := .nil
  operatorAuthorized : Bool := false
  deriving DecidableEq, Inhabited

structure AmbiguityResolution where
  key : RequestKey := {}
  service : ServiceName := .nil
  evidence : EvidenceId := {}
  confirmFailure : Bool := false
  resolvedBy : SourceName := .nil
  deriving DecidableEq, Inhabited

structure PlacementRequest where
  key : RequestKey := {}
  service : ServiceName := .nil
  target : TargetName := .nil
  requester : SourceName := .nil
  deriving DecidableEq, Inhabited

structure FailbackRequest where
  key : RequestKey := {}
  service : ServiceName := .nil
  preferredTarget : TargetName := .nil
  observedTopologyGeneration : TopologyGeneration := {}
  observedPolicyGeneration : PolicyGeneration := {}
  requester : SourceName := .nil
  deriving DecidableEq, Inhabited

structure IntentAck where
  key : RequestKey := {}
  attempt : AttemptId := {}
  fence : FenceToken := {}
  generation : FailoverGeneration := {}
  accepted : Bool := false
  executor : SourceName := .nil
  deriving DecidableEq, Inhabited

end OffloadFabric
