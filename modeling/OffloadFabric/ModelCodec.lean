import OffloadFabric.Canonical
import OffloadFabric.Model

/-!
Canonical codecs of the domain model. Every encoding is read back as the value
it came from, except that capability and precondition masks with bits this build
does not know are refused.
-/
namespace OffloadFabric

open Codec

variable {level : Nat}

/-! ### Shared fields -/

def encodeName {tag : NameTag} (value : Name tag) : Encoder := putText value.bytes

def decodeName {tag : NameTag} : Decoder (Name tag) := do
  let text ← getText
  match Name.parseCanonical text with
  | some name => return name
  | none => throw .malformed

def encodeId {tag : IdTag} (value : Id tag) : Encoder := putU64 value.value
def decodeId {tag : IdTag} : Decoder (Id tag) := do return ⟨← getU64⟩

def encodeGen {tag : GenTag} (value : Gen tag) : Encoder := putU64 value.value
def decodeGen {tag : GenTag} : Decoder (Gen tag) := do return ⟨← getU64⟩

def encodeTick (value : LogicalTick) : Encoder := putU64 value.value
def decodeTick : Decoder LogicalTick := do return ⟨← getU64⟩

def encodeDigest (value : Digest) : Encoder := do
  putU64 value.hi
  putU64 value.lo

def decodeDigest : Decoder Digest := do
  let hi ← getU64
  let lo ← getU64
  return { hi, lo }

/-- A reason code is read back only when this build knows it. -/
def decodeReason : Decoder Reason := do
  let raw ← getU16
  match Reason.ofCode? raw with
  | some reason => return reason
  | none => throw .unsupportedSemantics

def encodeEnum {E : Type} [Enumerated E] (value : E) : Encoder := putU8 (Enumerated.ordinal value)

def decodeEnum {E : Type} [Enumerated E] : Decoder E := do
  let index ← getU8
  match (Enumerated.values : List E)[index.toNat]? with
  | some value => return value
  | none => throw .unsupportedSemantics

theorem roundTrips_name {tag : NameTag} (value : Name tag) :
    RoundTrips level 4 (encodeName value) decodeName value True :=
  (roundTrips_text value.bytes).result (by simp only [Name.parseCanonical_bytes])

theorem roundTrips_id {tag : IdTag} (value : Id tag) :
    RoundTrips level 8 (encodeId value) decodeId value True :=
  (roundTrips_u64 value.value).map fun raw => (⟨raw⟩ : Id tag)

theorem roundTrips_gen {tag : GenTag} (value : Gen tag) :
    RoundTrips level 8 (encodeGen value) decodeGen value True :=
  (roundTrips_u64 value.value).map fun raw => (⟨raw⟩ : Gen tag)

theorem roundTrips_tick (value : LogicalTick) :
    RoundTrips level 8 (encodeTick value) decodeTick value True :=
  (roundTrips_u64 value.value).map LogicalTick.mk

theorem roundTrips_digest (value : Digest) :
    RoundTrips level 8 (encodeDigest value) decodeDigest value True :=
  (roundTrips_u64 value.hi).seq ((roundTrips_u64 value.lo).result rfl)

theorem roundTrips_reason (value : Reason) :
    RoundTrips level 2 (putU16 value.code) decodeReason value True :=
  (roundTrips_u16 value.code).result (by simp only [Reason.ofCode?_code])

theorem roundTrips_enum {E : Type} [Enumerated E] (value : E) :
    RoundTrips level 1 (encodeEnum value) decodeEnum value True :=
  (roundTrips_u8 (Enumerated.ordinal value)).result (by simp only [Enumerated.values_ordinal])

/-! ### Topology and capabilities -/

def encodeTargetIncarnation (value : TargetIncarnation) : Encoder := do
  encodeGen value.host
  encodeGen value.device

def decodeTargetIncarnation : Decoder TargetIncarnation := do
  let host ← decodeGen
  let device ← decodeGen
  return { host, device }

theorem roundTrips_targetIncarnation (value : TargetIncarnation) :
    RoundTrips level 8 (encodeTargetIncarnation value) decodeTargetIncarnation value True :=
  (roundTrips_gen value.host).seq ((roundTrips_gen value.device).result rfl)

def encodeTargetRef (value : TargetRef) : Encoder := do
  encodeName value.target
  encodeTargetIncarnation value.incarnation

def decodeTargetRef : Decoder TargetRef := do
  let target ← decodeName
  let incarnation ← decodeTargetIncarnation
  return { target, incarnation }

theorem roundTrips_targetRef (value : TargetRef) :
    RoundTrips level 4 (encodeTargetRef value) decodeTargetRef value True :=
  (roundTrips_name value.target).seq ((roundTrips_targetIncarnation value.incarnation).result rfl)

def encodeTargetRecord (value : TargetRecord) : Encoder := do
  encodeName value.name
  encodeName value.host
  encodeName value.device
  encodeEnum value.kind
  encodeName value.scope
  encodeTargetIncarnation value.incarnation
  encodeGen value.topologyGeneration

def decodeTargetRecord : Decoder TargetRecord := do
  let name ← decodeName
  let host ← decodeName
  let device ← decodeName
  let kind ← decodeEnum
  let scope ← decodeName
  let incarnation ← decodeTargetIncarnation
  let topologyGeneration ← decodeGen
  return { name, host, device, kind, scope, incarnation, topologyGeneration }

theorem roundTrips_targetRecord (value : TargetRecord) :
    RoundTrips level 4 (encodeTargetRecord value) decodeTargetRecord value True :=
  (roundTrips_name value.name).seq <| (roundTrips_name value.host).seq <|
    (roundTrips_name value.device).seq <| (roundTrips_enum value.kind).seq <|
    (roundTrips_name value.scope).seq <| (roundTrips_targetIncarnation value.incarnation).seq <|
    (roundTrips_gen value.topologyGeneration).result rfl

def encodeCapabilitySet (value : CapabilitySet) : Encoder := putU64 value.mask

def decodeCapabilitySet : Decoder CapabilitySet := do
  let mask ← getU64
  let value : CapabilitySet := { mask }
  check value.known .unsupportedSemantics
  return value

/-- A capability bit this build does not understand is never silently dropped. -/
theorem roundTrips_capabilitySet (value : CapabilitySet) :
    RoundTrips level 8 (encodeCapabilitySet value) decodeCapabilitySet value value.known :=
  (roundTrips_u64 value.mask).finish (reads_checked _ _ _ _)

def encodeCapabilityEvidence (value : CapabilityEvidence) : Encoder := do
  encodeName value.target
  encodeGen value.generation
  encodeCapabilitySet value.capabilities
  encodeGen value.topologyGeneration
  encodeTargetIncarnation value.incarnation
  encodeName value.source
  encodeTick value.tick
  encodeDigest value.contentDigest

def decodeCapabilityEvidence : Decoder CapabilityEvidence := do
  let target ← decodeName
  let generation ← decodeGen
  let capabilities ← decodeCapabilitySet
  let topologyGeneration ← decodeGen
  let incarnation ← decodeTargetIncarnation
  let source ← decodeName
  let tick ← decodeTick
  let contentDigest ← decodeDigest
  return { target, generation, capabilities, topologyGeneration, incarnation, source, tick,
           contentDigest }

theorem roundTrips_capabilityEvidence (value : CapabilityEvidence) :
    RoundTrips level 4 (encodeCapabilityEvidence value) decodeCapabilityEvidence value
      value.capabilities.known :=
  (roundTrips_name value.target).seq <| (roundTrips_gen value.generation).seq <|
    (roundTrips_capabilitySet value.capabilities).bind_true <|
    (roundTrips_gen value.topologyGeneration).seq <|
    (roundTrips_targetIncarnation value.incarnation).seq <|
    (roundTrips_name value.source).seq <| (roundTrips_tick value.tick).seq <|
    (roundTrips_digest value.contentDigest).result rfl

/-! ### Service descriptors -/

def encodePreconditionSet (value : PreconditionSet) : Encoder := putU32 value.mask

def decodePreconditionSet : Decoder PreconditionSet := do
  let mask ← getU32
  let value : PreconditionSet := { mask }
  check value.known .unsupportedSemantics
  return value

theorem roundTrips_preconditionSet (value : PreconditionSet) :
    RoundTrips level 4 (encodePreconditionSet value) decodePreconditionSet value value.known :=
  (roundTrips_u32 value.mask).finish (reads_checked _ _ _ _)

def encodeDependencySpec (value : DependencySpec) : Encoder := do
  encodeName value.service
  encodeEnum value.kind
  encodeEnum value.requirement

def decodeDependencySpec : Decoder DependencySpec := do
  let service ← decodeName
  let kind ← decodeEnum
  let requirement ← decodeEnum
  return { service, kind, requirement }

theorem roundTrips_dependencySpec (value : DependencySpec) :
    RoundTrips level 4 (encodeDependencySpec value) decodeDependencySpec value True :=
  (roundTrips_name value.service).seq <| (roundTrips_enum value.kind).seq <|
    (roundTrips_enum value.requirement).result rfl

/-- Read `count` values in order. -/
def decodeMany {α : Type} (decodeOne : Decoder α) (count : Nat) : Decoder (List α) :=
  repeatParse (fun items => do return items ++ [← decodeOne]) count []

theorem roundTrips_many {α : Type} {least : Nat} {items : List α} {encodeOne : α → Encoder}
    {decodeOne : Decoder α} {accepted : α → Prop}
    (h : ∀ item ∈ items, RoundTrips level least (encodeOne item) decodeOne item (accepted item)) :
    RoundTrips level (least * items.length) (items.forM encodeOne)
      (decodeMany decodeOne items.length) items (∀ item ∈ items, accepted item) := by
  have hfold : ∀ (l start : List α), l.foldl (fun s a => s ++ [a]) start = start ++ l := by
    intro l
    induction l with
    | nil => simp
    | cons a rest ih => simp [ih]
  have hloop : RoundTrips level (least * items.length) (items.forM encodeOne)
      (decodeMany decodeOne items.length) (items.foldl (fun s a => s ++ [a]) [])
      (Along (fun s a => s ++ [a]) (fun _ => accepted) [] items) :=
    Carries.forEach (fun s item hitem => (h item hitem).map fun x => s ++ [x]) []
  exact (hloop.congr_value (hfold items [])).congr_accepted (along_const [])

def encodeServiceDescriptor (value : ServiceDescriptor) : Encoder := do
  encodeName value.name
  encodeName value.scope
  encodeEnum value.statefulness
  encodeCapabilitySet value.requiredCapabilities
  encodePreconditionSet value.preconditions
  encodeList value.dependencies encodeDependencySpec
  encodeGen value.lastKnownStateGeneration

def decodeServiceDescriptor : Decoder ServiceDescriptor := do
  let name ← decodeName
  let scope ← decodeName
  let statefulness ← decodeEnum
  let requiredCapabilities ← decodeCapabilitySet
  let preconditions ← decodePreconditionSet
  let dependencies ← (do
    let count ← getCount 3
    nested (decodeMany decodeDependencySpec count))
  let lastKnownStateGeneration ← decodeGen
  return { name, scope, statefulness, requiredCapabilities, preconditions, dependencies,
           lastKnownStateGeneration }

/-- The masks of a descriptor hold only bits this build knows. -/
def ServiceDescriptor.known (value : ServiceDescriptor) : Prop :=
  value.requiredCapabilities.known ∧ value.preconditions.known

theorem roundTrips_serviceDescriptor (value : ServiceDescriptor) :
    RoundTrips (level + 1) 4 (encodeServiceDescriptor value) decodeServiceDescriptor value
      value.known := by
  have hspecs : RoundTrips (level + 1) 4 (encodeList value.dependencies encodeDependencySpec)
      (do
        let count ← getCount 3
        nested (decodeMany decodeDependencySpec count)) value.dependencies True := by
    have hmany : RoundTrips level (4 * value.dependencies.length)
        (value.dependencies.forM encodeDependencySpec)
        (decodeMany decodeDependencySpec value.dependencies.length) value.dependencies
        (∀ item ∈ value.dependencies, True) :=
      roundTrips_many fun item _ => roundTrips_dependencySpec item
    refine roundTrips_count (hmany.nested.weaken ?_ |>.congr_accepted (by simp))
    omega
  exact (roundTrips_name value.name).seq <| (roundTrips_name value.scope).seq <|
    (roundTrips_enum value.statefulness).seq <|
    (roundTrips_capabilitySet value.requiredCapabilities).bind <|
    (roundTrips_preconditionSet value.preconditions).bind_true <| hspecs.seq <|
    (roundTrips_gen value.lastKnownStateGeneration).result rfl

/-! ### Evidence -/

def encodeProvenance (value : Provenance) : Encoder := do
  encodeName value.source
  encodeGen value.sequence
  encodeTick value.tick
  encodeGen value.epoch
  encodeGen value.boot

def decodeProvenance : Decoder Provenance := do
  let source ← decodeName
  let sequence ← decodeGen
  let tick ← decodeTick
  let epoch ← decodeGen
  let boot ← decodeGen
  return { source, sequence, tick, epoch, boot }

theorem roundTrips_provenance (value : Provenance) :
    RoundTrips level 4 (encodeProvenance value) decodeProvenance value True :=
  (roundTrips_name value.source).seq <| (roundTrips_gen value.sequence).seq <|
    (roundTrips_tick value.tick).seq <| (roundTrips_gen value.epoch).seq <|
    (roundTrips_gen value.boot).result rfl

def encodeFailureEvidence (value : FailureEvidence) : Encoder := do
  encodeId value.id
  encodeName value.service
  encodeTargetRef value.target
  encodeEnum value.failureClass
  encodeEnum value.ambiguity
  encodeProvenance value.provenance
  encodeGen value.topologyGeneration
  encodeGen value.capabilityGeneration
  encodeGen value.policyGeneration
  encodeDigest value.contentDigest

def decodeFailureEvidence : Decoder FailureEvidence := do
  let id ← decodeId
  let service ← decodeName
  let target ← decodeTargetRef
  let failureClass ← decodeEnum
  let ambiguity ← decodeEnum
  let provenance ← decodeProvenance
  let topologyGeneration ← decodeGen
  let capabilityGeneration ← decodeGen
  let policyGeneration ← decodeGen
  let contentDigest ← decodeDigest
  return { id, service, target, failureClass, ambiguity, provenance, topologyGeneration,
           capabilityGeneration, policyGeneration, contentDigest }

theorem roundTrips_failureEvidence (value : FailureEvidence) :
    RoundTrips level 8 (encodeFailureEvidence value) decodeFailureEvidence value True :=
  (roundTrips_id value.id).seq <| (roundTrips_name value.service).seq <|
    (roundTrips_targetRef value.target).seq <| (roundTrips_enum value.failureClass).seq <|
    (roundTrips_enum value.ambiguity).seq <| (roundTrips_provenance value.provenance).seq <|
    (roundTrips_gen value.topologyGeneration).seq <|
    (roundTrips_gen value.capabilityGeneration).seq <|
    (roundTrips_gen value.policyGeneration).seq <|
    (roundTrips_digest value.contentDigest).result rfl

def encodeDependencyObservation (value : DependencyObservation) : Encoder := do
  encodeName value.service
  encodeName value.dependency
  encodeEnum value.health
  encodeTargetRef value.observedTarget
  encodeProvenance value.provenance
  encodeGen value.topologyGeneration
  encodeDigest value.contentDigest

def decodeDependencyObservation : Decoder DependencyObservation := do
  let service ← decodeName
  let dependency ← decodeName
  let health ← decodeEnum
  let observedTarget ← decodeTargetRef
  let provenance ← decodeProvenance
  let topologyGeneration ← decodeGen
  let contentDigest ← decodeDigest
  return { service, dependency, health, observedTarget, provenance, topologyGeneration,
           contentDigest }

theorem roundTrips_dependencyObservation (value : DependencyObservation) :
    RoundTrips level 4 (encodeDependencyObservation value) decodeDependencyObservation value
      True :=
  (roundTrips_name value.service).seq <| (roundTrips_name value.dependency).seq <|
    (roundTrips_enum value.health).seq <| (roundTrips_targetRef value.observedTarget).seq <|
    (roundTrips_provenance value.provenance).seq <|
    (roundTrips_gen value.topologyGeneration).seq <|
    (roundTrips_digest value.contentDigest).result rfl

/-! ### Policy, fences, leases and attempts -/

def encodePolicyDescriptor (value : PolicyDescriptor) : Encoder := do
  encodeGen value.generation
  encodeName value.scope
  putU32 value.maxAttemptsPerGeneration
  putU32 value.maxPlanSteps
  putU32 value.maxFallbackCandidates
  putU32 value.evidenceMaxAgeTicks
  putU32 value.dependencyMaxDepth
  putBool value.requireOperatorForAmbiguous
  putBool value.allowDegradedContinuity
  putBool value.allowFailback

def decodePolicyDescriptor : Decoder PolicyDescriptor := do
  let generation ← decodeGen
  let scope ← decodeName
  let maxAttemptsPerGeneration ← getU32
  let maxPlanSteps ← getU32
  let maxFallbackCandidates ← getU32
  let evidenceMaxAgeTicks ← getU32
  let dependencyMaxDepth ← getU32
  let requireOperatorForAmbiguous ← getBool
  let allowDegradedContinuity ← getBool
  let allowFailback ← getBool
  return { generation, scope, maxAttemptsPerGeneration, maxPlanSteps, maxFallbackCandidates,
           evidenceMaxAgeTicks, dependencyMaxDepth, requireOperatorForAmbiguous,
           allowDegradedContinuity, allowFailback }

theorem roundTrips_policyDescriptor (value : PolicyDescriptor) :
    RoundTrips level 8 (encodePolicyDescriptor value) decodePolicyDescriptor value True :=
  (roundTrips_gen value.generation).seq <| (roundTrips_name value.scope).seq <|
    (roundTrips_u32 value.maxAttemptsPerGeneration).seq <|
    (roundTrips_u32 value.maxPlanSteps).seq <|
    (roundTrips_u32 value.maxFallbackCandidates).seq <|
    (roundTrips_u32 value.evidenceMaxAgeTicks).seq <|
    (roundTrips_u32 value.dependencyMaxDepth).seq <|
    (roundTrips_bool value.requireOperatorForAmbiguous).seq <|
    (roundTrips_bool value.allowDegradedContinuity).seq <|
    (roundTrips_bool value.allowFailback).result rfl

def encodeFenceRecord (value : FenceRecord) : Encoder := do
  encodeName value.service
  encodeGen value.token
  encodeTargetRef value.holder
  encodeId value.attempt
  encodeGen value.epoch
  encodeTick value.issued

def decodeFenceRecord : Decoder FenceRecord := do
  let service ← decodeName
  let token ← decodeGen
  let holder ← decodeTargetRef
  let attempt ← decodeId
  let epoch ← decodeGen
  let issued ← decodeTick
  return { service, token, holder, attempt, epoch, issued }

theorem roundTrips_fenceRecord (value : FenceRecord) :
    RoundTrips level 4 (encodeFenceRecord value) decodeFenceRecord value True :=
  (roundTrips_name value.service).seq <| (roundTrips_gen value.token).seq <|
    (roundTrips_targetRef value.holder).seq <| (roundTrips_id value.attempt).seq <|
    (roundTrips_gen value.epoch).seq <| (roundTrips_tick value.issued).result rfl

def encodeLeaseRecord (value : LeaseRecord) : Encoder := do
  encodeName value.service
  encodeId value.id
  encodeGen value.term
  encodeName value.scope
  encodeTargetRef value.holder
  encodeGen value.epoch
  encodeTick value.issued

def decodeLeaseRecord : Decoder LeaseRecord := do
  let service ← decodeName
  let id ← decodeId
  let term ← decodeGen
  let scope ← decodeName
  let holder ← decodeTargetRef
  let epoch ← decodeGen
  let issued ← decodeTick
  return { service, id, term, scope, holder, epoch, issued }

theorem roundTrips_leaseRecord (value : LeaseRecord) :
    RoundTrips level 4 (encodeLeaseRecord value) decodeLeaseRecord value True :=
  (roundTrips_name value.service).seq <| (roundTrips_id value.id).seq <|
    (roundTrips_gen value.term).seq <| (roundTrips_name value.scope).seq <|
    (roundTrips_targetRef value.holder).seq <| (roundTrips_gen value.epoch).seq <|
    (roundTrips_tick value.issued).result rfl

def encodeAttemptRecord (value : AttemptRecord) : Encoder := do
  encodeId value.id
  encodeName value.service
  encodeGen value.generation
  encodeGen value.fence
  encodeTargetRef value.fromTarget
  encodeTargetRef value.toTarget
  encodeGen value.leaseTerm
  encodeGen value.epoch
  encodeTick value.opened
  encodeEnum value.phase
  encodeEnum value.outcome
  putBool value.durableCommitted
  putBool value.acknowledged
  putBool value.restartDowngraded
  putU16 value.lastReason.code

def decodeAttemptRecord : Decoder AttemptRecord := do
  let id ← decodeId
  let service ← decodeName
  let generation ← decodeGen
  let fence ← decodeGen
  let fromTarget ← decodeTargetRef
  let toTarget ← decodeTargetRef
  let leaseTerm ← decodeGen
  let epoch ← decodeGen
  let opened ← decodeTick
  let phase ← decodeEnum
  let outcome ← decodeEnum
  let durableCommitted ← getBool
  let acknowledged ← getBool
  let restartDowngraded ← getBool
  let lastReason ← decodeReason
  return { id, service, generation, fence, fromTarget, toTarget, leaseTerm, epoch, opened, phase,
           outcome, durableCommitted, acknowledged, restartDowngraded, lastReason }

theorem roundTrips_attemptRecord (value : AttemptRecord) :
    RoundTrips level 8 (encodeAttemptRecord value) decodeAttemptRecord value True :=
  (roundTrips_id value.id).seq <| (roundTrips_name value.service).seq <|
    (roundTrips_gen value.generation).seq <| (roundTrips_gen value.fence).seq <|
    (roundTrips_targetRef value.fromTarget).seq <| (roundTrips_targetRef value.toTarget).seq <|
    (roundTrips_gen value.leaseTerm).seq <| (roundTrips_gen value.epoch).seq <|
    (roundTrips_tick value.opened).seq <| (roundTrips_enum value.phase).seq <|
    (roundTrips_enum value.outcome).seq <| (roundTrips_bool value.durableCommitted).seq <|
    (roundTrips_bool value.acknowledged).seq <| (roundTrips_bool value.restartDowngraded).seq <|
    (roundTrips_reason value.lastReason).result rfl

/-! ### Intents and effects -/

def encodeFailoverIntent (value : FailoverIntent) : Encoder := do
  encodeId value.attempt
  encodeName value.service
  encodeGen value.generation
  encodeGen value.fence
  encodeGen value.leaseTerm
  encodeTargetRef value.fromTarget
  encodeTargetRef value.toTarget
  encodeGen value.epoch
  encodeGen value.policyGeneration
  encodeGen value.topologyGeneration
  encodeTick value.issued
  putBool value.reissueAfterRestart

def decodeFailoverIntent : Decoder FailoverIntent := do
  let attempt ← decodeId
  let service ← decodeName
  let generation ← decodeGen
  let fence ← decodeGen
  let leaseTerm ← decodeGen
  let fromTarget ← decodeTargetRef
  let toTarget ← decodeTargetRef
  let epoch ← decodeGen
  let policyGeneration ← decodeGen
  let topologyGeneration ← decodeGen
  let issued ← decodeTick
  let reissueAfterRestart ← getBool
  return { attempt, service, generation, fence, leaseTerm, fromTarget, toTarget, epoch,
           policyGeneration, topologyGeneration, issued, reissueAfterRestart }

theorem roundTrips_failoverIntent (value : FailoverIntent) :
    RoundTrips level 8 (encodeFailoverIntent value) decodeFailoverIntent value True :=
  (roundTrips_id value.attempt).seq <| (roundTrips_name value.service).seq <|
    (roundTrips_gen value.generation).seq <| (roundTrips_gen value.fence).seq <|
    (roundTrips_gen value.leaseTerm).seq <| (roundTrips_targetRef value.fromTarget).seq <|
    (roundTrips_targetRef value.toTarget).seq <| (roundTrips_gen value.epoch).seq <|
    (roundTrips_gen value.policyGeneration).seq <|
    (roundTrips_gen value.topologyGeneration).seq <| (roundTrips_tick value.issued).seq <|
    (roundTrips_bool value.reissueAfterRestart).result rfl

instance : Enumerated EffectKind where
  values := [.activationAccepted, .serviceHealthy, .stateTransferComplete,
    .deactivationAcknowledged]
  ordinal
    | .activationAccepted => 0
    | .serviceHealthy => 1
    | .stateTransferComplete => 2
    | .deactivationAcknowledged => 3
  values_ordinal e := by cases e <;> rfl

instance : Enumerated EffectResult where
  values := [.positive, .negative]
  ordinal
    | .positive => 0
    | .negative => 1
  values_ordinal e := by cases e <;> rfl

def encodeEffectReport (value : EffectReport) : Encoder := do
  encodeId value.id
  encodeName value.service
  encodeId value.attempt
  encodeGen value.generation
  encodeGen value.fence
  encodeTargetRef value.target
  encodeEnum value.kind
  encodeEnum value.result
  encodeGen value.stateGeneration
  encodeProvenance value.provenance

def decodeEffectReport : Decoder EffectReport := do
  let id ← decodeId
  let service ← decodeName
  let attempt ← decodeId
  let generation ← decodeGen
  let fence ← decodeGen
  let target ← decodeTargetRef
  let kind ← decodeEnum
  let result ← decodeEnum
  let stateGeneration ← decodeGen
  let provenance ← decodeProvenance
  return { id, service, attempt, generation, fence, target, kind, result, stateGeneration,
           provenance }

theorem roundTrips_effectReport (value : EffectReport) :
    RoundTrips level 8 (encodeEffectReport value) decodeEffectReport value True :=
  (roundTrips_id value.id).seq <| (roundTrips_name value.service).seq <|
    (roundTrips_id value.attempt).seq <| (roundTrips_gen value.generation).seq <|
    (roundTrips_gen value.fence).seq <| (roundTrips_targetRef value.target).seq <|
    (roundTrips_enum value.kind).seq <| (roundTrips_enum value.result).seq <|
    (roundTrips_gen value.stateGeneration).seq <|
    (roundTrips_provenance value.provenance).result rfl

end OffloadFabric
