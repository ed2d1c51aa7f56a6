import OffloadFabric.StateCodec
import OffloadFabric.Store

/-!
The journal records of the coordinator: one typed change for each kind of record,
its payload, its decoding and its effect on the state. A record that decodes at all
decodes to the change it was made of.
-/
namespace OffloadFabric

open Codec

variable {level : Nat}

/-! ### Changes of one service runtime -/

/-- Payload of a record that changes exactly one service runtime. -/
structure RuntimeChange where
  service : ServiceName := .nil
  runtime : ServiceRuntime := {}
  fence : Option FenceRecord := none
  witnesses : List (TargetName × FenceWitness) := []
  deriving DecidableEq, Inhabited

/-- The record kinds that carry a runtime change. -/
inductive RuntimeRecordKind where
  | attemptCommitted | attemptAcknowledged | effectRecorded | ambiguityResolved
  | failbackCommitted | recoveryResumed
  deriving DecidableEq, Inhabited, Repr

def RuntimeRecordKind.recordKind : RuntimeRecordKind → RecordKind
  | .attemptCommitted => .attemptCommitted
  | .attemptAcknowledged => .attemptAcknowledged
  | .effectRecorded => .effectRecorded
  | .ambiguityResolved => .ambiguityResolved
  | .failbackCommitted => .failbackCommitted
  | .recoveryResumed => .recoveryResumed

def encodeWitnessUpdate (update : TargetName × FenceWitness) : Encoder := do
  encodeName update.1
  encodeFenceWitness update.2

def decodeWitnessUpdate : Decoder (TargetName × FenceWitness) := do
  let name ← decodeName
  let witness ← decodeFenceWitness
  return (name, witness)

def encodeRuntimeChange (change : RuntimeChange) : Encoder := do
  encodeName change.service
  encodeServiceRuntime change.runtime
  encodeOptional change.fence encodeFenceRecord
  encodeList change.witnesses encodeWitnessUpdate

/-- Too many witnesses are refused without a reason of their own. -/
def decodeRuntimeChange (config : FabricConfig) : Decoder RuntimeChange := do
  let service ← decodeName
  let runtime ← decodeServiceRuntime config
  let fence ← decodeOptional decodeFenceRecord
  let witnesses ← decodeBounded 1 config.maxTargets .ok decodeWitnessUpdate
  return { service, runtime, fence, witnesses }

theorem roundTrips_witnessUpdate (update : TargetName × FenceWitness) :
    RoundTrips level 4 (encodeWitnessUpdate update) decodeWitnessUpdate update True :=
  (roundTrips_name update.1).seq <| (roundTrips_fenceWitness update.2).result rfl

theorem roundTrips_runtimeChange (config : FabricConfig) (change : RuntimeChange) :
    RoundTrips (level + 1) 4 (encodeRuntimeChange change) (decodeRuntimeChange config) change
      (change.runtime.Encodable config ∧ change.witnesses.length ≤ config.maxTargets) := by
  have hfence : RoundTrips (level + 1) 1 (encodeOptional change.fence encodeFenceRecord)
      (decodeOptional decodeFenceRecord) change.fence True :=
    (roundTrips_optional fun item _ =>
      (roundTrips_fenceRecord item).weaken (Nat.zero_le _)).congr_accepted (by simp)
  exact (roundTrips_name change.service).seq <|
    (roundTrips_serviceRuntime config change.runtime).bind <| hfence.seq <|
    (roundTrips_bounded (Nat.le_add_left 1 3)
      fun item _ => roundTrips_witnessUpdate item).result rfl

/-! ### The records of the journal -/

inductive Change where
  | serviceRegistered (descriptor : ServiceDescriptor)
  | targetUpserted (target : TargetRecord)
  | topologyGenerationSet (generation : TopologyGeneration)
  | policySet (policy : PolicyDescriptor)
  | capabilityIngested (evidence : CapabilityEvidence)
  | failureIngested (evidence : FailureEvidence)
  | dependencyIngested (observation : DependencyObservation)
  | runtimeChanged (kind : RuntimeRecordKind) (change : RuntimeChange)
  | targetRetired (target : TargetName)
  | serviceWithdrawn (service : ServiceName)
  | sourceRegistered (source : SourceName) (role : SourceRole)
  | epochAdvanced (epoch : CoordinatorEpoch) (boot : BootId)
  deriving DecidableEq, Inhabited

namespace Change

def kind : Change → RecordKind
  | .serviceRegistered _ => .serviceRegistered
  | .targetUpserted _ => .targetUpserted
  | .topologyGenerationSet _ => .topologyGenerationSet
  | .policySet _ => .policySet
  | .capabilityIngested _ => .capabilityIngested
  | .failureIngested _ => .failureIngested
  | .dependencyIngested _ => .dependencyIngested
  | .runtimeChanged kind _ => kind.recordKind
  | .targetRetired _ => .targetRetired
  | .serviceWithdrawn _ => .serviceWithdrawn
  | .sourceRegistered _ _ => .sourceRegistered
  | .epochAdvanced _ _ => .epochAdvanced

def encoder : Change → Encoder
  | .serviceRegistered descriptor => encodeServiceDescriptor descriptor
  | .targetUpserted target => encodeTargetRecord target
  | .topologyGenerationSet generation => encodeGen generation
  | .policySet policy => encodePolicyDescriptor policy
  | .capabilityIngested evidence => encodeCapabilityEvidence evidence
  | .failureIngested evidence => encodeFailureEvidence evidence
  | .dependencyIngested observation => encodeDependencyObservation observation
  | .runtimeChanged _ change => encodeRuntimeChange change
  | .targetRetired target => encodeName target
  | .serviceWithdrawn service => encodeName service
  | .sourceRegistered source role => encodeSourceEntry (source, role)
  | .epochAdvanced epoch boot => do
    encodeGen epoch
    encodeGen boot

/-- The journal record of a change; a failed writer leaves an empty payload. -/
def record (change : Change) : Record :=
  { kind := change.kind, payload := (CanonicalWriter.run change.encoder).buffer }

/-- Whether the payload could be written at all. -/
def writable (change : Change) : Bool := (CanonicalWriter.run change.encoder).ok

end Change

/-- The reader of the payload of one kind of record. -/
def changeDecoder (config : FabricConfig) : RecordKind → Option (Decoder Change)
  | .serviceRegistered => some do return .serviceRegistered (← decodeServiceDescriptor)
  | .targetUpserted => some do return .targetUpserted (← decodeTargetRecord)
  | .topologyGenerationSet => some do return .topologyGenerationSet (← decodeGen)
  | .policySet => some do return .policySet (← decodePolicyDescriptor)
  | .capabilityIngested => some do return .capabilityIngested (← decodeCapabilityEvidence)
  | .failureIngested => some do return .failureIngested (← decodeFailureEvidence)
  | .dependencyIngested => some do return .dependencyIngested (← decodeDependencyObservation)
  | .attemptCommitted =>
    some do return .runtimeChanged .attemptCommitted (← decodeRuntimeChange config)
  | .attemptAcknowledged =>
    some do return .runtimeChanged .attemptAcknowledged (← decodeRuntimeChange config)
  | .effectRecorded =>
    some do return .runtimeChanged .effectRecorded (← decodeRuntimeChange config)
  | .ambiguityResolved =>
    some do return .runtimeChanged .ambiguityResolved (← decodeRuntimeChange config)
  | .failbackCommitted =>
    some do return .runtimeChanged .failbackCommitted (← decodeRuntimeChange config)
  | .recoveryResumed =>
    some do return .runtimeChanged .recoveryResumed (← decodeRuntimeChange config)
  | .targetRetired => some do return .targetRetired (← decodeName)
  | .serviceWithdrawn => some do return .serviceWithdrawn (← decodeName)
  | .sourceRegistered => some do
    let source ← decodeName
    let role ← decodeEnum
    return .sourceRegistered source role
  | .epochAdvanced => some do
    let epoch ← decodeGen
    let boot ← decodeGen
    return .epochAdvanced epoch boot
  | .beginTransaction | .commitTransaction => none

/-- The change of a record, if its payload decodes. -/
def decodeChange (config : FabricConfig) (record : Record) : Option Change :=
  match changeDecoder config record.kind with
  | none => none
  | some decoder => (decodeFrom decoder record.payload).toOption.map Prod.fst

namespace Change

/-- A change the decoder accepts once its payload was written. -/
def Encodable (config : FabricConfig) : Change → Prop
  | .serviceRegistered descriptor => descriptor.known
  | .capabilityIngested evidence => evidence.capabilities.known
  | .runtimeChanged _ change =>
    change.runtime.Encodable config ∧ change.witnesses.length ≤ config.maxTargets
  | _ => True

theorem roundTrips (config : FabricConfig) (change : Change) :
    ∃ decoder, changeDecoder config change.kind = some decoder ∧
      RoundTrips 1 1 change.encoder decoder change (change.Encodable config) := by
  cases change with
  | serviceRegistered descriptor =>
    exact ⟨_, rfl, ((roundTrips_serviceDescriptor descriptor).map _).weaken (by decide)⟩
  | targetUpserted target =>
    exact ⟨_, rfl, ((roundTrips_targetRecord target).map _).weaken (by decide)⟩
  | topologyGenerationSet generation =>
    exact ⟨_, rfl, ((roundTrips_gen generation).map _).weaken (by decide)⟩
  | policySet policy =>
    exact ⟨_, rfl, ((roundTrips_policyDescriptor policy).map _).weaken (by decide)⟩
  | capabilityIngested evidence =>
    exact ⟨_, rfl, ((roundTrips_capabilityEvidence evidence).map _).weaken (by decide)⟩
  | failureIngested evidence =>
    exact ⟨_, rfl, ((roundTrips_failureEvidence evidence).map _).weaken (by decide)⟩
  | dependencyIngested observation =>
    exact ⟨_, rfl, ((roundTrips_dependencyObservation observation).map _).weaken (by decide)⟩
  | runtimeChanged kind change =>
    have h : RoundTrips 1 4 (encodeRuntimeChange change) _ (runtimeChanged kind change) _ :=
      (roundTrips_runtimeChange config change).map (runtimeChanged kind)
    cases kind <;> exact ⟨_, rfl, h.weaken (by decide)⟩
  | targetRetired target =>
    exact ⟨_, rfl, ((roundTrips_name target).map _).weaken (by decide)⟩
  | serviceWithdrawn service =>
    exact ⟨_, rfl, ((roundTrips_name service).map _).weaken (by decide)⟩
  | sourceRegistered source role =>
    exact ⟨_, rfl, ((roundTrips_name source).seq
      ((roundTrips_enum role).result (by rfl))).weaken (by decide)⟩
  | epochAdvanced epoch boot =>
    exact ⟨_, rfl, ((roundTrips_gen epoch).seq
      ((roundTrips_gen boot).result (by rfl))).weaken (by decide)⟩

/-- No decoder accepts the empty payload. -/
theorem decodeChange_empty (config : FabricConfig) (kind : RecordKind) :
    decodeChange config { kind, payload := [] } = none := by
  cases kind <;> rfl

/-- A record decodes exactly when its payload was written and is accepted, and then
to the change it was made of. -/
theorem decodeChange_record (config : FabricConfig) (change : Change) :
    (change.writable ∧ change.Encodable config → decodeChange config change.record = some change) ∧
      (¬(change.writable ∧ change.Encodable config) →
        decodeChange config change.record = none) := by
  obtain ⟨decoder, hdecoder, htrip⟩ := roundTrips config change
  cases hrun : CanonicalWriter.run change.encoder with
  | none =>
    have hempty : change.record = { kind := change.kind, payload := [] } := by
      simp [record, hrun, CanonicalWriter.buffer]
    have hwritable : change.writable = false := by simp [writable, hrun, CanonicalWriter.ok]
    rw [hempty, decodeChange_empty, hwritable]
    simp
  | some payload =>
    have hwritable : change.writable = true := by simp [writable, hrun, CanonicalWriter.ok]
    have hrecord : decodeChange config change.record =
        (decodeFrom decoder payload).toOption.map Prod.fst := by
      simp [decodeChange, record, hdecoder, hrun, CanonicalWriter.buffer]
    obtain ⟨hok, herror⟩ := htrip.decodeFrom (by decide) hrun
    rw [hrecord, hwritable]
    constructor
    · rintro ⟨-, haccepted⟩
      rw [hok haccepted]
      rfl
    · intro hrefused
      obtain ⟨err, herr⟩ := herror fun haccepted => hrefused ⟨rfl, haccepted⟩
      rw [herr]
      rfl

theorem eq_of_decodeChange {config : FabricConfig} {change decoded : Change}
    (h : decodeChange config change.record = some decoded) : decoded = change := by
  obtain ⟨hok, hnone⟩ := decodeChange_record config change
  by_cases haccepted : change.writable ∧ change.Encodable config
  · rw [hok haccepted] at h
    exact (Option.some.inj h).symm
  · rw [hnone haccepted] at h
    cases h

/-! ### Effect on the state -/

def watermarkOf (provenance : Provenance) (digest : Digest) : SourceWatermark :=
  { sequence := provenance.sequence, digest, tick := provenance.tick }

/-- The bucket of a service; a missing one is empty. -/
def dependencyBucket (state : State) (service : ServiceName) :
    OrderedMap ServiceName DependencySlot :=
  (state.dependencies.find? service).getD .empty

/-- The effect of a replayed change. -/
def apply (state : State) : Change → State
  | .serviceRegistered descriptor =>
    { state with
      services := state.services.insert descriptor.name
        { descriptor, lifecycle := .registered } }
  | .targetUpserted target => { state with targets := state.targets.insert target.name target }
  | .topologyGenerationSet generation => { state with topologyGeneration := generation }
  | .policySet policy => { state with policy, policyGeneration := policy.generation }
  | .capabilityIngested evidence =>
    { state with
      capabilities := state.capabilities.insert evidence.target
        { evidence, requiresReconfirmation := false } }
  | .failureIngested evidence =>
    { state with
      failures := state.failures.insert evidence.id evidence
      failureOrder := state.failureOrder ++ [evidence.id]
      latestFailure := state.latestFailure.insert evidence.service evidence.id
      watermarks := state.watermarks.insert evidence.provenance.source
        (watermarkOf evidence.provenance evidence.contentDigest) }
  | .dependencyIngested observation =>
    { state with
      dependencies := state.dependencies.insert observation.service
        ((dependencyBucket state observation.service).insert observation.dependency
          { observation, requiresReconfirmation := false })
      watermarks := state.watermarks.insert observation.provenance.source
        (watermarkOf observation.provenance observation.contentDigest) }
  | .runtimeChanged _ change =>
    { state with
      services := state.services.insert change.service change.runtime
      fences :=
        match change.fence with
        | some fence => state.fences.insert change.service fence
        | none => state.fences
      witnesses := change.witnesses.foldl
        (fun witnesses update =>
          witnesses.insert { service := change.service, target := update.1 } update.2)
        state.witnesses }
  | .targetRetired target =>
    { state with
      targets := state.targets.erase target, capabilities := state.capabilities.erase target }
  | .serviceWithdrawn service =>
    match state.services.find? service with
    | some runtime =>
      { state with
        services := state.services.insert service { runtime with lifecycle := .withdrawn } }
    | none => state
  | .sourceRegistered source role => { state with sources := state.sources.insert source role }
  | .epochAdvanced epoch boot => { state with epoch, boot }

end Change

/-- Apply one journal record; a record that does not decode is refused. -/
def applyRecord (config : FabricConfig) (state : State) (record : Record) : Option State :=
  (decodeChange config record).map (Change.apply state)

end OffloadFabric
