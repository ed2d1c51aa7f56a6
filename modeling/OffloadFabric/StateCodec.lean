import OffloadFabric.ModelCodec
import OffloadFabric.State

/-!
The snapshot codec: a service runtime, and the whole state. A state is read back
with its evidence and request orders rebuilt from the keys and without the latest
failures; it is accepted exactly when it respects the configured ceilings.
-/
namespace OffloadFabric

open Codec

variable {level : Nat} {α σ κ ν : Type} [LinearOrder κ]

/-! ### Collections -/

/-- A counted sequence of at most `max` values. -/
def decodeBounded (least max : Nat) (reason : Reason) (decodeOne : Decoder α) :
    Decoder (List α) := do
  let count ← getCount least
  check (count ≤ max) reason
  decodeMany decodeOne count

/-- A counted collection of at most `max` entries, read one level deeper. -/
def decodeEntries (max : Nat) (reason : Reason) (step : σ → Decoder σ) (start : σ) :
    Decoder σ := do
  let count ← getCount 1
  check (count ≤ max) reason
  nested (repeatParse step count start)

/-- Insert a fresh key; a key read twice is refused. -/
def emplaceEntry (m : OrderedMap κ ν) (key : κ) (value : ν) : Decoder (OrderedMap κ ν) :=
  match m.emplace key value with
  | some m => return m
  | none => throw .duplicateIdentity

theorem roundTrips_bounded {least written max : Nat} {reason : Reason} {items : List α}
    {encodeOne : α → Encoder} {decodeOne : Decoder α} (hleast : least ≤ written)
    (h : ∀ item ∈ items, RoundTrips level written (encodeOne item) decodeOne item True) :
    RoundTrips level 4 (encodeList items encodeOne) (decodeBounded least max reason decodeOne)
      items (items.length ≤ max) := by
  have hmany : RoundTrips level (least * items.length) (items.forM encodeOne)
      (decodeMany decodeOne items.length) items (∀ item ∈ items, True) :=
    (roundTrips_many h).weaken (Nat.mul_le_mul_right _ hleast)
  exact roundTrips_count
    ((hmany.check (items.length ≤ max) reason).congr_accepted (by simp))

theorem emplaceEntry_fresh {m : OrderedMap κ ν} {key : κ} (value : ν)
    (h : m.find? key = none) : emplaceEntry m key value = pure (m.insert key value) := by
  simp [emplaceEntry, OrderedMap.emplace, OrderedMap.contains, h]

/-- Reading back the entries of a map in ascending order. The accumulator shows
the map read so far, in which every key still to come is fresh. -/
theorem roundTrips_loop {m : OrderedMap κ ν} {encodeOne : κ × ν → Encoder} {step : σ → Decoder σ}
    {accepted : κ × ν → Prop} {start : σ} (next : σ → κ × ν → σ) (found : σ → OrderedMap κ ν)
    (hempty : found start = .empty)
    (hfound : ∀ s entry, found (next s entry) = (found s).insert entry.1 entry.2)
    (h : ∀ s, ∀ entry ∈ m.entries, (found s).find? entry.1 = none →
      RoundTrips level 1 (encodeOne entry) (step s) (next s entry) (accepted entry)) :
    RoundTrips level (1 * m.entries.length) (m.entries.forM encodeOne)
      (repeatParse step m.entries.length start) (m.entries.foldl next start)
      (∀ entry ∈ m.entries, accepted entry) := by
  refine (Carries.along (fun s left => left.Pairwise (fun a b => a.1 < b.1) ∧
    ∀ entry ∈ left, entry ∈ m.entries ∧ (found s).find? entry.1 = none) ?_
      ⟨m.sorted, ?_⟩).congr_accepted (along_const start)
  · rintro s entry rest ⟨hsorted, hleft⟩
    obtain ⟨hmem, hnone⟩ := hleft entry List.mem_cons_self
    rw [List.pairwise_cons] at hsorted
    refine ⟨h s entry hmem hnone, hsorted.2, fun other hother => ?_⟩
    rw [hfound, OrderedMap.find?_insert, if_neg (ne_of_gt (hsorted.1 other hother))]
    exact hleft other (List.mem_cons_of_mem _ hother)
  · intro entry hentry
    exact ⟨hentry, by rw [hempty]; rfl⟩

theorem roundTrips_entries {max : Nat} {reason : Reason} {m : OrderedMap κ ν}
    {encodeOne : κ × ν → Encoder} {step : σ → Decoder σ} {accepted : κ × ν → Prop} {start : σ}
    (next : σ → κ × ν → σ) (found : σ → OrderedMap κ ν)
    (hempty : found start = .empty)
    (hfound : ∀ s entry, found (next s entry) = (found s).insert entry.1 entry.2)
    (h : ∀ s, ∀ entry ∈ m.entries, (found s).find? entry.1 = none →
      RoundTrips level 1 (encodeOne entry) (step s) (next s entry) (accepted entry)) :
    RoundTrips (level + 1) 4 (encodeList m.entries encodeOne)
      (decodeEntries max reason step start) (m.entries.foldl next start)
      (m.size ≤ max ∧ ∀ entry ∈ m.entries, accepted entry) :=
  roundTrips_count ((roundTrips_loop next found hempty hfound h).nested.check
    (m.entries.length ≤ max) reason)

/-- Reading back a map alone. -/
theorem roundTrips_map (level max : Nat) (reason : Reason) (m : OrderedMap κ ν)
    {encodeOne : κ × ν → Encoder} {step : OrderedMap κ ν → Decoder (OrderedMap κ ν)}
    {accepted : κ × ν → Prop}
    (h : ∀ acc, ∀ entry ∈ m.entries, acc.find? entry.1 = none →
      RoundTrips level 1 (encodeOne entry) (step acc) (acc.insert entry.1 entry.2)
        (accepted entry)) :
    RoundTrips (level + 1) 4 (encodeList m.entries encodeOne)
      (decodeEntries max reason step .empty) m
      (m.size ≤ max ∧ ∀ entry ∈ m.entries, accepted entry) :=
  (roundTrips_entries (fun acc entry => acc.insert entry.1 entry.2) (fun acc => acc) rfl
    (fun _ _ => rfl) h).congr_value (OrderedMap.foldl_insert_entries m)

/-- Reading back a map together with the order its keys arrive in. -/
theorem roundTrips_mapWithOrder (level max : Nat) (reason : Reason) (m : OrderedMap κ ν)
    {encodeOne : κ × ν → Encoder}
    {step : OrderedMap κ ν × List κ → Decoder (OrderedMap κ ν × List κ)}
    {accepted : κ × ν → Prop}
    (h : ∀ acc order, ∀ entry ∈ m.entries, acc.find? entry.1 = none →
      RoundTrips level 1 (encodeOne entry) (step (acc, order))
        (acc.insert entry.1 entry.2, order ++ [entry.1]) (accepted entry)) :
    RoundTrips (level + 1) 4 (encodeList m.entries encodeOne)
      (decodeEntries max reason step (.empty, [])) (m, m.keys)
      (m.size ≤ max ∧ ∀ entry ∈ m.entries, accepted entry) := by
  have hfold : ∀ (entries : List (κ × ν)) (acc : OrderedMap κ ν) (order : List κ),
      entries.foldl (fun s entry => (s.1.insert entry.1 entry.2, s.2 ++ [entry.1])) (acc, order) =
        (entries.foldl (fun acc entry => acc.insert entry.1 entry.2) acc,
          order ++ entries.map Prod.fst) := by
    intro entries
    induction entries with
    | nil => intros; simp
    | cons entry rest ih => intros; simp [ih]
  refine (roundTrips_entries (fun s entry => (s.1.insert entry.1 entry.2, s.2 ++ [entry.1]))
    Prod.fst rfl (fun _ _ => rfl) fun s => h s.1 s.2).congr_value ?_
  rw [hfold, OrderedMap.foldl_insert_entries]
  rfl

/-! ### Service runtimes -/

def encodePhases (lifecycle : LifecyclePhase) (recovery : RecoveryPhase)
    (continuity : ContinuityClass) : Encoder := do
  putU8 (Enumerated.ordinal lifecycle)
  putU8 (Enumerated.ordinal recovery)
  putU8 (Enumerated.ordinal continuity)

/-- All three bytes are read before one of them is refused. -/
def decodePhases : Decoder (LifecyclePhase × RecoveryPhase × ContinuityClass) := do
  let lifecycle ← getU8
  let recovery ← getU8
  let continuity ← getU8
  match (Enumerated.values : List LifecyclePhase)[lifecycle.toNat]?,
      (Enumerated.values : List RecoveryPhase)[recovery.toNat]?,
      (Enumerated.values : List ContinuityClass)[continuity.toNat]? with
  | some lifecycle, some recovery, some continuity => return (lifecycle, recovery, continuity)
  | _, _, _ => throw .unsupportedSemantics

def encodeServiceRuntime (runtime : ServiceRuntime) : Encoder := do
  encodeServiceDescriptor runtime.descriptor
  encodePhases runtime.lifecycle runtime.recovery runtime.continuity
  encodeOptional runtime.active encodeTargetRef
  encodeOptional runtime.fallback encodeTargetRef
  encodeGen runtime.generation
  encodeGen runtime.fence
  encodeOptional runtime.lease encodeLeaseRecord
  putU64 runtime.nextAttempt
  encodeId runtime.currentAttempt
  encodeList runtime.history encodeAttemptRecord
  encodeList runtime.effectsSeen encodeId
  putU64 runtime.attemptsEvicted
  putU32 runtime.attemptsSinceVerified
  putBool runtime.activationAccepted
  putBool runtime.effectVerified
  putBool runtime.stateTransferVerified
  putBool runtime.failoverRecorded
  putBool runtime.ambiguityPending
  encodeId runtime.pendingAmbiguity
  encodeOptional runtime.preFailoverTarget encodeTargetRef
  encodeGen runtime.preFailoverCapability
  encodeGen runtime.preFailoverTopology
  encodeGen runtime.preFailoverPolicy
  encodeTick runtime.lastChange
  putU16 runtime.lastReason.code

def decodeServiceRuntime (config : FabricConfig) : Decoder ServiceRuntime := do
  let descriptor ← decodeServiceDescriptor
  let (lifecycle, recovery, continuity) ← decodePhases
  let active ← decodeOptional decodeTargetRef
  let fallback ← decodeOptional decodeTargetRef
  let generation ← decodeGen
  let fence ← decodeGen
  let lease ← decodeOptional decodeLeaseRecord
  let nextAttempt ← getU64
  let currentAttempt ← decodeId
  let history ← decodeBounded 1 config.maxAttemptHistory .oversized decodeAttemptRecord
  let effectsSeen ← decodeBounded 8 config.maxAttemptHistory .oversized decodeId
  let attemptsEvicted ← getU64
  let attemptsSinceVerified ← getU32
  let activationAccepted ← getBool
  let effectVerified ← getBool
  let stateTransferVerified ← getBool
  let failoverRecorded ← getBool
  let ambiguityPending ← getBool
  let pendingAmbiguity ← decodeId
  let preFailoverTarget ← decodeOptional decodeTargetRef
  let preFailoverCapability ← decodeGen
  let preFailoverTopology ← decodeGen
  let preFailoverPolicy ← decodeGen
  let lastChange ← decodeTick
  let lastReason ← decodeReason
  return { descriptor, lifecycle, recovery, continuity, active, fallback, generation, fence, lease,
           nextAttempt, currentAttempt, history, effectsSeen, attemptsEvicted,
           attemptsSinceVerified, activationAccepted, effectVerified, stateTransferVerified,
           failoverRecorded, ambiguityPending, pendingAmbiguity, preFailoverTarget,
           preFailoverCapability, preFailoverTopology, preFailoverPolicy, lastChange, lastReason }

/-- A runtime the decoder accepts: known masks and histories within the ceiling. -/
structure ServiceRuntime.Encodable (config : FabricConfig) (runtime : ServiceRuntime) : Prop where
  known : runtime.descriptor.known
  history : runtime.history.length ≤ config.maxAttemptHistory
  effects : runtime.effectsSeen.length ≤ config.maxAttemptHistory

theorem roundTrips_phases (lifecycle : LifecyclePhase) (recovery : RecoveryPhase)
    (continuity : ContinuityClass) :
    RoundTrips level 1 (encodePhases lifecycle recovery continuity) decodePhases
      (lifecycle, recovery, continuity) True :=
  (roundTrips_u8 _).seq <| (roundTrips_u8 _).seq <| (roundTrips_u8 _).result
    (by simp only [Enumerated.values_ordinal])

theorem roundTrips_optionalRef (value : Option TargetRef) :
    RoundTrips level 1 (encodeOptional value encodeTargetRef) (decodeOptional decodeTargetRef)
      value True :=
  (roundTrips_optional fun item _ =>
    (roundTrips_targetRef item).weaken (Nat.zero_le _)).congr_accepted (by simp)

theorem roundTrips_optionalLease (value : Option LeaseRecord) :
    RoundTrips level 1 (encodeOptional value encodeLeaseRecord)
      (decodeOptional decodeLeaseRecord) value True :=
  (roundTrips_optional fun item _ =>
    (roundTrips_leaseRecord item).weaken (Nat.zero_le _)).congr_accepted (by simp)

theorem roundTrips_serviceRuntime (config : FabricConfig) (runtime : ServiceRuntime) :
    RoundTrips (level + 1) 4 (encodeServiceRuntime runtime) (decodeServiceRuntime config) runtime
      (runtime.Encodable config) := by
  have haccepted : (runtime.descriptor.known ∧
      runtime.history.length ≤ config.maxAttemptHistory ∧
      runtime.effectsSeen.length ≤ config.maxAttemptHistory) ↔ runtime.Encodable config :=
    ⟨fun h => ⟨h.1, h.2.1, h.2.2⟩, fun h => ⟨h.known, h.history, h.effects⟩⟩
  refine Carries.congr_accepted ?_ haccepted
  exact (roundTrips_serviceDescriptor runtime.descriptor).bind <|
    (roundTrips_phases _ _ _).seq <|
    (roundTrips_optionalRef runtime.active).seq <|
    (roundTrips_optionalRef runtime.fallback).seq <|
    (roundTrips_gen runtime.generation).seq <| (roundTrips_gen runtime.fence).seq <|
    (roundTrips_optionalLease runtime.lease).seq <|
    (roundTrips_u64 runtime.nextAttempt).seq <| (roundTrips_id runtime.currentAttempt).seq <|
    (roundTrips_bounded (Nat.le_add_left 1 7) fun item _ => roundTrips_attemptRecord item).bind <|
    (roundTrips_bounded (Nat.le_refl 8) fun item _ => roundTrips_id item).bind_true <|
    (roundTrips_u64 runtime.attemptsEvicted).seq <|
    (roundTrips_u32 runtime.attemptsSinceVerified).seq <|
    (roundTrips_bool runtime.activationAccepted).seq <|
    (roundTrips_bool runtime.effectVerified).seq <|
    (roundTrips_bool runtime.stateTransferVerified).seq <|
    (roundTrips_bool runtime.failoverRecorded).seq <|
    (roundTrips_bool runtime.ambiguityPending).seq <|
    (roundTrips_id runtime.pendingAmbiguity).seq <|
    (roundTrips_optionalRef runtime.preFailoverTarget).seq <|
    (roundTrips_gen runtime.preFailoverCapability).seq <|
    (roundTrips_gen runtime.preFailoverTopology).seq <|
    (roundTrips_gen runtime.preFailoverPolicy).seq <|
    (roundTrips_tick runtime.lastChange).seq <|
    (roundTrips_reason runtime.lastReason).result rfl

/-! ### Entries of the state's collections -/

def decodeTargetEntry (targets : OrderedMap TargetName TargetRecord) :
    Decoder (OrderedMap TargetName TargetRecord) := do
  let record ← decodeTargetRecord
  check (¬record.name.isEmpty) .duplicateIdentity
  emplaceEntry targets record.name record

def encodeCapabilityEntry (entry : TargetName × CapabilitySlot) : Encoder := do
  encodeName entry.1
  encodeCapabilityEvidence entry.2.evidence
  putBool entry.2.requiresReconfirmation

def decodeCapabilityEntry (capabilities : OrderedMap TargetName CapabilitySlot) :
    Decoder (OrderedMap TargetName CapabilitySlot) := do
  let target ← decodeName
  let evidence ← decodeCapabilityEvidence
  let requiresReconfirmation ← getBool
  emplaceEntry capabilities target { evidence, requiresReconfirmation }

def encodeServiceEntry (entry : ServiceName × ServiceRuntime) : Encoder := do
  encodeName entry.1
  encodeServiceRuntime entry.2

/-- The name of the descriptor is taken from the key. -/
def decodeServiceEntry (config : FabricConfig) (services : OrderedMap ServiceName ServiceRuntime) :
    Decoder (OrderedMap ServiceName ServiceRuntime) := do
  let name ← decodeName
  let runtime ← decodeServiceRuntime config
  emplaceEntry services name { runtime with descriptor := { runtime.descriptor with name } }

def encodeDependencySlotEntry (entry : ServiceName × DependencySlot) : Encoder := do
  encodeName entry.1
  encodeDependencyObservation entry.2.observation
  putBool entry.2.requiresReconfirmation

def decodeDependencySlotEntry (bucket : OrderedMap ServiceName DependencySlot) :
    Decoder (OrderedMap ServiceName DependencySlot) := do
  let dependency ← decodeName
  let observation ← decodeDependencyObservation
  let requiresReconfirmation ← getBool
  emplaceEntry bucket dependency { observation, requiresReconfirmation }

def encodeDependencyEntry (entry : ServiceName × OrderedMap ServiceName DependencySlot) :
    Encoder := do
  encodeName entry.1
  encodeList entry.2.entries encodeDependencySlotEntry

/-- A service read twice continues its bucket. -/
def decodeDependencyEntry (config : FabricConfig)
    (dependencies : OrderedMap ServiceName (OrderedMap ServiceName DependencySlot)) :
    Decoder (OrderedMap ServiceName (OrderedMap ServiceName DependencySlot)) := do
  let service ← decodeName
  let count ← getCount 1
  check (count ≤ config.maxDependenciesPerService) .dependencyCapacityExceeded
  let bucket := (dependencies.find? service).getD .empty
  let bucket ← repeatParse decodeDependencySlotEntry count bucket
  return dependencies.insert service bucket

def decodeFailureEntry (read : OrderedMap EvidenceId FailureEvidence × List EvidenceId) :
    Decoder (OrderedMap EvidenceId FailureEvidence × List EvidenceId) := do
  let evidence ← decodeFailureEvidence
  check (¬evidence.id.isNil) .duplicateIdentity
  let failures ← emplaceEntry read.1 evidence.id evidence
  return (failures, read.2 ++ [evidence.id])

def decodeFenceEntry (fences : OrderedMap ServiceName FenceRecord) :
    Decoder (OrderedMap ServiceName FenceRecord) := do
  let fence ← decodeFenceRecord
  emplaceEntry fences fence.service fence

def encodeFenceWitness (witness : FenceWitness) : Encoder := do
  encodeGen witness.token
  encodeTargetIncarnation witness.incarnation
  encodeGen witness.topologyGeneration

def decodeFenceWitness : Decoder FenceWitness := do
  let token ← decodeGen
  let incarnation ← decodeTargetIncarnation
  let topologyGeneration ← decodeGen
  return { token, incarnation, topologyGeneration }

def encodeWitnessEntry (entry : WitnessKey × FenceWitness) : Encoder := do
  encodeName entry.1.service
  encodeName entry.1.target
  encodeFenceWitness entry.2

def decodeWitnessEntry (witnesses : OrderedMap WitnessKey FenceWitness) :
    Decoder (OrderedMap WitnessKey FenceWitness) := do
  let service ← decodeName
  let target ← decodeName
  let witness ← decodeFenceWitness
  emplaceEntry witnesses { service, target } witness

def encodeSourceEntry (entry : SourceName × SourceRole) : Encoder := do
  encodeName entry.1
  encodeEnum entry.2

def decodeSourceEntry (sources : OrderedMap SourceName SourceRole) :
    Decoder (OrderedMap SourceName SourceRole) := do
  let source ← decodeName
  let role ← decodeEnum
  emplaceEntry sources source role

def encodeWatermarkEntry (entry : SourceName × SourceWatermark) : Encoder := do
  encodeName entry.1
  encodeGen entry.2.sequence
  encodeDigest entry.2.digest
  encodeTick entry.2.tick

def decodeWatermarkEntry (watermarks : OrderedMap SourceName SourceWatermark) :
    Decoder (OrderedMap SourceName SourceWatermark) := do
  let source ← decodeName
  let sequence ← decodeGen
  let digest ← decodeDigest
  let tick ← decodeTick
  emplaceEntry watermarks source { sequence, digest, tick }

def encodeRequestOutcome (kind : RequestKind) (outcome : Reason) : Encoder := do
  putU8 (Enumerated.ordinal kind)
  putU16 outcome.code

def encodeRequestEntry (entry : RequestKey × RequestCacheEntry) : Encoder := do
  encodeId entry.1
  encodeRequestOutcome entry.2.kind entry.2.outcome
  putBool entry.2.accepted
  putBool entry.2.duplicate
  encodeId entry.2.attempt
  encodeGen entry.2.generation
  encodeGen entry.2.fence
  encodeGen entry.2.leaseTerm
  encodeGen entry.2.policyGeneration
  encodeGen entry.2.topologyGeneration
  encodeTargetRef entry.2.fromTarget
  encodeTargetRef entry.2.toTarget
  putBool entry.2.hasIntent
  putU32 entry.2.planStepMask
  encodeDigest entry.2.responseDigest
  encodeTick entry.2.recorded

/-- The kind and the outcome of a cached request; both are read before one is refused. -/
def decodeRequestOutcome : Decoder (RequestKind × Reason) := do
  let kind ← getU8
  let outcome ← getU16
  match (Enumerated.values : List RequestKind)[kind.toNat]?, Reason.ofCode? outcome with
  | some kind, some outcome => return (kind, outcome)
  | _, _ => throw .unsupportedSemantics

def decodeRequestEntry (read : OrderedMap RequestKey RequestCacheEntry × List RequestKey) :
    Decoder (OrderedMap RequestKey RequestCacheEntry × List RequestKey) := do
  let key ← decodeId
  let (kind, outcome) ← decodeRequestOutcome
  let accepted ← getBool
  let duplicate ← getBool
  let attempt ← decodeId
  let generation ← decodeGen
  let fence ← decodeGen
  let leaseTerm ← decodeGen
  let policyGeneration ← decodeGen
  let topologyGeneration ← decodeGen
  let fromTarget ← decodeTargetRef
  let toTarget ← decodeTargetRef
  let hasIntent ← getBool
  let planStepMask ← getU32
  let responseDigest ← decodeDigest
  let recorded ← decodeTick
  let cache ← emplaceEntry read.1 key
    { kind, outcome, accepted, duplicate, attempt, generation, fence, leaseTerm, policyGeneration,
      topologyGeneration, fromTarget, toTarget, hasIntent, planStepMask, responseDigest, recorded }
  return (cache, read.2 ++ [key])

/-! ### The whole state -/

def kCanonicalSchemaVersion : UInt16 := 1

def encodeStats (stats : FabricStats) : Encoder :=
  StatField.all.forM fun field => putU64 (stats.count field)

def decodeStats : Decoder FabricStats :=
  StatField.all.foldlM (fun stats field => do return stats.set field (← getU64)) {}

/-- At most one witness for each target and service; saturates at the 64-bit maximum. -/
def witnessCeiling (config : FabricConfig) : Nat :=
  if 2 ^ 64 ≤ config.maxTargets * config.maxServices then 2 ^ 64 - 1
  else config.maxTargets * config.maxServices

def encodeState (state : State) : Encoder := do
  putU16 kCanonicalSchemaVersion
  encodeGen state.epoch
  encodeGen state.boot
  encodeTick state.tick
  encodeGen state.topologyGeneration
  encodeGen state.policyGeneration
  putU64 state.nextEvidenceId
  putU64 state.nextAttemptId
  putU64 state.nextLeaseId
  putU64 state.nextPlanId
  encodePolicyDescriptor state.policy
  encodeList state.targets.entries fun entry => encodeTargetRecord entry.2
  encodeList state.capabilities.entries encodeCapabilityEntry
  encodeList state.services.entries encodeServiceEntry
  encodeList state.dependencies.entries encodeDependencyEntry
  encodeList state.failures.entries fun entry => encodeFailureEvidence entry.2
  encodeList state.fences.entries fun entry => encodeFenceRecord entry.2
  encodeList state.witnesses.entries encodeWitnessEntry
  encodeList state.sources.entries encodeSourceEntry
  encodeList state.watermarks.entries encodeWatermarkEntry
  encodeList state.requestCache.entries encodeRequestEntry
  encodeStats state.stats

def decodeState (config : FabricConfig) : Decoder State := do
  let schema ← getU16
  check (schema = kCanonicalSchemaVersion) .storeSemanticsIncompatible
  let epoch ← decodeGen
  let boot ← decodeGen
  let tick ← decodeTick
  let topologyGeneration ← decodeGen
  let policyGeneration ← decodeGen
  let nextEvidenceId ← getU64
  let nextAttemptId ← getU64
  let nextLeaseId ← getU64
  let nextPlanId ← getU64
  check (nextEvidenceId ≠ 0 ∧ nextAttemptId ≠ 0 ∧ nextLeaseId ≠ 0 ∧ nextPlanId ≠ 0) .impossibleValue
  let policy ← decodePolicyDescriptor
  let targets ←
    decodeEntries config.maxTargets .registryCapacityExceeded decodeTargetEntry .empty
  let capabilities ←
    decodeEntries config.maxTargets .registryCapacityExceeded decodeCapabilityEntry .empty
  let services ← decodeEntries config.maxServices .registryCapacityExceeded
    (decodeServiceEntry config) .empty
  let dependencies ← decodeEntries config.maxServices .registryCapacityExceeded
    (decodeDependencyEntry config) .empty
  let evidence ←
    decodeEntries config.maxEvidenceRecords .evidenceCapacityExceeded decodeFailureEntry
      (.empty, [])
  let fences ← decodeEntries config.maxServices .registryCapacityExceeded decodeFenceEntry .empty
  let witnesses ←
    decodeEntries (witnessCeiling config) .registryCapacityExceeded decodeWitnessEntry .empty
  let sources ← decodeEntries config.maxSources .registryCapacityExceeded decodeSourceEntry .empty
  let watermarks ←
    decodeEntries config.maxSources .registryCapacityExceeded decodeWatermarkEntry .empty
  let requests ←
    decodeEntries config.maxRequestCache .registryCapacityExceeded decodeRequestEntry (.empty, [])
  let stats ← decodeStats
  return { epoch, boot, tick, topologyGeneration, policyGeneration, policy, nextEvidenceId,
           nextAttemptId, nextLeaseId, nextPlanId, targets, capabilities, services, dependencies,
           failures := evidence.1, failureOrder := evidence.2, fences, witnesses, sources,
           watermarks,
           requestCache := requests.1, requestOrder := requests.2, stats }

/-! ### Round trip of the state -/

/-- Every entry is stored under the identity it names. -/
structure State.WellKeyed (state : State) : Prop where
  targets : ∀ entry ∈ state.targets.entries, entry.2.name = entry.1 ∧ entry.1.isEmpty = false
  services : ∀ entry ∈ state.services.entries, entry.2.descriptor.name = entry.1
  failures : ∀ entry ∈ state.failures.entries, entry.2.id = entry.1 ∧ entry.1.isNil = false
  fences : ∀ entry ∈ state.fences.entries, entry.2.service = entry.1

/-- A state the decoder accepts: allocators that can still number, known masks and
collections within the configured ceilings. -/
structure State.Encodable (config : FabricConfig) (state : State) : Prop where
  allocators : state.nextEvidenceId ≠ 0 ∧ state.nextAttemptId ≠ 0 ∧ state.nextLeaseId ≠ 0 ∧
    state.nextPlanId ≠ 0
  targets : state.targets.size ≤ config.maxTargets
  capabilities : state.capabilities.size ≤ config.maxTargets ∧
    ∀ entry ∈ state.capabilities.entries, entry.2.evidence.capabilities.known
  services : state.services.size ≤ config.maxServices ∧
    ∀ entry ∈ state.services.entries, entry.2.Encodable config
  dependencies : state.dependencies.size ≤ config.maxServices ∧
    ∀ entry ∈ state.dependencies.entries, entry.2.size ≤ config.maxDependenciesPerService
  failures : state.failures.size ≤ config.maxEvidenceRecords
  fences : state.fences.size ≤ config.maxServices
  witnesses : state.witnesses.size ≤ witnessCeiling config
  sources : state.sources.size ≤ config.maxSources
  watermarks : state.watermarks.size ≤ config.maxSources
  requests : state.requestCache.size ≤ config.maxRequestCache

/-- What the snapshot keeps of a state: the orders are those of the keys, and the
latest failure of every service is forgotten. -/
def State.restored (state : State) : State :=
  { state with
    failureOrder := state.failures.keys, latestFailure := .empty
    requestOrder := state.requestCache.keys }

section Entries

theorem roundTrips_targetEntry (acc : OrderedMap TargetName TargetRecord)
    (entry : TargetName × TargetRecord) (hname : entry.2.name = entry.1)
    (hnonempty : entry.1.isEmpty = false) (hfresh : acc.find? entry.1 = none) :
    RoundTrips level 1 (encodeTargetRecord entry.2) (decodeTargetEntry acc)
      (acc.insert entry.1 entry.2) True := by
  refine ((roundTrips_targetRecord entry.2).weaken (Nat.le_add_left 1 3)).result ?_
  rw [hname, check_true (by simp [hnonempty]), emplaceEntry_fresh _ hfresh]
  rfl

theorem roundTrips_capabilityEntry (acc : OrderedMap TargetName CapabilitySlot)
    (entry : TargetName × CapabilitySlot) (hfresh : acc.find? entry.1 = none) :
    RoundTrips level 1 (encodeCapabilityEntry entry) (decodeCapabilityEntry acc)
      (acc.insert entry.1 entry.2) entry.2.evidence.capabilities.known :=
  (((roundTrips_name entry.1).seq <| (roundTrips_capabilityEvidence entry.2.evidence).bind_true <|
    (roundTrips_bool entry.2.requiresReconfirmation).result
      (by exact emplaceEntry_fresh entry.2 hfresh)).weaken (Nat.le_add_left 1 3))

theorem roundTrips_serviceEntry (config : FabricConfig)
    (acc : OrderedMap ServiceName ServiceRuntime) (entry : ServiceName × ServiceRuntime)
    (hname : entry.2.descriptor.name = entry.1) (hfresh : acc.find? entry.1 = none) :
    RoundTrips (level + 1) 1 (encodeServiceEntry entry) (decodeServiceEntry config acc)
      (acc.insert entry.1 entry.2) (entry.2.Encodable config) := by
  have hsame : { entry.2 with descriptor := { entry.2.descriptor with name := entry.1 } } =
      entry.2 := by rw [← hname]
  refine ((roundTrips_name entry.1).seq <|
    (roundTrips_serviceRuntime config entry.2).result ?_).weaken (Nat.le_add_left 1 3)
  rw [hsame, emplaceEntry_fresh _ hfresh]

theorem roundTrips_dependencySlotEntry (acc : OrderedMap ServiceName DependencySlot)
    (entry : ServiceName × DependencySlot) (hfresh : acc.find? entry.1 = none) :
    RoundTrips level 1 (encodeDependencySlotEntry entry) (decodeDependencySlotEntry acc)
      (acc.insert entry.1 entry.2) True :=
  (((roundTrips_name entry.1).seq <| (roundTrips_dependencyObservation entry.2.observation).seq <|
    (roundTrips_bool entry.2.requiresReconfirmation).result
      (by exact emplaceEntry_fresh entry.2 hfresh)).weaken (Nat.le_add_left 1 3))

theorem roundTrips_dependencyEntry (config : FabricConfig)
    (acc : OrderedMap ServiceName (OrderedMap ServiceName DependencySlot))
    (entry : ServiceName × OrderedMap ServiceName DependencySlot)
    (hfresh : acc.find? entry.1 = none) :
    RoundTrips level 1 (encodeDependencyEntry entry) (decodeDependencyEntry config acc)
      (acc.insert entry.1 entry.2) (entry.2.size ≤ config.maxDependenciesPerService) := by
  have hslots : RoundTrips level (1 * entry.2.entries.length)
      (entry.2.entries.forM encodeDependencySlotEntry)
      (repeatParse decodeDependencySlotEntry entry.2.entries.length .empty) entry.2 True :=
    ((roundTrips_loop (fun bucket slot => bucket.insert slot.1 slot.2) (fun bucket => bucket) rfl
      (fun _ _ => rfl) fun bucket slot _ hslot =>
        roundTrips_dependencySlotEntry bucket slot hslot).congr_value
          (OrderedMap.foldl_insert_entries entry.2)).congr_accepted (by simp)
  have hbucket : (acc.find? entry.1).getD .empty = .empty := by rw [hfresh]; rfl
  have hrest : RoundTrips level 4 (encodeList entry.2.entries encodeDependencySlotEntry)
      (do
        let count ← getCount 1
        check (count ≤ config.maxDependenciesPerService) .dependencyCapacityExceeded
        let bucket ← repeatParse decodeDependencySlotEntry count ((acc.find? entry.1).getD .empty)
        return acc.insert entry.1 bucket) (acc.insert entry.1 entry.2)
      (entry.2.size ≤ config.maxDependenciesPerService) := by
    rw [hbucket]
    exact roundTrips_count (((hslots.map fun bucket => acc.insert entry.1 bucket).check
      (entry.2.entries.length ≤ config.maxDependenciesPerService)
      .dependencyCapacityExceeded).congr_accepted (by rw [and_true]; rfl))
  exact ((roundTrips_name entry.1).seq hrest).weaken (Nat.le_add_left 1 3)

theorem roundTrips_failureEntry (acc : OrderedMap EvidenceId FailureEvidence)
    (order : List EvidenceId) (entry : EvidenceId × FailureEvidence)
    (hid : entry.2.id = entry.1) (hnil : entry.1.isNil = false)
    (hfresh : acc.find? entry.1 = none) :
    RoundTrips level 1 (encodeFailureEvidence entry.2) (decodeFailureEntry (acc, order))
      (acc.insert entry.1 entry.2, order ++ [entry.1]) True := by
  refine ((roundTrips_failureEvidence entry.2).weaken (Nat.le_add_left 1 7)).result ?_
  rw [hid, check_true (by simp [hnil]), emplaceEntry_fresh _ hfresh]
  rfl

theorem roundTrips_fenceEntry (acc : OrderedMap ServiceName FenceRecord)
    (entry : ServiceName × FenceRecord) (hservice : entry.2.service = entry.1)
    (hfresh : acc.find? entry.1 = none) :
    RoundTrips level 1 (encodeFenceRecord entry.2) (decodeFenceEntry acc)
      (acc.insert entry.1 entry.2) True := by
  refine ((roundTrips_fenceRecord entry.2).weaken (Nat.le_add_left 1 3)).result ?_
  rw [hservice, emplaceEntry_fresh _ hfresh]

theorem roundTrips_fenceWitness (value : FenceWitness) :
    RoundTrips level 8 (encodeFenceWitness value) decodeFenceWitness value True :=
  (roundTrips_gen value.token).seq <| (roundTrips_targetIncarnation value.incarnation).seq <|
    (roundTrips_gen value.topologyGeneration).result rfl

theorem roundTrips_witnessEntry (acc : OrderedMap WitnessKey FenceWitness)
    (entry : WitnessKey × FenceWitness) (hfresh : acc.find? entry.1 = none) :
    RoundTrips level 1 (encodeWitnessEntry entry) (decodeWitnessEntry acc)
      (acc.insert entry.1 entry.2) True :=
  (((roundTrips_name entry.1.service).seq <| (roundTrips_name entry.1.target).seq <|
    (roundTrips_fenceWitness entry.2).result
      (by exact emplaceEntry_fresh entry.2 hfresh)).weaken (Nat.le_add_left 1 3))

theorem roundTrips_sourceEntry (acc : OrderedMap SourceName SourceRole)
    (entry : SourceName × SourceRole) (hfresh : acc.find? entry.1 = none) :
    RoundTrips level 1 (encodeSourceEntry entry) (decodeSourceEntry acc)
      (acc.insert entry.1 entry.2) True :=
  (((roundTrips_name entry.1).seq <| (roundTrips_enum entry.2).result
    (by exact emplaceEntry_fresh entry.2 hfresh)).weaken (Nat.le_add_left 1 3))

theorem roundTrips_watermarkEntry (acc : OrderedMap SourceName SourceWatermark)
    (entry : SourceName × SourceWatermark) (hfresh : acc.find? entry.1 = none) :
    RoundTrips level 1 (encodeWatermarkEntry entry) (decodeWatermarkEntry acc)
      (acc.insert entry.1 entry.2) True :=
  (((roundTrips_name entry.1).seq <| (roundTrips_gen entry.2.sequence).seq <|
    (roundTrips_digest entry.2.digest).seq <| (roundTrips_tick entry.2.tick).result
      (by exact emplaceEntry_fresh entry.2 hfresh)).weaken (Nat.le_add_left 1 3))

theorem roundTrips_requestOutcome (kind : RequestKind) (outcome : Reason) :
    RoundTrips level 1 (encodeRequestOutcome kind outcome) decodeRequestOutcome (kind, outcome)
      True :=
  (roundTrips_u8 _).seq <| (roundTrips_u16 _).result
    (by simp only [Enumerated.values_ordinal, Reason.ofCode?_code])

theorem roundTrips_requestEntry (acc : OrderedMap RequestKey RequestCacheEntry)
    (order : List RequestKey) (entry : RequestKey × RequestCacheEntry)
    (hfresh : acc.find? entry.1 = none) :
    RoundTrips level 1 (encodeRequestEntry entry) (decodeRequestEntry (acc, order))
      (acc.insert entry.1 entry.2, order ++ [entry.1]) True := by
  refine Carries.weaken ?_ (Nat.le_add_left 1 7)
  exact (roundTrips_id entry.1).seq <|
    (roundTrips_requestOutcome entry.2.kind entry.2.outcome).seq <|
    (roundTrips_bool entry.2.accepted).seq <| (roundTrips_bool entry.2.duplicate).seq <|
    (roundTrips_id entry.2.attempt).seq <| (roundTrips_gen entry.2.generation).seq <|
    (roundTrips_gen entry.2.fence).seq <| (roundTrips_gen entry.2.leaseTerm).seq <|
    (roundTrips_gen entry.2.policyGeneration).seq <|
    (roundTrips_gen entry.2.topologyGeneration).seq <|
    (roundTrips_targetRef entry.2.fromTarget).seq <|
    (roundTrips_targetRef entry.2.toTarget).seq <| (roundTrips_bool entry.2.hasIntent).seq <|
    (roundTrips_u32 entry.2.planStepMask).seq <|
    (roundTrips_digest entry.2.responseDigest).seq <|
    (roundTrips_tick entry.2.recorded).result <| by
      rw [emplaceEntry_fresh _ hfresh]
      rfl

theorem roundTrips_stats (stats : FabricStats) :
    RoundTrips level 0 (encodeStats stats) decodeStats stats True := by
  have hcount : ∀ (fields : List StatField) (start : FabricStats) (field : StatField),
      (fields.foldl (fun acc field => acc.set field (stats.count field)) start).count field =
        if field ∈ fields then stats.count field else start.count field := by
    intro fields
    induction fields with
    | nil => simp
    | cons first rest ih =>
      intro start field
      rw [List.foldl_cons, ih]
      by_cases hfirst : field = first <;> by_cases hrest : field ∈ rest <;>
        simp [FabricStats.set, hfirst, hrest]
  have hall : ∀ field : StatField, field ∈ StatField.all := by
    intro field
    cases field <;> decide
  refine (Carries.foldlM (fun (acc : FabricStats) field => (roundTrips_u64 (stats.count field)).map
    fun value => acc.set field value) {}).congr_value ?_
  apply FabricStats.ext
  funext field
  rw [hcount, if_pos (hall field)]

end Entries

/-- A snapshot is read back as the state it was taken of, with the orders and the
latest failures of `State.restored`, exactly when the state is encodable. -/
theorem roundTrips_state (config : FabricConfig) {state : State} (h : state.WellKeyed) :
    RoundTrips 2 2 (encodeState state) (decodeState config) state.restored
      (state.Encodable config) := by
  have htargets := roundTrips_map 1 config.maxTargets .registryCapacityExceeded state.targets
    fun acc entry hentry =>
      roundTrips_targetEntry acc entry (h.targets entry hentry).1 (h.targets entry hentry).2
  have hcapabilities :=
    roundTrips_map 1 config.maxTargets .registryCapacityExceeded state.capabilities
    fun acc entry _ =>
      roundTrips_capabilityEntry acc entry
  have hservices := roundTrips_map 1 config.maxServices .registryCapacityExceeded state.services
    fun acc entry hentry => roundTrips_serviceEntry config acc entry (h.services entry hentry)
  have hdependencies :=
    roundTrips_map 1 config.maxServices .registryCapacityExceeded state.dependencies
    fun acc entry _ =>
      roundTrips_dependencyEntry config acc entry
  have hfailures :=
    roundTrips_mapWithOrder 1 config.maxEvidenceRecords .evidenceCapacityExceeded state.failures
    fun acc order entry hentry =>
      roundTrips_failureEntry acc order entry (h.failures entry hentry).1
        (h.failures entry hentry).2
  have hfences := roundTrips_map 1 config.maxServices .registryCapacityExceeded state.fences
    fun acc entry hentry => roundTrips_fenceEntry acc entry (h.fences entry hentry)
  have hwitnesses :=
    roundTrips_map 1 (witnessCeiling config) .registryCapacityExceeded state.witnesses
    fun acc entry _ =>
      roundTrips_witnessEntry acc entry
  have hsources := roundTrips_map 1 config.maxSources .registryCapacityExceeded state.sources
    fun acc entry _ => roundTrips_sourceEntry acc entry
  have hwatermarks := roundTrips_map 1 config.maxSources .registryCapacityExceeded state.watermarks
    fun acc entry _ => roundTrips_watermarkEntry acc entry
  have hrequests :=
    roundTrips_mapWithOrder 1 config.maxRequestCache .registryCapacityExceeded state.requestCache
    fun acc order entry _ =>
      roundTrips_requestEntry acc order entry
  refine Carries.congr_accepted ((roundTrips_u16 kCanonicalSchemaVersion).seq <|
    Carries.check (kCanonicalSchemaVersion = kCanonicalSchemaVersion)
      .storeSemanticsIncompatible <|
    (roundTrips_gen state.epoch).seq <| (roundTrips_gen state.boot).seq <|
    (roundTrips_tick state.tick).seq <| (roundTrips_gen state.topologyGeneration).seq <|
    (roundTrips_gen state.policyGeneration).seq <|
    (roundTrips_u64 state.nextEvidenceId).seq <| (roundTrips_u64 state.nextAttemptId).seq <|
    (roundTrips_u64 state.nextLeaseId).seq <| (roundTrips_u64 state.nextPlanId).seq <|
    Carries.check _ .impossibleValue <|
    (roundTrips_policyDescriptor state.policy).seq <|
    htargets.bind <| hcapabilities.bind <| hservices.bind <| hdependencies.bind <|
    hfailures.bind <| hfences.bind <| hwitnesses.bind <| hsources.bind <|
    hwatermarks.bind <| hrequests.bind_true <| (roundTrips_stats state.stats).result (by rfl)) ?_
  have htrue {κ ν : Type} (entries : List (κ × ν)) : ∀ entry ∈ entries, True :=
    fun _ _ => trivial
  constructor
  · rintro ⟨-, hids, ⟨ht, -⟩, hc, hs, hd, ⟨hf, -⟩, ⟨hfences, -⟩, ⟨hw, -⟩, ⟨hso, -⟩, ⟨hwm, -⟩, hr, -⟩
    exact ⟨hids, ht, hc, hs, hd, hf, hfences, hw, hso, hwm, hr⟩
  · intro he
    exact ⟨rfl, he.allocators, ⟨he.targets, htrue _⟩, he.capabilities, he.services,
      he.dependencies, ⟨he.failures, htrue _⟩, ⟨he.fences, htrue _⟩, ⟨he.witnesses, htrue _⟩,
      ⟨he.sources, htrue _⟩, ⟨he.watermarks, htrue _⟩, he.requests, htrue _⟩

end OffloadFabric
