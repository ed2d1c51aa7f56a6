import OffloadFabric.Fabric

/-!
The part of the state that the journal reproduces. Ticks, allocators, evidence,
watermarks, the request cache, counters and the passing annotations of a service are
left out; everything that carries authority is kept.
-/
namespace OffloadFabric

/-- An attempt without the fields a restart rewrites. -/
def AttemptRecord.hard (record : AttemptRecord) : AttemptRecord :=
  { record with outcome := .pending, restartDowngraded := false, lastReason := .ok }

/-- A runtime without the fields that are changed outside the journal. -/
def ServiceRuntime.hard (runtime : ServiceRuntime) : ServiceRuntime :=
  { runtime with
    lifecycle := .registered, recovery := .none, continuity := .unknown
    history := runtime.history.map AttemptRecord.hard, effectsSeen := []
    activationAccepted := false, effectVerified := false, stateTransferVerified := false
    failoverRecorded := false, ambiguityPending := false, pendingAmbiguity := {}
    preFailoverTarget := none, lastChange := {}, lastReason := .ok }

@[ext] structure Core where
  epoch : CoordinatorEpoch
  boot : BootId
  topologyGeneration : TopologyGeneration
  policyGeneration : PolicyGeneration
  policy : PolicyDescriptor
  targets : OrderedMap TargetName TargetRecord
  capabilities : OrderedMap TargetName CapabilityEvidence
  services : OrderedMap ServiceName ServiceRuntime
  dependencies : OrderedMap ServiceName (OrderedMap ServiceName DependencyObservation)
  fences : OrderedMap ServiceName FenceRecord
  witnesses : OrderedMap WitnessKey FenceWitness
  sources : OrderedMap SourceName SourceRole

def State.core (state : State) : Core :=
  { epoch := state.epoch
    boot := state.boot
    topologyGeneration := state.topologyGeneration
    policyGeneration := state.policyGeneration
    policy := state.policy
    targets := state.targets
    capabilities := state.capabilities.mapValues CapabilitySlot.evidence
    services := state.services.mapValues ServiceRuntime.hard
    dependencies := state.dependencies.mapValues fun bucket =>
      bucket.mapValues DependencySlot.observation
    fences := state.fences
    witnesses := state.witnesses
    sources := state.sources }

namespace State

variable {state state' : State}

/-- The runtime of a service as the core sees it. -/
theorem core_service (state : State) (service : ServiceName) :
    state.core.services.find? service =
      (state.services.find? service).map ServiceRuntime.hard :=
  OrderedMap.find?_mapValues _ _ _

theorem core_bucket (state : State) (service : ServiceName) :
    (state.core.dependencies.find? service).getD .empty =
      (Change.dependencyBucket state service).mapValues DependencySlot.observation := by
  simp only [core, OrderedMap.find?_mapValues, Change.dependencyBucket]
  cases state.dependencies.find? service <;> rfl

/-- Writing a runtime that only differs in its annotations is not seen. -/
theorem core_insert_service {service : ServiceName} {runtime next : ServiceRuntime}
    (hfind : state.services.find? service = some runtime) (hsame : next.hard = runtime.hard) :
    { state with services := state.services.insert service next }.core = state.core := by
  unfold core
  rw [OrderedMap.mapValues_insert_same hfind hsame]

theorem core_modifyService (service : ServiceName) {f : ServiceRuntime → ServiceRuntime}
    (hsame : ∀ runtime, (f runtime).hard = runtime.hard) :
    (state.modifyService service f).core = state.core := by
  unfold modifyService
  split
  · rfl
  · rename_i runtime hfind
    exact core_insert_service hfind (hsame runtime)

@[simp] theorem core_bump (state : State) (field : StatField) :
    (state.bump field).core = state.core := rfl

@[simp] theorem core_bumpAll (state : State) (fields : List StatField) :
    (state.bumpAll fields).core = state.core := by
  unfold bumpAll
  induction fields generalizing state with
  | nil => rfl
  | cons field rest ih => exact (ih _).trans (core_bump state field)

@[simp] theorem core_remember (state : State) (config : FabricConfig) (key : RequestKey)
    (entry : RequestCacheEntry) : (state.remember config key entry).core = state.core := by
  unfold remember
  split
  · rfl
  split <;> rfl

end State

/-- A withdrawal is not seen in the core. -/
theorem Change.core_serviceWithdrawn (state : State) (service : ServiceName) :
    (apply state (.serviceWithdrawn service)).core = state.core := by
  simp only [apply]
  split
  · rename_i runtime hfind
    exact State.core_insert_service hfind rfl
  · rfl

/-- The effect of a change on the core depends on the core only. -/
theorem Change.core_apply {state state' : State} (h : state.core = state'.core)
    (change : Change) : (apply state change).core = (apply state' change).core := by
  have hall := Core.ext_iff.mp h
  simp only [State.core] at hall
  obtain ⟨hepoch, hboot, htopology, hgeneration, hpolicy, htargets, hcapabilities, hservices,
    hdependencies, hfences, hwitnesses, hsources⟩ := hall
  cases change with
  | serviceRegistered descriptor =>
    simp only [apply, State.core, OrderedMap.mapValues_insert, *]
  | targetUpserted target => simp only [apply, State.core, *]
  | topologyGenerationSet generation => simp only [apply, State.core, *]
  | policySet policy => simp only [apply, State.core, *]
  | capabilityIngested evidence =>
    simp only [apply, State.core, OrderedMap.mapValues_insert, *]
  | failureIngested evidence => simp only [apply, State.core, *]
  | dependencyIngested observation =>
    have hbucket : (dependencyBucket state observation.service).mapValues
        DependencySlot.observation =
          (dependencyBucket state' observation.service).mapValues DependencySlot.observation := by
      rw [← State.core_bucket, ← State.core_bucket, h]
    simp only [apply, State.core, OrderedMap.mapValues_insert, *]
  | runtimeChanged kind change =>
    cases hfence : change.fence <;>
      simp only [apply, State.core, OrderedMap.mapValues_insert, *]
  | targetRetired target => simp only [apply, State.core, OrderedMap.mapValues_erase, *]
  | serviceWithdrawn service =>
    rw [core_serviceWithdrawn, core_serviceWithdrawn, h]
  | sourceRegistered source role => simp only [apply, State.core, *]
  | epochAdvanced epoch boot => simp only [apply, State.core, *]

end OffloadFabric
