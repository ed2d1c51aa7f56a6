import OffloadFabric.Ledger

/-!
The ceilings that a snapshot is decoded under. Registrations, attempts, effects, cached
requests and retained failures are bounded where they are inserted, and watermarks,
capabilities and fences by the registry that their keys come from. Three things are not:
the observations of a service grow past their ceiling, the witnesses of retired targets stay,
and a replay retains every failure that the journal still has. In a run without them every
memory stays within the ceilings.
-/
namespace OffloadFabric

open Fabric (Op Moment)

/-! ### Ceilings -/

/-- All ceilings are positive. -/
structure FabricConfig.Positive (config : FabricConfig) : Prop where
  targets : 0 < config.maxTargets
  services : 0 < config.maxServices
  dependencies : 0 < config.maxDependenciesPerService
  evidence : 0 < config.maxEvidenceRecords
  attempts : 0 < config.maxAttemptHistory
  sources : 0 < config.maxSources
  requests : 0 < config.maxRequestCache

/-- No more attempts and effects than a snapshot may hold. -/
structure ServiceRuntime.Short (config : FabricConfig) (runtime : ServiceRuntime) : Prop where
  history : runtime.history.length ≤ config.maxAttemptHistory
  effects : runtime.effectsSeen.length ≤ config.maxAttemptHistory

/-- Nothing is larger than the decoder of a snapshot lets it be. -/
structure State.Within (config : FabricConfig) (state : State) : Prop where
  targets : state.targets.size ≤ config.maxTargets
  capabilities : state.capabilities.size ≤ config.maxTargets
  services : state.services.size ≤ config.maxServices
  runtimes : ∀ service runtime, state.services.find? service = some runtime →
    runtime.Short config
  dependencies : state.dependencies.size ≤ config.maxServices
  observations : ∀ service bucket, state.dependencies.find? service = some bucket →
    bucket.size ≤ config.maxDependenciesPerService
  failures : state.failures.size ≤ config.maxEvidenceRecords
  fences : state.fences.size ≤ config.maxServices
  witnesses : state.witnesses.size ≤ witnessCeiling config
  sources : state.sources.size ≤ config.maxSources
  watermarks : state.watermarks.size ≤ config.maxSources
  requests : state.requestCache.size ≤ config.maxRequestCache

/-- What the decoder asks for besides: allocators that can still number, and known masks. -/
structure State.Meaningful (state : State) : Prop where
  allocators : state.nextEvidenceId ≠ 0 ∧ state.nextAttemptId ≠ 0 ∧ state.nextLeaseId ≠ 0 ∧
    state.nextPlanId ≠ 0
  capabilities : ∀ entry ∈ state.capabilities.entries, entry.2.evidence.capabilities.known
  services : ∀ entry ∈ state.services.entries, entry.2.descriptor.known

/-- Within the ceilings a snapshot is not refused for its size. -/
theorem State.Within.encodable_iff {config : FabricConfig} {state : State}
    (h : state.Within config) : state.Encodable config ↔ state.Meaningful := by
  constructor
  · intro hencodable
    exact ⟨hencodable.allocators, hencodable.capabilities.2, fun entry hentry =>
      (hencodable.services.2 entry hentry).known⟩
  · intro hmeaningful
    refine ⟨hmeaningful.allocators, h.targets, ⟨h.capabilities, hmeaningful.capabilities⟩,
      ⟨h.services, fun entry hentry => ?_⟩, ⟨h.dependencies, fun entry hentry => ?_⟩,
      h.failures, h.fences, h.witnesses, h.sources, h.watermarks, h.requests⟩
    · have hshort := h.runtimes entry.1 entry.2
        ((state.services.find?_eq_some_iff _ _).mpr hentry)
      exact ⟨hmeaningful.services entry hentry, hshort.history, hshort.effects⟩
    · exact h.observations entry.1 entry.2
        ((state.dependencies.find?_eq_some_iff _ _).mpr hentry)

/-! ### Calls that exceed a ceiling -/

/-- The evidence that the change retains. -/
def Change.evidenceId? : Change → Option EvidenceId
  | .failureIngested evidence => some evidence.id
  | _ => none

/-- The failures that a store still has on record, those of the snapshot first. -/
def recordedEvidence (config : FabricConfig) (base : State) (records : List Record) :
    List EvidenceId :=
  base.failures.keys ++
    records.filterMap fun record => (decodeChange config record).bind Change.evidenceId?

namespace Fabric

/-- A new dependency of a service is observed that already has as many as it may. -/
def Overfills (fabric : Fabric) (op : Op) : Prop :=
  ∃ observation proposal, op = .ingestDependency observation ∧
    fabric.checkIngestDependency observation = .ok proposal ∧
    fabric.config.maxDependenciesPerService ≤
      (Change.dependencyBucket fabric.state observation.service).size ∧
    (Change.dependencyBucket fabric.state observation.service).find? observation.dependency = none

/-- A service leaves a target that it has no witness for, when there are already as many
witnesses as there may be targets and services. -/
def Crowds (fabric : Fabric) (op : Op) : Prop :=
  ∃ service check runtime qualified, fabric.moving op = some (service, check) ∧
    fabric.state.services.find? service = some runtime ∧ check runtime = .ok qualified ∧
    qualified.move.source.valid = true ∧
    fabric.state.witnessOf service qualified.move.source.target = none ∧
    witnessCeiling fabric.config ≤ fabric.state.witnesses.size

/-- An open finds more failures on record than may be retained. -/
def Overflows (fabric : Fabric) (op : Op) : Prop :=
  op = .openFabric ∧ ∃ found base,
    Store.open (storeOptions fabric.config) fabric.disk = .ok found ∧
    loadBase fabric.config found.snapshot = .ok base ∧
    fabric.config.maxEvidenceRecords <
      (recordedEvidence fabric.config base found.records).dedup.length

/-- The calls that may take a collection past its ceiling. -/
inductive Exceeds (fabric : Fabric) (op : Op) : Prop where
  | overfills : fabric.Overfills op → Exceeds fabric op
  | crowds {actor : Fabric} {op' : Op} : fabric.Acts op actor op' → actor.Crowds op' →
      Exceeds fabric op
  | overflows : fabric.Overflows op → Exceeds fabric op

end Fabric

/-! ### What the journal reproduces -/

/-- The core is within the ceilings, or its keys are those of a registry that is. -/
structure Core.Within (config : FabricConfig) (core : Core) : Prop where
  targets : core.targets.size ≤ config.maxTargets
  capabilities : ∀ target, (core.capabilities.find? target).isSome →
    (core.targets.find? target).isSome
  services : core.services.size ≤ config.maxServices
  histories : ∀ service runtime, core.services.find? service = some runtime →
    runtime.history.length ≤ config.maxAttemptHistory
  dependencies : ∀ service bucket, core.dependencies.find? service = some bucket →
    (core.services.find? service).isSome ∧ bucket.size ≤ config.maxDependenciesPerService
  fences : ∀ service, (core.fences.find? service).isSome → (core.services.find? service).isSome
  witnesses : core.witnesses.size ≤ witnessCeiling config
  sources : core.sources.size ≤ config.maxSources

/-- The witnesses that a record adds to. -/
def RuntimeChange.witnessed (change : RuntimeChange)
    (witnesses : OrderedMap WitnessKey FenceWitness) : OrderedMap WitnessKey FenceWitness :=
  change.witnesses.foldl
    (fun witnesses update =>
      witnesses.insert { service := change.service, target := update.1 } update.2)
    witnesses

/-- There is room for what the change inserts. -/
inductive Fits (config : FabricConfig) (core : Core) : Change → Prop where
  | serviceRegistered (descriptor : ServiceDescriptor) :
      core.services.size < config.maxServices → Fits config core (.serviceRegistered descriptor)
  | targetUpserted {target : TargetRecord} :
      (core.targets.insert target.name target).size ≤ config.maxTargets →
      Fits config core (.targetUpserted target)
  | topologyGenerationSet (generation : TopologyGeneration) :
      Fits config core (.topologyGenerationSet generation)
  | policySet (policy : PolicyDescriptor) : Fits config core (.policySet policy)
  | capabilityIngested {evidence : CapabilityEvidence} :
      (core.targets.find? evidence.target).isSome → Fits config core (.capabilityIngested evidence)
  | failureIngested (evidence : FailureEvidence) : Fits config core (.failureIngested evidence)
  | dependencyIngested {observation : DependencyObservation} :
      (core.services.find? observation.service).isSome →
      (((core.dependencies.find? observation.service).getD .empty).insert
        observation.dependency observation).size ≤ config.maxDependenciesPerService →
      Fits config core (.dependencyIngested observation)
  | runtimeChanged (kind : RuntimeRecordKind) {change : RuntimeChange} :
      (core.services.find? change.service).isSome →
      change.runtime.history.length ≤ config.maxAttemptHistory →
      (change.witnessed core.witnesses).size ≤ witnessCeiling config →
      Fits config core (.runtimeChanged kind change)
  | targetRetired (target : TargetName) : Fits config core (.targetRetired target)
  | serviceWithdrawn (service : ServiceName) : Fits config core (.serviceWithdrawn service)
  | sourceRegistered (source : SourceName) (role : SourceRole) :
      core.sources.size < config.maxSources → Fits config core (.sourceRegistered source role)
  | epochAdvanced (epoch : CoordinatorEpoch) (boot : BootId) :
      Fits config core (.epochAdvanced epoch boot)

section Core

variable {config : FabricConfig} {state state' : State} {fabric caller actor : Fabric} {op op' : Op}
  {commit : Commit}

theorem length_history_hard (runtime : ServiceRuntime) :
    runtime.hard.history.length = runtime.history.length := List.length_map _

theorem Core.Within.apply {change : Change} (h : state.core.Within config)
    (hfits : Fits config state.core change) : (Change.apply state change).core.Within config := by
  cases hfits with
  | topologyGenerationSet | policySet | failureIngested | epochAdvanced =>
    exact ⟨h.targets, h.capabilities, h.services, h.histories, h.dependencies, h.fences,
      h.witnesses, h.sources⟩
  | serviceWithdrawn service => exact Change.core_serviceWithdrawn state service ▸ h
  | serviceRegistered descriptor hroom =>
    have hservices : (Change.apply state (.serviceRegistered descriptor)).core.services =
        state.core.services.insert descriptor.name
          (ServiceRuntime.hard { descriptor, lifecycle := .registered }) :=
      OrderedMap.mapValues_insert _ _ _ _
    refine ⟨h.targets, h.capabilities, ?_, fun service runtime hfind => ?_,
      fun service bucket hfind => ?_, fun service hfind => ?_, h.witnesses, h.sources⟩
    · rw [hservices]
      exact (OrderedMap.size_insert_le _ _ _).trans hroom
    · rw [hservices, OrderedMap.find?_insert] at hfind
      split at hfind
      · obtain rfl := Option.some.inj hfind
        exact Nat.zero_le _
      · exact h.histories service runtime hfind
    · obtain ⟨hsome, hsize⟩ := h.dependencies service bucket hfind
      rw [hservices]
      exact ⟨OrderedMap.isSome_find?_insert.mpr (Or.inr hsome), hsize⟩
    · rw [hservices]
      exact OrderedMap.isSome_find?_insert.mpr (Or.inr (h.fences service hfind))
  | targetUpserted hroom =>
    exact ⟨hroom,
      fun target hfind => OrderedMap.isSome_find?_insert.mpr (Or.inr (h.capabilities target hfind)),
      h.services, h.histories, h.dependencies, h.fences, h.witnesses, h.sources⟩
  | @capabilityIngested evidence htarget =>
    have hcapabilities : (Change.apply state (.capabilityIngested evidence)).core.capabilities =
        state.core.capabilities.insert evidence.target evidence :=
      OrderedMap.mapValues_insert _ _ _ _
    refine ⟨h.targets, fun target hfind => ?_, h.services, h.histories, h.dependencies, h.fences,
      h.witnesses, h.sources⟩
    rw [hcapabilities] at hfind
    rcases OrderedMap.isSome_find?_insert.mp hfind with rfl | hfind
    · exact htarget
    · exact h.capabilities target hfind
  | @dependencyIngested observation hservice hroom =>
    have hdependencies :
        (Change.apply state (.dependencyIngested observation)).core.dependencies =
          state.core.dependencies.insert observation.service
            (((state.core.dependencies.find? observation.service).getD .empty).insert
              observation.dependency observation) := by
      rw [State.core_bucket, ← OrderedMap.mapValues_insert DependencySlot.observation _ _
        { observation, requiresReconfirmation := false }]
      exact OrderedMap.mapValues_insert _ _ _ _
    refine ⟨h.targets, h.capabilities, h.services, h.histories, fun service bucket hfind => ?_,
      h.fences, h.witnesses, h.sources⟩
    rw [hdependencies, OrderedMap.find?_insert] at hfind
    split at hfind
    · rename_i hsame
      obtain rfl := Option.some.inj hfind
      exact ⟨hsame ▸ hservice, hroom⟩
    · exact h.dependencies service bucket hfind
  | @runtimeChanged kind change hservice hhistory hroom =>
    have hservices : (Change.apply state (.runtimeChanged kind change)).core.services =
        state.core.services.insert change.service change.runtime.hard :=
      OrderedMap.mapValues_insert _ _ _ _
    have hsize : (state.core.services.insert change.service change.runtime.hard).size =
        state.core.services.size := by
      rw [OrderedMap.size_insert, if_neg (by simpa [Option.isSome_iff_ne_none] using hservice)]
    refine ⟨h.targets, h.capabilities, ?_, fun service runtime hfind => ?_,
      fun service bucket hfind => ?_, fun service hfind => ?_, hroom, h.sources⟩
    · rw [hservices, hsize]
      exact h.services
    · rw [hservices, OrderedMap.find?_insert] at hfind
      split at hfind
      · obtain rfl := Option.some.inj hfind
        rw [length_history_hard]
        exact hhistory
      · exact h.histories service runtime hfind
    · obtain ⟨hsome, hsize⟩ := h.dependencies service bucket hfind
      rw [hservices]
      exact ⟨OrderedMap.isSome_find?_insert.mpr (Or.inr hsome), hsize⟩
    · rw [hservices, OrderedMap.isSome_find?_insert]
      rw [find?_fences_runtimeChanged] at hfind
      split at hfind
      · exact Or.inl ‹_›
      · exact Or.inr (h.fences service hfind)
  | targetRetired target =>
    have hcapabilities : (Change.apply state (.targetRetired target)).core.capabilities =
        state.core.capabilities.erase target := OrderedMap.mapValues_erase _ _ _
    refine ⟨(OrderedMap.size_erase_le _ _).trans h.targets, fun other hfind => ?_, h.services,
      h.histories, h.dependencies, h.fences, h.witnesses, h.sources⟩
    have htargets : (Change.apply state (.targetRetired target)).core.targets =
        state.core.targets.erase target := rfl
    rw [hcapabilities, OrderedMap.find?_erase] at hfind
    rw [htargets, OrderedMap.find?_erase]
    by_cases hsame : other = target
    · simp [hsame] at hfind
    · rw [if_neg hsame] at hfind ⊢
      exact h.capabilities other hfind
  | sourceRegistered source role hroom =>
    exact ⟨h.targets, h.capabilities, h.services, h.histories, h.dependencies, h.fences,
      h.witnesses, (OrderedMap.size_insert_le _ _ _).trans hroom⟩

theorem Fabric.checkIngestDependency_from {observation : DependencyObservation}
    {proposal : Fabric.Proposal} (h : fabric.checkIngestDependency observation = .ok proposal) :
    fabric.state.roleSatisfies observation.provenance.source .dependencyReporter ∧
      (fabric.state.services.find? observation.service).isSome := by
  simp only [Fabric.checkIngestDependency, require_bind_ok, demand_bind_ok] at h
  obtain ⟨-, hrole, _, hservice, -⟩ := h
  exact ⟨hrole, hservice ▸ rfl⟩

theorem Fabric.checkAdoption_room {target : TargetRecord} (h : fabric.checkAdoption target = .ok ())
    (hwithin : fabric.state.targets.size ≤ fabric.config.maxTargets) (record : TargetRecord) :
    (fabric.state.targets.insert target.name record).size ≤ fabric.config.maxTargets := by
  rw [OrderedMap.size_insert]
  split
  · rename_i hnone
    rw [Fabric.checkAdoption, hnone] at h
    exact Fabric.require_ok.mp h
  · exact hwithin

theorem core_find?_isSome {service : ServiceName} {runtime : ServiceRuntime}
    (h : state.services.find? service = some runtime) :
    (state.core.services.find? service).isSome := by
  rw [State.core_service, h]
  rfl

/-- Whatever an ingestion commits, there is room for it. -/
theorem Fabric.Ingested.fits {checked : Check Fabric.Proposal} {proposal : Fabric.Proposal}
    {change : Change} {update : State → State} (hop : fabric.ingestion op = some checked)
    (hok : checked = .ok proposal) (h : fabric.Ingested op change update)
    (hwithin : fabric.state.core.Within fabric.config) (hnarrow : ¬fabric.Overfills op) :
    Fits fabric.config fabric.state.core change := by
  cases h with
  | enrolled _ _ hroom => exact .sourceRegistered _ _ hroom
  | serviceRegistered _ _ hroom =>
    refine .serviceRegistered _ ?_
    rw [State.core, OrderedMap.size_mapValues]
    exact hroom
  | targetRegistered _ _ hadoption =>
    exact .targetUpserted (Fabric.checkAdoption_room hadoption hwithin.targets _)
  | topologySet => exact .topologyGenerationSet _
  | policySet => exact .policySet _
  | withdrawn => exact .serviceWithdrawn _
  | retired => exact .targetRetired _
  | capability _ hrecord =>
    obtain ⟨⟨target, hfind, -⟩, -⟩ :=
      Fabric.checkIngestCapability_ok ((Option.some.inj hop).trans hok)
    subst hrecord
    exact .capabilityIngested (hfind ▸ rfl)
  | failure | suspicion => exact .failureIngested _
  | @dependency observation stamp =>
    have hchecked : fabric.checkIngestDependency observation = .ok proposal :=
      (Option.some.inj hop).trans hok
    obtain ⟨-, hservice⟩ := Fabric.checkIngestDependency_from hchecked
    obtain ⟨runtime, hfind⟩ := Option.isSome_iff_exists.mp hservice
    refine .dependencyIngested (core_find?_isSome hfind) ?_
    have hbucket : (fabric.state.core.dependencies.find? observation.service).getD .empty =
        (Change.dependencyBucket fabric.state observation.service).mapValues
          DependencySlot.observation := State.core_bucket _ _
    have hsize : (Change.dependencyBucket fabric.state observation.service).size ≤
        fabric.config.maxDependenciesPerService := by
      rw [← OrderedMap.size_mapValues DependencySlot.observation, ← hbucket]
      cases hdependencies : fabric.state.core.dependencies.find? observation.service with
      | none => exact Nat.zero_le _
      | some bucket => exact (hwithin.dependencies _ _ hdependencies).2
    change (((fabric.state.core.dependencies.find? observation.service).getD .empty).insert
      observation.dependency _).size ≤ _
    rw [hbucket, OrderedMap.size_insert, OrderedMap.find?_mapValues, OrderedMap.size_mapValues]
    split
    · rename_i hnone
      rw [Option.map_eq_none_iff] at hnone
      by_contra hfull
      exact hnarrow ⟨observation, proposal, rfl, hchecked, by omega, hnone⟩
    · exact hsize

theorem Core.Within.history_le (h : state.core.Within config) {service : ServiceName}
    {runtime : ServiceRuntime} (hfind : state.services.find? service = some runtime) :
    runtime.history.length ≤ config.maxAttemptHistory := by
  rw [← length_history_hard]
  refine h.histories service runtime.hard ?_
  rw [State.core_service, hfind]
  rfl

/-- A record of one runtime without witnesses fits as long as it adds no attempt. -/
theorem Fits.rewritten {kind : RuntimeRecordKind} {service : ServiceName}
    {runtime next : ServiceRuntime} (hwithin : state.core.Within config)
    (h : state.services.find? service = some runtime)
    (hhistory : next.history.length = runtime.history.length) :
    Fits config state.core (.runtimeChanged kind { service, runtime := next }) :=
  .runtimeChanged kind (core_find?_isSome h) (hhistory ▸ hwithin.history_le h) hwithin.witnesses

theorem length_history_acknowledged (runtime : ServiceRuntime) (ack : IntentAck)
    (stamp : LogicalTick) :
    (Fabric.acknowledgedRuntime runtime ack stamp).history.length = runtime.history.length := by
  have hauthority : (ServiceRuntime.modifyNewest ack.attempt
      (Fabric.acknowledgedRecord ack.accepted) runtime.history).map AttemptRecord.authority =
        runtime.history.map AttemptRecord.authority :=
    authority_modifyNewest (fun record => by unfold Fabric.acknowledgedRecord; split <;> rfl) _
  have hsame := congrArg List.length hauthority
  rw [List.length_map, List.length_map] at hsame
  unfold Fabric.acknowledgedRuntime
  split <;> exact hsame

theorem Move.history_settled (move : Move) (runtime : ServiceRuntime) :
    (move.settled runtime).history = runtime.history ∧
      (move.settled runtime).effectsSeen = runtime.effectsSeen := by
  unfold Move.settled
  split <;> exact ⟨rfl, rfl⟩

theorem Move.history_departed (move : Move) (state : State) (runtime : ServiceRuntime) :
    (move.departed state runtime).history = runtime.history ∧
      (move.departed state runtime).effectsSeen = runtime.effectsSeen := by
  unfold Move.departed
  split <;> exact ⟨rfl, rfl⟩

theorem Move.length_history_nextRuntime (move : Move) (grant : Grant) (state : State) :
    (move.nextRuntime grant config state).history.length ≤ config.maxAttemptHistory := by
  rw [Move.nextRuntime, (move.history_settled _).1, (move.history_departed _ _).1, List.length_drop,
    Move.excess]
  omega

theorem Move.effectsSeen_nextRuntime (move : Move) (grant : Grant) (state : State) :
    (move.nextRuntime grant config state).effectsSeen = move.runtime.effectsSeen := by
  rw [Move.nextRuntime, (move.history_settled _).2, (move.history_departed _ _).2]
  rfl

/-- Whatever a call commits that does not exceed a ceiling, there is room for it. -/
theorem Fabric.Caused.fits (h : fabric.Caused op commit) (hnamed : fabric.state.Named)
    (hwithin : fabric.state.core.Within fabric.config) (hnarrow : ¬fabric.Overfills op)
    (huncrowded : ¬fabric.Crowds op) : Fits fabric.config fabric.state.core commit.change := by
  cases h with
  | ingested hop hok hwrites =>
    rw [hwrites.change]
    exact (Fabric.ingested_of_ok hop hok).fits hop hok hwithin hnarrow
  | @moved op service check runtime qualified decision commit hop hfind hok hmoves =>
    obtain ⟨hservice, -⟩ := Fabric.moving_move hop hok
    cases hmoves with
    | @intro prior grant pushed before hprior _ _ _ _ _ _ =>
      refine .runtimeChanged _ (core_find?_isSome (hservice ▸ hfind))
        (hprior.config ▸ qualified.move.length_history_nextRuntime _ _) ?_
      simp only [RuntimeChange.witnessed, Move.witnessUpdates]
      have hcore : fabric.state.core.witnesses = fabric.state.witnesses := rfl
      by_cases hvalid : qualified.move.source.valid = true
      · rw [if_pos hvalid]
        simp only [List.foldl_cons, List.foldl_nil, hcore]
        rw [OrderedMap.size_insert]
        split
        · rename_i hnone
          by_contra hfull
          exact huncrowded ⟨service, check, runtime, qualified, hop, hfind, hok, hvalid,
            hservice ▸ hnone, by omega⟩
        · exact hwithin.witnesses
      · rw [if_neg hvalid]
        exact hwithin.witnesses
  | denied hfind _ _ hwrites =>
    rw [hwrites.change]
    exact .rewritten hwithin hfind rfl
  | confirmed _ _ _ hwrites =>
    rw [hwrites.change]
    exact .failureIngested _
  | acknowledged hentry _ hwrites =>
    obtain ⟨hfind, -⟩ := find?_serviceOfAttempt hentry
    rw [hwrites.change]
    exact .rewritten hwithin ((congrArg _ (hnamed _ _ hfind)).trans hfind)
      (length_history_acknowledged _ _ _)
  | reported hfind _ _ hcheck hwrites =>
    obtain ⟨-, -, happly⟩ := Fabric.checkEffect_ok hcheck
    rw [hwrites.change]
    refine .rewritten hwithin hfind ?_
    cases Fabric.applyEffect_ok happly <;> rfl

end Core

/-! ### Every memory of a run -/

section Memory

variable {config : FabricConfig} {state state' : State} {fabric fabric' : Fabric} {op : Op}
  {moments : List Moment}

/-- What every memory keeps, whether it is live or was replayed. -/
structure State.Kept (config : FabricConfig) (state : State) : Prop where
  core : state.core.Within config
  listed : state.Listed config

theorem State.Kept.keeps (h : state.Kept config) (hceiling : 0 < config.maxRequestCache)
    (hkeeps : State.Keeps config state state') : state'.Kept config :=
  ⟨hkeeps.core ▸ h.core, h.listed.keeps hceiling hkeeps⟩

/-- A memory without anything in it. -/
theorem State.kept_empty (config : FabricConfig) (epoch : CoordinatorEpoch) (boot : BootId)
    (policy : PolicyDescriptor) (policyGeneration : PolicyGeneration) :
    ({ epoch, boot, policy, policyGeneration } : State).Kept config where
  core := by constructor <;> simp [State.core]
  listed := by constructor <;> simp [State.ledger, OrderedMap.CoveredBy]

/-- What calls that exceed no ceiling are asked of. -/
def Fabric.Ample (config : FabricConfig) (caller : Fabric) (op : Op) : Prop :=
  caller.config = config ∧ ¬caller.Exceeds op

theorem Fabric.Caused.fits_of_ample {caller actor : Fabric} {op' : Op} {commit : Commit}
    (h : actor.Caused op' commit) (hample : caller.Ample config op)
    (hacts : caller.Acts op actor op') (hconfig : actor.config = config)
    (hnamed : actor.state.Named) (hwithin : actor.state.core.Within config) :
    Fits config actor.state.core commit.change := by
  subst hconfig
  refine h.fits hnamed hwithin (fun hoverfills => ?_) fun hcrowds =>
    hample.2 (.crowds hacts hcrowds)
  cases hacts with
  | direct => exact hample.2 (.overfills hoverfills)
  | confirmed =>
    obtain ⟨_, _, hop, -⟩ := hoverfills
    cases hop

theorem preserved_kept (hpositive : config.Positive) :
    Preserved config (Fabric.Ample config) fun _ state => state.Kept config where
  initial := State.kept_empty config ⟨1⟩ ⟨1⟩ _ _
  keeps _ hkept hupkeep := hkept.keeps hpositive.requests hupkeep.keeps
  commit hallowed hconfig hacts _ hactor hcaused _ := by
    have hactorConfig := acts_config hacts hconfig
    refine ⟨?_, hcaused.listed hactorConfig hpositive.requests hactor.2.listed⟩
    have hfits := hcaused.fits_of_ample hallowed hacts hactorConfig (.of_sound hactor.1.sound)
      hactor.2.core
    rw [← hcaused.before_keeps.core] at hfits
    rw [hcaused.takesOver.core]
    exact Core.Within.apply (hcaused.before_keeps.core ▸ hactor.2.core) hfits
  snapshot _ hkept := ⟨hkept.core, hkept.listed.restored⟩
  restart _ hground hkept := by
    refine ⟨?_, hkept.listed⟩
    rw [core_restartedState]
    exact hkept.core.apply (.epochAdvanced _ _)
  replay {_ state _} hground hkept hwarrant := by
    cases hwarrant with
    | restarted => exact ⟨hkept.core.apply (.epochAdvanced _ _), hkept.listed⟩
    | @made _ actor _ _ _ hallowed hconfig hacts _ hactor hcaused hbefore =>
      have hcore := hground.explains.core.trans hbefore.1.explains.core.symm
      have hfits := hcaused.fits_of_ample hallowed hacts (acts_config hacts hconfig)
        (.of_sound hactor.1.sound) hactor.2.core
      rw [← hcaused.before_keeps.core, ← hcore] at hfits
      refine ⟨hkept.core.apply hfits, hkept.listed.apply fun provenance hobserved => ?_⟩
      have hsource := hcaused.enrolled hactor.2.listed hobserved
      have hsources : state.sources = actor.state.sources :=
        congrArg Core.sources (hcore.trans hcaused.before_keeps.core)
      rw [hsources]
      exact hsource

/-- No runtime has more effects than it may. -/
theorem preserved_effects (service : ServiceName) :
    Preserved config (Fabric.Ample config) fun _ state =>
      state.Each service fun runtime => runtime.effectsSeen.length ≤ config.maxAttemptHistory := by
  refine preserved_each (fun _ runtime remark _ _ hle => ?_)
    (fun caller actor op op' hallowed hacts _ _ => ?_) (fun _ => Nat.zero_le _) (fun _ hle => hle)
    fun _ _ => Nat.zero_le _
  · cases remark <;> exact hle
  · have hconfig := acts_config hacts hallowed.1
    refine ⟨fun _ _ _ => Nat.zero_le _, fun found next _ hturns hle => ?_,
      fun found next halters hle => ?_⟩
    · cases hturns with
      | moved _ _ _ _ _ hruntime =>
        rw [Move.effectsSeen_nextRuntime, hruntime]
        exact hle
      | denied => exact hle
      | acknowledged =>
        unfold Fabric.acknowledgedRuntime
        split <;> exact hle
      | @reported report _ _ _ stamp _ _ _ hcheck =>
        obtain ⟨-, -, happly⟩ := Fabric.checkEffect_ok hcheck
        have hseen : (Fabric.seenRuntime actor.config report found stamp).effectsSeen.length ≤
            config.maxAttemptHistory := by
          rw [hconfig, Fabric.seenRuntime, List.length_drop]
          omega
        cases Fabric.applyEffect_ok happly <;> exact hseen
    · cases halters <;> exact hle

/-- A run in which no call exceeds a ceiling keeps every memory. -/
theorem Fabric.Run.kept (h : Fabric.Run config moments fabric) (hpositive : config.Positive)
    (hample : ∀ moment ∈ moments, ¬moment.before.entered.Exceeds moment.event.op) :
    fabric.state.Kept config ∧ ∀ service, fabric.state.Each service fun runtime =>
      runtime.effectsSeen.length ≤ config.maxAttemptHistory := by
  have hallowed (moment : Moment) (hmoment : moment ∈ moments) :
      Fabric.Ample config moment.before.entered moment.event.op := by
    obtain ⟨earlier, later, hsplit⟩ := List.append_of_mem hmoment
    exact ⟨(h.front hsplit).1.configured, hample moment hmoment⟩
  constructor
  · obtain ⟨_, _, -, hchronicled⟩ := h.chronicled (preserved_kept hpositive).stable hallowed
    rcases hchronicled.remembered with ⟨-, hkeeps⟩ | hmemory
    · exact (State.kept_empty config {} {} {} {}).keeps hpositive.requests hkeeps
    · exact hmemory.2
  · intro service
    refine h.each (fun _ runtime remark _ _ hle => ?_) (preserved_effects service) hallowed
    cases remark <;> exact hle

/-- Every retained failure is among those on record. -/
theorem recorded_of_replay {base : State} {records : List Record} {key : EvidenceId}
    (hfind : ((replay config base records).1.failures.find? key).isSome) :
    key ∈ recordedEvidence config base records := by
  induction records generalizing base with
  | nil => exact List.mem_append_left _ ((base.failures.mem_keys_iff key).mpr hfind)
  | cons record rest ih =>
    unfold replay at hfind
    cases hchange : decodeChange config record with
    | none =>
      simp only [applyRecord, hchange, Option.map_none] at hfind
      exact List.mem_append_left _ ((base.failures.mem_keys_iff key).mpr hfind)
    | some change =>
      simp only [applyRecord, hchange, Option.map_some] at hfind
      rcases List.mem_append.mp (ih hfind) with hkey | hkey
      · obtain ⟨evidence, hevidence⟩ :=
          Option.isSome_iff_exists.mp ((OrderedMap.mem_keys_iff _ _).mp hkey)
        rcases find?_failures_apply hevidence with hbase | ⟨rfl, rfl⟩
        · exact List.mem_append_left _ ((base.failures.mem_keys_iff key).mpr (hbase ▸ rfl))
        · refine List.mem_append_right _ (List.mem_filterMap.mpr ⟨record, List.mem_cons_self, ?_⟩)
          rw [hchange]
          rfl
      · refine List.mem_append_right _ ?_
        rw [List.filterMap_cons]
        split
        · exact hkey
        · exact List.mem_cons_of_mem _ hkey

/-- What a recovery leaves was there before, or is what the replay of the store retained. -/
theorem Fabric.failures_recover (found : Store.Opened) :
    (fabric.recover found).2.state.failures = fabric.state.failures ∨
      ∃ base, loadBase fabric.config found.snapshot = .ok base ∧
        (fabric.recover found).2.state.failures =
          (replay fabric.config base found.records).1.failures := by
  unfold Fabric.recover
  cases hload : loadBase fabric.config found.snapshot with
  | error code => exact Or.inl rfl
  | ok base =>
    refine Or.inr ⟨base, rfl, ?_⟩
    rcases hreplay : replay fabric.config base found.records with ⟨state, complete⟩
    simp only [hreplay]
    split
    · rfl
    split
    · rfl
    split
    · rfl
    · split <;> rename_i fabric₁ htransact <;>
      · obtain ⟨-, hkeeps⟩ := Fabric.transact_id htransact
        have hfailures : fabric₁.state.failures = (restartedState state).failures := by
          rw [hkeeps.sameRecords]
        exact hfailures

/-- An open that finds no more failures on record than may be retained retains no more. -/
theorem Fabric.failures_open (hclosed : fabric.opened = false)
    (hoverflows : ¬fabric.Overflows .openFabric) :
    fabric.open.2.state.failures.size ≤ fabric.config.maxEvidenceRecords := by
  by_cases hstore : fabric.config.storeDirectory = true
  · cases hopen : Store.open (Fabric.storeOptions fabric.config) fabric.disk with
    | error report =>
      rw [open_error hclosed hstore hopen]
      exact Nat.zero_le _
    | ok found =>
      rw [open_found hclosed hstore hopen]
      rcases (fabric.cleared.attach found).failures_recover found with
        hinitial | ⟨base, hload, hreplayed⟩
      · rw [hinitial]
        exact Nat.zero_le _
      · rw [hreplayed]
        have hrecorded : (recordedEvidence fabric.config base found.records).dedup.length ≤
            fabric.config.maxEvidenceRecords := by
          by_contra hmore
          exact hoverflows ⟨rfl, found, base, hopen, hload, by omega⟩
        exact (OrderedMap.size_le_of_covered fun key hfind => recorded_of_replay hfind).trans
          hrecorded
  · simp [Fabric.open, hclosed, hstore, Fabric.cleared, initialState]

/-- An open coordinator makes room before it retains another failure. -/
theorem State.Passes.failures_le {commits : List Commit} (hpositive : config.Positive)
    (h : State.Passes config state commits state') (hconfig : fabric.config = config)
    (hperforms : fabric.Performs op commits) (hstate : fabric.state = state)
    (hlisted : state.Listed config) (hsize : state.failures.size ≤ config.maxEvidenceRecords) :
    state'.failures.size ≤ config.maxEvidenceRecords := by
  subst hstate
  have hkept {state state' : State} (hkeeps : State.Keeps config state state') :
      state'.failures = state.failures := by rw [hkeeps.sameRecords]
  cases hperforms with
  | nothing =>
    cases h with
    | keeps hkeeps => exact hkept hkeeps ▸ hsize
  | once hcaused =>
    cases h with
    | commit _ hrest =>
      cases hrest with
      | keeps hkeeps =>
        rw [hkept hkeeps]
        exact hcaused.failures_le hconfig hpositive.evidence hlisted hsize
  | twice _ _ hfirst hmiddleConfig _ hmiddle hsecond =>
    cases h with
    | commit _ hrest =>
      cases hrest with
      | commit _ hrest =>
        cases hrest with
        | keeps hkeeps =>
          rw [hkept hkeeps]
          refine hsecond.failures_le (hmiddleConfig.trans hconfig) hpositive.evidence ?_ ?_ <;>
            rw [hmiddle]
          · exact hfirst.listed hconfig hpositive.requests hlisted
          · exact hfirst.failures_le hconfig hpositive.evidence hlisted hsize

theorem Fabric.Run.failures_le (h : Fabric.Run config moments fabric) (hpositive : config.Positive)
    (hample : ∀ moment ∈ moments, ¬moment.before.entered.Exceeds moment.event.op) :
    fabric.state.failures.size ≤ config.maxEvidenceRecords := by
  induction h with
  | start => exact Nat.zero_le _
  | @step moments fabric fabric' event hrun hstep ih =>
    have hbefore : ∀ moment ∈ moments, ¬moment.before.entered.Exceeds moment.event.op :=
      fun moment hmoment => hample moment (List.mem_append_left _ hmoment)
    have hsize := ih hbefore
    have hconfig := hrun.configured
    cases hstep with
    | crash op disk => exact Nat.zero_le _
    | call op =>
      have hlast := hample { before := fabric, event := .call op (fabric.call op).1 } (by simp)
      by_cases hopen : op = .openFabric
      · subst hopen
        by_cases hopened : fabric.opened = true
        · have hcall : (fabric.call .openFabric).2 = fabric.entered := by
            have hentered : fabric.entered.opened = true := hopened
            simp [Fabric.call, Fabric.dispatch, Fabric.replyCode, Fabric.open, hentered]
          rw [hcall]
          exact hsize
        · have hclosed : fabric.entered.opened = false := eq_false_of_ne_true hopened
          rw [← hconfig]
          exact Fabric.failures_open hclosed fun hoverflows => hlast (.overflows hoverflows)
      · by_cases hclose : op = .closeFabric
        · subst hclose
          have hcall : (fabric.call .closeFabric).2 = fabric.entered.close.2 := rfl
          rw [hcall, Fabric.close]
          split <;> exact hsize
        · obtain ⟨commits, hevolves, hperforms, -⟩ := fabric.entered.dispatch_evolves hopen hclose
          have hpasses := hevolves.passes
          have hentered : fabric.entered.config = config := hconfig
          rw [hentered] at hpasses
          exact hpasses.failures_le hpositive hentered hperforms rfl
            (hrun.kept hpositive hbefore).1.listed hsize

theorem State.Kept.within (h : state.Kept config)
    (heffects : ∀ service, state.Each service fun runtime =>
      runtime.effectsSeen.length ≤ config.maxAttemptHistory)
    (hfailures : state.failures.size ≤ config.maxEvidenceRecords) : state.Within config := by
  have hservices : state.core.services.size = state.services.size :=
    OrderedMap.size_mapValues _ _
  have hcapabilities : state.core.capabilities.size = state.capabilities.size :=
    OrderedMap.size_mapValues _ _
  have hdependencies : state.core.dependencies.size = state.dependencies.size :=
    OrderedMap.size_mapValues _ _
  exact
    { targets := h.core.targets
      capabilities := hcapabilities ▸
        (OrderedMap.size_le_of_find? h.core.capabilities).trans h.core.targets
      services := hservices ▸ h.core.services
      runtimes := fun service runtime hfind =>
        ⟨h.core.history_le hfind, heffects service runtime hfind⟩
      dependencies := by
        rw [← hdependencies]
        refine (OrderedMap.size_le_of_find? fun service hsome => ?_).trans h.core.services
        obtain ⟨bucket, hbucket⟩ := Option.isSome_iff_exists.mp hsome
        exact (h.core.dependencies service bucket hbucket).1
      observations := fun service bucket hfind => by
        have hbucket : state.core.dependencies.find? service =
            some (bucket.mapValues DependencySlot.observation) := by
          simp [State.core, OrderedMap.find?_mapValues, hfind]
        simpa using (h.core.dependencies service _ hbucket).2
      failures := hfailures
      fences := (OrderedMap.size_le_of_find? h.core.fences).trans h.core.services
      witnesses := h.core.witnesses
      sources := h.core.sources
      watermarks := (OrderedMap.size_le_of_find? h.listed.watermarks).trans h.core.sources
      requests := h.listed.requests }

/-- A snapshot within the ceilings is read back unless its values mean nothing. -/
theorem State.Within.loadBase_iff (h : state.Within config) (hkeyed : state.WellKeyed)
    {buffer : Bytes} (hbuffer : CanonicalWriter.run (encodeState state) = some buffer) :
    loadBase config buffer = .ok state.restored ↔ state.Meaningful := by
  rw [← h.encodable_iff]
  obtain ⟨hok, herror⟩ := (roundTrips_state config hkeyed).decodeFrom (by decide) hbuffer
  have hleast : 2 ≤ buffer.length := (roundTrips_state config hkeyed).least_le hbuffer
  have hnonempty : buffer.isEmpty = false := by
    cases buffer with
    | nil => simp at hleast
    | cons first rest => rfl
  unfold loadBase
  simp only [hnonempty, Bool.false_eq_true, if_false]
  constructor
  · intro hload
    by_contra hencodable
    obtain ⟨err, herr⟩ := herror hencodable
    rw [herr] at hload
    cases hload
  · intro hencodable
    rw [hok hencodable]
    rfl

theorem Fabric.Run.wellKeyed (h : Fabric.Run config moments fabric) : fabric.state.WellKeyed := by
  refine .of_sound h.sound ?_
  obtain ⟨_, _, -, hchronicled⟩ :=
    h.chronicled (preserved_true config fun _ _ => True).stable fun _ _ => trivial
  rcases hchronicled.remembered with ⟨-, hkeeps⟩ | hmemory
  · have hfailures : fabric.state.failures = .empty := by rw [hkeeps.sameRecords]
    intro key evidence hfind
    rw [hfailures] at hfind
    cases hfind
  · exact fun key evidence hfind => hmemory.1.evidence hfind

/-- In a run in which no call exceeds a ceiling every memory is within all of them, and its
snapshot is read back unless its values mean nothing. -/
theorem ceilings_kept (hrun : Fabric.Run config moments fabric) (hpositive : config.Positive)
    (hample : ∀ moment ∈ moments, ¬moment.before.entered.Exceeds moment.event.op) :
    fabric.state.Within config ∧
      ∀ buffer, CanonicalWriter.run (encodeState fabric.state) = some buffer →
        (loadBase config buffer = .ok fabric.state.restored ↔ fabric.state.Meaningful) := by
  obtain ⟨hkept, heffects⟩ := hrun.kept hpositive hample
  have hwithin := hkept.within heffects (hrun.failures_le hpositive hample)
  exact ⟨hwithin, fun buffer hbuffer => hwithin.loadBase_iff hrun.wellKeyed hbuffer⟩

end Memory

/-! ### Runs that stay within the ceilings, and runs that do not -/

/-- Calls that open nothing, move no service and observe no dependency. -/
def Fabric.Op.modest : Op → Bool
  | .openFabric | .ingestDependency _ => false
  | op => op.relocates = none

theorem Fabric.not_exceeds {fabric : Fabric} {op : Op} (hmodest : op.modest = true) :
    ¬fabric.Exceeds op := by
  intro hexceeds
  cases hexceeds with
  | overfills hoverfills =>
    obtain ⟨_, _, rfl, -⟩ := hoverfills
    cases hmodest
  | crowds hacts hcrowds =>
    obtain ⟨_, _, _, _, hmoving, -⟩ := hcrowds
    have hmoves := hacts.relocates hmoving
    cases op <;> simp [Fabric.Op.modest, hmoves] at hmodest hmoves
  | overflows hoverflows =>
    obtain ⟨rfl, -⟩ := hoverflows
    cases hmodest

theorem Fabric.not_exceeds_open {fabric : Fabric} (hdisk : fabric.disk = {}) :
    ¬fabric.Exceeds .openFabric := by
  intro hexceeds
  cases hexceeds with
  | overfills hoverfills =>
    obtain ⟨_, _, hop, -⟩ := hoverfills
    cases hop
  | crowds hacts hcrowds =>
    obtain ⟨_, _, _, _, hmoving, -⟩ := hcrowds
    cases hacts.relocates hmoving
  | overflows hoverflows =>
    obtain ⟨-, found, base, hfound, hload, hmore⟩ := hoverflows
    obtain ⟨hrecords, hinitial⟩ := Fabric.found_empty hdisk hfound
    rw [hrecords, hinitial base hload] at hmore
    exact absurd hmore (Nat.not_lt_zero _)

namespace Fleet

/-- Register what a placement needs. -/
def equipped : List Op := opening ++ adopt primary 1 ++ adopt secondary 1

def upstream : ServiceName := ⟨[116], by decide⟩
def downstream : ServiceName := ⟨[117], by decide⟩

def observe (dependency : ServiceName) (sequence : UInt64) : Op :=
  .ingestDependency
    { service, dependency, topologyGeneration := ⟨1⟩
      provenance := { source := operator, epoch := ⟨1⟩, boot := ⟨1⟩, sequence := ⟨sequence⟩ } }

/-- A service observes two dependencies. -/
def overfilled : List Op :=
  opening ++
    [.registerService { name := upstream, scope } operator,
     .registerService { name := downstream, scope } operator, observe upstream 1,
     observe downstream 2]

end Fleet

/-- A service was placed: nothing exceeds a ceiling. -/
theorem ceilings_kept_placed : (Fleet.running Fleet.placed).state.Within {} ∧
    ∀ buffer, CanonicalWriter.run (encodeState (Fleet.running Fleet.placed).state) = some buffer →
      (loadBase {} buffer = .ok (Fleet.running Fleet.placed).state.restored ↔
        (Fleet.running Fleet.placed).state.Meaningful) := by
  refine ceilings_kept (Fleet.run_running Fleet.placed) (by constructor <;> decide) ?_
  have hsplit : Fleet.placed = Fleet.equipped ++ [Fleet.place 1 Fleet.primary] := rfl
  rw [hsplit, Fabric.momentsOf_append]
  intro moment hmoment
  rcases List.mem_append.mp hmoment with hmoment | hmoment
  · rcases List.mem_cons.mp hmoment with rfl | hmoment
    · exact Fabric.not_exceeds_open rfl
    · have hmodest : ∀ op ∈ Fleet.equipped.tail, op.modest = true := by decide
      exact Fabric.forall_momentsOf (P := fun fabric op => ¬fabric.entered.Exceeds op)
        (fun op hop _ => Fabric.not_exceeds (hmodest op hop)) moment hmoment
  · obtain rfl := List.mem_singleton.mp hmoment
    intro hexceeds
    have hroom : ((Fabric.create {} {}).after Fleet.equipped).state.witnesses.size <
        witnessCeiling {} := by decide +kernel
    have hconfig := (Fabric.Run.of_calls {} Fleet.equipped).configured
    generalize (Fabric.create {} {}).after Fleet.equipped = fabric at hexceeds hroom hconfig
    cases hexceeds with
    | overfills hoverfills =>
      obtain ⟨_, _, hop, -⟩ := hoverfills
      cases hop
    | crowds hacts hcrowds =>
      cases hacts
      obtain ⟨_, _, _, _, -, -, -, -, -, hfull⟩ := hcrowds
      have hfull : witnessCeiling fabric.config ≤ fabric.state.witnesses.size := hfull
      rw [hconfig] at hfull
      omega
    | overflows hoverflows => cases hoverflows.1

/-- A coordinator with room for one observation of a service retains two. -/
theorem not_ceilings_kept : ∃ (config : FabricConfig) (moments : List Moment) (fabric : Fabric)
    (bucket : OrderedMap ServiceName DependencySlot),
    config.Positive ∧ Fabric.Run config moments fabric ∧
      fabric.state.dependencies.find? Fleet.service = some bucket ∧
      config.maxDependenciesPerService < bucket.size := by
  have hsize : (((Fabric.create { maxDependenciesPerService := 1 } {}).after
      Fleet.overfilled).state.dependencies.find? Fleet.service).map OrderedMap.size = some 2 := by
    decide +kernel
  obtain ⟨bucket, hbucket, hsize⟩ := Option.map_eq_some_iff.mp hsize
  refine ⟨_, _, _, bucket, by constructor <;> decide,
    Fabric.Run.of_calls { maxDependenciesPerService := 1 } Fleet.overfilled, hbucket, ?_⟩
  rw [hsize]
  decide

end OffloadFabric
