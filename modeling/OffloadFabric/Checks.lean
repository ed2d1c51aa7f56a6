import OffloadFabric.Effects

/-!
What a passed check guarantees: for every check of the coordinator the facts that later
arguments rest on, and the change and the update that it allows.
-/
namespace OffloadFabric

namespace Fabric

variable {fabric : Fabric} {proposal : Proposal}

@[simp] theorem require_ok {cond : Prop} [Decidable cond] {refusal : Refusal} {u : Unit} :
    require cond refusal = .ok u ↔ cond := by
  by_cases h : cond <;> simp [require, h]

/-! ### Registration -/

theorem checkEnrollSource_ok {source : SourceName} {role : SourceRole}
    (h : fabric.checkEnrollSource source role = .ok proposal) :
    fabric.state.sources.find? source = none ∧
      fabric.state.sources.size < fabric.config.maxSources ∧
      ∃ stamp, fabric.state.tick.successor = some stamp ∧
        proposal.change = .sourceRegistered source role ∧
        proposal.update = fun state =>
          { state with tick := stamp, sources := state.sources.insert source role }.bump
            .sourcesEnrolled := by
  simp only [checkEnrollSource, require_bind_ok, demand_bind_ok, check_pure_ok] at h
  obtain ⟨-, -, -, hnew, hroom, stamp, hstamp, rfl⟩ := h
  exact ⟨hnew, hroom, stamp, hstamp, rfl, rfl⟩

theorem checkRegisterService_ok {descriptor : ServiceDescriptor} {registrar : SourceName}
    (h : fabric.checkRegisterService descriptor registrar = .ok proposal) :
    fabric.state.roleSatisfies registrar .topologyReporter ∧
      fabric.state.services.find? descriptor.name = none ∧
      fabric.state.services.size < fabric.config.maxServices ∧
      ∃ stamp, fabric.state.tick.successor = some stamp ∧
        proposal.change = .serviceRegistered descriptor ∧
        proposal.update = fun state =>
          { state with
            tick := stamp
            services := state.services.insert descriptor.name
              { descriptor, lifecycle := .registered, lastChange := stamp
                lastReason := .ok } }.bump .servicesRegistered := by
  simp only [checkRegisterService, require_bind_ok, demand_bind_ok, check_pure_ok] at h
  obtain ⟨-, hrole, -, -, hnew, hroom, stamp, hstamp, -, rfl⟩ := h
  exact ⟨hrole, hnew, hroom, stamp, hstamp, rfl, rfl⟩

theorem checkRegisterTarget_ok {target : TargetRecord} {registrar : SourceName}
    (h : fabric.checkRegisterTarget target registrar = .ok proposal) :
    target.name.isEmpty = false ∧ fabric.checkAdoption target = .ok () ∧
      ∃ stamp, fabric.state.tick.successor = some stamp ∧
        proposal.change = .targetUpserted
          { target with topologyGeneration := fabric.state.topologyGeneration } ∧
        proposal.update = fun state =>
          { state with
            tick := stamp
            targets := state.targets.insert target.name
              { target with topologyGeneration := fabric.state.topologyGeneration } }.bump
            .targetsRegistered := by
  simp only [checkRegisterTarget, require_bind_ok] at h
  obtain ⟨-, -, hidentity, -, h⟩ := h
  obtain ⟨_, hadoption, h⟩ := check_bind_ok.mp h
  simp only [demand_bind_ok, check_pure_ok] at h
  obtain ⟨stamp, hstamp, rfl⟩ := h
  simp only [Bool.not_eq_true, Bool.or_eq_false_iff] at hidentity
  exact ⟨hidentity.1.1.1, hadoption, stamp, hstamp, rfl, rfl⟩

theorem checkSetTopologyGeneration_ok {generation : TopologyGeneration} {reporter : SourceName}
    (h : fabric.checkSetTopologyGeneration generation reporter = .ok proposal) :
    fabric.state.topologyGeneration < generation ∧
      ∃ stamp, fabric.state.tick.successor = some stamp ∧
        proposal.change = .topologyGenerationSet generation ∧
        proposal.update = fun state =>
          { state with tick := stamp, topologyGeneration := generation } := by
  simp only [checkSetTopologyGeneration, require_bind_ok, demand_bind_ok, check_pure_ok] at h
  obtain ⟨-, -, hback, hsame, stamp, hstamp, rfl⟩ := h
  exact ⟨lt_of_le_of_ne (not_lt.mp hback) (Ne.symm hsame), stamp, hstamp, rfl, rfl⟩

theorem checkSetPolicy_ok {policy : PolicyDescriptor}
    (h : fabric.checkSetPolicy policy = .ok proposal) :
    validPolicy policy ∧ fabric.state.policyGeneration < policy.generation ∧
      ∃ stamp, fabric.state.tick.successor = some stamp ∧ proposal.change = .policySet policy ∧
        proposal.update = fun state =>
          { state with tick := stamp, policy, policyGeneration := policy.generation } := by
  simp only [checkSetPolicy, require_bind_ok, demand_bind_ok, check_pure_ok] at h
  obtain ⟨-, hvalid, hback, -, hsame, stamp, hstamp, rfl⟩ := h
  exact ⟨hvalid, lt_of_le_of_ne (not_lt.mp hback) (Ne.symm hsame), stamp, hstamp, rfl, rfl⟩

theorem checkWithdrawService_ok {service : ServiceName} {requester : SourceName}
    (h : fabric.checkWithdrawService service requester = .ok proposal) :
    fabric.state.roleSatisfies requester .operator ∧
      ∃ runtime stamp, fabric.state.services.find? service = some runtime ∧
        runtime.lifecycle ≠ .withdrawn ∧ fabric.state.tick.successor = some stamp ∧
        proposal.change = .serviceWithdrawn service ∧
        proposal.update = fun state =>
          ({ state with tick := stamp }.modifyService service
            fun runtime => runtime.withdraw stamp).bump .withdrawnServices := by
  simp only [checkWithdrawService, require_bind_ok, demand_bind_ok, check_pure_ok] at h
  obtain ⟨-, hrole, runtime, hfind, hlifecycle, stamp, hstamp, rfl⟩ := h
  exact ⟨hrole, runtime, stamp, hfind, hlifecycle, hstamp, rfl, rfl⟩

theorem checkRetireTarget_ok {target : TargetName} {requester : SourceName}
    (h : fabric.checkRetireTarget target requester = .ok proposal) :
    ∃ stamp, fabric.state.tick.successor = some stamp ∧
      proposal.change = .targetRetired target ∧
      proposal.update = fun state =>
        { state with
          tick := stamp, targets := state.targets.erase target
          capabilities := state.capabilities.erase target } := by
  simp only [checkRetireTarget, require_bind_ok, demand_bind_ok, check_pure_ok] at h
  obtain ⟨-, -, _, -, stamp, hstamp, rfl⟩ := h
  exact ⟨stamp, hstamp, rfl, rfl⟩

/-! ### Ingestion -/

theorem checkIngestCapability_ok {evidence : CapabilityEvidence}
    (h : fabric.checkIngestCapability evidence = .ok proposal) :
    (∃ target, fabric.state.targets.find? evidence.target = some target ∧
      evidence.incarnation = target.incarnation) ∧
      evidence.topologyGeneration = fabric.state.topologyGeneration ∧
      ∃ stamp record, fabric.state.tick.successor = some stamp ∧
        record = { evidence with
          contentDigest := capabilityFingerprint evidence, tick := stamp } ∧
        proposal.change = .capabilityIngested record ∧
        proposal.update = fun state =>
          { state with
            tick := stamp
            capabilities := state.capabilities.insert evidence.target
              { evidence := record, requiresReconfirmation := false } }.bump
            .capabilitiesIngested := by
  simp only [checkIngestCapability, require_bind_ok, demand_bind_ok] at h
  obtain ⟨-, -, target, htarget, hincarnation, htopology, h⟩ := h
  obtain ⟨_, -, h⟩ := check_bind_ok.mp h
  simp only [require_bind_ok, demand_bind_ok, check_pure_ok] at h
  obtain ⟨-, stamp, hstamp, rfl⟩ := h
  exact ⟨⟨target, htarget, hincarnation⟩, htopology, stamp, _, hstamp, rfl, rfl, rfl⟩

/-- What failure evidence must satisfy to be retained. -/
structure Credible (fabric : Fabric) (evidence : FailureEvidence) : Prop where
  role : fabric.state.roleSatisfies evidence.provenance.source .failureReporter
  epoch : evidence.provenance.epoch = fabric.state.epoch
  boot : evidence.provenance.boot = fabric.state.boot
  topology : evidence.topologyGeneration = fabric.state.topologyGeneration
  policy : evidence.policyGeneration ≤ fabric.state.policyGeneration
  service : ∃ runtime, fabric.state.services.find? evidence.service = some runtime ∧
    ∀ active ∈ runtime.active, evidence.target = active
  target : ∃ record, fabric.state.targets.find? evidence.target.target = some record
  fresh : ∀ watermark ∈ fabric.state.watermarks.find? evidence.provenance.source,
    watermark.sequence < evidence.provenance.sequence
  sequence : evidence.provenance.sequence.isInitial = false
  id : evidence.id.isNil = false → fabric.state.failures.find? evidence.id = none

theorem checkAuthority_ok {state : State} {provenance : Provenance} {what : String}
    {values : Bool} (h : checkAuthority state provenance what values = .ok ()) :
    provenance.epoch = state.epoch ∧ provenance.boot = state.boot := by
  simpa only [checkAuthority, require_bind_ok, require_ok] using h

theorem checkWatermark_ok {state : State} {provenance : Provenance} {fingerprint : Digest}
    {texts : WatermarkTexts} {values : Bool}
    (h : checkWatermark state provenance fingerprint texts values = .ok ()) :
    ∀ watermark ∈ state.watermarks.find? provenance.source,
      watermark.sequence < provenance.sequence := by
  intro watermark hwatermark
  unfold checkWatermark at h
  rw [Option.mem_def] at hwatermark
  simp only [hwatermark, require_bind_ok, require_ok] at h
  exact h.2.2

theorem checkEvidenceId_ok {state : State} {evidence : FailureEvidence} {fingerprint : Digest}
    (h : checkEvidenceId state evidence fingerprint = .ok ()) (hid : evidence.id.isNil = false) :
    state.failures.find? evidence.id = none := by
  unfold checkEvidenceId at h
  simp only [hid, Bool.false_eq_true, if_false] at h
  split at h
  · assumption
  · simp only [require_bind_ok] at h
    cases h.2

theorem checkFailureEvidence_ok {evidence : FailureEvidence}
    (h : fabric.checkFailureEvidence evidence = .ok ()) : fabric.Credible evidence := by
  simp only [checkFailureEvidence, require_bind_ok, demand_bind_ok] at h
  obtain ⟨-, hrole, runtime, hruntime, record, hrecord, hsequence, h⟩ := h
  obtain ⟨_, hauthority, h⟩ := check_bind_ok.mp h
  obtain ⟨_, hwatermark, h⟩ := check_bind_ok.mp h
  simp only [require_bind_ok] at h
  obtain ⟨htopology, hpolicy, -, -, hactive, -, hid⟩ := h
  obtain ⟨hepoch, hboot⟩ := checkAuthority_ok hauthority
  exact ⟨hrole, hepoch, hboot, htopology, hpolicy, ⟨runtime, hruntime, hactive⟩,
    ⟨record, hrecord⟩, checkWatermark_ok hwatermark, by simpa using hsequence,
    checkEvidenceId_ok hid⟩

theorem assignEvidenceId_ok {state : State} {evidence : FailureEvidence} {id : EvidenceId}
    (h : assignEvidenceId state evidence = .ok id) :
    id.isNil = false ∧ (evidence.id.isNil = false ∧ id = evidence.id ∨
      evidence.id.isNil = true ∧ id = ⟨state.nextEvidenceId⟩ ∧ state.nextEvidenceId ≠ u64Max) := by
  unfold assignEvidenceId at h
  by_cases hnil : evidence.id.isNil
  · simp only [hnil, Bool.not_true, Bool.false_eq_true, if_false, require_bind_ok,
      check_pure_ok] at h
    obtain ⟨⟨hzero, hmax⟩, rfl⟩ := h
    exact ⟨by simpa [Id.isNil] using hzero, Or.inr ⟨hnil, rfl, hmax⟩⟩
  · have hnil : evidence.id.isNil = false := by simpa using hnil
    simp only [hnil, Bool.not_false, if_true, check_pure_ok] at h
    exact ⟨h ▸ hnil, Or.inl ⟨hnil, h.symm⟩⟩

/-- Failure evidence as it is retained. -/
def retainedEvidence (evidence : FailureEvidence) (id : EvidenceId) (stamp : LogicalTick) :
    FailureEvidence :=
  { evidence with
    id, contentDigest := failureFingerprint evidence
    provenance := { evidence.provenance with tick := stamp } }

theorem checkIngestFailure_ok {evidence : FailureEvidence}
    (h : fabric.checkIngestFailure evidence = .ok proposal) :
    fabric.Credible evidence ∧ ∃ stamp id, fabric.state.tick.successor = some stamp ∧
      assignEvidenceId fabric.state evidence = .ok id ∧
      proposal.change = .failureIngested (retainedEvidence evidence id stamp) ∧
      proposal.update =
        (if evidence.ambiguity = .unambiguous then
          retainFailure fabric.config (retainedEvidence evidence id stamp) stamp
        else fun state =>
          ((retainFailure fabric.config (retainedEvidence evidence id stamp) stamp
            state).modifyService evidence.service
            fun runtime => { runtime.suspend id with lastChange := stamp }).bump
            .ambiguityPending) := by
  unfold checkIngestFailure at h
  obtain ⟨_, hcredible, h⟩ := check_bind_ok.mp h
  obtain ⟨stamp, hstamp, h⟩ := demand_bind_ok.mp h
  obtain ⟨id, hid, h⟩ := check_bind_ok.mp h
  refine ⟨checkFailureEvidence_ok hcredible, stamp, id, hstamp, hid, ?_⟩
  by_cases hambiguity : evidence.ambiguity = .unambiguous
  · rw [if_pos hambiguity] at h ⊢
    obtain rfl := check_pure_ok.mp h
    exact ⟨rfl, rfl⟩
  · rw [if_neg hambiguity] at h ⊢
    obtain rfl := check_pure_ok.mp h
    exact ⟨rfl, rfl⟩

/-- A dependency observation as it is retained. -/
def retainedObservation (observation : DependencyObservation) (stamp : LogicalTick) :
    DependencyObservation :=
  { observation with
    contentDigest := dependencyFingerprint observation
    provenance := { observation.provenance with tick := stamp } }

theorem checkIngestDependency_ok {observation : DependencyObservation}
    (h : fabric.checkIngestDependency observation = .ok proposal) :
    (∀ watermark ∈ fabric.state.watermarks.find? observation.provenance.source,
      watermark.sequence < observation.provenance.sequence) ∧
      ∃ stamp, fabric.state.tick.successor = some stamp ∧
        proposal.change = .dependencyIngested (retainedObservation observation stamp) ∧
        ∀ state, ∃ stats, proposal.update state =
          { Change.apply state (.dependencyIngested (retainedObservation observation stamp)) with
            tick := stamp, stats } := by
  simp only [checkIngestDependency, require_bind_ok, demand_bind_ok] at h
  obtain ⟨-, -, _, -, _, -, -, -, h⟩ := h
  obtain ⟨_, -, h⟩ := check_bind_ok.mp h
  obtain ⟨_, hwatermark, h⟩ := check_bind_ok.mp h
  simp only [require_bind_ok, demand_bind_ok, check_pure_ok] at h
  obtain ⟨-, -, stamp, hstamp, rfl⟩ := h
  refine ⟨checkWatermark_ok hwatermark, stamp, hstamp, rfl, fun state => ?_⟩
  dsimp only
  split
  · exact ⟨_, rfl⟩
  · exact ⟨_, rfl⟩

end Fabric

end OffloadFabric
