import OffloadFabric.Checks

/-!
What a qualified move guarantees: the facts behind a placement, a failover, a resumption
and a failback, the evidence that justifies a failover, and the numbers of a commit.
-/
namespace OffloadFabric

/-! ### The numbers of a commit -/

/-- The numbers of a grant follow from the memory it was minted in. -/
structure Minted (state : State) (move : Move) (grant : Grant) : Prop where
  stamp : state.tick.successor = some grant.stamp
  generation : (if move.mode = .resume then some move.runtime.generation
    else move.runtime.generation.successor) = some grant.generation
  fence : (if move.mode = .resume then some move.runtime.fence
    else (state.fenceTokenOf move.service).successor) = some grant.fence
  term : (match move.runtime.lease with
    | none => some ⟨1⟩
    | some lease => if move.mode = .resume then some lease.term else lease.term.successor) =
      some grant.term
  attempt : grant.attempt.value =
    if move.mode = .resume then move.runtime.currentAttempt.value else state.nextAttemptId
  attemptAvailable : available grant.attempt.value
  lease : grant.lease = ⟨state.nextLeaseId⟩ ∧ available state.nextLeaseId
  plan : grant.plan = ⟨state.nextPlanId⟩ ∧ available state.nextPlanId

theorem commitCheck_bind_ok {α β : Type} {first : CommitCheck β} {f : β → CommitCheck α} {a : α} :
    (first >>= f) = .ok a ↔ ∃ b, first = .ok b ∧ f b = .ok a := by
  cases first with
  | error refused => exact ⟨nofun, nofun⟩
  | ok b =>
    constructor
    · exact fun h => ⟨b, rfl, h⟩
    · rintro ⟨_, hb, h⟩
      obtain rfl := Except.ok.inj hb
      exact h

theorem mint_ok {fabric : Fabric} {move : Move} {grant : Grant}
    (h : mint fabric move = .ok grant) :
    Minted fabric.state move grant ∧ checkCancellation fabric move.key = .ok () := by
  unfold mint at h
  dsimp only at h
  obtain ⟨stamp, hstamp, h⟩ := obtainOr_bind_ok.mp h
  obtain ⟨_, hcancellation, h⟩ := commitCheck_bind_ok.mp h
  obtain ⟨generation, hgeneration, h⟩ := obtainOr_bind_ok.mp h
  obtain ⟨fence, hfence, h⟩ := obtainOr_bind_ok.mp h
  obtain ⟨term, hterm, h⟩ := obtainOr_bind_ok.mp h
  simp only [allow_bind_ok, commitCheck_pure_ok] at h
  obtain ⟨hattempt, hlease, hplan, rfl⟩ := h
  exact ⟨⟨hstamp, hgeneration, hfence, hterm, rfl, hattempt, ⟨rfl, hlease⟩, rfl, hplan⟩,
    hcancellation⟩

theorem prepare_ok {fabric : Fabric} {move : Move} {grant : Grant}
    (h : prepare fabric move = .ok grant) :
    Minted fabric.state move grant ∧ checkCancellation fabric move.key = .ok () ∧
      (move.plan grant fabric.config fabric.state).omittedSteps = 0 ∧
      (move.change grant fabric.config fabric.state).writable := by
  unfold prepare at h
  obtain ⟨minted, hmint, h⟩ := commitCheck_bind_ok.mp h
  simp only [allow_bind_ok, commitCheck_pure_ok] at h
  obtain ⟨hsteps, hwritable, rfl⟩ := h
  obtain ⟨hminted, hcancellation⟩ := mint_ok hmint
  exact ⟨hminted, hcancellation, hsteps, hwritable⟩

namespace Minted

variable {state : State} {move : Move} {grant : Grant}

theorem generation_toNat (h : Minted state move grant) (hmode : move.mode ≠ .resume) :
    grant.generation.value.toNat = move.runtime.generation.value.toNat + 1 := by
  have hgeneration := h.generation
  rw [if_neg hmode] at hgeneration
  exact Gen.successor_toNat hgeneration

theorem fence_toNat (h : Minted state move grant) (hmode : move.mode ≠ .resume) :
    grant.fence.value.toNat = (state.fenceTokenOf move.service).value.toNat + 1 := by
  have hfence := h.fence
  rw [if_neg hmode] at hfence
  exact Gen.successor_toNat hfence

theorem resumed (h : Minted state move grant) (hmode : move.mode = .resume) :
    grant.generation = move.runtime.generation ∧ grant.fence = move.runtime.fence ∧
      grant.attempt = move.runtime.currentAttempt ∧
      ∀ lease ∈ move.runtime.lease, grant.term = lease.term := by
  have hgeneration := h.generation
  have hfence := h.fence
  have hattempt := h.attempt
  have hterm := h.term
  rw [if_pos hmode] at hgeneration hfence hattempt
  refine ⟨(Option.some.inj hgeneration).symm, (Option.some.inj hfence).symm, Id.ext hattempt, ?_⟩
  intro lease hlease
  rw [Option.mem_def] at hlease
  simp only [hlease, hmode, if_true] at hterm
  exact (Option.some.inj hterm).symm

end Minted

namespace Fabric

variable {fabric : Fabric} {runtime : ServiceRuntime} {qualified : Qualified}

/-! ### Checks of moves -/

theorem checkPlacement_ok {request : PlacementRequest}
    (h : fabric.checkPlacement request runtime = .ok qualified) :
    fabric.state.roleSatisfies request.requester .operator ∧ runtime.lifecycle ≠ .withdrawn ∧
      runtime.active = none ∧ ∃ target, fabric.state.targets.find? request.target = some target ∧
      evaluateCandidate fabric.state runtime target = .ok ∧
      (qualifyDependencies fabric.state runtime).blocking = .ok ∧
      qualified.move =
        { service := request.service, key := request.key, runtime, source := {}, target
          trigger := .acceptPlacementEstablished, mode := .initialPlacement } := by
  simp only [checkPlacement, require_bind_ok, demand_bind_ok, check_pure_ok] at h
  obtain ⟨hrole, hlifecycle, hactive, target, htarget, heligible, hwalk, rfl⟩ := h
  exact ⟨hrole, hlifecycle, hactive, target, htarget, heligible, hwalk, rfl⟩

/-- Retained evidence that justifies a failover of the service. -/
structure Justifies (state : State) (request : FailoverRequest) (runtime : ServiceRuntime)
    (evidence : FailureEvidence) : Prop where
  retained : state.failures.find? request.evidence = some evidence
  service : evidence.service = request.service
  active : runtime.active = some evidence.target
  epoch : evidence.provenance.epoch = state.epoch
  boot : evidence.provenance.boot = state.boot
  past : evidence.provenance.tick ≤ state.tick
  age : state.tick.value - evidence.provenance.tick.value ≤
    state.policy.evidenceMaxAgeTicks.toUInt64
  topology : evidence.topologyGeneration = state.topologyGeneration
  policy : evidence.policyGeneration ≤ state.policyGeneration
  unambiguous : evidence.ambiguity = .unambiguous

theorem checkEvidence_ok {state : State} {request : FailoverRequest} {evidence : FailureEvidence}
    (h : checkEvidence state request runtime = .ok evidence) :
    Justifies state request runtime evidence := by
  simp only [checkEvidence, require_bind_ok, demand_bind_ok, check_pure_ok] at h
  obtain ⟨-, -, found, hfound, hservice, active, hactive, htarget, hepoch, hboot, hpast, hage,
    htopology, hpolicy, hambiguity, rfl⟩ := h
  exact ⟨hfound, hservice, by rw [hactive, htarget], hepoch, hboot, hpast, hage, htopology, hpolicy,
    hambiguity⟩

theorem checkTrigger_ok {state : State} {request : FailoverRequest}
    {evidence : Option FailureEvidence}
    (h : checkTrigger state request runtime = .ok evidence) :
    (request.trigger = .failureEvidence ∧ ∃ found, evidence = some found ∧
      Justifies state request runtime found) ∨
    (request.trigger ≠ .failureEvidence ∧ evidence = none ∧ request.operatorAuthorized ∧
      state.roleSatisfies request.requester .operator) := by
  unfold checkTrigger at h
  split at h
  · rename_i htrigger
    obtain ⟨found, hfound, h⟩ := check_bind_ok.mp h
    exact Or.inl ⟨htrigger, found, (check_pure_ok.mp h).symm, checkEvidence_ok hfound⟩
  · rename_i htrigger
    simp only [require_bind_ok, check_pure_ok] at h
    obtain ⟨hauthorized, hrole, rfl⟩ := h
    exact Or.inr ⟨htrigger, rfl, hauthorized, hrole⟩

theorem checkFailover_ok {request : FailoverRequest}
    (h : fabric.checkFailover request runtime = .ok qualified) :
    runtime.lifecycle ≠ .withdrawn ∧ runtime.lifecycle ≠ .recoveryAuthorized ∧
      runtime.lifecycle ≠ .recoveryInFlight ∧
      runtime.attemptsSinceVerified < fabric.state.policy.maxAttemptsPerGeneration ∧
      (runtime.descriptor.preconditions.contains .operatorAuthorization →
        request.operatorAuthorized) ∧
      (qualifyDependencies fabric.state runtime).blocking = .ok ∧
      ∃ evidence target, checkTrigger fabric.state request runtime = .ok evidence ∧
        (selectFallback fabric.config fabric.state runtime (runtime.active.getD {})).chosen =
          .ok target ∧
        qualified.move =
          { service := request.service, key := request.key, runtime
            source := runtime.active.getD {}, target, trigger := triggerCode evidence
            mode := .failover } := by
  simp only [checkFailover, require_bind_ok] at h
  obtain ⟨hlifecycle, ⟨hauthorized, hflight⟩, hattempts, h⟩ := h
  obtain ⟨evidence, hevidence, h⟩ := check_bind_ok.mp h
  simp only [require_bind_ok] at h
  obtain ⟨hprecondition, hwalk, h⟩ := h
  split at h
  · cases h
  · rename_i target htarget
    obtain rfl := check_pure_ok.mp h
    exact ⟨hlifecycle, hauthorized, hflight, hattempts, by simpa using hprecondition, hwalk,
      evidence, target, hevidence, htarget, rfl⟩

theorem checkResume_ok {request : FailoverRequest}
    (h : fabric.checkResume request runtime = .ok qualified) :
    runtime.lifecycle ≠ .withdrawn ∧ runtime.recovery = .intentRecorded ∧
      fabric.state.roleSatisfies request.requester .operator ∧
      ∃ previous target, runtime.currentAttemptRecord = some previous ∧
        fabric.state.targets.find? previous.toTarget.target = some target ∧
        target.incarnation = previous.toTarget.incarnation ∧
        evaluateCandidate fabric.state runtime target = .ok ∧
        qualified.move =
          { service := request.service, key := request.key, runtime
            source := previous.fromTarget, target, trigger := .acceptRecoveryReissueSameFence
            mode := .resume } := by
  simp only [checkResume, require_bind_ok, demand_bind_ok, check_pure_ok] at h
  obtain ⟨hlifecycle, hrecovery, hrole, previous, hprevious, target, htarget, hincarnation,
    heligible, rfl⟩ := h
  exact ⟨hlifecycle, hrecovery, hrole, previous, target, hprevious, htarget, hincarnation,
    heligible, rfl⟩

theorem checkFailback_ok {request : FailbackRequest}
    (h : fabric.checkFailback request runtime = .ok qualified) :
    runtime.failoverRecorded ∧ runtime.lifecycle ≠ .recoveryAuthorized ∧
      runtime.lifecycle ≠ .recoveryInFlight ∧
      (qualifyDependencies fabric.state runtime).blocking = .ok ∧
      ∃ original record slot, runtime.preFailoverTarget = some original ∧
        fabric.state.targets.find? original.target = some record ∧
        original.incarnation < record.incarnation ∧
        fabric.state.capabilities.find? original.target = some slot ∧
        slot.requiresReconfirmation = false ∧
        slot.evidence.topologyGeneration = fabric.state.topologyGeneration ∧
        slot.evidence.incarnation = record.incarnation ∧
        slot.evidence.capabilities.containsAll runtime.descriptor.requiredCapabilities ∧
        qualified.move =
          { service := request.service, key := request.key, runtime
            source := runtime.active.getD {}, target := record
            trigger := .acceptFailbackGenerationFresh, mode := .failover } := by
  simp only [checkFailback, require_bind_ok, demand_bind_ok, check_pure_ok] at h
  obtain ⟨-, ⟨hrecorded, hsome⟩, -, -, -, record, hrecord, hnewer, slot, hslot,
    ⟨hconfirmed, htopology, hincarnation⟩, -, hcovers, ⟨hauthorized, hflight⟩, hwalk, rfl⟩ := h
  obtain ⟨original, horiginal⟩ := Option.isSome_iff_exists.mp hsome
  simp only [horiginal, Option.getD_some] at hrecord hnewer hslot
  exact ⟨hrecorded, hauthorized, hflight, hwalk, original, record, slot, horiginal, hrecord, hnewer,
    hslot, hconfirmed, htopology, hincarnation, hcovers, rfl⟩

theorem checkResolution_ok {resolution : AmbiguityResolution} {evidence : FailureEvidence}
    {stamp : LogicalTick}
    (h : fabric.checkResolution resolution runtime = .ok (evidence, stamp)) :
    fabric.state.roleSatisfies resolution.resolvedBy .operator ∧ runtime.ambiguityPending ∧
      resolution.evidence = runtime.pendingAmbiguity ∧
      fabric.state.failures.find? resolution.evidence = some evidence ∧
      fabric.state.tick.successor = some stamp := by
  simp only [checkResolution, require_bind_ok, demand_bind_ok, check_pure_ok] at h
  obtain ⟨hrole, hpending, hsame, found, hfound, tick, htick, h⟩ := h
  obtain ⟨rfl, rfl⟩ := Prod.mk.inj h
  exact ⟨hrole, hpending, hsame, hfound, htick⟩

/-! ### Checks of reports -/

theorem checkAcknowledgement_ok {ack : IntentAck} {stamp : LogicalTick}
    (h : fabric.checkAcknowledgement ack runtime = .ok stamp) :
    ack.generation = runtime.generation ∧ ack.fence = runtime.fence ∧
      (∃ attempt, runtime.currentAttemptRecord = some attempt ∧ attempt.acknowledged = false) ∧
      fabric.state.tick.successor = some stamp := by
  simp only [checkAcknowledgement, require_bind_ok, demand_bind_ok] at h
  obtain ⟨hgeneration, hbelow, habove, attempt, hattempt, hfresh, h⟩ := h
  refine ⟨hgeneration, le_antisymm habove hbelow, ⟨attempt, hattempt, hfresh⟩, ?_⟩
  unfold demand at h
  split at h
  · rename_i hstamp
    exact hstamp.trans (congrArg some (Except.ok.inj h))
  · cases h

theorem checkReport_ok {report : EffectReport}
    (h : fabric.checkReport report runtime = .ok ()) :
    (fabric.config.requireEnrolledEffectReporter →
      fabric.state.roleSatisfies report.provenance.source .effectReporter) ∧
      report.provenance.epoch = fabric.state.epoch ∧ report.provenance.boot = fabric.state.boot ∧
      report.attempt = runtime.currentAttempt ∧ report.generation = runtime.generation ∧
      report.fence = runtime.fence ∧ runtime.fallback = some report.target := by
  simp only [checkReport, require_bind_ok, demand_bind_ok, require_ok] at h
  obtain ⟨hrole, hepoch, hboot, -, hattempt, hgeneration, hbelow, habove, -, -, -, -, hfallback⟩ :=
    h
  exact ⟨hrole, hepoch, hboot, hattempt, hgeneration, le_antisymm habove hbelow, hfallback⟩

theorem checkEffect_ok {report : EffectReport} {next : ServiceRuntime} {outcome : Reason}
    {stamp : LogicalTick}
    (h : fabric.checkEffect report runtime = .ok (next, outcome, stamp)) :
    (runtime.recovery = .verified → report.kind = .serviceHealthy) ∧
      fabric.state.tick.successor = some stamp ∧
      fabric.applyEffect report runtime stamp = .ok (next, outcome) := by
  simp only [checkEffect, require_bind_ok, demand_bind_ok] at h
  obtain ⟨hverified, tick, htick, h⟩ := h
  obtain ⟨⟨found, reason⟩, happly, h⟩ := check_bind_ok.mp h
  simp only [require_bind_ok, check_pure_ok, Prod.mk.injEq] at h
  obtain ⟨-, rfl, rfl, rfl⟩ := h
  exact ⟨by simpa using hverified, htick, happly⟩

end Fabric

end OffloadFabric
