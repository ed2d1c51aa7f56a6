import OffloadFabric.Commit

/-!
The recovery decisions: initial placement, failover and its resumption after a
restart, failback, and the resolution of ambiguous evidence. Each is a check that
qualifies a move, and the commit of that move.
-/
namespace OffloadFabric

/-- A move that passed every check, with what was noted and counted on the way. -/
structure Qualified where
  move : Move
  notes : List ExplanationStep := []
  counters : List StatField := []

/-- How a verb closes once the commit of its move was tried. -/
structure Closing where
  outcome : Reason
  accepted : List StatField := []
  refused : List StatField := []
  detail : String
  /-- Whether a refusal is written into the runtime of the service. -/
  annotates : Bool := false
  /-- Whether a refusal carries the plan. -/
  keepsPlan : Bool := false
  /-- What an accepted commit leaves in the runtime, and so never in its record. -/
  settle : Remark := .nothing

/-- A refusal that the runtime of the service remembers as its last reason. -/
def rememberedRefusal (service : ServiceName) (code : Reason) (detail : String)
    (value : UInt64 := 0) : Refusal :=
  { code, subject := service.bytes, detail, value, remark := .reason code }

namespace Fabric

/-- Commit a qualified move and answer the request. -/
def concludeCommit (fabric : Fabric) (explanation : Explanation) (qualified : Qualified)
    (closing : Closing) : RecoveryDecision × Fabric :=
  let service := qualified.move.service
  let fabric := { fabric with state := fabric.state.bumpAll qualified.counters }
  let (result, fabric) := commitRecovery fabric qualified.move
  let explanation := explanation.notes (qualified.notes ++ result.notes)
  if result.code ≠ .ok then
    let refused := rememberedRefusal service result.code closing.detail
    let (decision, fabric) := fabric.refuse explanation service
      { refused with
        counters := closing.refused
        remark := if closing.annotates then refused.remark else .nothing }
    (if closing.keepsPlan then { decision with plan := result.plan } else decision, fabric)
  else
    let state := (fabric.state.modifyService service closing.settle.apply).bumpAll closing.accepted
    { fabric with state }.accept
      { outcome := closing.outcome, accepted := true, plan := result.plan, intent := result.intent
        explanation := { explanation with
          outcome := closing.outcome, accepted := true
          failoverGeneration := result.plan.generation, fence := result.plan.fence } }

/-- Decide a request about a registered service by its check and the commit that follows. -/
def decideMove (fabric : Fabric) (service : ServiceName) (key : RequestKey)
    (check : ServiceRuntime → Check Qualified) (closing : Closing) :
    RecoveryDecision × Fabric :=
  fabric.decided service key fun explanation =>
    match fabric.state.services.find? service with
    | none =>
      fabric.refusal explanation .unknownService service.bytes "service is not registered"
    | some runtime =>
      match check runtime with
      | .error refused => fabric.refuse explanation service refused
      | .ok qualified => fabric.concludeCommit explanation qualified closing

/-! ### Initial placement -/

def checkPlacement (fabric : Fabric) (request : PlacementRequest) (runtime : ServiceRuntime) :
    Check Qualified := do
  let state := fabric.state
  let subject := request.service.bytes
  require (state.roleSatisfies request.requester .operator)
    (unauthorized .noAuthority request.requester
      "establishing a placement requires an enrolled operator")
  require (runtime.lifecycle ≠ .withdrawn)
    { code := .serviceStateIncompatible, subject, detail := "service is withdrawn" }
  require (runtime.active = none)
    { code := .serviceStateIncompatible, subject
      detail := "service already has an authoritative placement; use recovery or failback" }
  let target ← demand (state.targets.find? request.target)
    { code := .unknownTarget, subject := request.target.bytes
      detail := "target is not registered" }
  require (evaluateCandidate state runtime target = .ok)
    { code := evaluateCandidate state runtime target, subject := target.name.bytes
      detail := "the requested placement target is not eligible" }
  let walk := qualifyDependencies state runtime
  require (walk.blocking = .ok)
    { code := walk.blocking, subject
      detail := "a hard dependency is not satisfied by current, fresh evidence"
      notes := walk.notes, counters := walk.counters }
  return {
    move :=
      { service := request.service, key := request.key, runtime, source := {}, target
        trigger := .acceptPlacementEstablished, mode := .initialPlacement }
    notes := walk.notes, counters := walk.counters }

def doEstablishPlacement (fabric : Fabric) (request : PlacementRequest) :
    RecoveryDecision × Fabric :=
  fabric.decideMove request.service request.key (fabric.checkPlacement request)
    { outcome := .acceptPlacementEstablished, accepted := [.placementsEstablished]
      refused := [.failoversRefused], detail := "the placement commit was refused" }

/-! ### Failover -/

/-- The evidence of an evidence-triggered failover, if it justifies one. -/
def checkEvidence (state : State) (request : FailoverRequest) (runtime : ServiceRuntime) :
    Check FailureEvidence := do
  let refuse (code : Reason) (detail : String) (value : UInt64 := 0) : Refusal :=
    rememberedRefusal request.service code detail value
  require (¬(request.evidence.isNil ∧
      ∃ active ∈ runtime.active, state.targets.find? active.target = none))
    (refuse .targetDisappearanceIsNotPermission <|
      "the active target is absent from topology, but absence is not permission " ++
      "to activate a replacement without authoritative failure evidence")
  require (¬request.evidence.isNil)
    (refuse .evidenceMissing "no failure evidence was supplied for this recovery request")
  let evidence ← demand (state.failures.find? request.evidence)
    (refuse .evidenceMissing "the referenced failure evidence is not retained"
      request.evidence.value)
  require (evidence.service = request.service)
    (refuse .evidenceIncomplete "evidence names a different service")
  let active ← demand runtime.active
    (refuse .invalidState "service has no active placement to recover from")
  require (evidence.target = active)
    (refuse .evidenceTargetMismatch "evidence does not name the current active placement")
  require (evidence.provenance.epoch = state.epoch)
    (refuse .authoritySuperseded "evidence was accepted under a previous coordinator epoch"
      evidence.provenance.epoch.value)
  require (evidence.provenance.boot = state.boot)
    (refuse .bootMismatch "evidence was accepted during a previous boot"
      evidence.provenance.boot.value)
  require (evidence.provenance.tick ≤ state.tick)
    (refuse .impossibleValue "evidence carries a future logical tick")
  let age := state.tick.value - evidence.provenance.tick.value
  require (age ≤ state.policy.evidenceMaxAgeTicks.toUInt64)
    { refuse .evidenceStale "evidence is older than the policy freshness bound" age with
      counters := [.evidenceRejectedStale] }
  require (evidence.topologyGeneration = state.topologyGeneration)
    (refuse .evidenceTopologyMismatch
      "evidence was observed under a different topology generation"
      evidence.topologyGeneration.value)
  require (evidence.policyGeneration ≤ state.policyGeneration)
    (refuse .futureGeneration "evidence cites a policy generation newer than the current one"
      evidence.policyGeneration.value)
  require (evidence.ambiguity = .unambiguous)
    { refuse .ambiguityUnresolved
        "the failure evidence is ambiguous and cannot justify recovery" evidence.id.value with
      counters := [.ambiguityPending]
      notes := [{ code := .ambiguityDualActiveRisk, subject := request.service.bytes
                  detail := "activating a replacement while the previous target may still be " ++
                    "live risks dual active operation" }]
      remark := .suspension evidence.id }
  return evidence

/-- The trigger of a failover: its evidence, or an operator's authorization. -/
def checkTrigger (state : State) (request : FailoverRequest) (runtime : ServiceRuntime) :
    Check (Option FailureEvidence) :=
  match request.trigger with
  | .failureEvidence => do
    let evidence ← checkEvidence state request runtime
    return some evidence
  | _ => do
    require request.operatorAuthorized
      (rememberedRefusal request.service .noAuthority
        "planned or operator-triggered recovery requires explicit authorization")
    require (state.roleSatisfies request.requester .operator)
      (rememberedRefusal request.service .noAuthority "requester is not an enrolled operator")
    return none

def triggerCode : Option FailureEvidence → Reason
  | none => .acceptQualifiedPlannedRecovery
  | some evidence =>
    if evidence.failureClass = .operatorDeclared then .acceptQualifiedPlannedRecovery
    else .acceptQualifiedPrimaryFailure

def triggerNote (request : FailoverRequest) (evidence : Option FailureEvidence) :
    ExplanationStep :=
  { code := triggerCode evidence, subject := request.service.bytes
    detail :=
      if evidence.isSome then "failure evidence qualified" else "authorized non-evidence trigger"
    value := (evidence.map fun evidence => evidence.id.value).getD 0 }

def checkFailover (fabric : Fabric) (request : FailoverRequest) (runtime : ServiceRuntime) :
    Check Qualified := do
  let state := fabric.state
  let refuse (code : Reason) (detail : String) (value : UInt64 := 0) : Refusal :=
    rememberedRefusal request.service code detail value
  require (runtime.lifecycle ≠ .withdrawn)
    (refuse .serviceStateIncompatible "service is withdrawn")
  require (runtime.lifecycle ≠ .recoveryAuthorized ∧ runtime.lifecycle ≠ .recoveryInFlight)
    (refuse .failoverAlreadyInProgress
      "a recovery attempt is already authorized for this service")
  require (runtime.attemptsSinceVerified < state.policy.maxAttemptsPerGeneration)
    (refuse .attemptBudgetExhausted
      "the policy attempt ceiling was reached without a verified effect"
      runtime.attemptsSinceVerified.toUInt64)
  let evidence ← checkTrigger state request runtime
  -- The precondition looks at the request's own flag, not at the requester's role.
  require (¬(runtime.descriptor.preconditions.contains .operatorAuthorization ∧
      ¬request.operatorAuthorized))
    (refuse .noAuthority "the service requires explicit operator authorization for recovery")
  let walk := qualifyDependencies state runtime
  let notes := triggerNote request evidence :: walk.notes
  require (walk.blocking = .ok)
    { refuse walk.blocking "a hard dependency is not satisfied by current, fresh evidence" with
      notes, counters := walk.counters }
  let source := runtime.active.getD {}
  let selection := selectFallback fabric.config state runtime source
  let notes := notes ++ selection.notes
  let counters := walk.counters ++ selection.counters
  match selection.chosen with
  | .error code =>
    throw { refuse code
              "no eligible fallback satisfies scope, fence, capability and health rules" with
            notes, counters }
  | .ok target =>
    return {
      move :=
        { service := request.service, key := request.key, runtime, source, target
          trigger := triggerCode evidence, mode := .failover }
      notes := notes ++
        [{ code := .acceptFallbackCapabilityCompatible, subject := target.name.bytes
           detail := "fallback capability set covers the required set"
           value :=
             match state.capabilities.find? target.name with
             | some slot => slot.evidence.generation.value
             | none => 0 }]
      counters }

/-- The persisted attempt of a restarted service, if it may be issued again. -/
def checkResume (fabric : Fabric) (request : FailoverRequest) (runtime : ServiceRuntime) :
    Check Qualified := do
  let state := fabric.state
  let refuse (code : Reason) (detail : String) (value : UInt64 := 0) : Refusal :=
    rememberedRefusal request.service code detail value
  require (runtime.lifecycle ≠ .withdrawn)
    (refuse .serviceStateIncompatible "service is withdrawn")
  require (runtime.recovery = .intentRecorded)
    (refuse .noFailoverInProgress
      "no restart-downgraded attempt is waiting for authorization")
  require (state.roleSatisfies request.requester .operator)
    (refuse .noAuthority "resuming recovery requires an enrolled operator")
  let previous ← demand runtime.currentAttemptRecord
    (refuse .noFailoverInProgress "the downgraded attempt record is missing")
  let target ← demand (state.targets.find? previous.toTarget.target)
    (refuse .unknownTarget "the planned fallback target is no longer registered")
  require (target.incarnation = previous.toTarget.incarnation)
    (refuse .incarnationMismatch
      "the planned fallback target has been re-adopted at a different incarnation")
  require (evaluateCandidate state runtime target = .ok)
    (refuse (evaluateCandidate state runtime target)
      "the planned fallback target is no longer eligible")
  return {
    move :=
      { service := request.service, key := request.key, runtime, source := previous.fromTarget
        target, trigger := .acceptRecoveryReissueSameFence, mode := .resume }
    notes :=
      [{ code := .acceptRecoveryReissueSameFence, subject := target.name.bytes
         detail := "re-issuing the persisted attempt under the new epoch with the same fence"
         value := previous.fence.value }]
    counters := [.recoveryReissues] }

def doRequestFailover (fabric : Fabric) (request : FailoverRequest) (resume : Bool) :
    RecoveryDecision × Fabric :=
  if resume then
    fabric.decideMove request.service request.key (fabric.checkResume request)
      { outcome := .acceptIntentEmitted, refused := [.failoversRefused], annotates := true
        detail := "the re-issued recovery was refused" }
  else
    fabric.decideMove request.service request.key (fabric.checkFailover request)
      { outcome := .acceptIntentEmitted, accepted := [.failoversAccepted]
        refused := [.failoversRefused], annotates := true, keepsPlan := true
        detail := "the recovery commit was refused" }

/-! ### Failback -/

/-- A failback does not look at the scope, the witness or the requester. -/
def checkFailback (fabric : Fabric) (request : FailbackRequest) (runtime : ServiceRuntime) :
    Check Qualified := do
  let state := fabric.state
  let refuse (code : Reason) (detail : String) (value : UInt64 := 0) : Refusal :=
    { code, subject := request.service.bytes, detail, value, counters := [.failbacksRefused] }
  require state.policy.allowFailback
    (refuse .failbackNotEligible "the current policy does not permit failback")
  require (runtime.failoverRecorded ∧ runtime.preFailoverTarget.isSome)
    (refuse .failbackNoFailoverRecorded "no failover was recorded for this service")
  require (request.observedTopologyGeneration = state.topologyGeneration)
    (refuse .failbackStaleGeneration
      "the request cites a topology generation that is not current"
      state.topologyGeneration.value)
  require (request.observedPolicyGeneration = state.policyGeneration)
    (refuse .failbackStaleGeneration "the request cites a policy generation that is not current"
      state.policyGeneration.value)
  let original := runtime.preFailoverTarget.getD {}
  require (request.preferredTarget = original.target)
    (refuse .failbackNotEligible
      "the preferred target is not the recorded pre-failover target")
  let record ← demand (state.targets.find? original.target)
    (refuse .failbackOriginalUnavailable "the original target is no longer registered")
  require (original.incarnation < record.incarnation)
    (refuse .failbackOriginalFenceStale
      "the original target has not been re-adopted at a newer incarnation"
      original.incarnation.host.value)
  let slot ← demand (state.capabilities.find? original.target)
    (refuse .fallbackUnsupported
      "no capability evidence is retained for the original target")
  require (slot.requiresReconfirmation = false ∧
      slot.evidence.topologyGeneration = state.topologyGeneration ∧
      slot.evidence.incarnation = record.incarnation)
    (refuse .fallbackCapabilityGenerationStale <|
      "capability evidence for the original target is not current for its new " ++ "incarnation")
  require (¬runtime.preFailoverCapability.isInitial ∧
      runtime.preFailoverCapability < slot.evidence.generation)
    (refuse .failbackStaleGeneration
      "failback would reuse the capability generation that was already superseded"
      runtime.preFailoverCapability.value)
  require (slot.evidence.capabilities.containsAll runtime.descriptor.requiredCapabilities)
    (refuse .fallbackIncompatible
      "the original target no longer supports the required capability set")
  require (runtime.lifecycle ≠ .recoveryAuthorized ∧ runtime.lifecycle ≠ .recoveryInFlight)
    (refuse .failbackInProgress "a recovery attempt is already authorized")
  let walk := qualifyDependencies state runtime
  require (walk.blocking = .ok)
    { refuse walk.blocking "a hard dependency is not satisfied" with
      notes := walk.notes, counters := walk.counters ++ [.failbacksRefused] }
  return {
    move :=
      { service := request.service, key := request.key, runtime
        source := runtime.active.getD {}, target := record
        trigger := .acceptFailbackGenerationFresh, mode := .failover }
    notes := walk.notes ++
      [{ code := .acceptFailbackGenerationFresh, subject := record.name.bytes
         detail :=
           "original target re-adopted at a newer incarnation with a newer capability generation"
         value := slot.evidence.generation.value }]
    counters := walk.counters }

def doRequestFailback (fabric : Fabric) (request : FailbackRequest) :
    RecoveryDecision × Fabric :=
  fabric.decideMove request.service request.key (fabric.checkFailback request)
    { outcome := .acceptFailbackGenerationFresh, accepted := [.failbacksAccepted]
      refused := [.failbacksRefused], detail := "the failback commit was refused"
      settle := .returned }

/-! ### Resolution of ambiguity -/

/-- The pending evidence and the tick of a resolution that may go ahead. -/
def checkResolution (fabric : Fabric) (resolution : AmbiguityResolution)
    (runtime : ServiceRuntime) : Check (FailureEvidence × LogicalTick) := do
  let state := fabric.state
  let subject := resolution.service.bytes
  require (state.roleSatisfies resolution.resolvedBy .operator)
    (unauthorized .noAuthority resolution.resolvedBy
      "ambiguity resolution requires an enrolled operator")
  require runtime.ambiguityPending
    { code := .ambiguityAlreadyResolved, subject, detail := "no ambiguous outcome is pending" }
  require (resolution.evidence = runtime.pendingAmbiguity)
    { code := .evidenceIncomplete, subject
      detail := "resolution does not name the pending ambiguous evidence"
      value := runtime.pendingAmbiguity.value }
  let evidence ← demand (state.failures.find? resolution.evidence)
    { code := .evidenceMissing, subject
      detail := "the pending ambiguous evidence is no longer retained" }
  let stamp ← demand state.tick.successor (tickExhausted subject)
  return (evidence, stamp)

/-- An operator declared the target alive: nothing is pending and nothing moves. -/
def deniedRuntime (runtime : ServiceRuntime) (stamp : LogicalTick) : ServiceRuntime :=
  { runtime with
    ambiguityPending := false, pendingAmbiguity := {}, recovery := .refused, lifecycle := .failed
    continuity := .none, lastChange := stamp, lastReason := .acceptAmbiguityResolvedNoFailover }

/-- The memory after one runtime was replaced at a new tick. -/
def rewritten (service : ServiceName) (next : ServiceRuntime) (stamp : LogicalTick)
    (state : State) : State :=
  { state with tick := stamp, services := state.services.insert service next }

/-- Record that the pending evidence was no failure. -/
def denyAmbiguity (fabric : Fabric) (explanation : Explanation)
    (resolution : AmbiguityResolution) (runtime : ServiceRuntime) (stamp : LogicalTick) :
    RecoveryDecision × Fabric :=
  let service := resolution.service
  let next := deniedRuntime runtime stamp
  let update (state : State) : State :=
    (rewritten service next stamp state).bump .ambiguityResolved
  match fabric.transact (.runtimeChanged .ambiguityResolved { service, runtime := next })
      update with
  | (.refused code, fabric) =>
    fabric.refusal explanation code service.bytes "durable commit failed"
  | (.uncompacted code, fabric) =>
    fabric.refusal explanation code service.bytes "compaction failed"
  | (.done, fabric) =>
    let outcome := Reason.acceptAmbiguityResolvedNoFailover
    fabric.accept
      { outcome, accepted := true
        explanation := { explanation with outcome, accepted := true }.note outcome service.bytes
          "operator declared the target alive; no replacement was activated" }

/-- The evidence as an operator confirmed it. -/
def promoted (evidence : FailureEvidence) : FailureEvidence :=
  { evidence with ambiguity := .unambiguous, contentDigest := {} }

/-- The failover that a resolution asks for. -/
def resolutionRequest (resolution : AmbiguityResolution) : FailoverRequest :=
  { key := resolution.key, service := resolution.service, evidence := resolution.evidence
    requester := resolution.resolvedBy, operatorAuthorized := resolution.confirmFailure
    trigger := if resolution.confirmFailure then .failureEvidence else .operatorCommand }

/-- The memory after the promotion: nothing is pending any more. -/
def promotedState (service : ServiceName) (record : FailureEvidence) (stamp : LogicalTick)
    (state : State) : State :=
  ({ state with
      tick := stamp, failures := state.failures.insert record.id record }.modifyService service
    fun runtime => { runtime with ambiguityPending := false, pendingAmbiguity := {} }).bump
    .ambiguityResolved

/-- Promote the pending evidence, then decide the failover like any other. The
promotion is committed on its own and does not rotate the journal. -/
def confirmAmbiguity (fabric : Fabric) (explanation : Explanation)
    (resolution : AmbiguityResolution) (evidence : FailureEvidence) (stamp : LogicalTick) :
    RecoveryDecision × Fabric :=
  let service := resolution.service
  let record := promoted evidence
  match fabric.persist [(Change.failureIngested record).record] with
  | (.ok, fabric) =>
    { fabric with state := promotedState service record stamp fabric.state }.doRequestFailover
      (resolutionRequest resolution) false
  | (code, fabric) => fabric.refusal explanation code service.bytes "durable commit failed"

def doResolveAmbiguity (fabric : Fabric) (resolution : AmbiguityResolution) :
    RecoveryDecision × Fabric :=
  fabric.decided resolution.service resolution.key fun explanation =>
    match fabric.state.services.find? resolution.service with
    | none =>
      fabric.refusal explanation .unknownService resolution.service.bytes
        "service is not registered"
    | some runtime =>
      match fabric.checkResolution resolution runtime with
      | .error refused => fabric.refuse explanation resolution.service refused
      | .ok (evidence, stamp) =>
        if resolution.confirmFailure then
          fabric.confirmAmbiguity explanation resolution evidence stamp
        else fabric.denyAmbiguity explanation resolution runtime stamp

end Fabric

end OffloadFabric
