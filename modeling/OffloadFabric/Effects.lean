import OffloadFabric.Decisions

/-!
What executors report back: the acknowledgement of an intent and the effects of
an attempt. Both change one runtime and its record, never the authority.
-/
namespace OffloadFabric

namespace Fabric

/-! ### Acknowledgements -/

/-- The first registered service, in name order, whose current attempt is `attempt`. -/
def serviceOfAttempt (state : State) (attempt : AttemptId) :
    Option (ServiceName × ServiceRuntime) :=
  state.services.entries.find? fun entry => entry.2.currentAttempt = attempt

def checkAcknowledgement (fabric : Fabric) (ack : IntentAck) (runtime : ServiceRuntime) :
    Check LogicalTick := do
  let subject := runtime.descriptor.name.bytes
  require (ack.generation = runtime.generation)
    { code := .supersededGeneration, subject
      detail := "the acknowledgement cites a superseded failover generation" }
  require (runtime.fence ≤ ack.fence)
    { code := .fenceStale, subject
      detail := "the acknowledgement cites a stale durable fence", value := runtime.fence.value }
  require (ack.fence ≤ runtime.fence)
    { code := .fenceRegression, subject
      detail := "the acknowledgement cites a fence this runtime never minted" }
  let attempt ← demand runtime.currentAttemptRecord
    { code := .noFailoverInProgress, subject, detail := "the attempt record is missing" }
  require (attempt.acknowledged = false)
    { code := .acceptDuplicateIdempotent, subject
      detail := "the attempt was already acknowledged" }
  demand fabric.state.tick.successor (tickExhausted subject)

/-- The record of an attempt that its executor took or turned down. -/
def acknowledgedRecord (accepted : Bool) (record : AttemptRecord) : AttemptRecord :=
  if accepted then
    { record with
      acknowledged := true
      outcome := if record.outcome = .committed then .acknowledged else record.outcome }
  else
    { record with acknowledged := true, outcome := .refused, lastReason := .transitionRefused }

def acknowledgedRuntime (runtime : ServiceRuntime) (ack : IntentAck) (stamp : LogicalTick) :
    ServiceRuntime :=
  let history :=
    ServiceRuntime.modifyNewest ack.attempt (acknowledgedRecord ack.accepted) runtime.history
  if ack.accepted then
    -- A phase that was reported or verified is never rewound.
    { runtime with
      history
      recovery :=
        if runtime.recovery ≠ .verified ∧ runtime.recovery ≠ .effectReported then
          .activationRequested
        else runtime.recovery
      lastReason := .acceptIntentEmitted, lastChange := stamp }
  else
    { runtime.invalidateVerification with
      history, recovery := .refused, lifecycle := .failed, lastReason := .transitionRefused
      lastChange := stamp }

def doAcknowledgeIntent (fabric : Fabric) (ack : IntentAck) : RecoveryDecision × Fabric :=
  let explanation := fabric.beginExplanation .nil ack.key
  if !fabric.opened then fabric.refusal explanation .shuttingDown
  else
    match serviceOfAttempt fabric.state ack.attempt with
    | none =>
      fabric.refusal explanation .noFailoverInProgress []
        "no attempt matches the acknowledgement" ack.attempt.value
    | some (_, runtime) =>
      let service := runtime.descriptor.name
      let explanation :=
        { explanation with
          service, failoverGeneration := runtime.generation, fence := runtime.fence }
      match fabric.checkAcknowledgement ack runtime with
      | .error refused => fabric.refuse explanation service refused
      | .ok stamp =>
        let next := acknowledgedRuntime runtime ack stamp
        match fabric.transact (.runtimeChanged .attemptAcknowledged { service, runtime := next })
            (rewritten service next stamp) with
        | (.refused code, fabric) =>
          fabric.refusal explanation code service.bytes "durable commit failed"
        | (.uncompacted code, fabric) =>
          fabric.refusal explanation code service.bytes "compaction failed"
        | (.done, fabric) =>
          let outcome :=
            if ack.accepted then Reason.acceptIntentEmitted else Reason.transitionRefused
          fabric.accept
            { outcome, accepted := ack.accepted
              explanation :=
                { explanation with outcome, accepted := ack.accepted }.note outcome
                  ack.executor.bytes
                  (if ack.accepted then "executor accepted the governed intent"
                    else "executor refused the governed intent") }

/-! ### Effect reports -/

/-- A refused report is counted. -/
def reportRefusal (report : EffectReport) (code : Reason) (detail : String)
    (value : UInt64 := 0) : Refusal :=
  { code, subject := report.service.bytes, detail, value, counters := [.effectsRefused] }

/-- Everything checked before a report may be a duplicate. -/
def checkReport (fabric : Fabric) (report : EffectReport) (runtime : ServiceRuntime) :
    Check Unit := do
  let state := fabric.state
  let refuse (code : Reason) (detail : String) (value : UInt64 := 0) : Refusal :=
    reportRefusal report code detail value
  require (fabric.config.requireEnrolledEffectReporter →
      state.roleSatisfies report.provenance.source .effectReporter)
    { refuse .effectReporterUnauthorized "source is not an enrolled effect reporter" with
      counters := [.evidenceRejectedUnauthorized, .effectsRefused] }
  require (report.provenance.epoch = state.epoch)
    (refuse .authoritySuperseded "the effect was reported under a previous coordinator epoch"
      report.provenance.epoch.value)
  require (report.provenance.boot = state.boot)
    (refuse .bootMismatch "the effect was reported during a previous boot"
      report.provenance.boot.value)
  require (¬runtime.currentAttempt.isNil)
    (refuse .noFailoverInProgress "no recovery attempt is outstanding")
  require (report.attempt = runtime.currentAttempt)
    (refuse .effectAttemptMismatch "the effect names a different attempt"
      runtime.currentAttempt.value)
  require (report.generation = runtime.generation)
    (refuse .supersededGeneration "the effect cites a superseded generation"
      runtime.generation.value)
  require (runtime.fence ≤ report.fence)
    (refuse .fenceStale "the effect cites a stale durable fence" runtime.fence.value)
  require (report.fence ≤ runtime.fence)
    (refuse .fenceRegression "the effect cites a fence never minted here")
  require (∃ fallback ∈ runtime.fallback, report.target.target = fallback.target)
    (refuse .effectMismatch "the effect names a target that is not the planned one")
  let record ← demand (state.targets.find? report.target.target)
    (refuse .unknownTarget "the effect names an unregistered target")
  require (record.incarnation = report.target.incarnation)
    (refuse .incarnationMismatch
      "the effect names an incarnation that is not current for this target")
  require (runtime.fallback = some report.target)
    (refuse .effectMismatch
      "the effect names an incarnation that was never planned for this attempt")

/-- A report whose id was already applied. -/
def alreadySeen (report : EffectReport) (runtime : ServiceRuntime) : Bool :=
  !report.id.isNil && decide (report.id ∈ runtime.effectsSeen)

/-- The runtime that has seen one more effect. -/
def seenRuntime (config : FabricConfig) (report : EffectReport) (runtime : ServiceRuntime)
    (stamp : LogicalTick) : ServiceRuntime :=
  let seen := runtime.effectsSeen ++ [report.id]
  { runtime with
    effectsSeen := seen.drop (seen.length - config.maxAttemptHistory), lastChange := stamp }

/-- What a healthy report lets the runtime claim. -/
def continuityClaim (state : State) (runtime : ServiceRuntime) : ContinuityClass × Reason :=
  if runtime.descriptor.statefulness = .stateless ∨ runtime.stateTransferVerified then
    (.full, .acceptContinuityVerified)
  else if state.policy.allowDegradedContinuity then (.degraded, .acceptContinuityDegradedStateful)
  else (.none, .continuityNotVerified)

/-- The effect of a report on the runtime, with its outcome. -/
def applyEffect (fabric : Fabric) (report : EffectReport) (runtime : ServiceRuntime)
    (stamp : LogicalTick) : Check (ServiceRuntime × Reason) := do
  let next := seenRuntime fabric.config report runtime stamp
  match report.result, report.kind with
  | .negative, _ =>
    -- A negative effect is a completed, unsuccessful activation.
    return ({ next.invalidateVerification with
              lastReason := .effectNegative, recovery := .effectReported, lifecycle := .failed },
            .effectNegative)
  | .positive, .activationAccepted =>
    return ({ next with
              activationAccepted := true, recovery := .effectReported
              lastReason := .acceptEffectVerified }, .acceptEffectVerified)
  | .positive, .deactivationAcknowledged =>
    return ({ next with recovery := .effectReported, lastReason := .acceptEffectVerified },
            .acceptEffectVerified)
  | .positive, .stateTransferComplete => do
    require (runtime.descriptor.lastKnownStateGeneration ≤ report.stateGeneration)
      (reportRefusal report .stateGenerationStale
        ("the transferred state generation is older than the last known durable " ++ "generation")
        runtime.descriptor.lastKnownStateGeneration.value)
    return ({ next with
              stateTransferVerified := true, lastReason := .acceptStateTransferVerified },
            .acceptStateTransferVerified)
  | .positive, .serviceHealthy => do
    require runtime.activationAccepted
      (reportRefusal report .effectUnverified
        ("a healthy report is not sufficient without a preceding accepted " ++
          "activation for this attempt"))
    let (continuity, reason) := continuityClaim fabric.state runtime
    return ({ next with
              effectVerified := true, recovery := .verified, lifecycle := .fallbackActive
              attemptsSinceVerified := 0, continuity, lastReason := reason }, reason)

/-- A new report: the runtime it leaves, its outcome and its tick. -/
def checkEffect (fabric : Fabric) (report : EffectReport) (runtime : ServiceRuntime) :
    Check (ServiceRuntime × Reason × LogicalTick) := do
  require (¬(runtime.recovery = .verified ∧ report.kind ≠ .serviceHealthy))
    (reportRefusal report .effectAlreadyVerified
      "the attempt is already verified; no further effect is accepted")
  let stamp ← demand fabric.state.tick.successor
    (reportRefusal report .generationExhausted "logical tick exhausted")
  let (next, outcome) ← fabric.applyEffect report runtime stamp
  require (Change.runtimeChanged .effectRecorded
      { service := report.service, runtime := next }).writable
    (reportRefusal report .oversized "effect record exceeded the configured ceiling")
  return (next, outcome, stamp)

/-- The counters of a recorded effect. -/
def effectCounters (report : EffectReport) (next : ServiceRuntime) : List StatField :=
  if report.result = .negative then [.effectsRefused]
  else if next.effectVerified then [.effectsAccepted, .effectsVerified] else [.effectsAccepted]

/-- Record an effect and answer its report. -/
def recordEffect (fabric : Fabric) (explanation : Explanation) (report : EffectReport)
    (next : ServiceRuntime) (outcome : Reason) (stamp : LogicalTick) :
    RecoveryDecision × Fabric :=
  let service := report.service
  let update (state : State) : State :=
    (rewritten service next stamp state).bumpAll (effectCounters report next)
  match fabric.transact (.runtimeChanged .effectRecorded { service, runtime := next }) update with
  | (.refused code, fabric) =>
    fabric.refuse explanation service (reportRefusal report code "durable commit failed")
  | (.uncompacted code, fabric) =>
    fabric.refuse explanation service (reportRefusal report code "compaction failed")
  | (.done, fabric) =>
    let accepted := report.result ≠ .negative && next.recovery ≠ .none
    let explanation := { explanation with outcome, accepted }
    let explanation :=
      if next.effectVerified then
        { explanation with failoverGeneration := next.generation, fence := next.fence }
      else explanation
    let explanation :=
      explanation.note outcome service.bytes "effect report evaluated" report.id.value
    let explanation :=
      if next.effectVerified && next.continuity ≠ .full then
        explanation.note .continuityNotVerified service.bytes
          "continuity is not claimed at the full class for this service"
      else explanation
    fabric.accept { outcome, accepted, explanation }

def doReportEffect (fabric : Fabric) (report : EffectReport) : RecoveryDecision × Fabric :=
  let service := report.service
  let explanation := fabric.beginExplanation service {}
  if !fabric.opened then fabric.refusal explanation .shuttingDown
  else
    match fabric.state.services.find? service with
    | none =>
      fabric.refusal explanation .unknownService service.bytes "service is not registered"
    | some runtime =>
      match fabric.checkReport report runtime with
      | .error refused => fabric.refuse explanation service refused
      | .ok _ =>
        if alreadySeen report runtime then
          let outcome := Reason.acceptDuplicateIdempotent
          (fabric.bump .effectReportsReplayed).accept
            { outcome, accepted := true, duplicate := true
              explanation := { explanation with outcome, accepted := true }.note outcome
                service.bytes "effect report already applied" report.id.value }
        else
          match fabric.checkEffect report runtime with
          | .error refused => fabric.refuse explanation service refused
          | .ok (next, outcome, stamp) =>
            fabric.recordEffect explanation report next outcome stamp

end Fabric

end OffloadFabric
