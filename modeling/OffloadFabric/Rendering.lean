import OffloadFabric.Lifecycle

/-!
The JSON an operation is answered with: reasons with their family and summary, targets,
policies, intents, explanations with their digest, decisions, the view of the whole runtime
and the summary of its last restart.
-/
namespace OffloadFabric

open Codec

namespace JsonValue

/-- An object with these members, set in this order. -/
def record (members : List (String × JsonValue)) : JsonValue :=
  members.foldl (fun object member => object.set member.1 member.2) null

def list (elements : List JsonValue) : JsonValue := elements.foldl push (array [])

/-- A text of the code itself. -/
def label (value : String) : JsonValue := text (ascii value)

end JsonValue

open JsonValue

/-! ### Reasons -/

namespace Reason

/-- The stable code text. -/
def text : Reason → String
  | .ok => "OK"
  | .acceptQualifiedPrimaryFailure => "ACCEPT_QUALIFIED_PRIMARY_FAILURE"
  | .acceptQualifiedReplicaFailure => "ACCEPT_QUALIFIED_REPLICA_FAILURE"
  | .acceptQualifiedPlannedRecovery => "ACCEPT_QUALIFIED_PLANNED_RECOVERY"
  | .acceptFallbackCapabilityCompatible => "ACCEPT_FALLBACK_CAPABILITY_COMPATIBLE"
  | .acceptFallbackHealthy => "ACCEPT_FALLBACK_HEALTHY"
  | .acceptFenceAdvanced => "ACCEPT_FENCE_ADVANCED"
  | .acceptLeaseTransferred => "ACCEPT_LEASE_TRANSFERRED"
  | .acceptIntentEmitted => "ACCEPT_INTENT_EMITTED"
  | .acceptEffectVerified => "ACCEPT_EFFECT_VERIFIED"
  | .acceptContinuityVerified => "ACCEPT_CONTINUITY_VERIFIED"
  | .acceptContinuityDegradedStateful => "ACCEPT_CONTINUITY_DEGRADED_STATEFUL"
  | .acceptDuplicateIdempotent => "ACCEPT_DUPLICATE_IDEMPOTENT"
  | .acceptDuplicateReplayCached => "ACCEPT_DUPLICATE_REPLAY_CACHED"
  | .acceptRecoveryReissueSameFence => "ACCEPT_RECOVERY_REISSUE_SAME_FENCE"
  | .acceptAmbiguityResolvedFailover => "ACCEPT_AMBIGUITY_RESOLVED_FAILOVER"
  | .acceptAmbiguityResolvedNoFailover => "ACCEPT_AMBIGUITY_RESOLVED_NO_FAILOVER"
  | .acceptFailbackGenerationFresh => "ACCEPT_FAILBACK_GENERATION_FRESH"
  | .acceptTargetRegistered => "ACCEPT_TARGET_REGISTERED"
  | .acceptTopologyGenerationAdvanced => "ACCEPT_TOPOLOGY_GENERATION_ADVANCED"
  | .acceptPolicyGenerationAdvanced => "ACCEPT_POLICY_GENERATION_ADVANCED"
  | .acceptStateTransferVerified => "ACCEPT_STATE_TRANSFER_VERIFIED"
  | .acceptPlacementEstablished => "ACCEPT_PLACEMENT_ESTABLISHED"
  | .acceptSourceEnrolled => "ACCEPT_SOURCE_ENROLLED"
  | .acceptTargetRetired => "ACCEPT_TARGET_RETIRED"
  | .acceptServiceRegistered => "ACCEPT_SERVICE_REGISTERED"
  | .acceptCapabilityRecorded => "ACCEPT_CAPABILITY_RECORDED"
  | .acceptFailureRecorded => "ACCEPT_FAILURE_RECORDED"
  | .acceptDependencyRecorded => "ACCEPT_DEPENDENCY_RECORDED"
  | .acceptServiceWithdrawn => "ACCEPT_SERVICE_WITHDRAWN"
  | .malformed => "MALFORMED"
  | .truncated => "TRUNCATED"
  | .oversized => "OVERSIZED"
  | .corrupt => "CORRUPT"
  | .checksumMismatch => "CHECKSUM_MISMATCH"
  | .unsupportedVersion => "UNSUPPORTED_VERSION"
  | .unsupportedSemantics => "UNSUPPORTED_SEMANTICS"
  | .unknownField => "UNKNOWN_FIELD"
  | .impossibleValue => "IMPOSSIBLE_VALUE"
  | .depthExceeded => "DEPTH_EXCEEDED"
  | .budgetExceeded => "BUDGET_EXCEEDED"
  | .unknownService => "UNKNOWN_SERVICE"
  | .unknownScope => "UNKNOWN_SCOPE"
  | .unknownTarget => "UNKNOWN_TARGET"
  | .unknownSource => "UNKNOWN_SOURCE"
  | .unknownDevice => "UNKNOWN_DEVICE"
  | .unknownIncarnation => "UNKNOWN_INCARNATION"
  | .duplicateService => "DUPLICATE_SERVICE"
  | .duplicateTarget => "DUPLICATE_TARGET"
  | .duplicateIdentity => "DUPLICATE_IDENTITY"
  | .registryCapacityExceeded => "REGISTRY_CAPACITY_EXCEEDED"
  | .staleGeneration => "STALE_GENERATION"
  | .supersededGeneration => "SUPERSEDED_GENERATION"
  | .futureGeneration => "FUTURE_GENERATION"
  | .generationConflict => "GENERATION_CONFLICT"
  | .generationExhausted => "GENERATION_EXHAUSTED"
  | .incompatibleCapability => "INCOMPATIBLE_CAPABILITY"
  | .incompatibleSemantics => "INCOMPATIBLE_SEMANTICS"
  | .incarnationMismatch => "INCARNATION_MISMATCH"
  | .incarnationRegression => "INCARNATION_REGRESSION"
  | .evidenceMissing => "EVIDENCE_MISSING"
  | .evidenceStale => "EVIDENCE_STALE"
  | .evidenceSuperseded => "EVIDENCE_SUPERSEDED"
  | .evidenceAmbiguous => "EVIDENCE_AMBIGUOUS"
  | .evidenceConflicting => "EVIDENCE_CONFLICTING"
  | .evidenceIncomplete => "EVIDENCE_INCOMPLETE"
  | .evidenceUnknownSource => "EVIDENCE_UNKNOWN_SOURCE"
  | .evidenceUnsupportedKind => "EVIDENCE_UNSUPPORTED_KIND"
  | .evidenceTargetMismatch => "EVIDENCE_TARGET_MISMATCH"
  | .evidenceTopologyMismatch => "EVIDENCE_TOPOLOGY_MISMATCH"
  | .evidenceCapacityExceeded => "EVIDENCE_CAPACITY_EXCEEDED"
  | .evidenceReplayRejected => "EVIDENCE_REPLAY_REJECTED"
  | .evidenceReporterUnauthorized => "EVIDENCE_REPORTER_UNAUTHORIZED"
  | .noAuthority => "NO_AUTHORITY"
  | .authoritySuperseded => "AUTHORITY_SUPERSEDED"
  | .authorityExpired => "AUTHORITY_EXPIRED"
  | .epochMismatch => "EPOCH_MISMATCH"
  | .bootMismatch => "BOOT_MISMATCH"
  | .leaseNotHeld => "LEASE_NOT_HELD"
  | .leaseTermStale => "LEASE_TERM_STALE"
  | .leaseTermExhausted => "LEASE_TERM_EXHAUSTED"
  | .coordinatorNotPrimary => "COORDINATOR_NOT_PRIMARY"
  | .fenceStale => "FENCE_STALE"
  | .fenceRegression => "FENCE_REGRESSION"
  | .fenceMismatch => "FENCE_MISMATCH"
  | .fenceNotDurable => "FENCE_NOT_DURABLE"
  | .fenceExhausted => "FENCE_EXHAUSTED"
  | .fenceHeldByOther => "FENCE_HELD_BY_OTHER"
  | .targetDisappearanceIsNotPermission => "TARGET_DISAPPEARANCE_IS_NOT_PERMISSION"
  | .noEligibleFallback => "NO_ELIGIBLE_FALLBACK"
  | .fallbackUnsupported => "FALLBACK_UNSUPPORTED"
  | .fallbackIncompatible => "FALLBACK_INCOMPATIBLE"
  | .fallbackFenced => "FALLBACK_FENCED"
  | .fallbackIsActiveTarget => "FALLBACK_IS_ACTIVE_TARGET"
  | .fallbackUnhealthy => "FALLBACK_UNHEALTHY"
  | .fallbackDependencyUnmet => "FALLBACK_DEPENDENCY_UNMET"
  | .fallbackCapabilityGenerationStale => "FALLBACK_CAPABILITY_GENERATION_STALE"
  | .fallbackNotInGovernedScope => "FALLBACK_NOT_IN_GOVERNED_SCOPE"
  | .fallbackCandidateLimitReached => "FALLBACK_CANDIDATE_LIMIT_REACHED"
  | .dependencyUnknown => "DEPENDENCY_UNKNOWN"
  | .dependencyUnresolved => "DEPENDENCY_UNRESOLVED"
  | .dependencyCycle => "DEPENDENCY_CYCLE"
  | .dependencyHardUnmet => "DEPENDENCY_HARD_UNMET"
  | .dependencyDepthExceeded => "DEPENDENCY_DEPTH_EXCEEDED"
  | .dependencyCapacityExceeded => "DEPENDENCY_CAPACITY_EXCEEDED"
  | .dependencySelfReference => "DEPENDENCY_SELF_REFERENCE"
  | .invalidState => "INVALID_STATE"
  | .transitionRefused => "TRANSITION_REFUSED"
  | .failoverAlreadyInProgress => "FAILOVER_ALREADY_IN_PROGRESS"
  | .noFailoverInProgress => "NO_FAILOVER_IN_PROGRESS"
  | .attemptBudgetExhausted => "ATTEMPT_BUDGET_EXHAUSTED"
  | .planStepLimitReached => "PLAN_STEP_LIMIT_REACHED"
  | .historyTruncated => "HISTORY_TRUNCATED"
  | .queueCapacityExceeded => "QUEUE_CAPACITY_EXCEEDED"
  | .resourceExhausted => "RESOURCE_EXHAUSTED"
  | .payloadTooLarge => "PAYLOAD_TOO_LARGE"
  | .serviceNotRegistered => "SERVICE_NOT_REGISTERED"
  | .serviceStateIncompatible => "SERVICE_STATE_INCOMPATIBLE"
  | .effectMissing => "EFFECT_MISSING"
  | .effectUnverified => "EFFECT_UNVERIFIED"
  | .effectMismatch => "EFFECT_MISMATCH"
  | .effectStale => "EFFECT_STALE"
  | .effectReporterUnauthorized => "EFFECT_REPORTER_UNAUTHORIZED"
  | .effectNegative => "EFFECT_NEGATIVE"
  | .continuityNotVerified => "CONTINUITY_NOT_VERIFIED"
  | .effectAlreadyVerified => "EFFECT_ALREADY_VERIFIED"
  | .effectAttemptMismatch => "EFFECT_ATTEMPT_MISMATCH"
  | .effectUnsupportedKind => "EFFECT_UNSUPPORTED_KIND"
  | .ambiguityUnresolved => "AMBIGUITY_UNRESOLVED"
  | .ambiguityAlreadyResolved => "AMBIGUITY_ALREADY_RESOLVED"
  | .ambiguityDualActiveRisk => "AMBIGUITY_DUAL_ACTIVE_RISK"
  | .ambiguityRequiresOperator => "AMBIGUITY_REQUIRES_OPERATOR"
  | .stateTransferMissing => "STATE_TRANSFER_MISSING"
  | .stateGenerationStale => "STATE_GENERATION_STALE"
  | .stateTransferIncompatible => "STATE_TRANSFER_INCOMPATIBLE"
  | .statefulRecoveryRequiresTransfer => "STATEFUL_RECOVERY_REQUIRES_TRANSFER"
  | .failbackNotEligible => "FAILBACK_NOT_ELIGIBLE"
  | .failbackStaleGeneration => "FAILBACK_STALE_GENERATION"
  | .failbackOriginalUnavailable => "FAILBACK_ORIGINAL_UNAVAILABLE"
  | .failbackOriginalFenceStale => "FAILBACK_ORIGINAL_FENCE_STALE"
  | .failbackNoFailoverRecorded => "FAILBACK_NO_FAILOVER_RECORDED"
  | .failbackInProgress => "FAILBACK_IN_PROGRESS"
  | .storeUnavailable => "STORE_UNAVAILABLE"
  | .storeCorrupt => "STORE_CORRUPT"
  | .storeTruncated => "STORE_TRUNCATED"
  | .storeVersionIncompatible => "STORE_VERSION_INCOMPATIBLE"
  | .storeSemanticsIncompatible => "STORE_SEMANTICS_INCOMPATIBLE"
  | .snapshotMissing => "SNAPSHOT_MISSING"
  | .snapshotCorrupt => "SNAPSHOT_CORRUPT"
  | .tornTailTruncated => "TORN_TAIL_TRUNCATED"
  | .incompleteTransactionDropped => "INCOMPLETE_TRANSACTION_DROPPED"
  | .restartConservativeDowngrade => "RESTART_CONSERVATIVE_DOWNGRADE"
  | .restartEpochAdvanced => "RESTART_EPOCH_ADVANCED"
  | .restartIncarnationAdvanced => "RESTART_INCARNATION_ADVANCED"
  | .journalRotated => "JOURNAL_ROTATED"
  | .journalCapacityExceeded => "JOURNAL_CAPACITY_EXCEEDED"
  | .persistenceWriteFailed => "PERSISTENCE_WRITE_FAILED"
  | .cancelled => "CANCELLED"
  | .cancelTooLate => "CANCEL_TOO_LATE"
  | .shuttingDown => "SHUTTING_DOWN"
  | .notShuttingDown => "NOT_SHUTTING_DOWN"
  | .protocolViolation => "PROTOCOL_VIOLATION"
  | .protocolVersionMismatch => "PROTOCOL_VERSION_MISMATCH"
  | .frameTooLarge => "FRAME_TOO_LARGE"
  | .requestUnknown => "REQUEST_UNKNOWN"
  | .notHandshaken => "NOT_HANDSHAKEN"
  | .connectionLimitReached => "CONNECTION_LIMIT_REACHED"
  | .transportClosed => "TRANSPORT_CLOSED"
  | .requestKeyConflict => "REQUEST_KEY_CONFLICT"
  | .internal => "INTERNAL"
  | .notImplemented => "NOT_IMPLEMENTED"
  | .invariantViolated => "INVARIANT_VIOLATED"

/-- The family that the upper byte of a code names. -/
def family (reason : Reason) : String :=
  match reason.code >>> 8 with
  | 0x00 => "success"
  | 0x01 => "success"
  | 0x02 => "shape"
  | 0x03 => "identity"
  | 0x04 => "generation"
  | 0x05 => "evidence"
  | 0x06 => "authority"
  | 0x07 => "fence"
  | 0x08 => "eligibility"
  | 0x09 => "dependency"
  | 0x0A => "lifecycle"
  | 0x0B => "effect"
  | 0x0C => "ambiguity"
  | 0x0D => "statefulness"
  | 0x0E => "failback"
  | 0x0F => "persistence"
  | 0x10 => "cancellation"
  | 0x11 => "protocol"
  | 0x12 => "internal"
  | _ => "unknown"

/-- The code text in lower case, with blanks between the words. -/
def summary (reason : Reason) : Bytes :=
  (ascii reason.text).map fun c =>
    if c == 95 then 32 else if 65 ≤ c && c ≤ 90 then c - 65 + 97 else c

def toJson (reason : Reason) : JsonValue :=
  record
    [("code", label reason.text), ("family", label reason.family),
     ("summary", JsonValue.text reason.summary)]

end Reason

/-! ### Topology and policy -/

namespace DeviceKind

def text : DeviceKind → String
  | .hostCpu => "host_cpu"
  | .smartNic => "smart_nic"
  | .dpu => "dpu"
  | .synthetic => "synthetic"

/-- Whether a device of this kind is real hardware. -/
def fidelity : DeviceKind → String
  | .smartNic | .dpu => "REAL"
  | .hostCpu | .synthetic => "SYNTHETIC"

end DeviceKind

def TargetRecord.toJson (value : TargetRecord) : JsonValue :=
  record
    [("device", .text value.device.bytes), ("fidelity", label value.kind.fidelity),
     ("host", .text value.host.bytes), ("incarnation", value.incarnation.toJson),
     ("kind", label value.kind.text), ("name", .text value.name.bytes),
     ("scope", .text value.scope.bytes),
     ("topology_generation", .unsigned value.topologyGeneration.value)]

def PolicyDescriptor.toJson (value : PolicyDescriptor) : JsonValue :=
  record
    [("allow_degraded_continuity", .bool value.allowDegradedContinuity),
     ("allow_failback", .bool value.allowFailback),
     ("dependency_max_depth", .unsigned value.dependencyMaxDepth.toUInt64),
     ("evidence_max_age_ticks", .unsigned value.evidenceMaxAgeTicks.toUInt64),
     ("generation", .unsigned value.generation.value),
     ("max_attempts_per_generation", .unsigned value.maxAttemptsPerGeneration.toUInt64),
     ("max_fallback_candidates", .unsigned value.maxFallbackCandidates.toUInt64),
     ("max_plan_steps", .unsigned value.maxPlanSteps.toUInt64),
     ("require_operator_for_ambiguous", .bool value.requireOperatorForAmbiguous),
     ("scope", .text value.scope.bytes)]

/-- A placement, or null where there is none. -/
def targetRefJsonOrNull : Option TargetRef → JsonValue
  | none => .null
  | some ref => ref.toJson

def FailoverIntent.toJson (value : FailoverIntent) : JsonValue :=
  record
    [("attempt", .unsigned value.attempt.value), ("epoch", .unsigned value.epoch.value),
     ("fence", .unsigned value.fence.value), ("from", value.fromTarget.toJson),
     ("generation", .unsigned value.generation.value),
     ("issued", .unsigned value.issued.value), ("lease_term", .unsigned value.leaseTerm.value),
     ("policy_generation", .unsigned value.policyGeneration.value),
     ("reissue_after_restart", .bool value.reissueAfterRestart),
     ("service", .text value.service.bytes), ("to", value.toTarget.toJson),
     ("topology_generation", .unsigned value.topologyGeneration.value)]

/-! ### Explanations and decisions -/

/-- The sixteen hexadecimal digits of a word, the highest first. -/
def hexDigits (word : UInt64) : Bytes :=
  (List.range 16).map fun place =>
    hexDigit ((word >>> UInt64.ofNat (60 - 4 * place)) &&& 0xF).toUInt8

def Digest.toHex (digest : Digest) : Bytes := hexDigits digest.hi ++ hexDigits digest.lo

namespace Explanation

def encodeStep (step : ExplanationStep) : Encoder := do
  putU16 step.code.code
  putText step.subject
  putText (ascii step.detail)
  putU64 step.value

/-- The digest over the ordered steps and the generations that produced them. -/
def semanticDigest (explanation : Explanation) : Digest :=
  (CanonicalWriter.run do
    encodeName explanation.service
    putU16 explanation.outcome.code
    putBool explanation.accepted
    encodeGen explanation.epoch
    encodeGen explanation.policyGeneration
    encodeGen explanation.topologyGeneration
    encodeGen explanation.failoverGeneration
    encodeGen explanation.fence
    putU64 explanation.request.value
    encodeList explanation.steps encodeStep).digest

def stepJson (step : ExplanationStep) : JsonValue :=
  record
    [("code", label step.code.text), ("detail", label step.detail),
     ("family", label step.code.family), ("subject", .text step.subject),
     ("value", .unsigned step.value)]

def toJson (explanation : Explanation) : JsonValue :=
  record
    [("accepted", .bool explanation.accepted), ("epoch", .unsigned explanation.epoch.value),
     ("failover_generation", .unsigned explanation.failoverGeneration.value),
     ("fence", .unsigned explanation.fence.value), ("outcome", label explanation.outcome.text),
     ("policy_generation", .unsigned explanation.policyGeneration.value),
     ("request", .unsigned explanation.request.value),
     ("semantic_digest", .text explanation.semanticDigest.toHex),
     ("service", .text explanation.service.bytes),
     ("steps", list (explanation.steps.map stepJson)),
     ("tick", .unsigned explanation.tick.value),
     ("topology_generation", .unsigned explanation.topologyGeneration.value)]

end Explanation

def RecoveryDecision.toJson (decision : RecoveryDecision) : JsonValue :=
  record
    [("accepted", .bool decision.accepted), ("duplicate", .bool decision.duplicate),
     ("explanation", decision.explanation.toJson),
     ("intent", match decision.intent with
       | some intent => intent.toJson
       | none => .null),
     ("outcome", label decision.outcome.text),
     ("outcome_family", label decision.outcome.family), ("plan", decision.plan.toJson)]

def Fabric.FenceVerdict.toJson (verdict : Fabric.FenceVerdict) : JsonValue :=
  record
    [("authorized", .bool verdict.authorized), ("code", label verdict.code.text),
     ("current", .unsigned verdict.current.value),
     ("current_holder", verdict.currentHolder.toJson),
     ("fenced_incarnation", verdict.fencedIncarnation.toJson),
     ("had_witness", .bool verdict.hadWitness)]

/-! ### Views -/

def Statefulness.text : Statefulness → String
  | .stateless => "stateless"
  | .stateful => "stateful"

def LifecyclePhase.text : LifecyclePhase → String
  | .unregistered => "unregistered"
  | .registered => "registered"
  | .active => "active"
  | .recoveryPending => "recovery_pending"
  | .recoveryAuthorized => "recovery_authorized"
  | .recoveryInFlight => "recovery_in_flight"
  | .fallbackActive => "fallback_active"
  | .failed => "failed"
  | .withdrawn => "withdrawn"

def RecoveryPhase.text : RecoveryPhase → String
  | .none => "none"
  | .intentRecorded => "intent_recorded"
  | .authorized => "authorized"
  | .activationRequested => "activation_requested"
  | .effectReported => "effect_reported"
  | .verified => "verified"
  | .refused => "refused"
  | .ambiguityPending => "ambiguity_pending"

def ContinuityClass.text : ContinuityClass → String
  | .unknown => "unknown"
  | .none => "none"
  | .degraded => "degraded"
  | .full => "full"

def AttemptOutcome.text : AttemptOutcome → String
  | .pending => "pending"
  | .committed => "committed"
  | .acknowledged => "acknowledged"
  | .effectReported => "effect_reported"
  | .verified => "verified"
  | .refused => "refused"
  | .cancelled => "cancelled"
  | .outcomeUnknown => "outcome_unknown"
  | .superseded => "superseded"

structure ServiceView where
  name : ServiceName := .nil
  scope : ScopeName := .nil
  statefulness : Statefulness := .stateless
  lifecycle : LifecyclePhase := .unregistered
  recovery : RecoveryPhase := .none
  continuity : ContinuityClass := .unknown
  active : Option TargetRef := none
  fallback : Option TargetRef := none
  generation : FailoverGeneration := {}
  fence : FenceToken := {}
  leaseTerm : LeaseTerm := {}
  currentAttempt : AttemptId := {}
  lastOutcome : AttemptOutcome := .pending
  effectVerified : Bool := false
  stateTransferVerified : Bool := false
  ambiguityPending : Bool := false
  failoverRecorded : Bool := false
  lastReason : Reason := .ok
  attemptsRecorded : Nat := 0
  attemptsEvicted : UInt64 := 0
  lastChange : LogicalTick := {}

def ServiceView.toJson (view : ServiceView) : JsonValue :=
  record
    [("active", targetRefJsonOrNull view.active),
     ("ambiguity_pending", .bool view.ambiguityPending),
     ("attempts_evicted", .unsigned view.attemptsEvicted),
     ("attempts_recorded", .unsigned (UInt64.ofNat view.attemptsRecorded)),
     ("continuity", label view.continuity.text),
     ("current_attempt", .unsigned view.currentAttempt.value),
     ("effect_verified", .bool view.effectVerified),
     ("failover_generation", .unsigned view.generation.value),
     ("failover_recorded", .bool view.failoverRecorded),
     ("fallback", targetRefJsonOrNull view.fallback), ("fence", .unsigned view.fence.value),
     ("last_change", .unsigned view.lastChange.value),
     ("last_outcome", label view.lastOutcome.text), ("last_reason", label view.lastReason.text),
     ("lease_term", .unsigned view.leaseTerm.value), ("lifecycle", label view.lifecycle.text),
     ("name", .text view.name.bytes), ("recovery", label view.recovery.text),
     ("scope", .text view.scope.bytes),
     ("state_transfer_verified", .bool view.stateTransferVerified),
     ("statefulness", label view.statefulness.text)]

/-- The field name of a counter. -/
def StatField.text : StatField → String
  | .servicesRegistered => "services_registered"
  | .targetsRegistered => "targets_registered"
  | .sourcesEnrolled => "sources_enrolled"
  | .capabilitiesIngested => "capabilities_ingested"
  | .failuresIngested => "failures_ingested"
  | .dependenciesIngested => "dependencies_ingested"
  | .evidenceRejectedStale => "evidence_rejected_stale"
  | .evidenceRejectedConflict => "evidence_rejected_conflict"
  | .evidenceRejectedDuplicate => "evidence_rejected_duplicate"
  | .evidenceRejectedUnauthorized => "evidence_rejected_unauthorized"
  | .evidenceRejectedCapacity => "evidence_rejected_capacity"
  | .evidenceEvicted => "evidence_evicted"
  | .placementsEstablished => "placements_established"
  | .failoversAccepted => "failovers_accepted"
  | .failoversRefused => "failovers_refused"
  | .failoversDuplicate => "failovers_duplicate"
  | .failbacksAccepted => "failbacks_accepted"
  | .failbacksRefused => "failbacks_refused"
  | .effectsAccepted => "effects_accepted"
  | .effectsRefused => "effects_refused"
  | .effectsVerified => "effects_verified"
  | .ambiguityPending => "ambiguity_pending"
  | .ambiguityResolved => "ambiguity_resolved"
  | .intentsEmitted => "intents_emitted"
  | .intentsDropped => "intents_dropped"
  | .intentsConsumed => "intents_consumed"
  | .attemptsRecorded => "attempts_recorded"
  | .attemptsEvicted => "attempts_evicted"
  | .explanationsRecorded => "explanations_recorded"
  | .explanationsEvicted => "explanations_evicted"
  | .fallbackCandidatesTruncated => "fallback_candidates_truncated"
  | .dependencyDepthTruncated => "dependency_depth_truncated"
  | .requestsCancelled => "requests_cancelled"
  | .cancelsTooLate => "cancels_too_late"
  | .journalTransactions => "journal_transactions"
  | .journalCompactions => "journal_compactions"
  | .recoveryReissues => "recovery_reissues"
  | .effectReportsReplayed => "effect_reports_replayed"
  | .withdrawnServices => "withdrawn_services"

def FabricStats.toJson (stats : FabricStats) : JsonValue :=
  record (StatField.all.map fun field => (field.text, .unsigned (stats.count field)))

def RecoveryClass.text : RecoveryClass → String
  | .empty => "empty"
  | .cleanReopen => "clean_reopen"
  | .tornTailRepaired => "torn_tail_repaired"
  | .transactionDropped => "transaction_dropped"
  | .corrupt => "corrupt"
  | .versionIncompatible => "version_incompatible"
  | .unavailable => "unavailable"

/-- A size or a count of the runtime as a number. -/
def count (value : Nat) : JsonValue := .unsigned (UInt64.ofNat value)

def RecoveryReport.toJson (report : RecoveryReport) : JsonValue :=
  record
    [("bytes_accepted", count report.bytesAccepted),
     ("bytes_discarded", count report.bytesDiscarded),
     ("classification", label report.classification.text),
     ("format_version", count report.formatVersion),
     ("journal_generation", count report.journalGeneration),
     ("reason", label report.reason.text),
     ("replayed_digest", .text report.replayedDigest.toHex),
     ("snapshot_generation", count report.snapshotGeneration),
     ("transactions_applied", count report.transactionsApplied),
     ("transactions_dropped", count report.transactionsDropped),
     ("truncated_tail_repaired", .bool report.truncatedTailRepaired)]

def RestartSummary.toJson (summary : RestartSummary) : JsonValue :=
  record
    [("attempts_marked_unknown", count summary.attemptsMarkedUnknown),
     ("boot", .unsigned summary.boot.value),
     ("capability_evidence_invalidated", count summary.capabilityEvidenceInvalidated),
     ("conservative", .bool summary.conservative),
     ("dependency_observations_invalidated", count summary.dependencyObservationsInvalidated),
     ("epoch", .unsigned summary.epoch.value),
     ("failure_evidence_invalidated", count summary.failureEvidenceInvalidated),
     ("previous_epoch", .unsigned summary.previousEpoch.value),
     ("services_downgraded", count summary.servicesDowngraded),
     ("store", summary.store.toJson)]

structure FabricView where
  schemaVersion : UInt16 := kCanonicalSchemaVersion
  epoch : CoordinatorEpoch := {}
  boot : BootId := {}
  tick : LogicalTick := {}
  topologyGeneration : TopologyGeneration := {}
  policyGeneration : PolicyGeneration := {}
  policy : PolicyDescriptor := {}
  services : List ServiceView := []
  targets : List TargetRecord := []
  stats : FabricStats := {}

def versionString : String := "1.0.0"

namespace FabricView

def toJson (view : FabricView) : JsonValue :=
  record
    [("boot", .unsigned view.boot.value), ("epoch", .unsigned view.epoch.value),
     ("policy", view.policy.toJson),
     ("policy_generation", .unsigned view.policyGeneration.value),
     ("runtime_version", label versionString),
     ("schema_version", .unsigned view.schemaVersion.toUInt64),
     ("services", list (view.services.map ServiceView.toJson)), ("stats", view.stats.toJson),
     ("targets", list (view.targets.map TargetRecord.toJson)),
     ("tick", .unsigned view.tick.value),
     ("topology_generation", .unsigned view.topologyGeneration.value)]

/-- The compact rendering. -/
def canonicalText (view : FabricView) : Bytes := view.toJson.dump

end FabricView

namespace Fabric

def serviceView (name : ServiceName) (runtime : ServiceRuntime) : ServiceView :=
  { name
    scope := runtime.descriptor.scope
    statefulness := runtime.descriptor.statefulness
    lifecycle := runtime.lifecycle
    recovery := runtime.recovery
    continuity := runtime.continuity
    active := runtime.active
    fallback := runtime.fallback
    generation := runtime.generation
    fence := runtime.fence
    leaseTerm := match runtime.lease with
      | some lease => lease.term
      | none => {}
    currentAttempt := runtime.currentAttempt
    lastOutcome := match runtime.currentAttemptRecord with
      | some record => record.outcome
      | none => .pending
    effectVerified := runtime.effectVerified
    stateTransferVerified := runtime.stateTransferVerified
    ambiguityPending := runtime.ambiguityPending
    failoverRecorded := runtime.failoverRecorded
    lastReason := runtime.lastReason
    attemptsRecorded := runtime.history.length
    attemptsEvicted := runtime.attemptsEvicted
    lastChange := runtime.lastChange }

/-- Everything an observer sees, in key order. -/
def view (fabric : Fabric) : FabricView :=
  let state := fabric.state
  { epoch := state.epoch, boot := state.boot, tick := state.tick
    topologyGeneration := state.topologyGeneration
    policyGeneration := state.policyGeneration
    policy := state.policy
    services := state.services.entries.map fun entry => serviceView entry.1 entry.2
    targets := state.targets.values
    stats := state.stats }

end Fabric

end OffloadFabric
