import OffloadFabric.BigEndian

/-!
The stable machine-readable reason codes. Codes are append-only: a code never
changes its meaning or its number, and only the codes listed here are read back
from disk.
-/
namespace OffloadFabric

inductive Reason where
  | ok | acceptQualifiedPrimaryFailure | acceptQualifiedReplicaFailure
  | acceptQualifiedPlannedRecovery | acceptFallbackCapabilityCompatible | acceptFallbackHealthy
  | acceptFenceAdvanced | acceptLeaseTransferred | acceptIntentEmitted | acceptEffectVerified
  | acceptContinuityVerified | acceptContinuityDegradedStateful | acceptDuplicateIdempotent
  | acceptDuplicateReplayCached | acceptRecoveryReissueSameFence
  | acceptAmbiguityResolvedFailover | acceptAmbiguityResolvedNoFailover
  | acceptFailbackGenerationFresh | acceptTargetRegistered | acceptTopologyGenerationAdvanced
  | acceptPolicyGenerationAdvanced | acceptStateTransferVerified | acceptPlacementEstablished
  | acceptSourceEnrolled | acceptTargetRetired | acceptServiceRegistered
  | acceptCapabilityRecorded | acceptFailureRecorded | acceptDependencyRecorded
  | acceptServiceWithdrawn | malformed | truncated | oversized | corrupt | checksumMismatch
  | unsupportedVersion | unsupportedSemantics | unknownField | impossibleValue | depthExceeded
  | budgetExceeded | unknownService | unknownScope | unknownTarget | unknownSource
  | unknownDevice | unknownIncarnation | duplicateService | duplicateTarget | duplicateIdentity
  | registryCapacityExceeded | staleGeneration | supersededGeneration | futureGeneration
  | generationConflict | generationExhausted | incompatibleCapability | incompatibleSemantics
  | incarnationMismatch | incarnationRegression | evidenceMissing | evidenceStale
  | evidenceSuperseded | evidenceAmbiguous | evidenceConflicting | evidenceIncomplete
  | evidenceUnknownSource | evidenceUnsupportedKind | evidenceTargetMismatch
  | evidenceTopologyMismatch | evidenceCapacityExceeded | evidenceReplayRejected
  | evidenceReporterUnauthorized | noAuthority | authoritySuperseded | authorityExpired
  | epochMismatch | bootMismatch | leaseNotHeld | leaseTermStale | leaseTermExhausted
  | coordinatorNotPrimary | fenceStale | fenceRegression | fenceMismatch | fenceNotDurable
  | fenceExhausted | fenceHeldByOther | targetDisappearanceIsNotPermission | noEligibleFallback
  | fallbackUnsupported | fallbackIncompatible | fallbackFenced | fallbackIsActiveTarget
  | fallbackUnhealthy | fallbackDependencyUnmet | fallbackCapabilityGenerationStale
  | fallbackNotInGovernedScope | fallbackCandidateLimitReached | dependencyUnknown
  | dependencyUnresolved | dependencyCycle | dependencyHardUnmet | dependencyDepthExceeded
  | dependencyCapacityExceeded | dependencySelfReference | invalidState | transitionRefused
  | failoverAlreadyInProgress | noFailoverInProgress | attemptBudgetExhausted
  | planStepLimitReached | historyTruncated | queueCapacityExceeded | resourceExhausted
  | payloadTooLarge | serviceNotRegistered | serviceStateIncompatible | effectMissing
  | effectUnverified | effectMismatch | effectStale | effectReporterUnauthorized | effectNegative
  | continuityNotVerified | effectAlreadyVerified | effectAttemptMismatch | effectUnsupportedKind
  | ambiguityUnresolved | ambiguityAlreadyResolved | ambiguityDualActiveRisk
  | ambiguityRequiresOperator | stateTransferMissing | stateGenerationStale
  | stateTransferIncompatible | statefulRecoveryRequiresTransfer | failbackNotEligible
  | failbackStaleGeneration | failbackOriginalUnavailable | failbackOriginalFenceStale
  | failbackNoFailoverRecorded | failbackInProgress | storeUnavailable | storeCorrupt
  | storeTruncated | storeVersionIncompatible | storeSemanticsIncompatible | snapshotMissing
  | snapshotCorrupt | tornTailTruncated | incompleteTransactionDropped
  | restartConservativeDowngrade | restartEpochAdvanced | restartIncarnationAdvanced
  | journalRotated | journalCapacityExceeded | persistenceWriteFailed | cancelled | cancelTooLate
  | shuttingDown | notShuttingDown | protocolViolation | protocolVersionMismatch | frameTooLarge
  | requestUnknown | notHandshaken | connectionLimitReached | transportClosed
  | requestKeyConflict | internal | notImplemented | invariantViolated
  deriving DecidableEq, Inhabited, Repr

namespace Reason

def code : Reason → UInt16
  | .ok => 0x0000
  | .acceptQualifiedPrimaryFailure => 0x0101
  | .acceptQualifiedReplicaFailure => 0x0102
  | .acceptQualifiedPlannedRecovery => 0x0103
  | .acceptFallbackCapabilityCompatible => 0x0110
  | .acceptFallbackHealthy => 0x0111
  | .acceptFenceAdvanced => 0x0120
  | .acceptLeaseTransferred => 0x0121
  | .acceptIntentEmitted => 0x0130
  | .acceptEffectVerified => 0x0140
  | .acceptContinuityVerified => 0x0141
  | .acceptContinuityDegradedStateful => 0x0142
  | .acceptDuplicateIdempotent => 0x0150
  | .acceptDuplicateReplayCached => 0x0151
  | .acceptRecoveryReissueSameFence => 0x0152
  | .acceptAmbiguityResolvedFailover => 0x0160
  | .acceptAmbiguityResolvedNoFailover => 0x0161
  | .acceptFailbackGenerationFresh => 0x0170
  | .acceptTargetRegistered => 0x0180
  | .acceptTopologyGenerationAdvanced => 0x0181
  | .acceptPolicyGenerationAdvanced => 0x0182
  | .acceptStateTransferVerified => 0x0190
  | .acceptPlacementEstablished => 0x0183
  | .acceptSourceEnrolled => 0x0184
  | .acceptTargetRetired => 0x0185
  | .acceptServiceRegistered => 0x0186
  | .acceptCapabilityRecorded => 0x0187
  | .acceptFailureRecorded => 0x0188
  | .acceptDependencyRecorded => 0x0189
  | .acceptServiceWithdrawn => 0x018A
  | .malformed => 0x0201
  | .truncated => 0x0202
  | .oversized => 0x0203
  | .corrupt => 0x0204
  | .checksumMismatch => 0x0205
  | .unsupportedVersion => 0x0206
  | .unsupportedSemantics => 0x0207
  | .unknownField => 0x0208
  | .impossibleValue => 0x0209
  | .depthExceeded => 0x020A
  | .budgetExceeded => 0x020B
  | .unknownService => 0x0301
  | .unknownScope => 0x0302
  | .unknownTarget => 0x0303
  | .unknownSource => 0x0304
  | .unknownDevice => 0x0305
  | .unknownIncarnation => 0x0306
  | .duplicateService => 0x0307
  | .duplicateTarget => 0x0308
  | .duplicateIdentity => 0x0309
  | .registryCapacityExceeded => 0x030A
  | .staleGeneration => 0x0401
  | .supersededGeneration => 0x0402
  | .futureGeneration => 0x0403
  | .generationConflict => 0x0404
  | .generationExhausted => 0x0405
  | .incompatibleCapability => 0x0406
  | .incompatibleSemantics => 0x0407
  | .incarnationMismatch => 0x0408
  | .incarnationRegression => 0x0409
  | .evidenceMissing => 0x0501
  | .evidenceStale => 0x0502
  | .evidenceSuperseded => 0x0503
  | .evidenceAmbiguous => 0x0504
  | .evidenceConflicting => 0x0505
  | .evidenceIncomplete => 0x0506
  | .evidenceUnknownSource => 0x0507
  | .evidenceUnsupportedKind => 0x0508
  | .evidenceTargetMismatch => 0x0509
  | .evidenceTopologyMismatch => 0x050A
  | .evidenceCapacityExceeded => 0x050B
  | .evidenceReplayRejected => 0x050C
  | .evidenceReporterUnauthorized => 0x050D
  | .noAuthority => 0x0601
  | .authoritySuperseded => 0x0602
  | .authorityExpired => 0x0603
  | .epochMismatch => 0x0604
  | .bootMismatch => 0x0605
  | .leaseNotHeld => 0x0606
  | .leaseTermStale => 0x0607
  | .leaseTermExhausted => 0x0608
  | .coordinatorNotPrimary => 0x0609
  | .fenceStale => 0x0701
  | .fenceRegression => 0x0702
  | .fenceMismatch => 0x0703
  | .fenceNotDurable => 0x0704
  | .fenceExhausted => 0x0705
  | .fenceHeldByOther => 0x0706
  | .targetDisappearanceIsNotPermission => 0x0801
  | .noEligibleFallback => 0x0802
  | .fallbackUnsupported => 0x0803
  | .fallbackIncompatible => 0x0804
  | .fallbackFenced => 0x0805
  | .fallbackIsActiveTarget => 0x0806
  | .fallbackUnhealthy => 0x0807
  | .fallbackDependencyUnmet => 0x0808
  | .fallbackCapabilityGenerationStale => 0x0809
  | .fallbackNotInGovernedScope => 0x080A
  | .fallbackCandidateLimitReached => 0x080B
  | .dependencyUnknown => 0x0901
  | .dependencyUnresolved => 0x0902
  | .dependencyCycle => 0x0903
  | .dependencyHardUnmet => 0x0904
  | .dependencyDepthExceeded => 0x0905
  | .dependencyCapacityExceeded => 0x0906
  | .dependencySelfReference => 0x0907
  | .invalidState => 0x0A01
  | .transitionRefused => 0x0A02
  | .failoverAlreadyInProgress => 0x0A03
  | .noFailoverInProgress => 0x0A04
  | .attemptBudgetExhausted => 0x0A05
  | .planStepLimitReached => 0x0A06
  | .historyTruncated => 0x0A07
  | .queueCapacityExceeded => 0x0A08
  | .resourceExhausted => 0x0A09
  | .payloadTooLarge => 0x0A0A
  | .serviceNotRegistered => 0x0A0B
  | .serviceStateIncompatible => 0x0A0C
  | .effectMissing => 0x0B01
  | .effectUnverified => 0x0B02
  | .effectMismatch => 0x0B03
  | .effectStale => 0x0B04
  | .effectReporterUnauthorized => 0x0B05
  | .effectNegative => 0x0B06
  | .continuityNotVerified => 0x0B07
  | .effectAlreadyVerified => 0x0B08
  | .effectAttemptMismatch => 0x0B09
  | .effectUnsupportedKind => 0x0B0A
  | .ambiguityUnresolved => 0x0C01
  | .ambiguityAlreadyResolved => 0x0C02
  | .ambiguityDualActiveRisk => 0x0C03
  | .ambiguityRequiresOperator => 0x0C04
  | .stateTransferMissing => 0x0D01
  | .stateGenerationStale => 0x0D02
  | .stateTransferIncompatible => 0x0D03
  | .statefulRecoveryRequiresTransfer => 0x0D04
  | .failbackNotEligible => 0x0E01
  | .failbackStaleGeneration => 0x0E02
  | .failbackOriginalUnavailable => 0x0E03
  | .failbackOriginalFenceStale => 0x0E04
  | .failbackNoFailoverRecorded => 0x0E05
  | .failbackInProgress => 0x0E06
  | .storeUnavailable => 0x0F01
  | .storeCorrupt => 0x0F02
  | .storeTruncated => 0x0F03
  | .storeVersionIncompatible => 0x0F04
  | .storeSemanticsIncompatible => 0x0F05
  | .snapshotMissing => 0x0F06
  | .snapshotCorrupt => 0x0F07
  | .tornTailTruncated => 0x0F08
  | .incompleteTransactionDropped => 0x0F09
  | .restartConservativeDowngrade => 0x0F0A
  | .restartEpochAdvanced => 0x0F0B
  | .restartIncarnationAdvanced => 0x0F0C
  | .journalRotated => 0x0F0D
  | .journalCapacityExceeded => 0x0F0E
  | .persistenceWriteFailed => 0x0F0F
  | .cancelled => 0x1001
  | .cancelTooLate => 0x1002
  | .shuttingDown => 0x1003
  | .notShuttingDown => 0x1004
  | .protocolViolation => 0x1101
  | .protocolVersionMismatch => 0x1102
  | .frameTooLarge => 0x1103
  | .requestUnknown => 0x1104
  | .notHandshaken => 0x1105
  | .connectionLimitReached => 0x1106
  | .transportClosed => 0x1107
  | .requestKeyConflict => 0x1108
  | .internal => 0x1201
  | .notImplemented => 0x1202
  | .invariantViolated => 0x1203

/-- Every code, in table order. -/
def all : List Reason :=
  [.ok, .acceptQualifiedPrimaryFailure, .acceptQualifiedReplicaFailure,
   .acceptQualifiedPlannedRecovery, .acceptFallbackCapabilityCompatible, .acceptFallbackHealthy,
   .acceptFenceAdvanced, .acceptLeaseTransferred, .acceptIntentEmitted, .acceptEffectVerified,
   .acceptContinuityVerified, .acceptContinuityDegradedStateful, .acceptDuplicateIdempotent,
   .acceptDuplicateReplayCached, .acceptRecoveryReissueSameFence,
   .acceptAmbiguityResolvedFailover, .acceptAmbiguityResolvedNoFailover,
   .acceptFailbackGenerationFresh, .acceptTargetRegistered, .acceptTopologyGenerationAdvanced,
   .acceptPolicyGenerationAdvanced, .acceptStateTransferVerified, .acceptPlacementEstablished,
   .acceptSourceEnrolled, .acceptTargetRetired, .acceptServiceRegistered,
   .acceptCapabilityRecorded, .acceptFailureRecorded, .acceptDependencyRecorded,
   .acceptServiceWithdrawn, .malformed, .truncated, .oversized, .corrupt, .checksumMismatch,
   .unsupportedVersion, .unsupportedSemantics, .unknownField, .impossibleValue, .depthExceeded,
   .budgetExceeded, .unknownService, .unknownScope, .unknownTarget, .unknownSource,
   .unknownDevice, .unknownIncarnation, .duplicateService, .duplicateTarget, .duplicateIdentity,
   .registryCapacityExceeded, .staleGeneration, .supersededGeneration, .futureGeneration,
   .generationConflict, .generationExhausted, .incompatibleCapability, .incompatibleSemantics,
   .incarnationMismatch, .incarnationRegression, .evidenceMissing, .evidenceStale,
   .evidenceSuperseded, .evidenceAmbiguous, .evidenceConflicting, .evidenceIncomplete,
   .evidenceUnknownSource, .evidenceUnsupportedKind, .evidenceTargetMismatch,
   .evidenceTopologyMismatch, .evidenceCapacityExceeded, .evidenceReplayRejected,
   .evidenceReporterUnauthorized, .noAuthority, .authoritySuperseded, .authorityExpired,
   .epochMismatch, .bootMismatch, .leaseNotHeld, .leaseTermStale, .leaseTermExhausted,
   .coordinatorNotPrimary, .fenceStale, .fenceRegression, .fenceMismatch, .fenceNotDurable,
   .fenceExhausted, .fenceHeldByOther, .targetDisappearanceIsNotPermission, .noEligibleFallback,
   .fallbackUnsupported, .fallbackIncompatible, .fallbackFenced, .fallbackIsActiveTarget,
   .fallbackUnhealthy, .fallbackDependencyUnmet, .fallbackCapabilityGenerationStale,
   .fallbackNotInGovernedScope, .fallbackCandidateLimitReached, .dependencyUnknown,
   .dependencyUnresolved, .dependencyCycle, .dependencyHardUnmet, .dependencyDepthExceeded,
   .dependencyCapacityExceeded, .dependencySelfReference, .invalidState, .transitionRefused,
   .failoverAlreadyInProgress, .noFailoverInProgress, .attemptBudgetExhausted,
   .planStepLimitReached, .historyTruncated, .queueCapacityExceeded, .resourceExhausted,
   .payloadTooLarge, .serviceNotRegistered, .serviceStateIncompatible, .effectMissing,
   .effectUnverified, .effectMismatch, .effectStale, .effectReporterUnauthorized,
   .effectNegative, .continuityNotVerified, .effectAlreadyVerified, .effectAttemptMismatch,
   .effectUnsupportedKind, .ambiguityUnresolved, .ambiguityAlreadyResolved,
   .ambiguityDualActiveRisk, .ambiguityRequiresOperator, .stateTransferMissing,
   .stateGenerationStale, .stateTransferIncompatible, .statefulRecoveryRequiresTransfer,
   .failbackNotEligible, .failbackStaleGeneration, .failbackOriginalUnavailable,
   .failbackOriginalFenceStale, .failbackNoFailoverRecorded, .failbackInProgress,
   .storeUnavailable, .storeCorrupt, .storeTruncated, .storeVersionIncompatible,
   .storeSemanticsIncompatible, .snapshotMissing, .snapshotCorrupt, .tornTailTruncated,
   .incompleteTransactionDropped, .restartConservativeDowngrade, .restartEpochAdvanced,
   .restartIncarnationAdvanced, .journalRotated, .journalCapacityExceeded,
   .persistenceWriteFailed, .cancelled, .cancelTooLate, .shuttingDown, .notShuttingDown,
   .protocolViolation, .protocolVersionMismatch, .frameTooLarge, .requestUnknown, .notHandshaken,
   .connectionLimitReached, .transportClosed, .requestKeyConflict, .internal, .notImplemented,
   .invariantViolated]

/-- Read a code back; a number this build does not know is refused. -/
def ofCode? (raw : UInt16) : Option Reason := all.find? fun reason => reason.code == raw

theorem mem_all (reason : Reason) : reason ∈ all := by
  cases reason <;> decide +kernel

/-- No two codes share a number, so a code written is read back as itself. -/
theorem ofCode?_code (reason : Reason) : ofCode? reason.code = some reason := by
  have hall : ∀ r ∈ all, ofCode? r.code = some r := by decide +kernel
  exact hall reason (mem_all reason)

/-- An accepted decision has its code in the first two families. -/
def isAccept (reason : Reason) : Bool := reason.code >>> 8 ≤ 1

/-- The codes of acceptance by their names. -/
def accepts : Reason → Bool
  | .ok | .acceptQualifiedPrimaryFailure | .acceptQualifiedReplicaFailure
  | .acceptQualifiedPlannedRecovery | .acceptFallbackCapabilityCompatible
  | .acceptFallbackHealthy | .acceptFenceAdvanced | .acceptLeaseTransferred
  | .acceptIntentEmitted | .acceptEffectVerified | .acceptContinuityVerified
  | .acceptContinuityDegradedStateful | .acceptDuplicateIdempotent | .acceptDuplicateReplayCached
  | .acceptRecoveryReissueSameFence | .acceptAmbiguityResolvedFailover
  | .acceptAmbiguityResolvedNoFailover | .acceptFailbackGenerationFresh | .acceptTargetRegistered
  | .acceptTopologyGenerationAdvanced | .acceptPolicyGenerationAdvanced
  | .acceptStateTransferVerified | .acceptPlacementEstablished | .acceptSourceEnrolled
  | .acceptTargetRetired | .acceptServiceRegistered | .acceptCapabilityRecorded
  | .acceptFailureRecorded | .acceptDependencyRecorded | .acceptServiceWithdrawn => true
  | _ => false

theorem accepts_eq (reason : Reason) : reason.accepts = reason.isAccept := by
  cases reason <;> rfl

/-- A refusal on other grounds than missing evidence. -/
def isIncidental : Reason → Bool
  | .evidenceMissing => false
  | reason => !reason.accepts

theorem isAccept_of_isIncidental {reason : Reason} (h : reason.isIncidental = true) :
    reason.isAccept = false := by
  unfold isIncidental at h
  rw [← reason.accepts_eq]
  split at h
  · cases h
  · simpa using h

theorem ne_evidenceMissing_of_isIncidental {reason : Reason} (h : reason.isIncidental = true) :
    reason ≠ .evidenceMissing := by
  rintro rfl
  cases h

end Reason

end OffloadFabric
