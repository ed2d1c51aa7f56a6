import OffloadFabric.Registration

/-!
Evidence ingestion: capability evidence, failure evidence and dependency
observations. Evidence is accepted for the current epoch, boot and topology only,
and once for each sequence number of its source.
-/
namespace OffloadFabric

/-- A refusal that counts as stale evidence. -/
def stale (code : Reason) (subject : Bytes) (detail : String) (value : UInt64 := 0) : Refusal :=
  { code, subject, detail, value, counters := [.evidenceRejectedStale] }

def conflicting (subject : Bytes) (detail : String) (value : UInt64 := 0) : Refusal :=
  { code := .evidenceConflicting, subject, detail, value
    counters := [.evidenceRejectedConflict] }

/-- An asserted digest must match; a zero digest asserts nothing. -/
def digestMatches (asserted computed : Digest) : Bool := asserted.isZero || asserted = computed

namespace Fabric

/-! ### Capabilities -/

/-- The slot that constrains new evidence: a re-adopted target starts afresh. -/
def constrainingSlot (state : State) (evidence : CapabilityEvidence) : Option CapabilitySlot :=
  (state.capabilities.find? evidence.target).filter fun slot =>
    slot.evidence.incarnation = evidence.incarnation

/-- New evidence against the retained generation of the same incarnation. -/
def checkSlot (evidence : CapabilityEvidence) : Option CapabilitySlot → Check Unit
  | none => return ()
  | some slot => do
    let subject := evidence.target.bytes
    require (¬evidence.generation < slot.evidence.generation)
      (stale .supersededGeneration subject
        "capability generation is older than the retained one" slot.evidence.generation.value)
    require (¬(evidence.generation = slot.evidence.generation ∧
        evidence.capabilities = slot.evidence.capabilities ∧
        evidence.incarnation = slot.evidence.incarnation))
      { code := .acceptDuplicateIdempotent, subject
        detail := "capability generation already recorded" }
    require (evidence.generation ≠ slot.evidence.generation)
      (conflicting subject "capability generation reused with different content")

def checkIngestCapability (fabric : Fabric) (evidence : CapabilityEvidence) : Check Proposal := do
  let subject := evidence.target.bytes
  require fabric.opened (notOpen subject)
  require (fabric.state.roleSatisfies evidence.source .capabilityReporter)
    (unauthorized .evidenceReporterUnauthorized evidence.source
      "source is not an enrolled capability reporter")
  let target ← demand (fabric.state.targets.find? evidence.target)
    { code := .unknownTarget, subject, detail := "target is not registered" }
  require (evidence.incarnation = target.incarnation)
    (stale .staleGeneration subject "capability evidence names a different target incarnation"
      target.incarnation.host.value)
  require (evidence.topologyGeneration = fabric.state.topologyGeneration)
    (stale .evidenceTopologyMismatch subject
      "capability evidence was observed under a different topology generation"
      fabric.state.topologyGeneration.value)
  checkSlot evidence (constrainingSlot fabric.state evidence)
  let computed := capabilityFingerprint evidence
  require (digestMatches evidence.contentDigest computed)
    { code := .malformed, subject
      detail := "capability content digest does not match the asserted content" }
  let stamp ← demand fabric.state.tick.successor (tickExhausted subject)
  let record := { evidence with contentDigest := computed, tick := stamp }
  return {
    change := .capabilityIngested record
    update := fun state =>
      { state with
        tick := stamp
        capabilities := state.capabilities.insert evidence.target
          { evidence := record, requiresReconfirmation := false } }.bump .capabilitiesIngested
    code := .acceptCapabilityRecorded, subject, detail := "capability evidence accepted"
    value := record.generation.value }

def ingestCapability (fabric : Fabric) (evidence : CapabilityEvidence) :
    (Reason × Explanation) × Fabric :=
  fabric.ingest .nil evidence.target.bytes (fabric.checkIngestCapability evidence)

/-! ### Failures -/

/-- The texts of a source's watermark refusals. -/
structure WatermarkTexts where
  applied : String
  conflict : String
  replayed : String

/-- A sequence must be above the watermark of its source. -/
def checkWatermark (state : State) (provenance : Provenance) (fingerprint : Digest)
    (texts : WatermarkTexts) (values : Bool) : Check Unit :=
  let subject := provenance.source.bytes
  let shown (value : UInt64) : UInt64 := if values then value else 0
  match state.watermarks.find? provenance.source with
  | none => return ()
  | some watermark => do
    require (¬(provenance.sequence = watermark.sequence ∧ fingerprint = watermark.digest))
      { code := .acceptDuplicateIdempotent, subject, detail := texts.applied
        value := shown provenance.sequence.value }
    require (provenance.sequence ≠ watermark.sequence)
      (conflicting subject texts.conflict (shown provenance.sequence.value))
    require (watermark.sequence < provenance.sequence)
      (stale .evidenceReplayRejected subject texts.replayed (shown watermark.sequence.value))

/-- Evidence is taken from the running epoch and boot only. -/
def checkAuthority (state : State) (provenance : Provenance) (what : String) (values : Bool) :
    Check Unit := do
  let subject := provenance.source.bytes
  let shown (value : UInt64) : UInt64 := if values then value else 0
  require (provenance.epoch = state.epoch)
    (stale .authoritySuperseded subject
      (what ++ " was produced under a previous coordinator epoch") (shown provenance.epoch.value))
  require (provenance.boot = state.boot)
    (stale .bootMismatch subject (what ++ " was produced during a previous boot")
      (shown provenance.boot.value))

/-- A caller's evidence id must be new. -/
def checkEvidenceId (state : State) (evidence : FailureEvidence) (fingerprint : Digest) :
    Check Unit :=
  let subject := evidence.service.bytes
  if evidence.id.isNil then return ()
  else
    match state.failures.find? evidence.id with
    | none => return ()
    | some retained => do
      require (¬(retained.contentDigest = fingerprint ∧ retained.service = evidence.service))
        { code := .acceptDuplicateIdempotent, subject
          detail := "evidence identifier already retained", value := evidence.id.value }
      throw (conflicting subject "evidence identifier reused with different content"
        evidence.id.value)

/-- The id evidence is retained under: its own, or the next one of the coordinator. -/
def assignEvidenceId (state : State) (evidence : FailureEvidence) : Check EvidenceId :=
  if !evidence.id.isNil then return evidence.id
  else do
    require (state.nextEvidenceId ≠ 0 ∧ state.nextEvidenceId ≠ u64Max)
      { code := .generationExhausted, subject := evidence.service.bytes
        detail := "evidence identifier space exhausted" }
    return ⟨state.nextEvidenceId⟩

/-- Everything checked of failure evidence before it is numbered. -/
def checkFailureEvidence (fabric : Fabric) (evidence : FailureEvidence) : Check Unit := do
  let state := fabric.state
  let subject := evidence.service.bytes
  let target := evidence.target.target
  require fabric.opened (notOpen subject)
  require (state.roleSatisfies evidence.provenance.source .failureReporter)
    (unauthorized .evidenceReporterUnauthorized evidence.provenance.source
      "source is not an enrolled failure reporter")
  let runtime ← demand (state.services.find? evidence.service)
    { code := .unknownService, subject, detail := "service is not registered" }
  let _ ← demand (state.targets.find? target)
    { code := .unknownTarget, subject := target.bytes, detail := "target is not registered" }
  require (¬evidence.provenance.sequence.isInitial)
    { code := .evidenceIncomplete, subject := evidence.provenance.source.bytes
      detail := "evidence sequence zero never names a delivered observation" }
  checkAuthority state evidence.provenance "evidence" true
  let fingerprint := failureFingerprint evidence
  checkWatermark state evidence.provenance fingerprint
    { applied := "evidence sequence already applied"
      conflict := "evidence sequence reused with different content"
      replayed := "evidence sequence is older than the recorded watermark" } true
  require (evidence.topologyGeneration = state.topologyGeneration)
    (stale .evidenceTopologyMismatch subject
      "evidence was observed under a different topology generation"
      state.topologyGeneration.value)
  require (evidence.policyGeneration ≤ state.policyGeneration)
    { code := .futureGeneration, subject
      detail := "evidence cites a policy generation newer than the current one"
      value := evidence.policyGeneration.value }
  require (∀ slot ∈ state.capabilities.find? target,
      evidence.capabilityGeneration ≤ slot.evidence.generation)
    { code := .futureGeneration, subject := target.bytes
      detail := "evidence cites a capability generation newer than the recorded one"
      value := evidence.capabilityGeneration.value }
  require (¬(evidence.target.incarnation.host.isInitial ||
      evidence.target.incarnation.device.isInitial))
    { code := .impossibleValue, subject := target.bytes
      detail := "evidence names an incarnation of zero" }
  require (∀ active ∈ runtime.active, evidence.target = active)
    { code := .evidenceTargetMismatch, subject := target.bytes
      detail := "evidence does not name the current active placement" }
  require (digestMatches evidence.contentDigest fingerprint)
    { code := .malformed, subject
      detail := "evidence content digest does not match the asserted content" }
  checkEvidenceId state evidence fingerprint

/-- Drop the oldest evidence until there is room for one more record. -/
def evictFailuresFrom (ceiling : Nat) : List EvidenceId → State → State
  | [], state => { state with failureOrder := [] }
  | oldest :: order, state =>
    if ceiling ≤ state.failures.size then
      let state :=
        if state.failures.contains oldest then
          { state with failures := state.failures.erase oldest }.bump .evidenceEvicted
        else state
      evictFailuresFrom ceiling order
        { state with
          latestFailure := state.latestFailure.mapValues fun id => if id = oldest then {} else id }
    else { state with failureOrder := oldest :: order }

def evictFailures (config : FabricConfig) (state : State) : State :=
  evictFailuresFrom config.maxEvidenceRecords state.failureOrder state

/-- Retain accepted evidence as the latest of its service. -/
def retainFailure (config : FabricConfig) (evidence : FailureEvidence) (stamp : LogicalTick)
    (state : State) : State :=
  let nextEvidenceId :=
    if evidence.id = ⟨state.nextEvidenceId⟩ then state.nextEvidenceId + 1
    else state.nextEvidenceId
  let state := evictFailures config { state with tick := stamp, nextEvidenceId }
  { state with
    failures := state.failures.insert evidence.id evidence
    failureOrder := state.failureOrder ++ [evidence.id]
    latestFailure := state.latestFailure.insert evidence.service evidence.id
    watermarks := state.watermarks.insert evidence.provenance.source
      (Change.watermarkOf evidence.provenance evidence.contentDigest) }.bump .failuresIngested

def checkIngestFailure (fabric : Fabric) (evidence : FailureEvidence) : Check Proposal := do
  let subject := evidence.service.bytes
  fabric.checkFailureEvidence evidence
  let stamp ← demand fabric.state.tick.successor (tickExhausted subject)
  let id ← assignEvidenceId fabric.state evidence
  let record : FailureEvidence :=
    { evidence with
      id, contentDigest := failureFingerprint evidence
      provenance := { evidence.provenance with tick := stamp } }
  if evidence.ambiguity = .unambiguous then
    return {
      change := .failureIngested record
      update := retainFailure fabric.config record stamp
      code := .acceptFailureRecorded, subject, detail := "failure evidence accepted"
      value := id.value }
  else
    return {
      change := .failureIngested record
      update := fun state =>
        ((retainFailure fabric.config record stamp state).modifyService evidence.service
          fun runtime => { runtime.suspend id with lastChange := stamp }).bump .ambiguityPending
      -- The observation is accepted; the ambiguity is what blocks a recovery later.
      notes := [{ code := .ambiguityRequiresOperator, subject
                  detail :=
                    "ambiguous failure evidence recorded; recovery is blocked until resolved"
                  value := id.value }]
      code := .acceptFailureRecorded, subject, detail := "ambiguous failure evidence accepted"
      value := id.value }

def ingestFailure (fabric : Fabric) (evidence : FailureEvidence) :
    (Reason × Explanation) × Fabric :=
  fabric.ingest evidence.service evidence.service.bytes (fabric.checkIngestFailure evidence)

/-! ### Dependencies -/

def checkIngestDependency (fabric : Fabric) (observation : DependencyObservation) :
    Check Proposal := do
  let state := fabric.state
  let subject := observation.service.bytes
  require fabric.opened (notOpen subject)
  require (state.roleSatisfies observation.provenance.source .dependencyReporter)
    (unauthorized .evidenceReporterUnauthorized observation.provenance.source
      "source is not an enrolled dependency reporter")
  let _ ← demand (state.services.find? observation.service)
    { code := .unknownService, subject, detail := "service is not registered" }
  let _ ← demand (state.services.find? observation.dependency)
    { code := .unknownService, subject := observation.dependency.bytes
      detail := "dependency service is not registered" }
  require (observation.service ≠ observation.dependency)
    { code := .dependencySelfReference, subject, detail := "a service cannot depend on itself" }
  require (¬observation.provenance.sequence.isInitial)
    { code := .evidenceIncomplete, subject := observation.provenance.source.bytes
      detail := "observation sequence zero never names a delivered observation" }
  checkAuthority state observation.provenance "observation" false
  let fingerprint := dependencyFingerprint observation
  checkWatermark state observation.provenance fingerprint
    { applied := "observation sequence already applied"
      conflict := "observation sequence reused with different content"
      replayed := "observation sequence is older than the recorded watermark" } false
  require (observation.topologyGeneration = state.topologyGeneration)
    (stale .evidenceTopologyMismatch subject
      "observation was made under a different topology generation")
  require (digestMatches observation.contentDigest fingerprint)
    { code := .malformed, subject
      detail := "observation content digest does not match the asserted content" }
  let stamp ← demand state.tick.successor (tickExhausted subject)
  let record : DependencyObservation :=
    { observation with
      contentDigest := fingerprint
      provenance := { observation.provenance with tick := stamp } }
  return {
    change := .dependencyIngested record
    update := fun state =>
      let bucket := Change.dependencyBucket state observation.service
      -- A bucket that is full is counted, but grows all the same.
      let state :=
        if fabric.config.maxDependenciesPerService ≤ bucket.size ∧
            bucket.find? observation.dependency = none then
          state.bump .dependencyDepthTruncated
        else state
      { state with
        tick := stamp
        dependencies := state.dependencies.insert observation.service
          (bucket.insert observation.dependency
            { observation := record, requiresReconfirmation := false })
        watermarks := state.watermarks.insert record.provenance.source
          (Change.watermarkOf record.provenance record.contentDigest) }.bump
        .dependenciesIngested
    code := .acceptDependencyRecorded, subject, detail := "dependency observation accepted" }

def ingestDependency (fabric : Fabric) (observation : DependencyObservation) :
    (Reason × Explanation) × Fabric :=
  fabric.ingest observation.service observation.service.bytes
    (fabric.checkIngestDependency observation)

end Fabric

end OffloadFabric
