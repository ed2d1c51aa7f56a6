import OffloadFabric.Fabric

/-!
Enrolment and topology: sources, services, targets, the topology generation and
the policy. Every operation is a check that ends in a proposal, and the common
ingestion of that proposal.
-/
namespace OffloadFabric

/-- The refusal of an operation on a runtime that is not open. -/
def notOpen (subject : Bytes) : Refusal :=
  { code := .shuttingDown, subject, detail := "runtime is not open" }

/-- The refusal of a source that was not enrolled for what it asks. -/
def unauthorized (code : Reason) (source : SourceName) (detail : String) : Refusal :=
  { code, subject := source.bytes, detail, counters := [.evidenceRejectedUnauthorized] }

def tickExhausted (subject : Bytes) : Refusal :=
  { code := .generationExhausted, subject, detail := "logical tick exhausted" }

def validPolicy (policy : PolicyDescriptor) : Bool :=
  !(policy.maxAttemptsPerGeneration = 0 || policy.maxPlanSteps = 0 ||
    policy.maxFallbackCandidates = 0 || policy.dependencyMaxDepth = 0 ||
    policy.evidenceMaxAgeTicks = 0)

/-- The dependencies of a descriptor, checked in order against those seen before. -/
def validateDependencies (name : ServiceName) :
    List ServiceName → List DependencySpec → Reason
  | _, [] => .ok
  | seen, spec :: rest =>
    if spec.service.isEmpty then .malformed
    else if spec.service = name then .dependencySelfReference
    else if spec.service ∈ seen then .duplicateIdentity
    else validateDependencies name (spec.service :: seen) rest

def validateDescriptor (config : FabricConfig) (descriptor : ServiceDescriptor) : Reason :=
  if descriptor.name.isEmpty || descriptor.scope.isEmpty then .malformed
  else if config.maxDependenciesPerService < descriptor.dependencies.length then
    .dependencyCapacityExceeded
  else validateDependencies descriptor.name [] descriptor.dependencies

/-- A withdrawn service makes no claim and waits for nothing. -/
def ServiceRuntime.withdraw (runtime : ServiceRuntime) (stamp : LogicalTick) : ServiceRuntime :=
  { runtime with
    lifecycle := .withdrawn, recovery := .none, continuity := .none, lastChange := stamp
    lastReason := .transitionRefused }

namespace Fabric

def checkEnrollSource (fabric : Fabric) (source : SourceName) (role : SourceRole) :
    Check Proposal := do
  require fabric.opened (notOpen source.bytes)
  require (¬source.isEmpty) { code := .malformed, detail := "source name is empty" }
  require (fabric.state.sources.find? source ≠ some role)
    { code := .acceptDuplicateIdempotent, subject := source.bytes
      detail := "source already enrolled with this role" }
  require (fabric.state.sources.find? source = none)
    { code := .duplicateIdentity, subject := source.bytes
      detail := "source already enrolled with a different role" }
  require (fabric.state.sources.size < fabric.config.maxSources)
    { code := .registryCapacityExceeded, subject := source.bytes
      detail := "source registry is full" }
  let stamp ← demand fabric.state.tick.successor (tickExhausted source.bytes)
  return {
    change := .sourceRegistered source role
    update := fun state =>
      { state with tick := stamp, sources := state.sources.insert source role }.bump
        .sourcesEnrolled
    code := .acceptSourceEnrolled, subject := source.bytes, detail := "source enrolled" }

def enrollSource (fabric : Fabric) (source : SourceName) (role : SourceRole) :
    (Reason × Explanation) × Fabric :=
  fabric.ingest .nil source.bytes (fabric.checkEnrollSource source role)

def checkRegisterService (fabric : Fabric) (descriptor : ServiceDescriptor)
    (registrar : SourceName) : Check Proposal := do
  let subject := descriptor.name.bytes
  require fabric.opened (notOpen subject)
  require (fabric.state.roleSatisfies registrar .topologyReporter)
    (unauthorized .evidenceReporterUnauthorized registrar
      "registrar is not an enrolled topology reporter")
  require (validateDescriptor fabric.config descriptor = .ok)
    { code := validateDescriptor fabric.config descriptor, subject
      detail := "service descriptor is not usable" }
  let existing := fabric.state.services.find? descriptor.name
  require (existing.map ServiceRuntime.descriptor ≠ some descriptor)
    { code := .acceptDuplicateIdempotent, subject
      detail := "service already registered with an identical descriptor" }
  require (existing = none)
    { code := .duplicateService, subject
      detail := "service already registered with a different descriptor" }
  require (fabric.state.services.size < fabric.config.maxServices)
    { code := .registryCapacityExceeded, subject, detail := "service registry is full" }
  let stamp ← demand fabric.state.tick.successor (tickExhausted subject)
  require (Change.serviceRegistered descriptor).writable
    { code := .oversized, subject
      detail := "descriptor encoding exceeded the configured ceiling" }
  return {
    change := .serviceRegistered descriptor
    update := fun state =>
      { state with
        tick := stamp
        services := state.services.insert descriptor.name
          { descriptor, lifecycle := .registered, lastChange := stamp, lastReason := .ok } }.bump
        .servicesRegistered
    code := .acceptServiceRegistered, subject, detail := "service registered" }

def registerService (fabric : Fabric) (descriptor : ServiceDescriptor) (registrar : SourceName) :
    (Reason × Explanation) × Fabric :=
  fabric.ingest descriptor.name descriptor.name.bytes
    (fabric.checkRegisterService descriptor registrar)

/-- A target may only be adopted again at a newer incarnation. -/
def checkAdoption (fabric : Fabric) (target : TargetRecord) : Check Unit :=
  let subject := target.name.bytes
  match fabric.state.targets.find? target.name with
  | some existing => do
    require (¬target.incarnation < existing.incarnation)
      { code := .incarnationRegression, subject
        detail := "incarnation may not move backwards"
        value := existing.incarnation.host.value }
    require (existing ≠ target)
      { code := .acceptDuplicateIdempotent, subject
        detail := "target already registered at this incarnation" }
    require (target.incarnation ≠ existing.incarnation)
      { code := .duplicateTarget, subject
        detail := "target redefined at the same incarnation" }
  | none =>
    require (fabric.state.targets.size < fabric.config.maxTargets)
      { code := .registryCapacityExceeded, subject, detail := "target registry is full" }

def checkRegisterTarget (fabric : Fabric) (target : TargetRecord) (registrar : SourceName) :
    Check Proposal := do
  let subject := target.name.bytes
  require fabric.opened (notOpen subject)
  require (fabric.state.roleSatisfies registrar .topologyReporter)
    (unauthorized .evidenceReporterUnauthorized registrar
      "registrar is not an enrolled topology reporter")
  require (¬(target.name.isEmpty || target.host.isEmpty || target.device.isEmpty ||
      target.scope.isEmpty))
    { code := .malformed, subject, detail := "target identity is incomplete" }
  require (¬(target.incarnation.host.isInitial || target.incarnation.device.isInitial))
    { code := .impossibleValue, subject
      detail := "incarnation zero never names an adopted target" }
  fabric.checkAdoption target
  let stamp ← demand fabric.state.tick.successor (tickExhausted subject)
  -- The caller's topology generation is replaced, never trusted.
  let stamped := { target with topologyGeneration := fabric.state.topologyGeneration }
  return {
    change := .targetUpserted stamped
    update := fun state =>
      { state with tick := stamp, targets := state.targets.insert target.name stamped }.bump
        .targetsRegistered
    code := .acceptTargetRegistered, subject
    detail :=
      if fabric.state.targets.contains target.name then
        "target re-adopted at a newer incarnation"
      else "target registered" }

def registerTarget (fabric : Fabric) (target : TargetRecord) (registrar : SourceName) :
    (Reason × Explanation) × Fabric :=
  fabric.ingest .nil target.name.bytes (fabric.checkRegisterTarget target registrar)

def checkSetTopologyGeneration (fabric : Fabric) (generation : TopologyGeneration)
    (reporter : SourceName) : Check Proposal := do
  let subject := reporter.bytes
  require fabric.opened (notOpen [])
  require (fabric.state.roleSatisfies reporter .topologyReporter)
    (unauthorized .evidenceReporterUnauthorized reporter
      "reporter is not an enrolled topology reporter")
  require (¬generation < fabric.state.topologyGeneration)
    { code := .staleGeneration, subject
      detail := "topology generation may not move backwards"
      value := fabric.state.topologyGeneration.value }
  require (generation ≠ fabric.state.topologyGeneration)
    { code := .acceptDuplicateIdempotent, subject
      detail := "topology generation already current" }
  let stamp ← demand fabric.state.tick.successor (tickExhausted subject)
  return {
    change := .topologyGenerationSet generation
    update := fun state => { state with tick := stamp, topologyGeneration := generation }
    code := .acceptTopologyGenerationAdvanced, subject
    detail := "topology generation advanced; capability evidence must be re-confirmed"
    value := generation.value }

def setTopologyGeneration (fabric : Fabric) (generation : TopologyGeneration)
    (reporter : SourceName) : (Reason × Explanation) × Fabric :=
  fabric.ingest .nil reporter.bytes (fabric.checkSetTopologyGeneration generation reporter)

/-- Setting a policy needs no enrolled source. -/
def checkSetPolicy (fabric : Fabric) (policy : PolicyDescriptor) : Check Proposal := do
  let subject := policy.scope.bytes
  require fabric.opened (notOpen [])
  require (validPolicy policy)
    { code := .impossibleValue, subject
      detail := "policy contains a zero budget that would forbid all progress" }
  require (¬policy.generation < fabric.state.policyGeneration)
    { code := .staleGeneration, subject, detail := "policy generation may not move backwards"
      value := fabric.state.policyGeneration.value }
  require (¬(policy.generation = fabric.state.policyGeneration ∧ policy = fabric.state.policy))
    { code := .acceptDuplicateIdempotent, subject, detail := "policy already current" }
  require (policy.generation ≠ fabric.state.policyGeneration)
    { code := .generationConflict, subject, detail := "policy redefined at the same generation" }
  let stamp ← demand fabric.state.tick.successor (tickExhausted subject)
  return {
    change := .policySet policy
    update := fun state =>
      { state with tick := stamp, policy, policyGeneration := policy.generation }
    code := .acceptPolicyGenerationAdvanced, subject, detail := "policy generation advanced"
    value := policy.generation.value }

def setPolicy (fabric : Fabric) (policy : PolicyDescriptor) : (Reason × Explanation) × Fabric :=
  fabric.ingest .nil policy.scope.bytes (fabric.checkSetPolicy policy)

def checkWithdrawService (fabric : Fabric) (service : ServiceName) (requester : SourceName) :
    Check Proposal := do
  let subject := service.bytes
  require fabric.opened (notOpen subject)
  require (fabric.state.roleSatisfies requester .operator)
    (unauthorized .noAuthority requester "withdrawal requires an enrolled operator")
  let runtime ← demand (fabric.state.services.find? service)
    { code := .unknownService, subject, detail := "service is not registered" }
  require (runtime.lifecycle ≠ .withdrawn)
    { code := .acceptDuplicateIdempotent, subject, detail := "service already withdrawn" }
  let stamp ← demand fabric.state.tick.successor (tickExhausted subject)
  return {
    change := .serviceWithdrawn service
    update := fun state =>
      ({ state with tick := stamp }.modifyService service
        fun runtime => runtime.withdraw stamp).bump .withdrawnServices
    code := .acceptServiceWithdrawn, subject, detail := "service withdrawn" }

def withdrawService (fabric : Fabric) (service : ServiceName) (requester : SourceName) :
    (Reason × Explanation) × Fabric :=
  fabric.ingest service service.bytes (fabric.checkWithdrawService service requester)

def checkRetireTarget (fabric : Fabric) (target : TargetName) (requester : SourceName) :
    Check Proposal := do
  let subject := target.bytes
  require fabric.opened (notOpen subject)
  require (fabric.state.roleSatisfies requester .topologyReporter)
    (unauthorized .evidenceReporterUnauthorized requester
      "retiring a target requires an enrolled topology reporter")
  let _ ← demand (fabric.state.targets.find? target)
    { code := .unknownTarget, subject, detail := "target is not registered" }
  let stamp ← demand fabric.state.tick.successor (tickExhausted subject)
  return {
    change := .targetRetired target
    update := fun state =>
      { state with
        tick := stamp, targets := state.targets.erase target
        capabilities := state.capabilities.erase target }
    code := .acceptTargetRetired, subject
    detail := "target removed from the governed topology; any placement on it is unchanged" }

def retireTarget (fabric : Fabric) (target : TargetName) (requester : SourceName) :
    (Reason × Explanation) × Fabric :=
  fabric.ingest .nil target.bytes (fabric.checkRetireTarget target requester)

end Fabric

end OffloadFabric
