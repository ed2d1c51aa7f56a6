import OffloadFabric.Effects

/-!
Opening, closing and observing the coordinator: recovery of a snapshot and its
journal, the conservative downgrade at a restart, fence verification, and the
public calls with the runs they make up, crashes included.
-/
namespace OffloadFabric

/-! ### Restart -/

/-- A committed attempt nobody acknowledged has an unknown outcome after a restart. -/
def downgradedRecord (record : AttemptRecord) : AttemptRecord :=
  if record.durableCommitted && !record.acknowledged then
    { record with
      outcome := .outcomeUnknown, restartDowngraded := true
      lastReason := .restartConservativeDowngrade }
  else record

/-- Recovery phases that fall back to a recorded intent. -/
def RecoveryPhase.interrupted : RecoveryPhase → Bool
  | .intentRecorded | .authorized | .activationRequested | .effectReported => true
  | _ => false

/-- No claim survives a restart, and an unfinished recovery waits for an operator. -/
def downgradedRuntime (runtime : ServiceRuntime) : ServiceRuntime :=
  let runtime := { runtime with history := runtime.history.map downgradedRecord }
  let runtime :=
    if runtime.recovery.interrupted then
      { runtime with
        recovery := .intentRecorded, lifecycle := .recoveryPending
        lastReason := .restartConservativeDowngrade }
    else if runtime.recovery = .ambiguityPending then
      { runtime with lifecycle := .recoveryPending, lastReason := .ambiguityUnresolved }
    else runtime
  { runtime.invalidateVerification with effectsSeen := [] }

/-- The attempts of a service that a restart downgrades. -/
def downgradedAttempts (runtime : ServiceRuntime) : Nat :=
  runtime.history.countP fun record => record.durableCommitted && !record.acknowledged

def isDowngraded (runtime : ServiceRuntime) : Bool :=
  0 < downgradedAttempts runtime || runtime.recovery.interrupted ||
    runtime.recovery = .ambiguityPending

/-- The successor of a generation, starting over at one when it is exhausted. -/
def advance {tag : GenTag} (gen : Gen tag) : Gen tag := gen.successor.getD ⟨1⟩

def restartedState (state : State) : State :=
  { state with
    epoch := advance state.epoch
    boot := advance state.boot
    services := state.services.mapValues downgradedRuntime
    capabilities := state.capabilities.mapValues fun slot =>
      { slot with requiresReconfirmation := true }
    dependencies := state.dependencies.mapValues fun bucket =>
      bucket.mapValues fun slot => { slot with requiresReconfirmation := true } }

def restartSummary (report : RecoveryReport) (state : State) : RestartSummary :=
  { store := report
    previousEpoch := state.epoch
    epoch := advance state.epoch
    boot := advance state.boot
    servicesDowngraded := state.services.values.countP isDowngraded
    attemptsMarkedUnknown := (state.services.values.map downgradedAttempts).sum
    capabilityEvidenceInvalidated := state.capabilities.size
    dependencyObservationsInvalidated := (state.dependencies.values.map OrderedMap.size).sum
    failureEvidenceInvalidated := state.failures.size
    conservative := true }

/-! ### Recovery from the store -/

/-- The state of a runtime that has nothing to recover. -/
def initialState (config : FabricConfig) : State :=
  let policy := if validPolicy config.initialPolicy then config.initialPolicy else {}
  { policy, policyGeneration := policy.generation, epoch := ⟨1⟩, boot := ⟨1⟩ }

/-- Apply records in order, as far as they can be applied. -/
def replay (config : FabricConfig) : State → List Record → State × Bool
  | state, [] => (state, true)
  | state, record :: rest =>
    match applyRecord config state record with
    | none => (state, false)
    | some next => replay config next rest

/-- The state a snapshot holds; an empty payload is no snapshot at all. -/
def loadBase (config : FabricConfig) (snapshot : Bytes) : Except Reason State :=
  if snapshot.isEmpty then .ok (initialState config)
  else
    match decodeFrom (decodeState config) snapshot with
    | .error reason => .error (if reason = .ok then .storeCorrupt else reason)
    | .ok (state, reader) => if reader.atEnd then .ok state else .error .storeCorrupt

namespace Fabric

/-- The options a coordinator opens its store with. -/
def storeOptions (config : FabricConfig) : StoreOptions :=
  { maxJournalBytes := config.maxJournalBytes, retainedGenerations := 4
    maxRecordPayloadBytes := 1048576 }

/-- Take over what the store holds. A refusal leaves what was replayed so far. -/
def recover (fabric : Fabric) (found : Store.Opened) : Reason × Fabric :=
  let recovered := !found.snapshot.isEmpty || !found.records.isEmpty
  match loadBase fabric.config found.snapshot with
  | .error code => (code, fabric)
  | .ok base =>
    let (state, complete) := replay fabric.config base found.records
    let fabric := { fabric with state }
    if !complete then (.storeCorrupt, fabric)
    else if !validPolicy state.policy then (.storeSemanticsIncompatible, fabric)
    else if !recovered then (.ok, { fabric with opened := true })
    else
      let fabric :=
        { fabric with
          state := restartedState state, restart := restartSummary fabric.restart.store state }
      match fabric.transact (.epochAdvanced fabric.state.epoch fabric.state.boot) id with
      | (.refused code, fabric) => (code, fabric)
      | (.uncompacted code, fabric) => (code, fabric)
      | (.done, fabric) => (.ok, { fabric with opened := true })

/-- The process as an open starts it over. Only the cancellation registry survives. -/
def cleared (fabric : Fabric) : Fabric :=
  { fabric with
    state := initialState fabric.config, explanations := fabric.explanations.clear
    intents := { fabric.intents with closed := false }, restart := {} }

/-- The process with the store it opened. -/
def attach (fabric : Fabric) (found : Store.Opened) : Fabric :=
  { fabric.perform found.store found.ops with restart := { store := found.report } }

def «open» (fabric : Fabric) : Reason × Fabric :=
  if fabric.opened then (.invalidState, fabric)
  else if !fabric.config.storeDirectory then (.ok, { fabric.cleared with opened := true })
  else
    match Store.open (storeOptions fabric.config) fabric.disk with
    | .error report =>
      (if report.reason = .ok then .storeUnavailable else report.reason,
       { fabric.cleared with restart := { store := report } })
    | .ok found => (fabric.cleared.attach found).recover found

def close (fabric : Fabric) : Reason × Fabric :=
  if !fabric.opened then (.invalidState, fabric)
  else
    (.ok, { fabric with
      opened := false, intents := { fabric.intents with closed := true }, store := none })

/-! ### Fence verification -/

structure FenceCheck where
  service : ServiceName
  holder : TargetRef
  presented : FenceToken
  deriving DecidableEq

structure FenceVerdict where
  authorized : Bool := false
  code : Reason := .staleGeneration
  current : FenceToken := {}
  currentHolder : TargetRef := {}
  fencedIncarnation : TargetIncarnation := {}
  hadWitness : Bool := false
  deriving DecidableEq

def verifyFence (fabric : Fabric) (check : FenceCheck) : FenceVerdict :=
  let state := fabric.state
  let verdict : FenceVerdict :=
    match state.fences.find? check.service with
    | some fence => { current := fence.token, currentHolder := fence.holder }
    | none => {}
  let verdict : FenceVerdict :=
    match state.witnessOf check.service check.holder.target with
    | some witness => { verdict with hadWitness := true, fencedIncarnation := witness.incarnation }
    | none => verdict
  match state.fences.find? check.service with
  | none => { verdict with code := .noAuthority }
  | some fence =>
    if check.presented < fence.token then { verdict with code := .fenceStale }
    else if fence.token < check.presented then { verdict with code := .fenceRegression }
    else if check.holder ≠ fence.holder then { verdict with code := .fenceHeldByOther }
    else if verdict.hadWitness && check.holder.incarnation ≤ verdict.fencedIncarnation then
      { verdict with code := .fallbackFenced }
    else { verdict with authorized := true, code := .acceptFenceAdvanced }

/-! ### Cancellation and intents -/

def cancel (fabric : Fabric) (key : RequestKey) : (Reason × Explanation) × Fabric :=
  let explanation := fabric.beginExplanation .nil key
  let (code, cancels) := fabric.cancels.cancel key
  let fabric := { fabric with cancels }
  let (fabric, detail) :=
    if code = .cancelled then
      (fabric.bump .requestsCancelled, "cancellation recorded before commit")
    else if code = .cancelTooLate then
      (fabric.bump .cancelsTooLate, "the request already committed durably")
    else (fabric, "no such request is in flight")
  let explanation :=
    { explanation.note code [] detail key.value with outcome := code, accepted := false }
  ((code, explanation), fabric.recordExplanation explanation)

/-- Take the oldest intent and count it. -/
def takeIntent (fabric : Fabric) : Option FailoverIntent × Fabric :=
  match fabric.intents.tryPop with
  | none => (none, fabric)
  | some (intent, intents) => (some intent, { fabric with intents }.bump .intentsConsumed)

/-- The blocking variant once it returns; it does not count. -/
def waitForIntent (fabric : Fabric) : Option FailoverIntent × Fabric :=
  match fabric.intents.tryPop with
  | none => (none, fabric)
  | some (intent, intents) => (some intent, { fabric with intents })

/-! ### The public calls -/

inductive Op where
  | openFabric | closeFabric
  | enrollSource (source : SourceName) (role : SourceRole)
  | registerService (descriptor : ServiceDescriptor) (registrar : SourceName)
  | registerTarget (target : TargetRecord) (registrar : SourceName)
  | setTopologyGeneration (generation : TopologyGeneration) (reporter : SourceName)
  | setPolicy (policy : PolicyDescriptor)
  | withdrawService (service : ServiceName) (requester : SourceName)
  | retireTarget (target : TargetName) (requester : SourceName)
  | ingestCapability (evidence : CapabilityEvidence)
  | ingestFailure (evidence : FailureEvidence)
  | ingestDependency (observation : DependencyObservation)
  | establishPlacement (request : PlacementRequest)
  | requestFailover (request : FailoverRequest)
  | resumeRecovery (request : FailoverRequest)
  | resolveAmbiguity (resolution : AmbiguityResolution)
  | requestFailback (request : FailbackRequest)
  | acknowledgeIntent (ack : IntentAck)
  | reportEffect (report : EffectReport)
  | cancel (key : RequestKey)
  | takeIntent
  | waitForIntent

inductive Reply where
  | code (code : Reason)
  | explained (code : Reason) (explanation : Explanation)
  | decided (decision : RecoveryDecision)
  | intent (intent : Option FailoverIntent)

def replyCode (result : Reason × Fabric) : Reply × Fabric := (.code result.1, result.2)

def replyExplained (result : (Reason × Explanation) × Fabric) : Reply × Fabric :=
  (.explained result.1.1 result.1.2, result.2)

def replyDecided (result : RecoveryDecision × Fabric) : Reply × Fabric :=
  (.decided result.1, result.2)

def replyIntent (result : Option FailoverIntent × Fabric) : Reply × Fabric :=
  (.intent result.1, result.2)

def dispatch (fabric : Fabric) : Op → Reply × Fabric
  | .openFabric => replyCode fabric.open
  | .closeFabric => replyCode fabric.close
  | .enrollSource source role => replyExplained (fabric.enrollSource source role)
  | .registerService descriptor registrar =>
    replyExplained (fabric.registerService descriptor registrar)
  | .registerTarget target registrar => replyExplained (fabric.registerTarget target registrar)
  | .setTopologyGeneration generation reporter =>
    replyExplained (fabric.setTopologyGeneration generation reporter)
  | .setPolicy policy => replyExplained (fabric.setPolicy policy)
  | .withdrawService service requester =>
    replyExplained (fabric.withdrawService service requester)
  | .retireTarget target requester => replyExplained (fabric.retireTarget target requester)
  | .ingestCapability evidence => replyExplained (fabric.ingestCapability evidence)
  | .ingestFailure evidence => replyExplained (fabric.ingestFailure evidence)
  | .ingestDependency observation => replyExplained (fabric.ingestDependency observation)
  | .establishPlacement request =>
    replyDecided (fabric.keyed request.service request.key (·.doEstablishPlacement request))
  | .requestFailover request =>
    replyDecided (fabric.keyed request.service request.key (·.doRequestFailover request false))
  | .resumeRecovery request =>
    replyDecided (fabric.keyed request.service request.key (·.doRequestFailover request true))
  | .resolveAmbiguity resolution =>
    replyDecided (fabric.keyed resolution.service resolution.key (·.doResolveAmbiguity resolution))
  | .requestFailback request =>
    replyDecided (fabric.keyed request.service request.key (·.doRequestFailback request))
  | .acknowledgeIntent ack => replyDecided (fabric.doAcknowledgeIntent ack)
  | .reportEffect report => replyDecided (fabric.doReportEffect report)
  | .cancel key => replyExplained (fabric.cancel key)
  | .takeIntent => replyIntent fabric.takeIntent
  | .waitForIntent => replyIntent fabric.waitForIntent

/-- The runtime as a call finds it: the log of file operations starts afresh. -/
def entered (fabric : Fabric) : Fabric := { fabric with log := [] }

/-- One public call. -/
def call (fabric : Fabric) (op : Op) : Reply × Fabric := fabric.entered.dispatch op

/-! ### Runs -/

inductive Event where
  | call (op : Op) (reply : Reply)
  /-- The process died during a call. -/
  | crash (op : Op)

/-- A call that returns, or one during which the process dies: a new process then
finds the directory as the crash left it. -/
inductive Step : Fabric → Event → Fabric → Prop where
  | call (fabric : Fabric) (op : Op) :
      Step fabric (.call op (fabric.call op).1) (fabric.call op).2
  | crash (fabric : Fabric) (op : Op) (disk : Directory) :
      fabric.disk.CrashImage (fabric.call op).2.log disk →
      Step fabric (.crash op) (create fabric.config disk)

/-- An event with the runtime it met. -/
structure Moment where
  before : Fabric
  event : Event

/-- The runs of a configured coordinator on a fresh directory; the latest moment is last. -/
inductive Run (config : FabricConfig) : List Moment → Fabric → Prop where
  | start : Run config [] (create config {})
  | step {moments : List Moment} {fabric fabric' : Fabric} {event : Event} :
      Run config moments fabric → Step fabric event fabric' →
      Run config (moments ++ [{ before := fabric, event }]) fabric'

/-- The states a coordinator can be in. -/
def Reachable (config : FabricConfig) (fabric : Fabric) : Prop :=
  ∃ moments, Run config moments fabric

end Fabric

end OffloadFabric
