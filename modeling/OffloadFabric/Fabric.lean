import OffloadFabric.Changes
import OffloadFabric.Explain

/-!
The runtime of the coordinator and what its operations share: the allocators and
lookups, the durable commit with its rotation, explanations and refusals, the
cancellation registry, the intent queue and the request cache.
-/
namespace OffloadFabric

open Codec

/-! ### Cancellation registry -/

inductive CancelPhase where
  | active | cancelled | committed
  deriving DecidableEq, Inhabited, Repr

structure CancelRegistry where
  requests : OrderedMap RequestKey CancelPhase := .empty
  order : List RequestKey := []
  capacity : Nat := 1
  deriving DecidableEq, Inhabited

namespace CancelRegistry

/-- Evict settled entries in arrival order; active ones only lose their place. -/
def trimFrom (capacity : Nat) :
    List RequestKey → OrderedMap RequestKey CancelPhase →
      OrderedMap RequestKey CancelPhase × List RequestKey
  | [], requests => (requests, [])
  | oldest :: order, requests =>
    if capacity ≤ requests.size then
      match requests.find? oldest with
      | some .active => trimFrom capacity order requests
      | some _ => trimFrom capacity order (requests.erase oldest)
      | none => trimFrom capacity order requests
    else (requests, oldest :: order)

def trim (registry : CancelRegistry) : CancelRegistry :=
  let (requests, order) := trimFrom registry.capacity registry.order registry.requests
  { registry with requests, order }

/-- Register a key. A nil key opts out of cancellation and never blocks progress. -/
def begin (registry : CancelRegistry) (key : RequestKey) (capacity : Nat) :
    Reason × CancelRegistry :=
  if key.isNil then (.ok, registry)
  else
    let registry := { registry with capacity := if capacity = 0 then 1 else capacity }
    if registry.requests.contains key then (.protocolViolation, registry)
    else
      let registry :=
        if registry.capacity ≤ registry.requests.size then registry.trim else registry
      if registry.capacity ≤ registry.requests.size then (.queueCapacityExceeded, registry)
      else
        (.ok, { registry with
          requests := registry.requests.insert key .active, order := registry.order ++ [key] })

/-- Drop an entry that never reached a commit. -/
def releaseIfActive (registry : CancelRegistry) (key : RequestKey) : CancelRegistry :=
  if registry.requests.find? key = some .active then
    { registry with
      requests := registry.requests.erase key, order := registry.order.filter (· ≠ key) }
  else registry

def markCommitted (registry : CancelRegistry) (key : RequestKey) : CancelRegistry :=
  if registry.requests.contains key then
    { registry with requests := registry.requests.insert key .committed }
  else registry

/-- Record a cancellation, unless the request is unknown or has committed. -/
def cancel (registry : CancelRegistry) (key : RequestKey) : Reason × CancelRegistry :=
  match registry.requests.find? key with
  | none => (.requestUnknown, registry)
  | some .committed => (.cancelTooLate, registry)
  | some _ =>
    (.cancelled, { registry with requests := registry.requests.insert key .cancelled })

end CancelRegistry

/-! ### Intent queue -/

structure IntentQueue where
  capacity : Nat := 1
  queue : List FailoverIntent := []
  closed : Bool := false
  deriving DecidableEq, Inhabited

namespace IntentQueue

def ofCapacity (capacity : Nat) : IntentQueue :=
  { capacity := if capacity = 0 then 1 else capacity }

/-- Whether a push would be taken. -/
def accepts (intents : IntentQueue) : Bool :=
  !intents.closed && decide (intents.queue.length < intents.capacity)

def push (intents : IntentQueue) (intent : FailoverIntent) : IntentQueue :=
  if intents.accepts then { intents with queue := intents.queue ++ [intent] } else intents

def tryPop (intents : IntentQueue) : Option (FailoverIntent × IntentQueue) :=
  match intents.queue with
  | [] => none
  | intent :: rest => some (intent, { intents with queue := rest })

end IntentQueue

/-! ### The runtime -/

structure RestartSummary where
  store : RecoveryReport := {}
  previousEpoch : CoordinatorEpoch := {}
  epoch : CoordinatorEpoch := {}
  boot : BootId := {}
  servicesDowngraded : Nat := 0
  attemptsMarkedUnknown : Nat := 0
  capabilityEvidenceInvalidated : Nat := 0
  dependencyObservationsInvalidated : Nat := 0
  failureEvidenceInvalidated : Nat := 0
  conservative : Bool := true
  deriving DecidableEq, Inhabited

/-- The coordinator process together with the directory of its store. -/
structure Fabric where
  config : FabricConfig
  state : State := {}
  explanations : ExplanationLog := {}
  intents : IntentQueue := {}
  cancels : CancelRegistry := {}
  restart : RestartSummary := {}
  store : Option Store := none
  opened : Bool := false
  disk : Directory := {}
  /-- File operations of the running call, oldest first; a crash cuts them short. -/
  log : List DiskOp := []

/-! ### Refusals -/

/-- Drop every claim that rests on a verified effect. -/
def ServiceRuntime.invalidateVerification (runtime : ServiceRuntime) : ServiceRuntime :=
  { runtime with
    activationAccepted := false, effectVerified := false, stateTransferVerified := false
    continuity := .unknown }

/-- Ambiguous evidence suspends a service until an operator resolves it. -/
def ServiceRuntime.suspend (runtime : ServiceRuntime) (evidence : EvidenceId) : ServiceRuntime :=
  { runtime.invalidateVerification with
    ambiguityPending := true, pendingAmbiguity := evidence, recovery := .ambiguityPending
    lifecycle := .recoveryPending, lastReason := .ambiguityUnresolved }

/-- What a request leaves in the runtime of its service, in memory only. -/
inductive Remark where
  | nothing
  | reason (code : Reason)
  | suspension (evidence : EvidenceId)
  /-- The failover that a failback has undone. -/
  | returned

def Remark.apply (remark : Remark) (runtime : ServiceRuntime) : ServiceRuntime :=
  match remark with
  | .nothing => runtime
  | .reason code => { runtime with lastReason := code }
  | .suspension evidence => runtime.suspend evidence
  | .returned => { runtime with preFailoverTarget := none, failoverRecorded := false }

/-- Why a request is refused, and what the refusal leaves behind. -/
structure Refusal where
  code : Reason
  subject : Bytes := []
  detail : String := ""
  value : UInt64 := 0
  /-- Counters bumped on the way. -/
  counters : List StatField := []
  /-- Steps noted before the refusal. -/
  notes : List ExplanationStep := []
  remark : Remark := .nothing

/-- A check that ends in a value or a refusal. -/
abbrev Check (α : Type) := Except Refusal α

/-- Go on only if `cond` holds. -/
def require (cond : Prop) [Decidable cond] (refusal : Refusal) : Check Unit :=
  if cond then .ok () else .error refusal

/-- Go on with the value of an option. -/
def demand {α : Type} (value : Option α) (refusal : Refusal) : Check α :=
  match value with
  | some value => .ok value
  | none => .error refusal

section Check

variable {α β : Type}

@[simp] theorem require_bind_ok {cond : Prop} [Decidable cond] {refusal : Refusal}
    {f : Unit → Check α} {a : α} :
    (require cond refusal >>= f) = .ok a ↔ cond ∧ f () = .ok a := by
  by_cases h : cond
  · simp only [require, h, true_and]
    rfl
  · simp only [require, h, false_and, iff_false]
    exact nofun

@[simp] theorem demand_bind_ok {value : Option β} {refusal : Refusal} {f : β → Check α} {a : α} :
    (demand value refusal >>= f) = .ok a ↔ ∃ b, value = some b ∧ f b = .ok a := by
  cases value with
  | none => exact ⟨nofun, nofun⟩
  | some b =>
    constructor
    · exact fun h => ⟨b, rfl, h⟩
    · rintro ⟨_, hb, h⟩
      obtain rfl := Option.some.inj hb
      exact h

theorem check_bind_ok {first : Check β} {f : β → Check α} {a : α} :
    (first >>= f) = .ok a ↔ ∃ b, first = .ok b ∧ f b = .ok a := by
  cases first with
  | error refusal => exact ⟨nofun, nofun⟩
  | ok b =>
    constructor
    · exact fun h => ⟨b, rfl, h⟩
    · rintro ⟨_, hb, h⟩
      obtain rfl := Except.ok.inj hb
      exact h

@[simp] theorem check_pure_ok {a b : α} : (pure a : Check α) = .ok b ↔ a = b :=
  ⟨fun h => Except.ok.inj h, fun h => congrArg Except.ok h⟩

end Check

namespace State

def bump (state : State) (field : StatField) : State :=
  { state with stats := state.stats.bump field }

def bumpAll (state : State) (fields : List StatField) : State := fields.foldl bump state

/-! ### Lookups -/

def roleSatisfies (state : State) (source : SourceName) (required : SourceRole) : Bool :=
  match state.sources.find? source with
  | none => false
  | some role => role = required || role = .operator

def fenceTokenOf (state : State) (service : ServiceName) : FenceToken :=
  match state.fences.find? service with
  | none => {}
  | some fence => fence.token

def witnessOf (state : State) (service : ServiceName) (target : TargetName) :
    Option FenceWitness := state.witnesses.find? { service, target }

/-- The latest failure of a service that is still retained. -/
def latestFailureOf (state : State) (service : ServiceName) : Option FailureEvidence :=
  match state.latestFailure.find? service with
  | none => none
  | some id => if id.isNil then none else state.failures.find? id

/-- Update the runtime of a registered service in place. -/
def modifyService (state : State) (service : ServiceName) (f : ServiceRuntime → ServiceRuntime) :
    State :=
  match state.services.find? service with
  | none => state
  | some runtime => { state with services := state.services.insert service (f runtime) }

end State

/-! ### Fingerprints -/

def capabilityFingerprint (value : CapabilityEvidence) : Digest :=
  (CanonicalWriter.run do
    encodeName value.target
    encodeGen value.generation
    encodeCapabilitySet value.capabilities
    encodeGen value.topologyGeneration
    encodeTargetIncarnation value.incarnation
    encodeName value.source).digest

def failureFingerprint (value : FailureEvidence) : Digest :=
  (CanonicalWriter.run do
    encodeName value.service
    encodeTargetRef value.target
    encodeEnum value.failureClass
    encodeEnum value.ambiguity
    encodeName value.provenance.source
    encodeGen value.provenance.sequence
    encodeGen value.topologyGeneration
    encodeGen value.capabilityGeneration
    encodeGen value.policyGeneration).digest

def dependencyFingerprint (value : DependencyObservation) : Digest :=
  (CanonicalWriter.run do
    encodeName value.service
    encodeName value.dependency
    encodeEnum value.health
    encodeTargetRef value.observedTarget
    encodeName value.provenance.source
    encodeGen value.provenance.sequence
    encodeGen value.topologyGeneration).digest

namespace Fabric

/-- A process that was just constructed, on the directory it finds. -/
def create (config : FabricConfig) (disk : Directory) : Fabric :=
  { config, disk
    explanations := { capacity := config.maxExplanations }
    intents := .ofCapacity config.maxIntentQueue }

/-! ### Persistence -/

/-- Perform the file operations that one store operation returned. -/
def perform (fabric : Fabric) (store : Store) (ops : List DiskOp) : Fabric :=
  { fabric with
    store := some store, disk := fabric.disk.performAll ops, log := fabric.log ++ ops }

def bump (fabric : Fabric) (field : StatField) : Fabric :=
  { fabric with state := fabric.state.bump field }

/-- Commit records; without a store this is vacuous. It never rotates the journal. -/
def persist (fabric : Fabric) (records : List Record) : Reason × Fabric :=
  match fabric.store with
  | none => (.ok, fabric)
  | some store =>
    let (code, store, ops) := store.commitTransaction records
    let fabric := fabric.perform store ops
    if code ≠ .ok then (code, fabric) else (.ok, fabric.bump .journalTransactions)

def maybeCompact (fabric : Fabric) : Reason × Fabric :=
  match fabric.store with
  | none => (.ok, fabric)
  | some store =>
    match CanonicalWriter.run (encodeState fabric.state) with
    | none => (.oversized, fabric)
    | some buffer =>
      let (code, store, ops) := store.compact buffer
      let fabric := fabric.perform store ops
      (code, if code = .ok then fabric.bump .journalCompactions else fabric)

/-- Compact once the journal has grown past its bound. -/
def rotateIfDue (fabric : Fabric) : Reason × Fabric :=
  match fabric.store with
  | none => (.ok, fabric)
  | some store => if store.rotationDue then fabric.maybeCompact else (.ok, fabric)

/-- How far a durable change got. -/
inductive Progress where
  /-- Nothing was committed. -/
  | refused (code : Reason)
  /-- Committed and applied, but the rotation that was due failed. -/
  | uncompacted (code : Reason)
  | done

/-- Commit a change, then apply it to the memory, then rotate a journal that is due. -/
def transact (fabric : Fabric) (change : Change) (update : State → State) : Progress × Fabric :=
  let (code, fabric) := fabric.persist [change.record]
  if code ≠ .ok then (.refused code, fabric)
  else
    let (code, fabric) := { fabric with state := update fabric.state }.rotateIfDue
    if code ≠ .ok then (.uncompacted code, fabric) else (.done, fabric)

/-! ### Explanations -/

def beginExplanation (fabric : Fabric) (service : ServiceName) (key : RequestKey) : Explanation :=
  { service, request := key, tick := fabric.state.tick, epoch := fabric.state.epoch
    policyGeneration := fabric.state.policyGeneration
    topologyGeneration := fabric.state.topologyGeneration
    fence := fabric.state.fenceTokenOf service }

def recordExplanation (fabric : Fabric) (explanation : Explanation) : Fabric :=
  let state := fabric.state.bump .explanationsRecorded
  let explanations := fabric.explanations.record explanation
  { fabric with
    explanations
    state := { state with
      stats := state.stats.set .explanationsEvicted (UInt64.ofNat explanations.evicted) } }

/-- An ingestion is accepted as long as its outcome was left at ok. -/
def finishIngest (fabric : Fabric) (explanation : Explanation) : Explanation × Fabric :=
  let explanation :=
    if explanation.outcome = .ok then { explanation with accepted := true } else explanation
  (explanation, fabric.recordExplanation explanation)

/-! ### Request cache -/

/-- Evict the oldest keys until there is room for one more. -/
def evictRequests (ceiling : Nat) :
    List RequestKey → OrderedMap RequestKey RequestCacheEntry →
      OrderedMap RequestKey RequestCacheEntry × List RequestKey
  | [], cache => (cache, [])
  | oldest :: order, cache =>
    if ceiling ≤ cache.size then evictRequests ceiling order (cache.erase oldest)
    else (cache, oldest :: order)

end Fabric

namespace State

def cached (state : State) (key : RequestKey) : Option RequestCacheEntry :=
  if key.isNil then none else state.requestCache.find? key

def remember (state : State) (config : FabricConfig) (key : RequestKey)
    (entry : RequestCacheEntry) : State :=
  if key.isNil then state
  else if state.requestCache.contains key then
    { state with requestCache := state.requestCache.insert key entry }
  else
    let (cache, order) :=
      Fabric.evictRequests config.maxRequestCache state.requestOrder state.requestCache
    { state with requestCache := cache.insert key entry, requestOrder := order ++ [key] }

end State

namespace Fabric

/-- Conditions of the delivery, not of the decision: a retry of these is legitimate. -/
def transportCodes : List Reason := [.protocolViolation, .queueCapacityExceeded, .requestUnknown]

/-- Refuse a request. A keyed decision is remembered even when it is refused. -/
def refusal (fabric : Fabric) (explanation : Explanation) (code : Reason) (subject : Bytes := [])
    (detail : String := "") (value : UInt64 := 0) : RecoveryDecision × Fabric :=
  let explanation :=
    { explanation with outcome := code, accepted := false }.note code subject detail value
  let fabric :=
    if !explanation.request.isNil && !transportCodes.contains code then
      { fabric with
        state := fabric.state.remember fabric.config explanation.request
          { kind := .failover, outcome := code, accepted := false, recorded := fabric.state.tick
            policyGeneration := fabric.state.policyGeneration
            topologyGeneration := fabric.state.topologyGeneration } }
    else fabric
  ({ outcome := code, accepted := false, explanation }, fabric.recordExplanation explanation)

/-- Refuse a request whose check failed. -/
def refuse (fabric : Fabric) (explanation : Explanation) (service : ServiceName)
    (refused : Refusal) : RecoveryDecision × Fabric :=
  let state := (fabric.state.bumpAll refused.counters).modifyService service refused.remark.apply
  { fabric with state }.refusal (explanation.notes refused.notes) refused.code refused.subject
    refused.detail refused.value

/-- Answer an accepted request. -/
def accept (fabric : Fabric) (decision : RecoveryDecision) : RecoveryDecision × Fabric :=
  (decision, fabric.recordExplanation decision.explanation)

/-- The answer to a key that was already decided. -/
def replayCached (fabric : Fabric) (entry : RequestCacheEntry) (service : ServiceName)
    (key : RequestKey) : RecoveryDecision × Fabric :=
  let explanation := fabric.beginExplanation service key
  let plan : RecoveryPlan :=
    { service, generation := entry.generation, fence := entry.fence, leaseTerm := entry.leaseTerm
      fromTarget := entry.fromTarget, toTarget := entry.toTarget
      steps := (PlanStepKind.all.filter fun kind => entry.planStepMask &&& kind.bit ≠ 0).map
        fun kind => { kind, subject := [], mandatory := true } }
  let intent : FailoverIntent :=
    { attempt := entry.attempt, service, generation := entry.generation, fence := entry.fence
      leaseTerm := entry.leaseTerm, fromTarget := entry.fromTarget, toTarget := entry.toTarget
      epoch := explanation.epoch, policyGeneration := entry.policyGeneration
      topologyGeneration := entry.topologyGeneration, issued := entry.recorded }
  let explanation :=
    { explanation with
      outcome := entry.outcome, accepted := entry.accepted
      failoverGeneration := entry.generation, fence := entry.fence }.note
        .acceptDuplicateReplayCached service.bytes "request key already decided" key.value
  let (decision, fabric) := fabric.accept
    { outcome := entry.outcome, accepted := entry.accepted, duplicate := true, plan
      intent := if entry.hasIntent then some intent else none, explanation }
  (decision, fabric.bump .failoversDuplicate)

/-- A keyed request: answered from the cache, refused as a delivery, or decided. -/
def keyed (fabric : Fabric) (service : ServiceName) (key : RequestKey)
    (decide : Fabric → RecoveryDecision × Fabric) : RecoveryDecision × Fabric :=
  match fabric.state.cached key with
  | some entry => fabric.replayCached entry service key
  | none =>
    let (registered, cancels) := fabric.cancels.begin key fabric.config.maxRequestCache
    let fabric := { fabric with cancels }
    if registered ≠ .ok then
      fabric.refusal (fabric.beginExplanation service key) registered service.bytes
        (if registered = .queueCapacityExceeded then "cancellation registry is full"
         else "request key is already in flight")
    else
      let (decision, fabric) := decide fabric
      (decision, { fabric with cancels := fabric.cancels.releaseIfActive key })

/-- A decision is made only by an open runtime, and only once for each key. -/
def decided (fabric : Fabric) (service : ServiceName) (key : RequestKey)
    (decide : Explanation → RecoveryDecision × Fabric) : RecoveryDecision × Fabric :=
  if !fabric.opened then
    fabric.refusal (fabric.beginExplanation service key) .shuttingDown
  else
    match fabric.state.cached key with
    | some entry => fabric.replayCached entry service key
    | none => decide (fabric.beginExplanation service key)

/-! ### Ingestion -/

/-- What an accepted ingestion does: its record, its effect on the memory and the
steps it notes. -/
structure Proposal where
  change : Change
  update : State → State
  /-- Steps noted before the last one, once the change is durable. -/
  notes : List ExplanationStep := []
  code : Reason
  subject : Bytes := []
  detail : String := ""
  value : UInt64 := 0

/-- Carry out a checked ingestion and explain it. -/
def ingest (fabric : Fabric) (service : ServiceName) (subject : Bytes)
    (checked : Check Proposal) : (Reason × Explanation) × Fabric :=
  let explanation := fabric.beginExplanation service {}
  let finish (fabric : Fabric) (code : Reason) (steps : List ExplanationStep) :
      (Reason × Explanation) × Fabric :=
    let (explanation, fabric) := fabric.finishIngest (explanation.notes steps)
    ((code, explanation), fabric)
  match checked with
  | .error refused =>
    finish { fabric with state := fabric.state.bumpAll refused.counters } refused.code
      (refused.notes ++
        [{ code := refused.code, subject := refused.subject, detail := refused.detail
           value := refused.value }])
  | .ok proposal =>
    match fabric.transact proposal.change proposal.update with
    | (.refused code, fabric) =>
      finish fabric code [{ code, subject, detail := "durable commit failed" }]
    | (.uncompacted code, fabric) =>
      finish fabric code [{ code, subject, detail := "compaction failed" }]
    | (.done, fabric) =>
      finish fabric proposal.code (proposal.notes ++
        [{ code := proposal.code, subject := proposal.subject, detail := proposal.detail
           value := proposal.value }])

end Fabric

end OffloadFabric
