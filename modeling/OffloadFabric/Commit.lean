import OffloadFabric.Planning

/-!
The durable commit of one recovery attempt: what it mints or re-issues, the plan,
the new runtime with its fence and the witness of the previous target, and the
single transaction that makes all of it durable.
-/
namespace OffloadFabric

inductive CommitMode where
  /-- First authoritative placement of a service that had none. -/
  | initialPlacement
  /-- Recovery of an existing placement onto a compatible fallback. -/
  | failover
  /-- Re-issue of a restart-downgraded attempt at the same fence. -/
  | resume
  deriving DecidableEq, Inhabited, Repr

/-- The subject of a commit: which service moves from where to where, and why. -/
structure Move where
  service : ServiceName
  key : RequestKey
  runtime : ServiceRuntime
  source : TargetRef
  target : TargetRecord
  trigger : Reason
  mode : CommitMode

namespace Move

/-- The committed placement. -/
def destination (move : Move) : TargetRef :=
  { target := move.target.name, incarnation := move.target.incarnation }

end Move

/-- The numbers of a commit. A resume re-uses those of the attempt it re-issues. -/
structure Grant where
  stamp : LogicalTick
  generation : FailoverGeneration
  fence : FenceToken
  term : LeaseTerm
  attempt : AttemptId
  lease : LeaseId
  plan : PlanId
  deriving DecidableEq

/-- A commit that was refused, with the plan when one was built. -/
structure CommitRefusal where
  code : Reason
  plan : RecoveryPlan := {}
  notes : List ExplanationStep := []
  counters : List StatField := []

abbrev CommitCheck (α : Type) := Except CommitRefusal α

def allow (cond : Prop) [Decidable cond] (refusal : CommitRefusal) : CommitCheck Unit :=
  if cond then .ok () else .error refusal

def obtainOr {α : Type} (value : Option α) (code : Reason) : CommitCheck α :=
  match value with
  | some value => .ok value
  | none => .error { code }

section CommitCheck

variable {α β : Type}

@[simp] theorem allow_bind_ok {cond : Prop} [Decidable cond] {refusal : CommitRefusal}
    {f : Unit → CommitCheck α} {a : α} :
    (allow cond refusal >>= f) = .ok a ↔ cond ∧ f () = .ok a := by
  by_cases h : cond
  · simp only [allow, h, true_and]
    rfl
  · simp only [allow, h, false_and, iff_false]
    exact nofun

@[simp] theorem obtainOr_bind_ok {value : Option β} {code : Reason} {f : β → CommitCheck α}
    {a : α} : (obtainOr value code >>= f) = .ok a ↔ ∃ b, value = some b ∧ f b = .ok a := by
  cases value with
  | none => exact ⟨nofun, nofun⟩
  | some b =>
    constructor
    · exact fun h => ⟨b, rfl, h⟩
    · rintro ⟨_, hb, h⟩
      obtain rfl := Option.some.inj hb
      exact h

@[simp] theorem commitCheck_pure_ok {a b : α} : (pure a : CommitCheck α) = .ok b ↔ a = b :=
  ⟨fun h => Except.ok.inj h, fun h => congrArg Except.ok h⟩

end CommitCheck

/-- A number that can still be handed out. -/
def available (raw : UInt64) : Prop := raw ≠ 0 ∧ raw ≠ u64Max

instance (raw : UInt64) : Decidable (available raw) := inferInstanceAs (Decidable (_ ∧ _))

/-- A cancellation that landed before the commit stops it. -/
def checkCancellation (fabric : Fabric) (key : RequestKey) : CommitCheck Unit :=
  if key.isNil then .ok ()
  else
    match fabric.cancels.requests.find? key with
    | none => .error { code := .requestUnknown }
    | some .cancelled => .error { code := .cancelled, counters := [.requestsCancelled] }
    | some _ => .ok ()

def mint (fabric : Fabric) (move : Move) : CommitCheck Grant := do
  let state := fabric.state
  let runtime := move.runtime
  let resume := move.mode = .resume
  let stamp ← obtainOr state.tick.successor .generationExhausted
  checkCancellation fabric move.key
  let firstTerm : LeaseTerm := ⟨1⟩
  let generation ← obtainOr
    (if resume then some runtime.generation else runtime.generation.successor)
    .generationExhausted
  let fence ← obtainOr
    (if resume then some runtime.fence else (state.fenceTokenOf move.service).successor)
    .fenceExhausted
  let term ← obtainOr
    (match runtime.lease with
      | none => some firstTerm
      | some lease => if resume then some lease.term else lease.term.successor)
    .leaseTermExhausted
  let attempt := if resume then runtime.currentAttempt.value else state.nextAttemptId
  allow (available attempt) { code := .generationExhausted }
  allow (available state.nextLeaseId) { code := .generationExhausted }
  allow (available state.nextPlanId) { code := .generationExhausted }
  return { stamp, generation, fence, term, attempt := ⟨attempt⟩, lease := ⟨state.nextLeaseId⟩
           plan := ⟨state.nextPlanId⟩ }

namespace Move

variable (move : Move) (grant : Grant)

def plan (config : FabricConfig) (state : State) : RecoveryPlan :=
  let (steps, omittedSteps) :=
    buildPlan config state.policy move.runtime move.source move.target
  { id := grant.plan, service := move.service, generation := grant.generation
    fence := grant.fence, leaseTerm := grant.term, fromTarget := move.source
    toTarget := move.destination, steps, omittedSteps }

def attemptRecord (state : State) : AttemptRecord :=
  { id := grant.attempt, service := move.service, generation := grant.generation
    fence := grant.fence, fromTarget := move.source, toTarget := move.destination
    leaseTerm := grant.term, epoch := state.epoch, opened := grant.stamp, phase := .authorized
    outcome := .committed, durableCommitted := true, acknowledged := false
    restartDowngraded := false, lastReason := move.trigger }

/-- The persisted attempt under the running epoch. -/
def reissued (state : State) (record : AttemptRecord) : AttemptRecord :=
  { record with
    epoch := state.epoch, phase := .authorized, outcome := .committed, durableCommitted := true
    acknowledged := false, restartDowngraded := false, lastReason := move.trigger }

/-- The history with the attempt appended, or re-issued in place. -/
def extendedHistory (state : State) : List AttemptRecord :=
  let history := move.runtime.history
  if move.mode = .resume ∧ history.any (fun record => record.id = grant.attempt) then
    ServiceRuntime.modifyFirst grant.attempt (move.reissued state) history
  else history ++ [move.attemptRecord grant state]

/-- How many of the oldest attempts no longer fit. -/
def excess (config : FabricConfig) (state : State) : Nat :=
  (move.extendedHistory grant state).length - config.maxAttemptHistory

def lease (state : State) : LeaseRecord :=
  { service := move.service, id := grant.lease, term := grant.term
    scope := move.runtime.descriptor.scope, holder := move.destination, epoch := state.epoch
    issued := grant.stamp }

/-- What a failback will need to know of the placement that is left. -/
def departed (state : State) (runtime : ServiceRuntime) : ServiceRuntime :=
  if move.runtime.preFailoverTarget = none ∧ move.source.valid then
    { runtime with
      preFailoverTarget := some move.source
      preFailoverCapability :=
        match state.capabilities.find? move.source.target with
        | some slot => slot.evidence.generation
        | none => {}
      preFailoverTopology := state.topologyGeneration
      preFailoverPolicy := state.policyGeneration }
  else runtime

/-- An initial placement is not a recovery. -/
def settled (runtime : ServiceRuntime) : ServiceRuntime :=
  if move.mode = .initialPlacement then
    { runtime with
      recovery := .intentRecorded, lifecycle := .active, failoverRecorded := false
      preFailoverTarget := none }
  else runtime

def nextRuntime (config : FabricConfig) (state : State) : ServiceRuntime :=
  let excess := move.excess grant config state
  let runtime := move.runtime
  move.settled <| move.departed state
    { runtime.invalidateVerification with
      history := (move.extendedHistory grant state).drop excess
      attemptsEvicted := saturatingInc^[excess] runtime.attemptsEvicted
      generation := grant.generation
      fence := grant.fence
      lease := some (move.lease grant state)
      currentAttempt := grant.attempt
      attemptsSinceVerified :=
        if move.mode = .initialPlacement then runtime.attemptsSinceVerified
        else runtime.attemptsSinceVerified + 1
      active := some move.destination
      fallback := some move.destination
      recovery := .authorized
      lifecycle := .recoveryAuthorized
      failoverRecorded := true
      ambiguityPending := false
      pendingAmbiguity := {}
      lastReason := move.trigger
      lastChange := grant.stamp }

def fenceRecord (state : State) : FenceRecord :=
  { service := move.service, token := grant.fence, holder := move.destination
    attempt := grant.attempt, epoch := state.epoch, issued := grant.stamp }

/-- The previous target is fenced out at the new token. -/
def witnessUpdates (state : State) : List (TargetName × FenceWitness) :=
  if move.source.valid then
    [(move.source.target,
      { token := grant.fence, incarnation := move.source.incarnation
        topologyGeneration := state.topologyGeneration })]
  else []

def change (config : FabricConfig) (state : State) : Change :=
  .runtimeChanged (if move.mode = .resume then .recoveryResumed else .attemptCommitted)
    { service := move.service, runtime := move.nextRuntime grant config state
      fence := some (move.fenceRecord grant state), witnesses := move.witnessUpdates grant state }

def intent (state : State) : FailoverIntent :=
  { attempt := grant.attempt, service := move.service, generation := grant.generation
    fence := grant.fence, leaseTerm := grant.term, fromTarget := move.source
    toTarget := move.destination, epoch := state.epoch
    policyGeneration := state.policyGeneration, topologyGeneration := state.topologyGeneration
    issued := grant.stamp, reissueAfterRestart := move.mode = .resume }

def cacheEntry (config : FabricConfig) (state : State) : RequestCacheEntry :=
  { kind :=
      match move.mode with
      | .resume => .resume
      | .initialPlacement => .placement
      | .failover => .failover
    outcome := .acceptIntentEmitted, accepted := true, attempt := grant.attempt
    generation := grant.generation, fence := grant.fence, leaseTerm := grant.term
    policyGeneration := state.policyGeneration, topologyGeneration := state.topologyGeneration
    fromTarget := move.source, toTarget := move.destination, hasIntent := true
    planStepMask := (move.plan grant config state).stepMask
    responseDigest := (move.plan grant config state).digest, recorded := grant.stamp }

/-- The memory after the commit. `before` is the state the commit was prepared in. -/
def update (config : FabricConfig) (before : State) (pushed : Bool) (state : State) : State :=
  let next := move.nextRuntime grant config before
  let evicted := (next.attemptsEvicted - move.runtime.attemptsEvicted).toNat
  let state : State :=
    { state with
      tick := grant.stamp
      nextAttemptId :=
        if move.mode = .resume then state.nextAttemptId else grant.attempt.value + 1
      nextLeaseId := grant.lease.value + 1
      nextPlanId := grant.plan.value + 1
      services := state.services.insert move.service next
      fences := state.fences.insert move.service (move.fenceRecord grant before)
      witnesses := (move.witnessUpdates grant before).foldl
        (fun witnesses update =>
          witnesses.insert { service := move.service, target := update.1 } update.2)
        state.witnesses }
  let state := (state.bump .attemptsRecorded).bumpAll (List.replicate evicted .attemptsEvicted)
  let state := state.bump (if pushed then .intentsEmitted else .intentsDropped)
  state.remember config move.key (move.cacheEntry grant config before)

/-- The steps a successful commit notes. -/
def notes (state : State) : List ExplanationStep :=
  let subject := move.target.name.bytes
  (if (move.witnessUpdates grant state).isEmpty then []
    else [{ code := .acceptFenceAdvanced, subject := move.source.target.bytes
            detail := "previous target fenced out at the new durable token"
            value := grant.fence.value }]) ++
    [{ code := .acceptFallbackCapabilityCompatible, subject
       detail := "fallback capability is supported, current and compatible" },
     { code := .acceptLeaseTransferred, subject, detail := "lease term transferred"
       value := grant.term.value },
     { code := .acceptIntentEmitted, subject, detail := "governed failover intent emitted" }]

end Move

/-- Everything checked before the commit is written. -/
def prepare (fabric : Fabric) (move : Move) : CommitCheck Grant := do
  let grant ← mint fabric move
  let plan := move.plan grant fabric.config fabric.state
  allow (plan.omittedSteps = 0)
    { code := .planStepLimitReached, plan
      notes := [{ code := .planStepLimitReached, subject := move.runtime.descriptor.name.bytes
                  detail := "required recovery steps exceed the policy ceiling"
                  value := UInt64.ofNat plan.omittedSteps }] }
  allow (move.change grant fabric.config fabric.state).writable { code := .oversized, plan }
  return grant

structure CommitResult where
  code : Reason := .ok
  plan : RecoveryPlan := {}
  intent : Option FailoverIntent := none
  notes : List ExplanationStep := []

def commitRecovery (fabric : Fabric) (move : Move) : CommitResult × Fabric :=
  match prepare fabric move with
  | .error refused =>
    ({ code := refused.code, plan := refused.plan, notes := refused.notes },
     { fabric with state := fabric.state.bumpAll refused.counters })
  | .ok grant =>
    let before := fabric.state
    let plan := move.plan grant fabric.config before
    let intent := move.intent grant before
    let update := move.update grant fabric.config before fabric.intents.accepts
    let finish (fabric : Fabric) (notes : List ExplanationStep) : CommitResult × Fabric :=
      ({ code := .ok, plan, intent := some intent, notes := move.notes grant before ++ notes },
       { fabric with
         intents := fabric.intents.push intent
         cancels :=
           if move.key.isNil then fabric.cancels else fabric.cancels.markCommitted move.key })
    match fabric.transact (move.change grant fabric.config before) update with
    | (.refused code, fabric) => ({ code, plan }, fabric)
    | (.uncompacted code, fabric) =>
      finish fabric [{ code, subject := move.target.name.bytes
                       detail := "compaction after commit failed" }]
    | (.done, fabric) => finish fabric []

end OffloadFabric
