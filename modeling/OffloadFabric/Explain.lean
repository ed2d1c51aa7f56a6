import OffloadFabric.Json
import OffloadFabric.Model

/-!
Explanations, recovery plans and decisions: the ordered account every operation
gives of itself, the bounded log that keeps them and the plan of a recovery.
-/
namespace OffloadFabric

/-- One ordered step of a decision. -/
structure ExplanationStep where
  code : Reason := .ok
  subject : Bytes := []
  detail : String := ""
  value : UInt64 := 0
  deriving DecidableEq, Inhabited

structure Explanation where
  service : ServiceName := .nil
  tick : LogicalTick := {}
  outcome : Reason := .ok
  accepted : Bool := false
  epoch : CoordinatorEpoch := {}
  policyGeneration : PolicyGeneration := {}
  topologyGeneration : TopologyGeneration := {}
  failoverGeneration : FailoverGeneration := {}
  fence : FenceToken := {}
  request : RequestKey := {}
  steps : List ExplanationStep := []
  deriving DecidableEq, Inhabited

namespace Explanation

/-- Append a step. The outcome is not touched. -/
def note (explanation : Explanation) (code : Reason) (subject : Bytes) (detail : String)
    (value : UInt64 := 0) : Explanation :=
  { explanation with steps := explanation.steps ++ [{ code, subject, detail, value }] }

def notes (explanation : Explanation) (steps : List ExplanationStep) : Explanation :=
  { explanation with steps := explanation.steps ++ steps }

end Explanation

/-- Bounded log; once full, the oldest entry is overwritten and counted. -/
structure ExplanationLog where
  capacity : Nat := 0
  evicted : Nat := 0
  next : Nat := 0
  entries : List Explanation := []
  deriving DecidableEq, Inhabited

namespace ExplanationLog

def record (log : ExplanationLog) (explanation : Explanation) : ExplanationLog :=
  if log.capacity = 0 then { log with evicted := log.evicted + 1 }
  else if log.entries.length < log.capacity then
    { log with entries := log.entries ++ [explanation] }
  else
    { log with
      entries := log.entries.set log.next explanation
      next := (log.next + 1) % log.capacity
      evicted := log.evicted + 1 }

/-- The entries, oldest first. -/
def all (log : ExplanationLog) : List Explanation :=
  if log.entries.length < log.capacity then log.entries
  else log.entries.drop log.next ++ log.entries.take log.next

def forService (log : ExplanationLog) (service : ServiceName) : List Explanation :=
  log.all.filter fun entry => entry.service = service

def clear (log : ExplanationLog) : ExplanationLog :=
  { log with entries := [], next := 0, evicted := 0 }

end ExplanationLog

/-! ### Plans -/

inductive PlanStepKind where
  | advanceFence | fencePreviousTarget | transferLease | emitIntent | awaitActivationEffect
  | awaitStateTransfer | awaitServiceHealth | claimContinuity
  deriving DecidableEq, Inhabited, Repr

namespace PlanStepKind

def all : List PlanStepKind :=
  [.advanceFence, .fencePreviousTarget, .transferLease, .emitIntent, .awaitActivationEffect,
   .awaitStateTransfer, .awaitServiceHealth, .claimContinuity]

/-- The bit of a step in a cached plan mask. -/
def bit (kind : PlanStepKind) : UInt32 := (1 : UInt32) <<< UInt32.ofNat (all.idxOf kind)

def text : PlanStepKind → String
  | .advanceFence => "advance_fence"
  | .fencePreviousTarget => "fence_previous_target"
  | .transferLease => "transfer_lease"
  | .emitIntent => "emit_intent"
  | .awaitActivationEffect => "await_activation_effect"
  | .awaitStateTransfer => "await_state_transfer"
  | .awaitServiceHealth => "await_service_health"
  | .claimContinuity => "claim_continuity"

end PlanStepKind

structure PlanStep where
  kind : PlanStepKind := .advanceFence
  subject : Bytes := []
  mandatory : Bool := true
  deriving DecidableEq, Inhabited

/-- A bounded recovery plan. -/
structure RecoveryPlan where
  id : PlanId := {}
  service : ServiceName := .nil
  generation : FailoverGeneration := {}
  fence : FenceToken := {}
  leaseTerm : LeaseTerm := {}
  fromTarget : TargetRef := {}
  toTarget : TargetRef := {}
  steps : List PlanStep := []
  omittedSteps : Nat := 0
  deriving DecidableEq, Inhabited

structure RecoveryDecision where
  outcome : Reason := .ok
  accepted : Bool := false
  duplicate : Bool := false
  plan : RecoveryPlan := {}
  intent : Option FailoverIntent := none
  explanation : Explanation := {}
  deriving DecidableEq, Inhabited

/-! ### Rendering of a plan -/

def TargetIncarnation.toJson (value : TargetIncarnation) : JsonValue :=
  (JsonValue.null.set "device" (.unsigned value.device.value)).set "host"
    (.unsigned value.host.value)

def TargetRef.toJson (value : TargetRef) : JsonValue :=
  (JsonValue.null.set "incarnation" value.incarnation.toJson).set "target"
    (.text value.target.bytes)

def PlanStep.toJson (value : PlanStep) : JsonValue :=
  ((JsonValue.null.set "kind" (.text (ascii value.kind.text))).set "mandatory"
    (.bool value.mandatory)).set "subject" (.text value.subject)

def RecoveryPlan.toJson (plan : RecoveryPlan) : JsonValue :=
  let steps := plan.steps.foldl (fun array step => array.push step.toJson) (.array [])
  let object := JsonValue.null.set "fence" (.unsigned plan.fence.value)
  let object := object.set "from" plan.fromTarget.toJson
  let object := object.set "generation" (.unsigned plan.generation.value)
  let object := object.set "id" (.unsigned plan.id.value)
  let object := object.set "lease_term" (.unsigned plan.leaseTerm.value)
  let object := object.set "omitted_steps" (.unsigned (UInt64.ofNat plan.omittedSteps))
  let object := object.set "service" (.text plan.service.bytes)
  let object := object.set "steps" steps
  object.set "to" plan.toTarget.toJson

/-- The digest a cached answer keeps of its plan. -/
def RecoveryPlan.digest (plan : RecoveryPlan) : Digest := digestOf plan.toJson.dump

/-- The steps of a plan as a mask. -/
def RecoveryPlan.stepMask (plan : RecoveryPlan) : UInt32 :=
  plan.steps.foldl (fun mask step => mask ||| step.kind.bit) 0

end OffloadFabric
