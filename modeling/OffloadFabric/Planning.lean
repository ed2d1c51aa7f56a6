import OffloadFabric.Ingestion
import Mathlib.Data.List.Sort

/-!
Qualification, selection and planning: the dependency walk, the eligibility of a
target, the canonical choice of a fallback and the bounded recovery plan.
-/
namespace OffloadFabric

/-- Most steps that a walk or a selection notes. -/
def kMaxNotedSteps : Nat := 8

/-- Append a step while fewer than eight were noted. -/
def noteBounded (notes : List ExplanationStep) (step : ExplanationStep) : List ExplanationStep :=
  if notes.length < kMaxNotedSteps then notes ++ [step] else notes

/-! ### Dependencies -/

/-- A service waiting in the dependency walk. -/
structure WalkNode where
  owner : ServiceName
  descriptor : ServiceDescriptor
  depth : Nat
  deriving DecidableEq

/-- Progress of the breadth-first walk over dependencies. -/
structure DependencyWalk where
  visited : List ServiceName
  queue : List WalkNode
  blocking : Reason := .ok
  notes : List ExplanationStep := []
  /-- Nodes at which the depth ceiling cut the walk. -/
  truncations : Nat := 0

namespace DependencyWalk

def note (walk : DependencyWalk) (code : Reason) (subject : Bytes) (detail : String)
    (value : UInt64 := 0) : DependencyWalk :=
  { walk with notes := noteBounded walk.notes { code, subject, detail, value } }

/-- Only the first unmet hard dependency is reported. -/
def block (walk : DependencyWalk) (kind : DependencyKind) (code : Reason) : DependencyWalk :=
  if kind = .hard ∧ walk.blocking = .ok then { walk with blocking := code } else walk

/-- What the retained evidence says of one dependency of `owner`. -/
def judge (state : State) (owner : ServiceName) (spec : DependencySpec) : Reason :=
  match state.services.find? spec.service,
      (Change.dependencyBucket state owner).find? spec.service with
  | none, _ => .unknownService
  | some _, none => .dependencyUnknown
  | some _, some slot =>
    if slot.requiresReconfirmation then .dependencyUnresolved
    else if slot.observation.provenance.epoch ≠ state.epoch ∨
        slot.observation.provenance.boot ≠ state.boot then .dependencyUnresolved
    else if slot.observation.topologyGeneration ≠ state.topologyGeneration then
      .dependencyUnresolved
    else if slot.observation.health = .unknown then .dependencyUnknown
    else if slot.observation.health = .failed then .dependencyHardUnmet
    else if slot.observation.health = .degraded ∧ spec.kind = .hard then .dependencyHardUnmet
    else .ok

/-- One edge out of `node`. -/
def edge (state : State) (node : WalkNode) (walk : DependencyWalk) (spec : DependencySpec) :
    DependencyWalk :=
  let subject := spec.service.bytes
  if spec.service ∈ walk.visited then
    (walk.note .dependencyCycle subject
      "dependency already visited; traversal stopped on the cycle edge").block spec.kind
      .dependencyCycle
  else
    let walk : DependencyWalk := { walk with visited := spec.service :: walk.visited }
    let walk : DependencyWalk :=
      match state.services.find? spec.service with
      | some runtime =>
        { walk with
          queue := walk.queue ++
            [{ owner := spec.service, descriptor := runtime.descriptor
               depth := node.depth + 1 }] }
      | none => walk
    let code := judge state node.owner spec
    if code = .ok then walk.note .ok subject "dependency satisfied"
    else
      (walk.note code subject
        (if spec.kind = .hard then "hard dependency" else "soft dependency")).block spec.kind code

/-- All edges out of one node, unless it lies at the depth ceiling. -/
def expand (state : State) (walk : DependencyWalk) (node : WalkNode) : DependencyWalk :=
  if state.policy.dependencyMaxDepth.toNat ≤ node.depth then
    if node.descriptor.dependencies.isEmpty then walk
    else
      { walk with truncations := walk.truncations + 1 }.note .dependencyDepthExceeded
        node.owner.bytes "dependency traversal stopped at the policy depth ceiling"
        (UInt64.ofNat node.depth)
  else node.descriptor.dependencies.foldl (edge state node) walk

/-- Work off the queue. A registered service enters it once, so the number of
services bounds the walk. -/
def run (state : State) : Nat → DependencyWalk → DependencyWalk
  | 0, walk => walk
  | fuel + 1, walk =>
    match walk.queue with
    | [] => walk
    | node :: queue => run state fuel (expand state { walk with queue } node)

end DependencyWalk

/-- Walk the dependencies of a service; `blocking` says whether they qualify. -/
def qualifyDependencies (state : State) (runtime : ServiceRuntime) : DependencyWalk :=
  let root := runtime.descriptor.name
  DependencyWalk.run state (state.services.size + 1)
    { visited := [root]
      queue := [{ owner := root, descriptor := runtime.descriptor, depth := 0 }] }

/-- The counters a walk bumps. -/
def DependencyWalk.counters (walk : DependencyWalk) : List StatField :=
  List.replicate walk.truncations .dependencyDepthTruncated

/-! ### Candidates -/

def deviceRank : DeviceKind → Nat
  | .dpu => 3
  | .smartNic => 2
  | .hostCpu => 1
  | .synthetic => 0

/-- Whether `record` may take over `runtime`; ok, or the first rule it breaks. -/
def evaluateCandidate (state : State) (runtime : ServiceRuntime) (record : TargetRecord) :
    Reason :=
  if record.scope ≠ runtime.descriptor.scope then .fallbackNotInGovernedScope
  else if record.incarnation.host.isInitial || record.incarnation.device.isInitial then
    .impossibleValue
  else if ∃ witness ∈ state.witnessOf runtime.descriptor.name record.name,
      record.incarnation ≤ witness.incarnation then .fallbackFenced
  else
    match state.capabilities.find? record.name with
    | none => .fallbackUnsupported
    | some slot =>
      if slot.requiresReconfirmation then .fallbackCapabilityGenerationStale
      else if slot.evidence.topologyGeneration ≠ state.topologyGeneration then
        .fallbackCapabilityGenerationStale
      else if slot.evidence.incarnation ≠ record.incarnation then
        .fallbackCapabilityGenerationStale
      else if !slot.evidence.capabilities.containsAll runtime.descriptor.requiredCapabilities then
        .fallbackIncompatible
      else if ∃ failure ∈ state.latestFailureOf runtime.descriptor.name,
          failure.target.target = record.name then .fallbackUnhealthy
      else .ok

/-- What holds of a target that may take over a service. -/
structure Eligible (state : State) (runtime : ServiceRuntime) (record : TargetRecord) : Prop where
  scope : record.scope = runtime.descriptor.scope
  unfenced : ∀ witness ∈ state.witnessOf runtime.descriptor.name record.name,
    witness.incarnation < record.incarnation
  capability : ∃ slot, state.capabilities.find? record.name = some slot ∧
    slot.requiresReconfirmation = false ∧
    slot.evidence.topologyGeneration = state.topologyGeneration ∧
    slot.evidence.incarnation = record.incarnation ∧
    slot.evidence.capabilities.containsAll runtime.descriptor.requiredCapabilities

theorem eligible_of_evaluateCandidate {state : State} {runtime : ServiceRuntime}
    {record : TargetRecord} (h : evaluateCandidate state runtime record = .ok) :
    Eligible state runtime record := by
  unfold evaluateCandidate at h
  split at h
  · cases h
  rename_i hscope
  split at h
  · cases h
  split at h
  · cases h
  rename_i hfenced
  split at h
  · cases h
  rename_i slot hslot
  split_ifs at h with hconfirm htopology hincarnation hcovers
  refine ⟨not_not.mp hscope, ?_, slot, hslot, by simpa using hconfirm, not_not.mp htopology,
    not_not.mp hincarnation, by simpa using hcovers⟩
  intro witness hwitness
  exact not_le.mp fun hle => hfenced ⟨witness, hwitness, hle⟩

/-- A target in the running for a fallback. -/
structure Candidate where
  record : TargetRecord
  sameHost : Bool
  rank : Nat
  deriving DecidableEq

/-- Other hosts first, then the higher rank, then the name. -/
def Candidate.before (left right : Candidate) : Bool :=
  if left.sameHost ≠ right.sameHost then !left.sameHost
  else if left.rank ≠ right.rank then decide (right.rank < left.rank)
  else decide (left.record.name < right.record.name)

/-- The targets other than the failed and the active one, in canonical order. -/
def candidates (state : State) (runtime : ServiceRuntime) (failed : TargetRef) :
    List Candidate :=
  let failedRecord := if failed.valid then state.targets.find? failed.target else none
  let others := state.targets.entries.filter fun entry =>
    !(failed.valid && entry.1 = failed.target) &&
      !(runtime.active.any fun active => entry.1 = active.target)
  let entries := others.map fun entry =>
    { record := entry.2
      sameHost := failedRecord.any fun record => entry.2.host = record.host
      rank := deviceRank entry.2.kind : Candidate }
  entries.insertionSort fun left right => !right.before left

def fallbackCeiling (config : FabricConfig) (policy : PolicyDescriptor) : Nat :=
  min config.maxFallbackCandidates
    (if policy.maxFallbackCandidates = 0 then 1 else policy.maxFallbackCandidates.toNat)

/-- How telling a rejection is; lower is reported first. -/
def severity : Reason → Nat
  | .fallbackFenced => 0
  | .fallbackIncompatible => 1
  | .fallbackCapabilityGenerationStale => 2
  | .fallbackUnsupported => 3
  | .fallbackUnhealthy => 4
  | .fallbackNotInGovernedScope => 5
  | _ => 6

/-- The more telling of two rejections, the smaller code among equals. -/
def worse (best code : Reason) : Reason :=
  if severity code < severity best ∨
      severity code = severity best ∧ code.code.toNat < best.code.toNat then code
  else best

/-- The reason reported when every candidate was rejected. -/
def reportedRejection : List Reason → Reason
  | [] => .noEligibleFallback
  | first :: rest => rest.foldl worse first

/-- The outcome of a selection, with what it notes and counts. -/
structure Selection where
  chosen : Except Reason TargetRecord
  notes : List ExplanationStep := []
  counters : List StatField := []

/-- The first eligible candidate; otherwise all rejections, with the steps they note. -/
def firstEligible (state : State) (runtime : ServiceRuntime) :
    List Candidate → List Reason → List ExplanationStep →
      Except (List Reason) TargetRecord × List ExplanationStep
  | [], rejections, notes => (.error rejections, notes)
  | candidate :: rest, rejections, notes =>
    let reject := evaluateCandidate state runtime candidate.record
    if reject = .ok then (.ok candidate.record, notes)
    else
      firstEligible state runtime rest (rejections ++ [reject])
        (noteBounded notes
          { code := reject, subject := candidate.record.name.bytes
            detail := "fallback candidate rejected" })

def selectFallback (config : FabricConfig) (state : State) (runtime : ServiceRuntime)
    (failed : TargetRef) : Selection :=
  let entries := candidates state runtime failed
  let ceiling := fallbackCeiling config state.policy
  let limit : List ExplanationStep :=
    if ceiling < entries.length then
      [{ code := .fallbackCandidateLimitReached, subject := runtime.descriptor.name.bytes
         detail := "candidate set ordered canonically then truncated at the configured ceiling"
         value := UInt64.ofNat (entries.length - ceiling) }]
    else []
  let (found, notes) := firstEligible state runtime (entries.take ceiling) [] []
  { chosen :=
      match found with
      | .ok record => .ok record
      | .error rejections => .error (reportedRejection rejections)
    notes := limit ++ notes
    counters := if ceiling < entries.length then [.fallbackCandidatesTruncated] else [] }

theorem firstEligible_ok {state : State} {runtime : ServiceRuntime} {entries : List Candidate}
    {rejections : List Reason} {notes : List ExplanationStep} {record : TargetRecord}
    (h : (firstEligible state runtime entries rejections notes).1 = .ok record) :
    evaluateCandidate state runtime record = .ok ∧ ∃ entry ∈ entries, entry.record = record := by
  induction entries generalizing rejections notes with
  | nil => cases h
  | cons candidate rest ih =>
    simp only [firstEligible] at h
    split_ifs at h with hok
    · obtain rfl := Except.ok.inj h
      exact ⟨hok, candidate, List.mem_cons_self, rfl⟩
    · obtain ⟨hrecord, entry, hentry, heq⟩ := ih h
      exact ⟨hrecord, entry, List.mem_cons_of_mem _ hentry, heq⟩

/-- A selected fallback is a registered, eligible target other than the failed and
the active one. -/
theorem selectFallback_ok {config : FabricConfig} {state : State} {runtime : ServiceRuntime}
    {failed : TargetRef} {record : TargetRecord}
    (h : (selectFallback config state runtime failed).chosen = .ok record) :
    evaluateCandidate state runtime record = .ok ∧
      ∃ name, state.targets.find? name = some record ∧
        (failed.valid → name ≠ failed.target) ∧
      ∀ active ∈ runtime.active, name ≠ active.target := by
  have hfound : (firstEligible state runtime ((candidates state runtime failed).take
      (fallbackCeiling config state.policy)) [] []).1 = .ok record := by
    simp only [selectFallback] at h
    split at h
    · rename_i found hfound
      obtain rfl := Except.ok.inj h
      exact hfound
    · cases h
  obtain ⟨hrecord, entry, hentry, rfl⟩ := firstEligible_ok hfound
  refine ⟨hrecord, ?_⟩
  have hmem := List.mem_of_mem_take hentry
  rw [candidates, List.mem_insertionSort] at hmem
  obtain ⟨target, htarget, rfl⟩ := List.mem_map.mp hmem
  obtain ⟨htarget, hother⟩ := List.mem_filter.mp htarget
  refine ⟨target.1, (state.targets.find?_eq_some_iff _ _).mpr htarget, ?_, ?_⟩
  · intro hvalid heq
    simp [hvalid, heq] at hother
  · intro active hactive heq
    rw [Option.mem_def] at hactive
    simp [hactive, heq] at hother

/-! ### Plans -/

/-- The steps a recovery needs, in order. -/
def requiredSteps (runtime : ServiceRuntime) (source : TargetRef) (target : TargetRecord) :
    List PlanStep :=
  let step (kind : PlanStepKind) : PlanStep := { kind, subject := target.name.bytes }
  [{ kind := .advanceFence, subject := runtime.descriptor.name.bytes }] ++
    (if source.valid then
      [{ kind := .fencePreviousTarget, subject := source.target.bytes }] else []) ++
    [step .transferLease, step .emitIntent, step .awaitActivationEffect] ++
    (if runtime.descriptor.statefulness = .stateful &&
        runtime.descriptor.preconditions.contains .stateTransfer then
      [step .awaitStateTransfer] else []) ++
    [step .awaitServiceHealth, step .claimContinuity]

def planCeiling (config : FabricConfig) (policy : PolicyDescriptor) : Nat :=
  min (if config.maxPlanSteps = 0 then 1 else config.maxPlanSteps)
    (if policy.maxPlanSteps = 0 then 1 else policy.maxPlanSteps.toNat)

/-- The steps that fit under the ceiling and the number that do not. -/
def buildPlan (config : FabricConfig) (policy : PolicyDescriptor) (runtime : ServiceRuntime)
    (source : TargetRef) (target : TargetRecord) : List PlanStep × Nat :=
  let steps := requiredSteps runtime source target
  let ceiling := planCeiling config policy
  if ceiling < steps.length then (steps.take ceiling, steps.length - ceiling) else (steps, 0)

end OffloadFabric
