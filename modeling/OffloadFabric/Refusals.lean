import OffloadFabric.Coherence

/-!
What a refused call leaves behind. A call that turns its request down counts, explains,
remembers the answer and at most notes a reason on the service; every registry, counter and
clock stays as it was, in memory and on disk. The exceptions are calls that did something
before they refused: they committed a record, or suspended a service.
-/
namespace OffloadFabric

open Fabric (Op Reply)

/-- A runtime without the note of its last reason. -/
def ServiceRuntime.unremarked (runtime : ServiceRuntime) : ServiceRuntime :=
  { runtime with lastReason := .ok }

/-- A remark that only notes a reason. -/
def Remark.Plain : Remark → Prop
  | .nothing | .reason _ => True
  | .suspension _ | .returned => False

theorem Remark.Plain.unremarked {remark : Remark} (h : remark.Plain) (runtime : ServiceRuntime) :
    (remark.apply runtime).unremarked = runtime.unremarked := by
  cases remark with
  | nothing => rfl
  | reason code => rfl
  | suspension evidence => cases h
  | returned => cases h

namespace State

/-- A state without its counters and its request cache. -/
def registries (state : State) : State :=
  { state with requestCache := .empty, requestOrder := [], stats := {} }

/-- The registries without the notes of last reasons. -/
def records (state : State) : State :=
  { state.registries with services := state.services.mapValues ServiceRuntime.unremarked }

variable {state state' : State}

@[simp] theorem registries_bump (state : State) (field : StatField) :
    (state.bump field).registries = state.registries := rfl

@[simp] theorem registries_bumpAll (state : State) (fields : List StatField) :
    (state.bumpAll fields).registries = state.registries := by
  unfold bumpAll
  induction fields generalizing state with
  | nil => rfl
  | cons field rest ih => exact (ih _).trans (registries_bump state field)

@[simp] theorem registries_remember (state : State) (config : FabricConfig) (key : RequestKey)
    (entry : RequestCacheEntry) :
    (state.remember config key entry).registries = state.registries := by
  unfold remember
  split
  · rfl
  split <;> rfl

theorem records_of_registries (h : state'.registries = state.registries) :
    state'.records = state.records := by
  have hservices : state'.services = state.services := by
    show state'.registries.services = state.registries.services
    rw [h]
  unfold records
  rw [h, hservices]

end State

namespace Fabric

/-! ### Calls that turn their request down -/

/-- Nothing is different but counters, explanations, cached answers and cancellations. -/
structure Spares (fabric fabric' : Fabric) : Prop extends fabric.SameRuntime fabric' where
  registries : fabric'.state.registries = fabric.state.registries

/-- Nothing is different but these and the notes of last reasons. -/
structure Annotates (fabric fabric' : Fabric) : Prop extends fabric.SameRuntime fabric' where
  records : fabric'.state.records = fabric.state.records

section Spares

variable {fabric fabric' fabric'' : Fabric}

theorem Spares.refl (fabric : Fabric) : fabric.Spares fabric := ⟨.refl fabric, rfl⟩

theorem Spares.trans (h : fabric.Spares fabric') (h' : fabric'.Spares fabric'') :
    fabric.Spares fabric'' :=
  ⟨h.toSameRuntime.trans h'.toSameRuntime, h'.registries.trans h.registries⟩

theorem Annotates.trans (h : fabric.Annotates fabric') (h' : fabric'.Annotates fabric'') :
    fabric.Annotates fabric'' :=
  ⟨h.toSameRuntime.trans h'.toSameRuntime, h'.records.trans h.records⟩

theorem Spares.annotates (h : fabric.Spares fabric') : fabric.Annotates fabric' :=
  ⟨h.toSameRuntime, State.records_of_registries h.registries⟩

theorem spares_of_state (fabric : Fabric) {state : State}
    (h : state.registries = fabric.state.registries) : fabric.Spares { fabric with state } :=
  ⟨⟨rfl, rfl, rfl, rfl, rfl⟩, h⟩

theorem spares_recordExplanation (fabric : Fabric) (explanation : Explanation) :
    fabric.Spares (fabric.recordExplanation explanation) :=
  ⟨⟨rfl, rfl, rfl, rfl, rfl⟩, rfl⟩

theorem spares_refusal (fabric : Fabric) (explanation : Explanation) (code : Reason)
    (subject : Bytes) (detail : String) (value : UInt64) :
    fabric.Spares (fabric.refusal explanation code subject detail value).2 := by
  unfold refusal
  dsimp only
  split
  · exact (spares_of_state fabric (State.registries_remember _ _ _ _)).trans
      (spares_recordExplanation _ _)
  · exact spares_recordExplanation _ _

theorem spares_refuse (fabric : Fabric) (explanation : Explanation) {service : ServiceName}
    {refused : Refusal} (hremark : refused.remark = .nothing) :
    fabric.Spares (fabric.refuse explanation service refused).2 := by
  have hstate : ((fabric.state.bumpAll refused.counters).modifyService service
      refused.remark.apply).registries = fabric.state.registries := by
    rw [hremark]
    unfold State.modifyService
    split
    · exact State.registries_bumpAll _ _
    · rename_i runtime hfind
      simp only [Remark.apply, OrderedMap.insert_find?_self hfind]
      exact State.registries_bumpAll _ _
  exact (spares_of_state fabric hstate).trans (spares_refusal _ _ _ _ _ _)

theorem persist_registries {records : List Record} {code : Reason}
    (h : fabric.persist records = (code, fabric')) :
    fabric'.state.registries = fabric.state.registries := by
  unfold persist at h
  split at h
  · cases h
    rfl
  split at h
  split at h <;> cases h <;> rfl

theorem rotateIfDue_registries (fabric : Fabric) :
    fabric.rotateIfDue.2.state.registries = fabric.state.registries := by
  unfold rotateIfDue
  split
  · rfl
  split
  · unfold maybeCompact
    split
    · rfl
    split
    · rfl
    dsimp only
    split <;> rfl
  · rfl

theorem persist_spares {records : List Record} {code : Reason} (hcode : code ≠ .ok)
    (h : fabric.persist records = (code, fabric')) : fabric.Spares fabric' :=
  ⟨(persist_refused hcode h).toSameRuntime, persist_registries h⟩

theorem transact_spares {change : Change} {update : State → State} {code : Reason}
    (h : fabric.transact change update = (.refused code, fabric')) : fabric.Spares fabric' := by
  unfold transact at h
  split at h
  rename_i reason durable hpersist
  by_cases hreason : reason = .ok
  · simp only [hreason, ne_eq, not_true_eq_false, if_false] at h
    split at h <;> cases h
  · simp only [ne_eq, hreason, not_false_eq_true, if_true] at h
    cases h
    exact persist_spares hreason hpersist

/-- What a transaction that was not refused leaves of the registries. -/
theorem transact_registries {change : Change} {update : State → State} {progress : Progress}
    (h : fabric.transact change update = (progress, fabric'))
    (hdone : ∀ code, progress ≠ .refused code) : ∃ before,
      before.registries = fabric.state.registries ∧
      fabric'.state.registries = (update before).registries := by
  unfold transact at h
  split at h
  rename_i reason durable hpersist
  by_cases hreason : reason = .ok
  · subst hreason
    refine ⟨durable.state, persist_registries hpersist, ?_⟩
    simp only [ne_eq, not_true_eq_false, if_false] at h
    have hrotate := rotateIfDue_registries { durable with state := update durable.state }
    split at h <;>
    · cases h
      exact hrotate
  · simp only [ne_eq, hreason, not_false_eq_true, if_true] at h
    cases h
    exact absurd rfl (hdone reason)

end Spares

end Fabric

/-- A code of acceptance that repeats no earlier answer. -/
def Reason.isFresh : Reason → Bool
  | .acceptDuplicateIdempotent => false
  | code => code.accepts

/-! ### What a check lets through -/

/-- Whatever the check lets through has the property. -/
def Check.Yields {α : Type} (P : α → Prop) (check : Check α) : Prop :=
  ∀ a, check = .ok a → P a

namespace Check.Yields

variable {α β : Type} {P : α → Prop}

theorem pure {a : α} (h : P a) : Yields P (Pure.pure a : Check α) := by
  intro b hb
  cases hb
  exact h

theorem bind {check : Check β} {f : β → Check α} (h : ∀ b, Yields P (f b)) :
    Yields P (check >>= f) := by
  intro a ha
  obtain ⟨b, -, hb⟩ := check_bind_ok.mp ha
  exact h b a hb

end Check.Yields

namespace Fabric

/-- The codes that ingestions are answered with. -/
def ingestionCodes : List Reason :=
  [.acceptSourceEnrolled, .acceptServiceRegistered, .acceptTargetRegistered,
   .acceptTopologyGenerationAdvanced, .acceptPolicyGenerationAdvanced, .acceptServiceWithdrawn,
   .acceptTargetRetired, .acceptCapabilityRecorded, .acceptFailureRecorded,
   .acceptDependencyRecorded]

theorem isAccept_ingestionCodes : ∀ code ∈ ingestionCodes, code.isAccept = true := by
  decide

theorem yields_ingestion {fabric : Fabric} {op : Op} {checked : Check Proposal}
    (hop : fabric.ingestion op = some checked) :
    checked.Yields fun proposal => proposal.code ∈ ingestionCodes := by
  cases op with
  | enrollSource source role =>
    cases hop
    exact .bind fun _ => .bind fun _ => .bind fun _ => .bind fun _ => .bind fun _ =>
      .bind fun _ => .pure (by simp [ingestionCodes])
  | registerService descriptor registrar =>
    cases hop
    exact .bind fun _ => .bind fun _ => .bind fun _ => .bind fun _ => .bind fun _ =>
      .bind fun _ => .bind fun _ => .bind fun _ => .pure (by simp [ingestionCodes])
  | registerTarget target registrar =>
    cases hop
    exact .bind fun _ => .bind fun _ => .bind fun _ => .bind fun _ => .bind fun _ =>
      .bind fun _ => .pure (by simp [ingestionCodes])
  | setTopologyGeneration generation reporter =>
    cases hop
    exact .bind fun _ => .bind fun _ => .bind fun _ => .bind fun _ => .bind fun _ =>
      .pure (by simp [ingestionCodes])
  | setPolicy policy =>
    cases hop
    exact .bind fun _ => .bind fun _ => .bind fun _ => .bind fun _ => .bind fun _ =>
      .bind fun _ => .pure (by simp [ingestionCodes])
  | withdrawService service requester =>
    cases hop
    exact .bind fun _ => .bind fun _ => .bind fun _ => .bind fun _ => .bind fun _ =>
      .pure (by simp [ingestionCodes])
  | retireTarget target requester =>
    cases hop
    exact .bind fun _ => .bind fun _ => .bind fun _ => .bind fun _ =>
      .pure (by simp [ingestionCodes])
  | ingestCapability evidence =>
    cases hop
    exact .bind fun _ => .bind fun _ => .bind fun _ => .bind fun _ => .bind fun _ =>
      .bind fun _ => .bind fun _ => .bind fun _ => .pure (by simp [ingestionCodes])
  | ingestFailure evidence =>
    cases hop
    refine .bind fun _ => .bind fun _ => .bind fun _ => ?_
    dsimp only
    split <;> exact .pure (by simp [ingestionCodes])
  | ingestDependency observation =>
    cases hop
    exact .bind fun _ => .bind fun _ => .bind fun _ => .bind fun _ => .bind fun _ =>
      .bind fun _ => .bind fun _ => .bind fun _ => .bind fun _ => .bind fun _ => .bind fun _ =>
      .pure (by simp [ingestionCodes])
  | _ => cases hop

/-! ### What an ingestion is refused with -/

section Unfresh

variable {fabric : Fabric} {op : Op}

theorem isFresh_validateDependencies (name : ServiceName) (seen : List ServiceName)
    (specs : List DependencySpec) (hrefused : validateDependencies name seen specs ≠ .ok) :
    (validateDependencies name seen specs).isFresh = false := by
  induction specs generalizing seen with
  | nil => exact absurd rfl hrefused
  | cons spec rest ih =>
    unfold validateDependencies at hrefused ⊢
    by_cases hempty : spec.service.isEmpty
    · rw [if_pos hempty]
      rfl
    rw [if_neg hempty] at hrefused ⊢
    by_cases hself : spec.service = name
    · rw [if_pos hself]
      rfl
    rw [if_neg hself] at hrefused ⊢
    by_cases hseen : spec.service ∈ seen
    · rw [if_pos hseen]
      rfl
    rw [if_neg hseen] at hrefused ⊢
    exact ih _ hrefused

theorem isFresh_validateDescriptor (config : FabricConfig) (descriptor : ServiceDescriptor)
    (hrefused : validateDescriptor config descriptor ≠ .ok) :
    (validateDescriptor config descriptor).isFresh = false := by
  unfold validateDescriptor at hrefused ⊢
  by_cases hempty : descriptor.name.isEmpty || descriptor.scope.isEmpty
  · rw [if_pos hempty]
    rfl
  rw [if_neg hempty] at hrefused ⊢
  by_cases hroom : config.maxDependenciesPerService < descriptor.dependencies.length
  · rw [if_pos hroom]
    rfl
  rw [if_neg hroom] at hrefused ⊢
  exact isFresh_validateDependencies _ _ _ hrefused

theorem unfresh_checkSlot (evidence : CapabilityEvidence) (slot : Option CapabilitySlot) :
    (checkSlot evidence slot).Fails fun refused => refused.code.isFresh = false := by
  unfold checkSlot
  split
  · exact .pure _
  · exact .require rfl fun _ => .require rfl fun _ => .require_last rfl

theorem unfresh_checkWatermark (state : State) (provenance : Provenance) (fingerprint : Digest)
    (texts : WatermarkTexts) (values : Bool) :
    (checkWatermark state provenance fingerprint texts values).Fails
      fun refused => refused.code.isFresh = false := by
  unfold checkWatermark
  dsimp only
  split
  · exact .pure _
  · exact .require rfl fun _ => .require rfl fun _ => .require_last rfl

theorem unfresh_checkFailureEvidence (evidence : FailureEvidence) :
    (fabric.checkFailureEvidence evidence).Fails fun refused => refused.code.isFresh = false := by
  refine .require rfl fun _ => .require rfl fun _ => .demand rfl fun _ _ =>
    .demand rfl fun _ _ => .require rfl fun _ => .bind ?_ fun _ _ =>
    .bind (unfresh_checkWatermark _ _ _ _ _) fun _ _ => .require rfl fun _ =>
    .require rfl fun _ => .require rfl fun _ => .require rfl fun _ =>
    .require rfl fun _ => .require rfl fun _ => ?_
  · exact .require rfl fun _ => .require_last rfl
  · unfold checkEvidenceId
    dsimp only
    split
    · exact .pure _
    split
    · exact .pure _
    · exact .require rfl fun _ => .throw rfl

/-- No ingestion is refused with a fresh acceptance. -/
theorem unfresh_of_ingestion {checked : Check Proposal}
    (hop : fabric.ingestion op = some checked) :
    checked.Fails fun refused => refused.code.isFresh = false := by
  cases op with
  | enrollSource source role =>
    obtain rfl := Option.some.inj hop
    exact .require rfl fun _ => .require rfl fun _ => .require rfl fun _ =>
      .require rfl fun _ => .require rfl fun _ => .demand rfl fun _ _ => .pure _
  | registerService descriptor registrar =>
    obtain rfl := Option.some.inj hop
    exact .require rfl fun _ => .require rfl fun _ =>
      .require_else (isFresh_validateDescriptor _ _) fun _ => .require rfl fun _ =>
      .require rfl fun _ => .require rfl fun _ =>
      .demand rfl fun _ _ => .require rfl fun _ => .pure _
  | registerTarget target registrar =>
    obtain rfl := Option.some.inj hop
    refine .require rfl fun _ => .require rfl fun _ => .require rfl fun _ =>
      .require rfl fun _ => .bind ?_ fun _ _ => .demand rfl fun _ _ => .pure _
    unfold checkAdoption
    dsimp only
    split
    · exact .require rfl fun _ => .require rfl fun _ => .require_last rfl
    · exact .require_last rfl
  | setTopologyGeneration generation reporter =>
    obtain rfl := Option.some.inj hop
    exact .require rfl fun _ => .require rfl fun _ => .require rfl fun _ =>
      .require rfl fun _ => .demand rfl fun _ _ => .pure _
  | setPolicy policy =>
    obtain rfl := Option.some.inj hop
    exact .require rfl fun _ => .require rfl fun _ => .require rfl fun _ =>
      .require rfl fun _ => .require rfl fun _ => .demand rfl fun _ _ => .pure _
  | withdrawService service requester =>
    obtain rfl := Option.some.inj hop
    exact .require rfl fun _ => .require rfl fun _ => .demand rfl fun _ _ =>
      .require rfl fun _ => .demand rfl fun _ _ => .pure _
  | retireTarget target requester =>
    obtain rfl := Option.some.inj hop
    exact .require rfl fun _ => .require rfl fun _ => .demand rfl fun _ _ =>
      .demand rfl fun _ _ => .pure _
  | ingestCapability evidence =>
    obtain rfl := Option.some.inj hop
    exact .require rfl fun _ => .require rfl fun _ => .demand rfl fun _ _ =>
      .require rfl fun _ => .require rfl fun _ => .bind (unfresh_checkSlot _ _) fun _ _ =>
      .require rfl fun _ => .demand rfl fun _ _ => .pure _
  | ingestDependency observation =>
    obtain rfl := Option.some.inj hop
    exact .require rfl fun _ => .require rfl fun _ => .demand rfl fun _ _ =>
      .demand rfl fun _ _ => .require rfl fun _ => .require rfl fun _ =>
      .bind (.require rfl fun _ => .require_last rfl) fun _ _ =>
      .bind (unfresh_checkWatermark _ _ _ _ _) fun _ _ => .require rfl fun _ =>
      .require rfl fun _ => .demand rfl fun _ _ => .pure _
  | ingestFailure evidence =>
    obtain rfl := Option.some.inj hop
    refine .bind (unfresh_checkFailureEvidence evidence) fun _ _ => .demand rfl fun _ _ =>
      .bind ?_ fun _ _ => ?_
    · unfold assignEvidenceId
      split
      · exact .pure _
      · exact .require rfl fun _ => .pure _
    · dsimp only
      split <;> exact .pure _
  | _ => cases hop

end Unfresh

/-! ### What a call proposes to commit -/

/-- The change that a call commits when its checks have passed, and what it makes of the
memory. Moves and promotions have checks of their own. -/
inductive Proposes (fabric : Fabric) : Op → Change → (State → State) → Prop where
  | ingestion {op : Op} {proposal : Proposal} :
      fabric.ingestion op = some (.ok proposal) →
      Proposes fabric op proposal.change proposal.update
  | denial {resolution : AmbiguityResolution} {runtime : ServiceRuntime}
      {evidence : FailureEvidence} {stamp : LogicalTick} :
      fabric.opened → fabric.state.services.find? resolution.service = some runtime →
      fabric.checkResolution resolution runtime = .ok (evidence, stamp) →
      resolution.confirmFailure = false →
      Proposes fabric (.resolveAmbiguity resolution)
        (.runtimeChanged .ambiguityResolved
          { service := resolution.service, runtime := deniedRuntime runtime stamp })
        fun state => (rewritten resolution.service (deniedRuntime runtime stamp) stamp state).bump
          .ambiguityResolved
  | acknowledgement {ack : IntentAck} {entry : ServiceName × ServiceRuntime}
      {stamp : LogicalTick} :
      fabric.opened → serviceOfAttempt fabric.state ack.attempt = some entry →
      fabric.checkAcknowledgement ack entry.2 = .ok stamp →
      Proposes fabric (.acknowledgeIntent ack)
        (.runtimeChanged .attemptAcknowledged
          { service := entry.2.descriptor.name
            runtime := acknowledgedRuntime entry.2 ack stamp })
        (rewritten entry.2.descriptor.name (acknowledgedRuntime entry.2 ack stamp) stamp)
  | effect {report : EffectReport} {runtime next : ServiceRuntime} {outcome : Reason}
      {stamp : LogicalTick} :
      fabric.opened → fabric.state.services.find? report.service = some runtime →
      fabric.checkReport report runtime = .ok () → alreadySeen report runtime = false →
      fabric.checkEffect report runtime = .ok (next, outcome, stamp) →
      Proposes fabric (.reportEffect report)
        (.runtimeChanged .effectRecorded { service := report.service, runtime := next })
        fun state => (rewritten report.service next stamp state).bumpAll
          (effectCounters report next)

section Remarks

variable {fabric : Fabric} {runtime : ServiceRuntime}

theorem nothing_checkAcknowledgement (ack : IntentAck) :
    (fabric.checkAcknowledgement ack runtime).Fails fun refused => refused.remark = .nothing :=
  .require rfl fun _ => .require rfl fun _ => .require rfl fun _ => .demand rfl fun _ _ =>
  .require rfl fun _ => .demand_last rfl

theorem nothing_checkReport (report : EffectReport) :
    (fabric.checkReport report runtime).Fails fun refused => refused.remark = .nothing :=
  .require rfl fun _ => .require rfl fun _ => .require rfl fun _ => .require rfl fun _ =>
  .require rfl fun _ => .require rfl fun _ => .require rfl fun _ => .require rfl fun _ =>
  .require rfl fun _ => .demand rfl fun _ _ => .require rfl fun _ => .require_last rfl

/-- The evidence that a failover cites is retained and ambiguous. -/
def CitesAmbiguous (state : State) (request : FailoverRequest) : Prop :=
  request.trigger = .failureEvidence ∧
    ∃ evidence, state.failures.find? request.evidence = some evidence ∧
      evidence.ambiguity ≠ .unambiguous

end Remarks

/-- The requests that change something although they are answered with a refusal. -/
inductive Leaves (fabric : Fabric) : Op → Prop where
  /-- An open starts the process over before it can refuse. -/
  | reopening : fabric.opened = false → Leaves fabric .openFabric
  /-- Ambiguous evidence suspends the service, in memory. -/
  | suspension {request : FailoverRequest} :
      CitesAmbiguous fabric.state request → Leaves fabric (.requestFailover request)
  /-- A confirmation makes the promotion durable before the failover is decided. -/
  | promotion {resolution : AmbiguityResolution} {runtime : ServiceRuntime}
      {evidence : FailureEvidence} {stamp : LogicalTick} :
      fabric.state.services.find? resolution.service = some runtime →
      fabric.checkResolution resolution runtime = .ok (evidence, stamp) →
      resolution.confirmFailure = true → Leaves fabric (.resolveAmbiguity resolution)
  /-- An executor that turns its intent down is recorded. -/
  | executorRefusal {ack : IntentAck} {entry : ServiceName × ServiceRuntime}
      {stamp : LogicalTick} :
      serviceOfAttempt fabric.state ack.attempt = some entry →
      fabric.checkAcknowledgement ack entry.2 = .ok stamp → ack.accepted = false →
      Leaves fabric (.acknowledgeIntent ack)
  /-- An effect is recorded before it is known to be accepted. -/
  | effect {report : EffectReport} {runtime next : ServiceRuntime} {outcome : Reason}
      {stamp : LogicalTick} :
      fabric.state.services.find? report.service = some runtime →
      fabric.checkReport report runtime = .ok () → alreadySeen report runtime = false →
      fabric.checkEffect report runtime = .ok (next, outcome, stamp) →
      report.result = .negative ∨ next.recovery = .none ∨ outcome.isAccept = false →
      Leaves fabric (.reportEffect report)
  /-- The change was committed, but the rotation that was due failed. -/
  | uncompacted {op : Op} {change : Change} {update : State → State} {code : Reason} :
      fabric.Proposes op change update →
      (fabric.transact change update).1 = .uncompacted code → Leaves fabric op

end Fabric

/-- The decision is no acceptance, or its outcome is none. -/
def RecoveryDecision.refuses (decision : RecoveryDecision) : Bool :=
  !(decision.accepted && decision.outcome.isAccept)

namespace Fabric

section Refusals

variable {fabric : Fabric} {op : Op}

/-- A refused ingestion changes no registry. -/
theorem ingest_spares_of_error {service : ServiceName} {subject : Bytes}
    {checked : Check Proposal} {refused : Refusal} (herror : checked = .error refused) :
    fabric.Spares (fabric.ingest service subject checked).2 := by
  subst herror
  exact (spares_of_state fabric (State.registries_bumpAll _ _)).trans
    (spares_recordExplanation _ _)

/-- An ingestion that is answered with a refusal changed nothing, or could not rotate the
journal after its commit. -/
theorem ingest_spares {service : ServiceName} {subject : Bytes} {checked : Check Proposal}
    (hop : fabric.ingestion op = some checked)
    (hcode : (fabric.ingest service subject checked).1.1.isAccept = false) :
    fabric.Leaves op ∨ fabric.Spares (fabric.ingest service subject checked).2 := by
  cases checked with
  | error refused => exact Or.inr (ingest_spares_of_error rfl)
  | ok proposal =>
    rcases htransact : fabric.transact proposal.change proposal.update with ⟨progress, durable⟩
    cases progress with
    | refused code =>
      right
      simp only [ingest, htransact]
      exact (transact_spares htransact).trans (spares_recordExplanation _ _)
    | uncompacted code => exact Or.inl (.uncompacted (.ingestion hop) (by rw [htransact]))
    | done =>
      simp only [ingest, htransact] at hcode
      rw [isAccept_ingestionCodes _ (yields_ingestion hop proposal rfl)] at hcode
      cases hcode

end Refusals

/-! ### Decisions that turn their request down -/

section Decisions

variable {fabric : Fabric} {service : ServiceName} {key : RequestKey}

end Decisions

/-! ### Calls -/

/-- The reply turns its request down. -/
def Reply.refuses : Reply → Bool
  | .code reason => !reason.isAccept
  | .explained reason _ => !reason.isAccept
  | .decided decision => decision.refuses
  | .intent _ => false

section Calls

variable {fabric : Fabric} {op : Op}

end Calls

end Fabric

/-! ### Refusals of the small fleet -/

namespace Fleet

/-- The operator settles a suspicion, one way or the other. -/
def settle (key evidence : UInt64) (confirmFailure : Bool) : Op :=
  .resolveAmbiguity
    { key := ⟨key⟩, service, evidence := ⟨evidence⟩, confirmFailure, resolvedBy := operator }

/-- The operator reports a positive effect of the first attempt. -/
def effect (kind : EffectKind) : Op :=
  .reportEffect
    { service, attempt := ⟨1⟩, generation := ⟨1⟩, fence := ⟨1⟩, target := booted primary 1, kind
      provenance := { source := operator, epoch := ⟨1⟩, boot := ⟨1⟩ } }

end Fleet

end OffloadFabric
