import OffloadFabric.Acceptance
import OffloadFabric.Refusals
import OffloadFabric.Selection

/-!
What a call says of itself. Every call records one explanation and answers with it. The
explanation of a decision carries the code and the acceptance of the decision, and the two
agree unless the decision repeats an acknowledgement, takes a doubtful effect for accepted,
or was remembered from such an answer. The explanation of an ingestion never carries its code.
-/
namespace OffloadFabric

open Fabric (Op)

/-- A call that started from the log answers with the explanation it records, and the
explanation has its code and its acceptance. -/
structure Recounts (log : ExplanationLog) (code : Reason) (accepted : Bool)
    (explanation : Explanation) (fabric : Fabric) : Prop where
  recorded : fabric.explanations = log.record explanation
  outcome : explanation.outcome = code
  accepted : explanation.accepted = accepted

/-- The decision is an acceptance exactly when its code is. -/
def RecoveryDecision.Agrees (decision : RecoveryDecision) : Prop :=
  decision.accepted = decision.outcome.isAccept

/-- The explanation of a decision says what the decision says. -/
def Told (log : ExplanationLog) (answer : RecoveryDecision × Fabric) : Prop :=
  Recounts log answer.1.outcome answer.1.accepted answer.1.explanation answer.2

namespace Fabric

/-- The explanation of a call agrees with what its caller is told, and the acceptance with the
code. An answer without a decision is accepted when its code is one of acceptance. -/
def Candid (fabric : Fabric) (op : Op) : Prop :=
  match fabric.call op with
  | (.explained code explanation, fabric') =>
    Recounts fabric.explanations code code.isAccept explanation fabric'
  | (.decided decision, fabric') => Told fabric.explanations (decision, fabric') ∧ decision.Agrees
  | _ => True

/-- The key that the answer to a call is remembered under. -/
def Op.key? : Op → Option RequestKey
  | .establishPlacement request => some request.key
  | .requestFailover request => some request.key
  | .resumeRecovery request => some request.key
  | .resolveAmbiguity resolution => some resolution.key
  | .requestFailback request => some request.key
  | _ => none

/-- A positive effect that is recorded as accepted against its code, or with a code of
acceptance against what it says: health without continuity, or a state transfer for a service
that has no recovery. -/
inductive Doubtful (state : State) (runtime : ServiceRuntime) : EffectKind → Prop where
  | discontinuous : runtime.descriptor.statefulness ≠ .stateless →
      runtime.stateTransferVerified = false → state.policy.allowDegradedContinuity = false →
      Doubtful state runtime .serviceHealthy
  | unrecovered : runtime.recovery = .none → Doubtful state runtime .stateTransferComplete

/-- The current attempt that is acknowledged was acknowledged before. -/
def Repeats (ack : IntentAck) (runtime : ServiceRuntime) : Prop :=
  ack.generation = runtime.generation ∧ ack.fence = runtime.fence ∧
    ∃ attempt, runtime.currentAttemptRecord = some attempt ∧ attempt.acknowledged = true

/-- The calls whose explanation disagrees with their answer. -/
inductive Misstates (fabric : Fabric) : Op → Prop where
  /-- An ingestion is explained as ok, whatever it is answered with. -/
  | ingestion {op : Op} {checked : Check Proposal} :
      fabric.ingestion op = some checked → Misstates fabric op
  /-- A repeated acknowledgement is refused with a code of acceptance. -/
  | repetition {ack : IntentAck} {entry : ServiceName × ServiceRuntime} :
      fabric.opened → serviceOfAttempt fabric.state ack.attempt = some entry →
      Repeats ack entry.2 → Misstates fabric (.acknowledgeIntent ack)
  | effect {report : EffectReport} {runtime next : ServiceRuntime} {outcome : Reason}
      {stamp : LogicalTick} :
      fabric.opened → fabric.state.services.find? report.service = some runtime →
      fabric.checkReport report runtime = .ok () → alreadySeen report runtime = false →
      fabric.checkEffect report runtime = .ok (next, outcome, stamp) →
      report.result = .positive → Doubtful fabric.state runtime report.kind →
      (fabric.transact
        (.runtimeChanged .effectRecorded { service := report.service, runtime := next })
        fun state => (rewritten report.service next stamp state).bumpAll
          (effectCounters report next)).1 = .done →
      Misstates fabric (.reportEffect report)
  /-- The answer that is remembered for the key is of that kind. -/
  | remembered {op : Op} {key : RequestKey} {entry : RequestCacheEntry} :
      op.key? = some key → fabric.state.cached key = some entry →
      entry.accepted ≠ entry.outcome.isAccept → Misstates fabric op

/-! ### What is recorded -/

section Recorded

variable {fabric : Fabric} {log : ExplanationLog}

theorem explanations_commitRecovery {move : Move} {result : CommitResult} {fabric' : Fabric}
    (h : commitRecovery fabric move = (result, fabric')) :
    fabric'.explanations = fabric.explanations := by
  unfold commitRecovery at h
  split at h
  · cases h
    rfl
  · dsimp only at h
    split at h
    all_goals
      rename_i htransact
      have hlog := (transact_sameSession htransact).explanations
      cases h
      exact hlog

theorem told_refusal (hlog : fabric.explanations = log) (explanation : Explanation)
    (code : Reason) (subject : Bytes) (detail : String) (value : UInt64) :
    Told log (fabric.refusal explanation code subject detail value) := by
  subst hlog
  constructor
  · unfold refusal
    dsimp only
    split <;> rfl
  · rfl
  · rfl

theorem told_refuse (hlog : fabric.explanations = log) (explanation : Explanation)
    (service : ServiceName) (refused : Refusal) :
    Told log (fabric.refuse explanation service refused) := by
  unfold refuse
  exact told_refusal (by exact hlog) _ _ _ _ _

theorem told_accept (hlog : fabric.explanations = log) {decision : RecoveryDecision}
    (houtcome : decision.explanation.outcome = decision.outcome)
    (haccepted : decision.explanation.accepted = decision.accepted) :
    Told log (fabric.accept decision) := by
  subst hlog
  exact ⟨rfl, houtcome, haccepted⟩

theorem told_replayCached (hlog : fabric.explanations = log) (entry : RequestCacheEntry)
    (service : ServiceName) (key : RequestKey) :
    Told log (fabric.replayCached entry service key) := by
  subst hlog
  exact ⟨rfl, rfl, rfl⟩

theorem told_keyed (hlog : fabric.explanations = log) {service : ServiceName} {key : RequestKey}
    {decide : Fabric → RecoveryDecision × Fabric}
    (h : ∀ actor, actor.explanations = log → Told log (decide actor)) :
    Told log (fabric.keyed service key decide) := by
  unfold keyed
  split
  · exact told_replayCached hlog _ _ _
  dsimp only
  split
  · exact told_refusal (by exact hlog) _ _ _ _ _
  · have htold := fun cancels => h { fabric with cancels } hlog
    exact ⟨(htold _).recorded, (htold _).outcome, (htold _).accepted⟩

theorem told_decided (hlog : fabric.explanations = log) {service : ServiceName}
    {key : RequestKey} {decide : Explanation → RecoveryDecision × Fabric}
    (h : ∀ explanation, Told log (decide explanation)) :
    Told log (fabric.decided service key decide) := by
  unfold decided
  split
  · exact told_refusal hlog _ _ _ _ _
  split
  · exact told_replayCached hlog _ _ _
  · exact h _

theorem told_concludeCommit (hlog : fabric.explanations = log) (explanation : Explanation)
    (qualified : Qualified) (closing : Closing) :
    Told log (fabric.concludeCommit explanation qualified closing) := by
  unfold concludeCommit
  rcases hcommit : commitRecovery { fabric with state := fabric.state.bumpAll qualified.counters }
    qualified.move with ⟨result, durable⟩
  have hdurable : durable.explanations = log := (explanations_commitRecovery hcommit).trans hlog
  simp only [hcommit]
  split
  · have htold := told_refuse hdurable (explanation.notes (qualified.notes ++ result.notes))
      qualified.move.service
    split
    · exact ⟨(htold _).recorded, (htold _).outcome, (htold _).accepted⟩
    · exact htold _
  · exact told_accept (by exact hdurable) rfl rfl

theorem told_decideMove (hlog : fabric.explanations = log) (service : ServiceName)
    (key : RequestKey) (check : ServiceRuntime → Check Qualified) (closing : Closing) :
    Told log (fabric.decideMove service key check closing) := by
  refine told_decided hlog fun explanation => ?_
  split
  · exact told_refusal hlog _ _ _ _ _
  split
  · exact told_refuse hlog _ _ _
  · exact told_concludeCommit hlog _ _ _

theorem told_doRequestFailover (hlog : fabric.explanations = log) (request : FailoverRequest)
    (resume : Bool) : Told log (fabric.doRequestFailover request resume) := by
  unfold doRequestFailover
  split <;> exact told_decideMove hlog _ _ _ _

theorem told_denyAmbiguity (hlog : fabric.explanations = log) (explanation : Explanation)
    (resolution : AmbiguityResolution) (runtime : ServiceRuntime) (stamp : LogicalTick) :
    Told log (fabric.denyAmbiguity explanation resolution runtime stamp) := by
  unfold denyAmbiguity
  dsimp only
  split
  all_goals
    rename_i htransact
    have hdurable := (transact_sameSession htransact).explanations.trans hlog
  · exact told_refusal hdurable _ _ _ _ _
  · exact told_refusal hdurable _ _ _ _ _
  · exact told_accept hdurable rfl rfl

/-- The explanation of a confirmed ambiguity is that of the failover it asks for. -/
theorem told_confirmAmbiguity (hlog : fabric.explanations = log) (explanation : Explanation)
    (resolution : AmbiguityResolution) (evidence : FailureEvidence) (stamp : LogicalTick) :
    Told log (fabric.confirmAmbiguity explanation resolution evidence stamp) := by
  have hpersist := sameSession_persist fabric [(Change.failureIngested (promoted evidence)).record]
  unfold confirmAmbiguity
  dsimp only
  split
  all_goals
    rename_i hresult
    rw [hresult] at hpersist
    have hdurable := hpersist.explanations.trans hlog
  · exact told_doRequestFailover (by exact hdurable) _ _
  · exact told_refusal hdurable _ _ _ _ _

theorem told_doResolveAmbiguity (hlog : fabric.explanations = log)
    (resolution : AmbiguityResolution) : Told log (fabric.doResolveAmbiguity resolution) := by
  refine told_decided hlog fun explanation => ?_
  split
  · exact told_refusal hlog _ _ _ _ _
  split
  · exact told_refuse hlog _ _ _
  split
  · exact told_confirmAmbiguity hlog _ _ _ _
  · exact told_denyAmbiguity hlog _ _ _ _

theorem told_doAcknowledgeIntent (hlog : fabric.explanations = log) (ack : IntentAck) :
    Told log (fabric.doAcknowledgeIntent ack) := by
  unfold doAcknowledgeIntent
  dsimp only
  split
  · exact told_refusal hlog _ _ _ _ _
  split
  · exact told_refusal hlog _ _ _ _ _
  split
  · exact told_refuse hlog _ _ _
  split
  all_goals
    rename_i htransact
    have hdurable := (transact_sameSession htransact).explanations.trans hlog
  · exact told_refusal hdurable _ _ _ _ _
  · exact told_refusal hdurable _ _ _ _ _
  · exact told_accept hdurable rfl rfl

theorem told_recordEffect (hlog : fabric.explanations = log) (explanation : Explanation)
    (report : EffectReport) (next : ServiceRuntime) (outcome : Reason) (stamp : LogicalTick) :
    Told log (fabric.recordEffect explanation report next outcome stamp) := by
  unfold recordEffect
  dsimp only
  split
  all_goals
    rename_i htransact
    have hdurable := (transact_sameSession htransact).explanations.trans hlog
  · exact told_refuse hdurable _ _ _
  · exact told_refuse hdurable _ _ _
  · refine told_accept hdurable ?_ ?_
    all_goals
      dsimp only
      split <;> split <;> rfl

theorem told_doReportEffect (hlog : fabric.explanations = log) (report : EffectReport) :
    Told log (fabric.doReportEffect report) := by
  unfold doReportEffect
  dsimp only
  split
  · exact told_refusal hlog _ _ _ _ _
  split
  · exact told_refusal hlog _ _ _ _ _
  split
  · exact told_refuse hlog _ _ _
  split
  · exact told_accept (by exact hlog) rfl rfl
  split
  · exact told_refuse hlog _ _ _
  · exact told_recordEffect hlog _ _ _ _ _

end Recorded

/-! ### Codes of refusals -/

section Codes

variable {fabric fabric' : Fabric} {state : State} {runtime : ServiceRuntime}

/-- A code that is ok, or else none of acceptance. -/
def Plain (code : Reason) : Prop := code ≠ .ok → code.isAccept = false

/-- A code that is ok, or else one of refusal on other grounds than missing evidence. -/
def Incidental (code : Reason) : Prop := code ≠ .ok → code.isIncidental = true

theorem Incidental.ok : Incidental .ok := fun hok => absurd rfl hok

theorem Incidental.refusal {code : Reason} (h : code.isIncidental = true) : Incidental code :=
  fun _ => h

theorem Incidental.plain {code : Reason} (h : Incidental code) : Plain code :=
  fun hcode => Reason.isAccept_of_isIncidental (h hcode)

theorem Incidental.ite {cond : Prop} [Decidable cond] {code code' : Reason} (h : Incidental code)
    (h' : Incidental code') : Incidental (if cond then code else code') := by
  split
  · exact h
  · exact h'

theorem incidental_compact (store : Store) (snapshot : Bytes) :
    Incidental (store.compact snapshot).1 := by
  unfold Store.compact
  rw [apply_ite Prod.fst, apply_ite Prod.fst, apply_ite Prod.fst]
  dsimp only
  exact .ite (.refusal rfl) (.ite (.refusal rfl) (.ite (.refusal rfl) .ok))

theorem incidental_rotateIfDue (fabric : Fabric) : Incidental fabric.rotateIfDue.1 := by
  unfold rotateIfDue maybeCompact
  split
  · exact Incidental.ok
  split
  · split
    · exact Incidental.ok
    split
    · show Incidental .oversized
      exact .refusal rfl
    · exact incidental_compact _ _
  · exact Incidental.ok

theorem incidental_persist (fabric : Fabric) (records : List Record) :
    Incidental (fabric.persist records).1 := fun hcode => isIncidental_of_persist rfl hcode

/-- A transaction that does not go through is refused, and not for want of evidence. -/
theorem isIncidental_of_transact {change : Change} {update : State → State} {progress : Progress}
    (h : fabric.transact change update = (progress, fabric')) (code : Reason)
    (hcode : progress = .refused code ∨ progress = .uncompacted code) :
    code.isIncidental = true := by
  have hpersist := incidental_persist fabric [change.record]
  rcases hresult : fabric.persist [change.record] with ⟨written, durable⟩
  rw [hresult] at hpersist
  have hrotate := incidental_rotateIfDue { durable with state := update durable.state }
  simp only [transact, hresult] at h
  split at h
  · rename_i hwritten
    cases h
    rcases hcode with hcode | hcode <;> cases hcode
    exact hpersist hwritten
  split at h
  · rename_i hrotated
    cases h
    rcases hcode with hcode | hcode <;> cases hcode
    exact hrotate hrotated
  · cases h
    rcases hcode with hcode | hcode <;> cases hcode

theorem isAccept_of_transact {change : Change} {update : State → State} {progress : Progress}
    (h : fabric.transact change update = (progress, fabric')) (code : Reason)
    (hcode : progress = .refused code ∨ progress = .uncompacted code) :
    code.isAccept = false :=
  Reason.isAccept_of_isIncidental (isIncidental_of_transact h code hcode)

theorem incidental_begin (registry : CancelRegistry) (key : RequestKey) (capacity : Nat) :
    Incidental (registry.begin key capacity).1 := by
  unfold CancelRegistry.begin
  rw [apply_ite Prod.fst]
  refine .ite .ok ?_
  dsimp only
  rw [apply_ite Prod.fst, apply_ite Prod.fst]
  dsimp only
  exact .ite (.refusal rfl) (.ite (.refusal rfl) .ok)

theorem isIncidental_of_commitRecovery {move : Move} {result : CommitResult}
    (h : commitRecovery fabric move = (result, fabric')) (hcode : result.code ≠ .ok) :
    result.code.isIncidental = true := by
  unfold commitRecovery at h
  split at h
  · rename_i refused hrefused
    cases h
    exact incidental_prepare fabric move refused hrefused
  · dsimp only at h
    split at h
    · rename_i htransact
      cases h
      exact isIncidental_of_transact htransact _ (Or.inl rfl)
    all_goals
      cases h
      exact absurd rfl hcode

theorem incidental_evaluateCandidate (state : State) (runtime : ServiceRuntime)
    (record : TargetRecord) : Incidental (evaluateCandidate state runtime record) := by
  refine .ite (.refusal rfl) (.ite (.refusal rfl) (.ite (.refusal rfl) ?_))
  split
  · exact .refusal rfl
  · exact .ite (.refusal rfl) (.ite (.refusal rfl) (.ite (.refusal rfl) (.ite (.refusal rfl)
      (.ite (.refusal rfl) .ok))))

theorem incidental_judge (owner : ServiceName) (spec : DependencySpec) :
    Incidental (DependencyWalk.judge state owner spec) := by
  unfold DependencyWalk.judge
  split
  · exact .refusal rfl
  · exact .refusal rfl
  · exact .ite (.refusal rfl) (.ite (.refusal rfl) (.ite (.refusal rfl) (.ite (.refusal rfl)
      (.ite (.refusal rfl) (.ite (.refusal rfl) .ok)))))

theorem incidental_block {walk : DependencyWalk} (hwalk : Incidental walk.blocking)
    (kind : DependencyKind) {code : Reason} (hcode : Incidental code) :
    Incidental (walk.block kind code).blocking := by
  unfold DependencyWalk.block
  split
  · exact hcode
  · exact hwalk

theorem incidental_edge {walk : DependencyWalk} (hwalk : Incidental walk.blocking) (node : WalkNode)
    (spec : DependencySpec) : Incidental (DependencyWalk.edge state node walk spec).blocking := by
  unfold DependencyWalk.edge
  dsimp only
  split
  · exact incidental_block (by exact hwalk) _ (.refusal rfl)
  split
  · split <;> exact hwalk
  · refine incidental_block ?_ _ (incidental_judge _ _)
    split <;> exact hwalk

theorem incidental_expand {walk : DependencyWalk} (hwalk : Incidental walk.blocking)
    (node : WalkNode) :
    Incidental (DependencyWalk.expand state walk node).blocking := by
  unfold DependencyWalk.expand
  split
  · split <;> exact hwalk
  · induction node.descriptor.dependencies generalizing walk with
    | nil => exact hwalk
    | cons spec rest ih => exact ih (incidental_edge hwalk node spec)

theorem incidental_run (fuel : Nat) {walk : DependencyWalk} (hwalk : Incidental walk.blocking) :
    Incidental (DependencyWalk.run state fuel walk).blocking := by
  induction fuel generalizing walk with
  | zero => exact hwalk
  | succ fuel ih =>
    unfold DependencyWalk.run
    split
    · exact hwalk
    · exact ih (incidental_expand (by exact hwalk) _)

theorem incidental_qualifyDependencies (state : State) (runtime : ServiceRuntime) :
    Incidental (qualifyDependencies state runtime).blocking :=
  incidental_run _ .ok

theorem isIncidental_firstEligible {entries : List Candidate} {rejections found : List Reason}
    {notes : List ExplanationStep} (hrejections : ∀ code ∈ rejections, code.isIncidental = true)
    (h : (firstEligible state runtime entries rejections notes).1 = .error found) :
    ∀ code ∈ found, code.isIncidental = true := by
  induction entries generalizing rejections notes with
  | nil =>
    cases h
    exact hrejections
  | cons candidate rest ih =>
    simp only [firstEligible] at h
    split_ifs at h with hok
    refine ih ?_ h
    intro code hcode
    rcases List.mem_append.mp hcode with hcode | hcode
    · exact hrejections code hcode
    · obtain rfl := List.mem_singleton.mp hcode
      exact incidental_evaluateCandidate state runtime candidate.record hok

theorem isIncidental_selectFallback {config : FabricConfig} {failed : TargetRef} {code : Reason}
    (h : (selectFallback config state runtime failed).chosen = .error code) :
    code.isIncidental = true := by
  simp only [selectFallback] at h
  split at h
  · cases h
  · rename_i found hfound
    cases h
    by_cases hempty : found = []
    · subst hempty
      rfl
    · exact isIncidental_firstEligible (by simp) hfound _ (mem_reportedRejection hempty)

/-- A check whose refusals have no code of acceptance. -/
abbrev Denies {α : Type} (check : Check α) : Prop :=
  check.Fails fun refused => refused.code.accepts = false

theorem Plain.denies {code : Reason} (h : Plain code) (hcode : code ≠ .ok) :
    code.accepts = false := by
  rw [code.accepts_eq]
  exact h hcode

theorem denies_checkPlacement (request : PlacementRequest) :
    Denies (fabric.checkPlacement request runtime) :=
  .require rfl fun _ => .require rfl fun _ => .require rfl fun _ => .demand rfl fun _ _ =>
  .require_else (incidental_evaluateCandidate _ _ _).plain.denies fun _ =>
  .require_else (incidental_qualifyDependencies _ _).plain.denies fun _ => .pure _

theorem denies_checkEvidence (request : FailoverRequest) :
    Denies (checkEvidence state request runtime) :=
  .require rfl fun _ => .require rfl fun _ => .demand rfl fun _ _ => .require rfl fun _ =>
  .demand rfl fun _ _ => .require rfl fun _ => .require rfl fun _ => .require rfl fun _ =>
  .require rfl fun _ => .require rfl fun _ => .require rfl fun _ => .require rfl fun _ =>
  .require rfl fun _ => .pure _

theorem denies_checkTrigger (request : FailoverRequest) :
    Denies (checkTrigger state request runtime) := by
  unfold checkTrigger
  split
  · exact .bind (denies_checkEvidence request) fun _ _ => .pure _
  · exact .require rfl fun _ => .require rfl fun _ => .pure _

theorem denies_checkFailover (request : FailoverRequest) :
    Denies (fabric.checkFailover request runtime) := by
  refine .require rfl fun _ => .require rfl fun _ => .require rfl fun _ =>
    .bind (denies_checkTrigger request) fun _ _ => .require rfl fun _ =>
    .require_else (incidental_qualifyDependencies _ _).plain.denies fun _ => ?_
  dsimp only
  split
  · rename_i hchosen
    refine .throw ?_
    rw [Reason.accepts_eq]
    exact Reason.isAccept_of_isIncidental (isIncidental_selectFallback hchosen)
  · exact .pure _

theorem denies_checkResume (request : FailoverRequest) :
    Denies (fabric.checkResume request runtime) :=
  .require rfl fun _ => .require rfl fun _ => .require rfl fun _ => .demand rfl fun _ _ =>
  .demand rfl fun _ _ => .require rfl fun _ =>
  .require_else (incidental_evaluateCandidate _ _ _).plain.denies fun _ => .pure _

theorem denies_checkFailback (request : FailbackRequest) :
    Denies (fabric.checkFailback request runtime) :=
  .require rfl fun _ => .require rfl fun _ => .require rfl fun _ => .require rfl fun _ =>
  .require rfl fun _ => .demand rfl fun _ _ => .require rfl fun _ => .demand rfl fun _ _ =>
  .require rfl fun _ => .require rfl fun _ => .require rfl fun _ => .require rfl fun _ =>
  .require_else (incidental_qualifyDependencies _ _).plain.denies fun _ => .pure _

theorem denies_checkResolution (resolution : AmbiguityResolution) :
    Denies (fabric.checkResolution resolution runtime) :=
  .require rfl fun _ => .require rfl fun _ => .require rfl fun _ => .demand rfl fun _ _ =>
  .demand rfl fun _ _ => .pure _

theorem denies_checkReport (report : EffectReport) :
    Denies (fabric.checkReport report runtime) :=
  .require rfl fun _ => .require rfl fun _ => .require rfl fun _ => .require rfl fun _ =>
  .require rfl fun _ => .require rfl fun _ => .require rfl fun _ => .require rfl fun _ =>
  .require rfl fun _ => .demand rfl fun _ _ => .require rfl fun _ => .require_last rfl

theorem denies_applyEffect (report : EffectReport) (stamp : LogicalTick) :
    Denies (fabric.applyEffect report runtime stamp) := by
  unfold applyEffect
  split
  · exact .pure _
  · exact .pure _
  · exact .pure _
  · exact .require rfl fun _ => .pure _
  · exact .require rfl fun _ => .pure _

theorem denies_checkEffect (report : EffectReport) :
    Denies (fabric.checkEffect report runtime) :=
  .require rfl fun _ => .demand rfl fun _ _ => .bind (denies_applyEffect report _) fun _ _ =>
  .require rfl fun _ => .pure _

/-- Only the refusal of a repeated acknowledgement has a code of acceptance. -/
theorem repeats_checkAcknowledgement (ack : IntentAck) :
    (fabric.checkAcknowledgement ack runtime).Fails
      fun refused => refused.code.accepts = true ↔ Repeats ack runtime := by
  refine .require_else (fun hgeneration => ?_) fun hgeneration => .require_else (fun hle => ?_)
    fun hle => .require_else (fun hge => ?_) fun hge => .demand_else (fun hmissing => ?_)
    fun attempt hattempt => .require_else (fun hack => ?_) fun hack => .demand_last ?_
  · exact iff_of_false nofun fun h => hgeneration h.1
  · exact iff_of_false nofun fun h => hle h.2.1.ge
  · exact iff_of_false nofun fun h => hge h.2.1.le
  · refine iff_of_false nofun ?_
    rintro ⟨-, -, attempt, hattempt, -⟩
    cases hmissing.symm.trans hattempt
  · refine iff_of_true rfl ⟨hgeneration, le_antisymm hge hle, attempt, hattempt, ?_⟩
    simpa using hack
  · refine iff_of_false nofun ?_
    rintro ⟨-, -, found, hfound, hrepeated⟩
    cases hattempt.symm.trans hfound
    rw [hack] at hrepeated
    cases hrepeated

end Codes

/-! ### What is decided -/

section Agreement

variable {fabric : Fabric}

theorem agrees_refusal {code : Reason} (h : code.isAccept = false) (explanation : Explanation)
    (subject : Bytes) (detail : String) (value : UInt64) :
    (fabric.refusal explanation code subject detail value).1.Agrees := h.symm

theorem agrees_refuse {refused : Refusal} (h : refused.code.accepts = false)
    (explanation : Explanation) (service : ServiceName) :
    (fabric.refuse explanation service refused).1.Agrees := by
  rw [Reason.accepts_eq] at h
  exact h.symm

theorem agrees_concludeCommit {closing : Closing} (hcloses : closing.outcome.isAccept = true)
    (explanation : Explanation) (qualified : Qualified) :
    (fabric.concludeCommit explanation qualified closing).1.Agrees := by
  unfold concludeCommit
  rcases hcommit : commitRecovery { fabric with state := fabric.state.bumpAll qualified.counters }
    qualified.move with ⟨result, durable⟩
  simp only [hcommit]
  split
  · rename_i hcode
    have hdenied :=
      Reason.isAccept_of_isIncidental (isIncidental_of_commitRecovery hcommit hcode)
    split <;> exact hdenied.symm
  · exact hcloses.symm

theorem agrees_decided {service : ServiceName} {key : RequestKey}
    {decide : Explanation → RecoveryDecision × Fabric} (hnew : fabric.state.cached key = none)
    (h : ∀ explanation, (decide explanation).1.Agrees) :
    (fabric.decided service key decide).1.Agrees := by
  unfold decided
  split
  · exact agrees_refusal rfl _ _ _ _
  · simp only [hnew]
    exact h _

theorem agrees_decideMove {service : ServiceName} {key : RequestKey}
    {check : ServiceRuntime → Check Qualified} {closing : Closing}
    (hcloses : closing.outcome.isAccept = true) (hdenies : ∀ runtime, Denies (check runtime))
    (hnew : fabric.state.cached key = none) :
    (fabric.decideMove service key check closing).1.Agrees := by
  refine agrees_decided hnew fun explanation => ?_
  split
  · exact agrees_refusal rfl _ _ _ _
  split
  · rename_i refused hrefused
    exact agrees_refuse (hdenies _ refused hrefused) _ _
  · exact agrees_concludeCommit hcloses _ _

theorem agrees_doRequestFailover {request : FailoverRequest}
    (hnew : fabric.state.cached request.key = none) (resume : Bool) :
    (fabric.doRequestFailover request resume).1.Agrees := by
  unfold doRequestFailover
  split
  · exact agrees_decideMove rfl (fun _ => denies_checkResume request) hnew
  · exact agrees_decideMove rfl (fun _ => denies_checkFailover request) hnew

theorem agrees_denyAmbiguity (explanation : Explanation) (resolution : AmbiguityResolution)
    (runtime : ServiceRuntime) (stamp : LogicalTick) :
    (fabric.denyAmbiguity explanation resolution runtime stamp).1.Agrees := by
  unfold denyAmbiguity
  dsimp only
  split
  · rename_i htransact
    exact agrees_refusal (isAccept_of_transact htransact _ (Or.inl rfl)) _ _ _ _
  · rename_i htransact
    exact agrees_refusal (isAccept_of_transact htransact _ (Or.inr rfl)) _ _ _ _
  · show true = Reason.acceptAmbiguityResolvedNoFailover.isAccept
    rfl

theorem requestCache_persist (fabric : Fabric) (records : List Record) :
    (fabric.persist records).2.state.requestCache = fabric.state.requestCache := by
  unfold persist
  split
  · rfl
  · dsimp only
    split <;> rfl

theorem requestCache_promotedState (service : ServiceName) (record : FailureEvidence)
    (stamp : LogicalTick) (state : State) :
    (promotedState service record stamp state).requestCache = state.requestCache := by
  unfold promotedState State.modifyService
  dsimp only
  split <;> rfl

/-- The promotion of evidence decides no key. -/
theorem agrees_confirmAmbiguity {resolution : AmbiguityResolution}
    (hnew : fabric.state.cached resolution.key = none) (explanation : Explanation)
    (evidence : FailureEvidence) (stamp : LogicalTick) :
    (fabric.confirmAmbiguity explanation resolution evidence stamp).1.Agrees := by
  have hcache := requestCache_persist fabric [(Change.failureIngested (promoted evidence)).record]
  have hplain :=
    (incidental_persist fabric [(Change.failureIngested (promoted evidence)).record]).plain
  unfold confirmAmbiguity
  dsimp only
  split
  · rename_i durable hresult
    rw [hresult] at hcache
    refine agrees_doRequestFailover ?_ false
    unfold State.cached at hnew ⊢
    rw [requestCache_promotedState, hcache]
    exact hnew
  · rename_i hcode hresult
    rw [hresult] at hplain
    exact agrees_refusal (hplain hcode) _ _ _ _

theorem agrees_doResolveAmbiguity {resolution : AmbiguityResolution}
    (hnew : fabric.state.cached resolution.key = none) :
    (fabric.doResolveAmbiguity resolution).1.Agrees := by
  refine agrees_decided hnew fun explanation => ?_
  split
  · exact agrees_refusal rfl _ _ _ _
  split
  · rename_i refused hrefused
    exact agrees_refuse (denies_checkResolution resolution refused hrefused) _ _
  split
  · exact agrees_confirmAmbiguity hnew _ _ _
  · exact agrees_denyAmbiguity _ _ _ _

/-- A keyed request agrees with itself unless its remembered answer does not. -/
theorem agrees_keyed {service : ServiceName} {key : RequestKey}
    {decide : Fabric → RecoveryDecision × Fabric}
    (h : ∀ actor : Fabric, actor.state.cached key = none → (decide actor).1.Agrees) :
    (fabric.keyed service key decide).1.Agrees ↔
      ∀ entry, fabric.state.cached key = some entry →
        entry.accepted = entry.outcome.isAccept := by
  have hnew := fun cancels => h { fabric with cancels }
  unfold keyed
  cases hcached : fabric.state.cached key with
  | some entry =>
    constructor
    · intro hagrees other hother
      cases hother
      exact hagrees
    · intro hentry
      exact hentry entry rfl
  | none =>
    refine iff_of_true ?_ (by simp)
    dsimp only
    split
    · rename_i hregistered
      exact agrees_refusal ((incidental_begin _ _ _).plain hregistered) _ _ _ _
    · exact hnew _ hcached

theorem agrees_doAcknowledgeIntent (ack : IntentAck) :
    (fabric.doAcknowledgeIntent ack).1.Agrees ↔ ¬fabric.Misstates (.acknowledgeIntent ack) := by
  have hstates : fabric.Misstates (.acknowledgeIntent ack) ↔ fabric.opened = true ∧ ∃ entry,
      serviceOfAttempt fabric.state ack.attempt = some entry ∧ Repeats ack entry.2 := by
    constructor
    · intro h
      cases h with
      | ingestion hop => cases hop
      | remembered hkey => cases hkey
      | repetition hopened hentry hrepeats => exact ⟨hopened, _, hentry, hrepeats⟩
    · rintro ⟨hopened, entry, hentry, hrepeats⟩
      exact .repetition hopened hentry hrepeats
  rw [hstates]
  unfold doAcknowledgeIntent
  dsimp only
  split
  · rename_i hclosed
    refine iff_of_true (agrees_refusal rfl _ _ _ _) ?_
    simp only [Bool.not_eq_true'] at hclosed
    simp [hclosed]
  rename_i hopened
  split
  · rename_i hnone
    refine iff_of_true (agrees_refusal rfl _ _ _ _) ?_
    simp [hnone]
  rename_i name runtime hentry
  simp only [Bool.not_eq_true, Bool.not_eq_false'] at hopened
  simp only [hopened, hentry, Option.some.injEq, exists_eq_left', true_and]
  split
  · rename_i refused hrefused
    have hcode : refused.code.accepts = true ↔ Repeats ack runtime :=
      repeats_checkAcknowledgement ack refused hrefused
    rw [← hcode, Reason.accepts_eq]
    show false = refused.code.isAccept ↔ _
    cases refused.code.isAccept <;> simp
  · rename_i stamp hstamp
    refine iff_of_true ?_ ?_
    · split
      · rename_i htransact
        exact agrees_refusal (isAccept_of_transact htransact _ (Or.inl rfl)) _ _ _ _
      · rename_i htransact
        exact agrees_refusal (isAccept_of_transact htransact _ (Or.inr rfl)) _ _ _ _
      · show ack.accepted = (if ack.accepted then Reason.acceptIntentEmitted
          else Reason.transitionRefused).isAccept
        cases ack.accepted <;> rfl
    · rintro ⟨-, -, attempt, hattempt, hack⟩
      obtain ⟨-, -, ⟨found, hfound, hfresh⟩, -⟩ := checkAcknowledgement_ok hstamp
      cases hattempt.symm.trans hfound
      rw [hack] at hfresh
      cases hfresh

/-- The acceptance of a recorded effect differs from its code only for a doubtful report. -/
theorem doubtful_of_applyEffect {report : EffectReport} {runtime next : ServiceRuntime}
    {outcome : Reason} {stamp : LogicalTick}
    (h : fabric.applyEffect report runtime stamp = .ok (next, outcome)) :
    (report.result ≠ .negative && next.recovery ≠ .none) = outcome.isAccept ↔
      ¬(report.result = .positive ∧ Doubtful fabric.state runtime report.kind) := by
  unfold applyEffect at h
  dsimp only at h
  split at h
  · rename_i hresult
    cases check_pure_ok.mp h
    simp [hresult]
    rfl
  · rename_i hresult hkind
    cases check_pure_ok.mp h
    rw [hresult, hkind]
    refine iff_of_true rfl ?_
    rintro ⟨-, ⟨⟩⟩
  · rename_i hresult hkind
    cases check_pure_ok.mp h
    rw [hresult, hkind]
    refine iff_of_true rfl ?_
    rintro ⟨-, ⟨⟩⟩
  · rename_i hresult hkind
    obtain ⟨-, h⟩ := require_bind_ok.mp h
    cases check_pure_ok.mp h
    rw [hresult, hkind]
    show (true && decide (runtime.recovery ≠ .none)) = true ↔ _
    by_cases hrecovery : runtime.recovery = .none
    · refine iff_of_false (by simp [hrecovery]) (not_not.mpr ⟨rfl, .unrecovered hrecovery⟩)
    · refine iff_of_true (by simp [hrecovery]) ?_
      rintro ⟨-, hdoubtful⟩
      cases hdoubtful with
      | unrecovered hnone => exact hrecovery hnone
  · rename_i hresult hkind
    obtain ⟨-, h⟩ := require_bind_ok.mp h
    cases check_pure_ok.mp h
    rw [hresult, hkind]
    show true = (continuityClaim fabric.state runtime).2.isAccept ↔ _
    unfold continuityClaim
    split
    · rename_i hcontinuous
      refine iff_of_true rfl ?_
      rintro ⟨-, hdoubtful⟩
      cases hdoubtful with
      | discontinuous hstateful htransfer =>
        rcases hcontinuous with hstateless | hverified
        · exact hstateful hstateless
        · rw [htransfer] at hverified
          cases hverified
    rename_i hcontinuous
    obtain ⟨hstateful, htransfer⟩ := not_or.mp hcontinuous
    split
    · rename_i hdegraded
      refine iff_of_true rfl ?_
      rintro ⟨-, hdoubtful⟩
      cases hdoubtful with
      | discontinuous _ _ hdenied =>
        rw [hdenied] at hdegraded
        cases hdegraded
    · rename_i hdegraded
      refine iff_of_false nofun (not_not.mpr ⟨rfl, .discontinuous hstateful ?_ ?_⟩)
      · simpa using htransfer
      · simpa using hdegraded

theorem agrees_recordEffect (explanation : Explanation) (report : EffectReport)
    (next : ServiceRuntime) (outcome : Reason) (stamp : LogicalTick) :
    (fabric.recordEffect explanation report next outcome stamp).1.Agrees ↔
      ((fabric.transact
        (.runtimeChanged .effectRecorded { service := report.service, runtime := next })
        fun state => (rewritten report.service next stamp state).bumpAll
          (effectCounters report next)).1 = .done →
        (report.result ≠ .negative && next.recovery ≠ .none) = outcome.isAccept) := by
  unfold recordEffect
  dsimp only
  split
  all_goals
    rename_i htransact
    rw [htransact]
  · refine iff_of_true (agrees_refuse ?_ _ _) fun hdone => by cases hdone
    rw [Reason.accepts_eq]
    exact isAccept_of_transact htransact _ (Or.inl rfl)
  · refine iff_of_true (agrees_refuse ?_ _ _) fun hdone => by cases hdone
    rw [Reason.accepts_eq]
    exact isAccept_of_transact htransact _ (Or.inr rfl)
  · exact ⟨fun h _ => h, fun h => h rfl⟩

theorem Misstates.reported {report : EffectReport} (h : fabric.Misstates (.reportEffect report)) :
    fabric.opened = true ∧ ∃ runtime next outcome stamp,
      fabric.state.services.find? report.service = some runtime ∧
      fabric.checkReport report runtime = .ok () ∧ alreadySeen report runtime = false ∧
      fabric.checkEffect report runtime = .ok (next, outcome, stamp) ∧
      (report.result = .positive ∧ Doubtful fabric.state runtime report.kind) ∧
      (fabric.transact
        (.runtimeChanged .effectRecorded { service := report.service, runtime := next })
        fun state => (rewritten report.service next stamp state).bumpAll
          (effectCounters report next)).1 = .done := by
  cases h with
  | ingestion hop => cases hop
  | remembered hkey => cases hkey
  | effect hopened hfind hcheck hunseen heffect hresult hdoubtful hdone =>
    exact ⟨hopened, _, _, _, _, hfind, hcheck, hunseen, heffect, ⟨hresult, hdoubtful⟩,
      hdone⟩

theorem agrees_doReportEffect (report : EffectReport) :
    (fabric.doReportEffect report).1.Agrees ↔ ¬fabric.Misstates (.reportEffect report) := by
  unfold doReportEffect
  dsimp only
  split
  · rename_i hclosed
    refine iff_of_true (agrees_refusal rfl _ _ _ _) fun h => ?_
    simp [h.reported.1] at hclosed
  rename_i hopened
  split
  · rename_i hnone
    refine iff_of_true (agrees_refusal rfl _ _ _ _) fun h => ?_
    obtain ⟨-, runtime, _, _, _, hfind, -⟩ := h.reported
    cases hnone.symm.trans hfind
  rename_i runtime hfind
  split
  · rename_i refused hrefused
    refine iff_of_true (agrees_refuse (denies_checkReport report refused hrefused) _ _) fun h => ?_
    obtain ⟨-, found, _, _, _, hfound, hcheck, -⟩ := h.reported
    cases hfind.symm.trans hfound
    cases hrefused.symm.trans hcheck
  rename_i hcheck
  split
  · rename_i hseen
    refine iff_of_true ?_ fun h => ?_
    · show true = Reason.acceptDuplicateIdempotent.isAccept
      rfl
    · obtain ⟨-, found, _, _, _, hfound, -, hunseen, -⟩ := h.reported
      cases hfind.symm.trans hfound
      rw [hseen] at hunseen
      cases hunseen
  rename_i hunseen
  split
  · rename_i refused hrefused
    refine iff_of_true (agrees_refuse (denies_checkEffect report refused hrefused) _ _) fun h => ?_
    obtain ⟨-, found, _, _, _, hfound, -, -, heffect, -⟩ := h.reported
    cases hfind.symm.trans hfound
    cases hrefused.symm.trans heffect
  · rename_i next outcome stamp heffect
    obtain ⟨-, -, happly⟩ := checkEffect_ok heffect
    rw [agrees_recordEffect, doubtful_of_applyEffect happly]
    constructor
    · intro hsafe h
      obtain ⟨-, found, _, _, _, hfound, -, -, heffect', hdoubtful, hdone⟩ := h.reported
      cases hfind.symm.trans hfound
      cases heffect.symm.trans heffect'
      exact hsafe hdone hdoubtful
    · rintro hclear hdone ⟨hresult, hdoubtful⟩
      exact hclear (.effect (by simpa using hopened) hfind hcheck (by simpa using hunseen) heffect
        hresult hdoubtful hdone)

end Agreement

/-! ### Ingestions -/

section Ingestions

variable {fabric : Fabric} {op : Op}

/-- No ingestion is refused with ok. -/
theorem answered_of_ingestion {checked : Check Proposal}
    (hop : fabric.ingestion op = some checked) :
    checked.Fails fun refused => refused.code ≠ .ok := by
  intro refused herror hok
  have hfresh : refused.code.isFresh = false := unfresh_of_ingestion hop refused herror
  rw [hok] at hfresh
  cases hfresh

theorem ne_ok_of_isAccept {code : Reason} (h : code.isAccept = false) : code ≠ .ok := by
  rintro rfl
  cases h

/-- The explanation of an ingestion is left at ok, whatever it is answered with. -/
theorem outcome_ingest {service : ServiceName} {subject : Bytes} {checked : Check Proposal}
    (hanswered : checked.Fails fun refused => refused.code ≠ .ok)
    (hyields : checked.Yields fun proposal => proposal.code ∈ ingestionCodes) :
    (fabric.ingest service subject checked).1.2.outcome = .ok ∧
      (fabric.ingest service subject checked).1.1 ≠ .ok := by
  unfold ingest
  dsimp only
  split
  · exact ⟨rfl, hanswered _ rfl⟩
  rename_i proposal
  split
  · rename_i htransact
    exact ⟨rfl, ne_ok_of_isAccept (isAccept_of_transact htransact _ (Or.inl rfl))⟩
  · rename_i htransact
    exact ⟨rfl, ne_ok_of_isAccept (isAccept_of_transact htransact _ (Or.inr rfl))⟩
  · have hcodes : ∀ code ∈ ingestionCodes, code ≠ .ok := by decide
    exact ⟨rfl, hcodes _ (hyields proposal rfl)⟩

/-- No ingestion is explained as it is answered. -/
theorem not_candid_ingestion {checked : Check Proposal}
    (hop : fabric.entered.ingestion op = some checked) : ¬fabric.Candid op := by
  obtain ⟨service, subject, hcall⟩ := dispatch_ingestion hop
  change fabric.call op = _ at hcall
  obtain ⟨houtcome, hcode⟩ := @outcome_ingest fabric.entered service subject checked
    (answered_of_ingestion hop) (yields_ingestion hop)
  unfold Candid
  rw [hcall]
  rintro ⟨-, hsame, -⟩
  exact hcode (hsame.symm.trans houtcome)

end Ingestions

/-! ### Calls -/

section Calls

variable {fabric : Fabric} {op : Op}

theorem candid_decided {answer : RecoveryDecision × Fabric}
    (hcall : fabric.call op = replyDecided answer) (htold : Told fabric.explanations answer) :
    fabric.Candid op ↔ answer.1.Agrees := by
  unfold Candid
  rw [hcall]
  exact and_iff_right htold

theorem candid_cancel (key : RequestKey) : fabric.Candid (.cancel key) := by
  have hcode : (fabric.cancels.cancel key).1.isAccept = false := by
    rw [← Reason.accepts_eq]
    unfold CancelRegistry.cancel
    split <;> rfl
  show Recounts fabric.explanations (fabric.entered.cancel key).1.1
    (fabric.entered.cancel key).1.1.isAccept (fabric.entered.cancel key).1.2
    (fabric.entered.cancel key).2
  unfold cancel
  dsimp only
  rw [show (fabric.entered.cancels.cancel key).1.isAccept = false from hcode]
  constructor
  · split
    · rfl
    split <;> rfl
  · rfl
  · rfl

/-- A keyed request misstates only what was remembered. -/
theorem candid_keyed {service : ServiceName} {key : RequestKey}
    {decide : Fabric → RecoveryDecision × Fabric}
    (hcall : fabric.call op = replyDecided (fabric.entered.keyed service key decide))
    (hkey : op.key? = some key) (hingestion : fabric.entered.ingestion op = none)
    (htold : ∀ actor, actor.explanations = fabric.explanations →
      Told fabric.explanations (decide actor))
    (hagrees : ∀ actor : Fabric, actor.state.cached key = none → (decide actor).1.Agrees) :
    fabric.Candid op ↔ ¬fabric.entered.Misstates op := by
  have hlog : fabric.entered.explanations = fabric.explanations := rfl
  rw [candid_decided hcall (told_keyed hlog htold), agrees_keyed hagrees]
  constructor
  · intro hentry h
    cases h with
    | ingestion hop => cases hingestion.symm.trans hop
    | repetition | effect => cases hkey
    | remembered hkey' hcached hdiffers =>
      cases hkey.symm.trans hkey'
      exact hdiffers (hentry _ hcached)
  · intro h entry hcached
    by_contra hdiffers
    exact h (.remembered hkey hcached hdiffers)

/-- The explanation of a call agrees with its answer exactly when the call is no ingestion,
repeats no acknowledgement and no such answer, and records no doubtful effect. -/
theorem candid_iff (fabric : Fabric) (op : Op) :
    fabric.Candid op ↔ ¬fabric.entered.Misstates op := by
  cases op with
  | enrollSource | registerService | registerTarget | setTopologyGeneration | setPolicy
  | withdrawService | retireTarget | ingestCapability | ingestFailure | ingestDependency =>
    exact iff_of_false (not_candid_ingestion rfl) (not_not.mpr (.ingestion rfl))
  | establishPlacement request =>
    exact candid_keyed rfl rfl rfl (fun _ hlog => told_decideMove hlog _ _ _ _) fun _ hnew =>
      agrees_decideMove rfl (fun _ => denies_checkPlacement request) hnew
  | requestFailover request =>
    exact candid_keyed rfl rfl rfl (fun _ hlog => told_doRequestFailover hlog _ _) fun _ hnew =>
      agrees_doRequestFailover hnew false
  | resumeRecovery request =>
    exact candid_keyed rfl rfl rfl (fun _ hlog => told_doRequestFailover hlog _ _) fun _ hnew =>
      agrees_doRequestFailover hnew true
  | resolveAmbiguity resolution =>
    exact candid_keyed rfl rfl rfl (fun _ hlog => told_doResolveAmbiguity hlog _) fun _ hnew =>
      agrees_doResolveAmbiguity hnew
  | requestFailback request =>
    exact candid_keyed rfl rfl rfl (fun _ hlog => told_decideMove hlog _ _ _ _) fun _ hnew =>
      agrees_decideMove rfl (fun _ => denies_checkFailback request) hnew
  | acknowledgeIntent ack =>
    have htold : Told fabric.explanations (fabric.entered.doAcknowledgeIntent ack) :=
      @told_doAcknowledgeIntent fabric.entered _ rfl ack
    rw [candid_decided rfl htold, agrees_doAcknowledgeIntent]
  | reportEffect report =>
    have htold : Told fabric.explanations (fabric.entered.doReportEffect report) :=
      @told_doReportEffect fabric.entered _ rfl report
    rw [candid_decided rfl htold, agrees_doReportEffect]
  | cancel key =>
    refine iff_of_true (candid_cancel key) ?_
    intro h
    cases h with
    | ingestion hop => cases hop
    | remembered hkey => cases hkey
  | openFabric | closeFabric | takeIntent | waitForIntent =>
    refine iff_of_true trivial ?_
    intro h
    cases h with
    | ingestion hop => cases hop
    | remembered hkey => cases hkey

/-- A source without a name is turned down, and explained as accepted. -/
theorem not_candid_enrollSource : Reachable {} (Fleet.running [.openFabric]) ∧
    ¬(Fleet.running [.openFabric]).Candid (.enrollSource .nil .operator) :=
  ⟨Fleet.reachable_running _, not_candid_ingestion rfl⟩

end Calls

end Fabric

end OffloadFabric
