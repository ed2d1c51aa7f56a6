import OffloadFabric.Evolution
import OffloadFabric.Lifecycle
import OffloadFabric.MoveChecks

/-!
What every public call may commit, and why. A call on an open runtime evolves it by
commits that the checks of the call allowed; a decision is accepted, and not merely
repeated, exactly when its move was committed.
-/
namespace OffloadFabric

/-! ### Refusals of a commit -/

/-- Whatever the commit is refused with has the property. -/
def CommitCheck.Fails {α : Type} (P : CommitRefusal → Prop) (check : CommitCheck α) : Prop :=
  ∀ refused, check = .error refused → P refused

/-- A refused commit says why. -/
def CommitCheck.Explained {α : Type} (check : CommitCheck α) : Prop :=
  ∀ refused, check = .error refused → refused.code ≠ .ok

namespace CommitCheck.Fails

variable {α β : Type} {P : CommitRefusal → Prop}

theorem pure (a : α) : Fails P (Pure.pure a : CommitCheck α) := fun _ herror => by cases herror

theorem bind {check : CommitCheck α} {f : α → CommitCheck β} (h : Fails P check)
    (hf : ∀ a, Fails P (f a)) : Fails P (check >>= f) := by
  intro refused herror
  cases hcheck : check with
  | error first =>
    rw [hcheck] at herror
    cases herror
    exact h refused hcheck
  | ok a =>
    rw [hcheck] at herror
    exact hf a refused herror

theorem allow {cond : Prop} [Decidable cond] {refusal : CommitRefusal} (h : P refusal) :
    Fails P (OffloadFabric.allow cond refusal) := by
  intro refused herror
  unfold OffloadFabric.allow at herror
  split at herror <;> cases herror
  exact h

theorem obtainOr {value : Option α} {code : Reason} (h : P { code }) :
    Fails P (OffloadFabric.obtainOr value code) := by
  intro refused herror
  unfold OffloadFabric.obtainOr at herror
  split at herror <;> cases herror
  exact h

end CommitCheck.Fails

/-- No commit is refused with a code of acceptance, nor for want of evidence. -/
theorem incidental_checkCancellation (fabric : Fabric) (key : RequestKey) :
    (checkCancellation fabric key).Fails fun refused => refused.code.isIncidental = true := by
  intro refused herror
  unfold checkCancellation at herror
  split at herror
  · cases herror
  split at herror <;> cases herror <;> rfl

theorem incidental_prepare (fabric : Fabric) (move : Move) :
    (prepare fabric move).Fails fun refused => refused.code.isIncidental = true := by
  have hmint : (mint fabric move).Fails fun refused => refused.code.isIncidental = true :=
    .bind (.obtainOr rfl) fun _ => .bind (incidental_checkCancellation _ _) fun _ =>
    .bind (.obtainOr rfl) fun _ => .bind (.obtainOr rfl) fun _ =>
    .bind (.obtainOr rfl) fun _ => .bind (.allow rfl) fun _ =>
    .bind (.allow rfl) fun _ => .bind (.allow rfl) fun _ => .pure _
  have hsteps : Reason.planStepLimitReached.isIncidental = true := rfl
  have hsize : Reason.oversized.isIncidental = true := rfl
  exact .bind hmint fun _ => .bind (.allow hsteps) fun _ => .bind (.allow hsize) fun _ => .pure _

theorem CommitCheck.Explained.prepare (fabric : Fabric) (move : Move) :
    Explained (OffloadFabric.prepare fabric move) := by
  intro refused herror hok
  have hdenied : refused.code.isAccept = false :=
    Reason.isAccept_of_isIncidental (incidental_prepare fabric move refused herror)
  rw [hok] at hdenied
  cases hdenied

/-! ### Refusals of a check -/

/-- Whatever the check refuses with has the property. -/
def Check.Fails {α : Type} (P : Refusal → Prop) (check : Check α) : Prop :=
  ∀ refused, check = .error refused → P refused

namespace Check.Fails

variable {α β : Type} {P : Refusal → Prop}

theorem pure (a : α) : Fails P (Pure.pure a : Check α) := fun _ herror => by
  cases herror

theorem throw {refusal : Refusal} (h : P refusal) : Fails P (throw refusal : Check α) := by
  intro refused herror
  cases herror
  exact h

theorem require_else {cond : Prop} [Decidable cond] {refusal : Refusal} {f : Unit → Check α}
    (h : ¬cond → P refusal) (hf : cond → Fails P (f ())) :
    Fails P (OffloadFabric.require cond refusal >>= f) := by
  intro refused herror
  by_cases hcond : cond
  · rw [OffloadFabric.require, if_pos hcond] at herror
    exact hf hcond refused herror
  · rw [OffloadFabric.require, if_neg hcond] at herror
    cases herror
    exact h hcond

theorem require {cond : Prop} [Decidable cond] {refusal : Refusal} {f : Unit → Check α}
    (h : P refusal) (hf : cond → Fails P (f ())) :
    Fails P (OffloadFabric.require cond refusal >>= f) :=
  require_else (fun _ => h) hf

theorem require_last {cond : Prop} [Decidable cond] {refusal : Refusal} (h : P refusal) :
    Fails P (OffloadFabric.require cond refusal) := by
  intro refused herror
  unfold OffloadFabric.require at herror
  split at herror <;> cases herror
  exact h

theorem demand_else {value : Option β} {refusal : Refusal} {f : β → Check α}
    (h : value = none → P refusal) (hf : ∀ b, value = some b → Fails P (f b)) :
    Fails P (OffloadFabric.demand value refusal >>= f) := by
  intro refused herror
  cases value with
  | none =>
    cases herror
    exact h rfl
  | some b => exact hf b rfl refused herror

theorem demand {value : Option β} {refusal : Refusal} {f : β → Check α} (h : P refusal)
    (hf : ∀ b, value = some b → Fails P (f b)) :
    Fails P (OffloadFabric.demand value refusal >>= f) :=
  demand_else (fun _ => h) hf

theorem demand_last {value : Option α} {refusal : Refusal} (h : P refusal) :
    Fails P (OffloadFabric.demand value refusal) := by
  intro refused herror
  cases value with
  | none =>
    cases herror
    exact h
  | some a => cases herror

theorem bind {check : Check β} {f : β → Check α} (h : Fails P check)
    (hf : ∀ b, check = .ok b → Fails P (f b)) : Fails P (check >>= f) := by
  intro refused herror
  cases hcheck : check with
  | error first =>
    rw [hcheck] at herror
    cases herror
    exact h refused hcheck
  | ok b =>
    rw [hcheck] at herror
    exact hf b hcheck refused herror

end Check.Fails

/-- Whatever a failed check writes into the service may be written there. -/
abbrev Check.Admits {α : Type} (state : State) (service : ServiceName) (check : Check α) : Prop :=
  check.Fails fun refused => refused.remark.Admitted state service

namespace Fabric

section Admitted

variable {fabric : Fabric} {state : State} {service : ServiceName}

theorem admits_checkPlacement (request : PlacementRequest) (runtime : ServiceRuntime) :
    Check.Admits state service (fabric.checkPlacement request runtime) :=
  .require trivial fun _ => .require trivial fun _ => .require trivial fun _ =>
  .demand trivial fun _ _ => .require trivial fun _ => .require trivial fun _ => .pure _

theorem admits_checkResume (request : FailoverRequest) (runtime : ServiceRuntime) :
    Check.Admits state service (fabric.checkResume request runtime) :=
  .require trivial fun _ => .require trivial fun _ => .require trivial fun _ =>
  .demand trivial fun _ _ => .demand trivial fun _ _ => .require trivial fun _ =>
  .require trivial fun _ => .pure _

theorem admits_checkFailback (request : FailbackRequest) (runtime : ServiceRuntime) :
    Check.Admits state service (fabric.checkFailback request runtime) :=
  .require trivial fun _ => .require trivial fun _ => .require trivial fun _ =>
  .require trivial fun _ => .require trivial fun _ => .demand trivial fun _ _ =>
  .require trivial fun _ => .demand trivial fun _ _ => .require trivial fun _ =>
  .require trivial fun _ => .require trivial fun _ => .require trivial fun _ =>
  .require trivial fun _ => .pure _

/-- Only the ambiguity of retained evidence suspends a service. -/
theorem admits_checkEvidence {request : FailoverRequest} {runtime : ServiceRuntime}
    (hfind : state.services.find? request.service = some runtime)
    (hlifecycle : runtime.lifecycle ≠ .withdrawn) :
    Check.Admits state request.service (checkEvidence state request runtime) := by
  refine .require trivial fun _ => .require trivial fun _ => .demand trivial
    fun evidence hevidence => .require trivial fun hservice => .demand trivial fun _ _ =>
    .require trivial fun _ => .require trivial fun _ => .require trivial fun _ =>
    .require trivial fun _ => .require trivial fun _ => .require trivial fun _ =>
    .require trivial fun _ => ?_
  by_cases hambiguity : evidence.ambiguity = .unambiguous
  · intro refused herror
    rw [OffloadFabric.require, if_pos hambiguity] at herror
    cases herror
  · exact .require ⟨runtime, _, evidence, hfind, hlifecycle, hevidence, rfl, hservice, hambiguity⟩
      fun _ => .pure _

theorem admits_checkFailover {request : FailoverRequest} {runtime : ServiceRuntime}
    (hfind : fabric.state.services.find? request.service = some runtime) :
    Check.Admits fabric.state request.service (fabric.checkFailover request runtime) := by
  refine .require trivial fun hlifecycle => .require trivial fun _ => .require trivial fun _ =>
    .bind ?_ fun evidence _ => .require trivial fun _ => .require trivial fun _ => ?_
  · unfold checkTrigger
    split
    · exact .bind (admits_checkEvidence hfind hlifecycle) fun _ _ => .pure _
    · exact .require trivial fun _ => .require trivial fun _ => .pure _
  · dsimp only
    split
    · exact .throw trivial
    · exact .pure _

end Admitted

/-! ### Moves -/

/-- The commit carries out the move, and the decision reports it. -/
inductive Moves (fabric : Fabric) (move : Move) (decision : RecoveryDecision) : Commit → Prop where
  | intro {prior : Fabric} {grant : Grant} {pushed : Bool} {before : State} :
      fabric.Keeps prior → prepare prior move = .ok grant →
      State.Keeps prior.config prior.state before →
      decision.accepted = true → decision.duplicate = false →
      decision.plan = move.plan grant prior.config prior.state →
      decision.intent = some (move.intent grant prior.state) →
      Moves fabric move decision
        { before, change := move.change grant prior.config prior.state
          after := move.update grant prior.config prior.state pushed before }

/-- A decision about a move turned it down, repeated an earlier answer, or is that of
the one commit that was made. -/
inductive Decides (fabric : Fabric) (service : ServiceName)
    (check : ServiceRuntime → Check Qualified) (decision : RecoveryDecision) :
    List Commit → Prop where
  | turnedDown : (decision.accepted = true → decision.duplicate = true) →
      Decides fabric service check decision []
  | moved {runtime : ServiceRuntime} {qualified : Qualified} {commit : Commit} :
      fabric.opened → fabric.state.services.find? service = some runtime →
      check runtime = .ok qualified → fabric.Moves qualified.move decision commit →
      Decides fabric service check decision [commit]

section Moves

variable {fabric fabric' : Fabric} {move : Move} {result : CommitResult}

theorem commitRecovery_evolves (hopened : fabric.opened)
    (h : commitRecovery fabric move = (result, fabric')) :
    (result.code ≠ .ok ∧ fabric.Keeps fabric') ∨
    result.code = .ok ∧ ∃ grant pushed before, prepare fabric move = .ok grant ∧
      State.Keeps fabric.config fabric.state before ∧
      result.plan = move.plan grant fabric.config fabric.state ∧
      result.intent = some (move.intent grant fabric.state) ∧
      fabric.Evolves
        [{ before, change := move.change grant fabric.config fabric.state
           after := move.update grant fabric.config fabric.state pushed before }] fabric' := by
  unfold commitRecovery at h
  cases hprepare : prepare fabric move with
  | error refused =>
    simp only [hprepare] at h
    cases h
    exact Or.inl ⟨CommitCheck.Explained.prepare fabric move refused hprepare,
      keeps_of_state _ (State.keeps_bumpAll _ _ _)⟩
  | ok grant =>
    simp only [hprepare] at h
    rcases htransact : fabric.transact (move.change grant fabric.config fabric.state)
      (move.update grant fabric.config fabric.state fabric.intents.accepts) with
      ⟨progress, durable⟩
    rw [htransact] at h
    rcases transact_evolves hopened htransact with
      ⟨code, hcode, rfl, hkeeps⟩ | ⟨hdone, before, hbefore, -, hevolves⟩
    · cases h
      exact Or.inl ⟨hcode, hkeeps⟩
    · have hsame : ∀ intents cancels, durable.Keeps { durable with intents, cancels } :=
        fun _ _ => ⟨⟨rfl, rfl, rfl, rfl, rfl⟩, State.Keeps.refl _ _⟩
      cases progress with
      | refused code => exact absurd rfl (hdone code)
      | uncompacted code =>
        cases h
        exact Or.inr ⟨rfl, grant, _, before, rfl, hbefore, rfl, rfl,
          hevolves.then_keeps (hsame _ _)⟩
      | done =>
        cases h
        exact Or.inr ⟨rfl, grant, _, before, rfl, hbefore, rfl, rfl,
          hevolves.then_keeps (hsame _ _)⟩

theorem concludeCommit_evolves {explanation : Explanation} {qualified : Qualified}
    {closing : Closing} {decision : RecoveryDecision} (hopened : fabric.opened)
    (hsettle : ∀ state service, closing.settle.Admitted state service)
    (h : fabric.concludeCommit explanation qualified closing = (decision, fabric')) :
    (decision.accepted = false ∧ fabric.Keeps fabric') ∨
    ∃ commit, fabric.Moves qualified.move decision commit ∧ fabric.Evolves [commit] fabric' := by
  unfold concludeCommit at h
  have hcounted : fabric.Keeps
      { fabric with state := fabric.state.bumpAll qualified.counters } :=
    keeps_of_state _ (State.keeps_bumpAll _ _ _)
  rcases hcommit : commitRecovery { fabric with state := fabric.state.bumpAll qualified.counters }
    qualified.move with ⟨result, durable⟩
  simp only [hcommit] at h
  rcases commitRecovery_evolves (by exact hopened) hcommit with
    ⟨hcode, hkeeps⟩ | ⟨hcode, grant, pushed, before, hprepare, hbefore, hplan, hintent, hevolves⟩
  · rw [if_pos hcode] at h
    refine Or.inl ⟨?_, ?_⟩
    · split at h <;> cases h <;> rfl
    · have hadmitted : Remark.Admitted durable.state qualified.move.service
          (if closing.annotates then .reason result.code else .nothing) := by
        split <;> trivial
      split at h <;> cases h <;>
        exact (hcounted.trans hkeeps).trans (keeps_refuse _ _ hadmitted)
  · rw [if_neg (not_not.mpr hcode)] at h
    have hsettled := durable.keeps_of_state
      ((State.Upkeep.annotate qualified.move.service _ (hsettle _ _)).keeps.trans
        (State.keeps_bumpAll _ _ closing.accepted))
    cases h
    exact Or.inr ⟨_, .intro hcounted hprepare hbefore rfl rfl hplan hintent,
      (Evolves.after_keeps hcounted hevolves).then_keeps (hsettled.trans (keeps_accept _ _))⟩

/-- A decision starts from the answer of an earlier one, or from its own explanation. -/
theorem decided_cases {service : ServiceName} {key : RequestKey}
    {decide : Explanation → RecoveryDecision × Fabric} {decision : RecoveryDecision}
    (h : fabric.decided service key decide = (decision, fabric')) :
    ((decision.accepted = true → decision.duplicate = true) ∧ fabric.Keeps fabric') ∨
    fabric.opened ∧ decide (fabric.beginExplanation service key) = (decision, fabric') := by
  unfold decided at h
  split at h
  · cases h
    exact Or.inl ⟨nofun, keeps_refusal _ _ _ _ _ _⟩
  rename_i hopened
  split at h
  · cases h
    exact Or.inl ⟨fun _ => rfl, keeps_replayCached _ _ _ _⟩
  · exact Or.inr ⟨by simpa using hopened, h⟩

theorem decideMove_evolves {service : ServiceName} {key : RequestKey}
    {check : ServiceRuntime → Check Qualified} {closing : Closing} {decision : RecoveryDecision}
    (hsettle : ∀ state service, closing.settle.Admitted state service)
    (hadmits : ∀ runtime, fabric.state.services.find? service = some runtime →
      Check.Admits fabric.state service (check runtime))
    (h : fabric.decideMove service key check closing = (decision, fabric')) :
    ∃ commits, fabric.Decides service check decision commits ∧
      fabric.Evolves commits fabric' := by
  rcases decided_cases h with ⟨hdecision, hkeeps⟩ | ⟨hopened, h⟩
  · exact ⟨[], .turnedDown hdecision, .keeps hkeeps⟩
  split at h
  · cases h
    exact ⟨[], .turnedDown nofun, .keeps (keeps_refusal _ _ _ _ _ _)⟩
  rename_i runtime hfind
  split at h
  · rename_i refused hrefused
    cases h
    exact ⟨[], .turnedDown nofun,
      .keeps (keeps_refuse _ _ (hadmits runtime hfind refused hrefused))⟩
  rename_i qualified hcheck
  rcases concludeCommit_evolves hopened hsettle h with
    ⟨hrefused, hkeeps⟩ | ⟨commit, hmoves, hevolves⟩
  · exact ⟨[], .turnedDown (by simp [hrefused]), .keeps hkeeps⟩
  · exact ⟨[commit], .moved hopened hfind hcheck hmoves, hevolves⟩

end Moves

/-! ### Keyed requests -/

/-- A keyed request is answered from the cache, refused as a delivery, or decided by a
runtime that only differs in its cancellations. -/
theorem keyed_cases {fabric fabric' : Fabric} {service : ServiceName} {key : RequestKey}
    {decide : Fabric → RecoveryDecision × Fabric} {decision : RecoveryDecision}
    (h : fabric.keyed service key decide = (decision, fabric')) :
    ((decision.accepted = true → decision.duplicate = true) ∧ fabric.Keeps fabric') ∨
    ∃ cancels decided, decide { fabric with cancels } = (decision, decided) ∧
      decided.Keeps fabric' := by
  unfold keyed at h
  split at h
  · cases h
    exact Or.inl ⟨fun _ => rfl, keeps_replayCached _ _ _ _⟩
  split at h
  rename_i registered cancels hbegin
  have hcancels : fabric.Keeps { fabric with cancels } :=
    ⟨⟨rfl, rfl, rfl, rfl, rfl⟩, State.Keeps.refl _ _⟩
  by_cases hregistered : registered = .ok
  · simp only [hregistered, ne_eq, not_true_eq_false, if_false] at h
    rcases hdecide : decide { fabric with cancels } with ⟨decision', decided⟩
    rw [hdecide] at h
    cases h
    exact Or.inr ⟨cancels, decided, hdecide, ⟨rfl, rfl, rfl, rfl, rfl⟩, State.Keeps.refl _ _⟩
  · simp only [ne_eq, hregistered, not_false_eq_true, if_true] at h
    cases h
    exact Or.inl ⟨nofun, hcancels.trans (keeps_refusal _ _ _ _ _ _)⟩

/-! ### Resolutions, acknowledgements and effects -/

/-- How a resolution of ambiguity ends. A confirmation first promotes the evidence and
then decides a failover in the memory that leaves. -/
inductive Resolves (fabric : Fabric) (resolution : AmbiguityResolution)
    (decision : RecoveryDecision) : List Commit → Prop where
  | turnedDown : (decision.accepted = true → decision.duplicate = true) →
      Resolves fabric resolution decision []
  | denied {runtime : ServiceRuntime} {evidence : FailureEvidence} {stamp : LogicalTick}
      {commit : Commit} :
      fabric.opened → fabric.state.services.find? resolution.service = some runtime →
      fabric.checkResolution resolution runtime = .ok (evidence, stamp) →
      resolution.confirmFailure = false →
      fabric.Writes
        (.runtimeChanged .ambiguityResolved
          { service := resolution.service, runtime := deniedRuntime runtime stamp })
        (fun state => (rewritten resolution.service (deniedRuntime runtime stamp) stamp state).bump
          .ambiguityResolved) commit →
      Resolves fabric resolution decision [commit]
  | confirmed {runtime : ServiceRuntime} {evidence : FailureEvidence} {stamp : LogicalTick}
      {commit : Commit} {middle : Fabric} {commits : List Commit} :
      fabric.opened → fabric.state.services.find? resolution.service = some runtime →
      fabric.checkResolution resolution runtime = .ok (evidence, stamp) →
      resolution.confirmFailure = true →
      fabric.Writes (.failureIngested (promoted evidence))
        (promotedState resolution.service (promoted evidence) stamp) commit →
      middle.config = fabric.config → middle.state = commit.after →
      middle.Decides resolution.service (middle.checkFailover (resolutionRequest resolution))
        decision commits →
      Resolves fabric resolution decision (commit :: commits)

section Reports

variable {fabric fabric' : Fabric} {decision : RecoveryDecision}

theorem doRequestFailover_evolves {request : FailoverRequest}
    (h : fabric.doRequestFailover request false = (decision, fabric')) :
    ∃ commits, fabric.Decides request.service (fabric.checkFailover request) decision commits ∧
      fabric.Evolves commits fabric' :=
  decideMove_evolves (by exact fun _ _ => trivial) (fun _ hfind => admits_checkFailover hfind) h

theorem doResolveAmbiguity_evolves {resolution : AmbiguityResolution}
    (h : fabric.doResolveAmbiguity resolution = (decision, fabric')) :
    ∃ commits, fabric.Resolves resolution decision commits ∧ fabric.Evolves commits fabric' := by
  rcases decided_cases h with ⟨hdecision, hkeeps⟩ | ⟨hopened, h⟩
  · exact ⟨[], .turnedDown hdecision, .keeps hkeeps⟩
  split at h
  · cases h
    exact ⟨[], .turnedDown nofun, .keeps (keeps_refusal _ _ _ _ _ _)⟩
  rename_i runtime hfind
  split at h
  · rename_i refused hrefused
    cases h
    have hadmitted : Check.Admits fabric.state resolution.service
        (fabric.checkResolution resolution runtime) :=
      .require trivial fun _ => .require trivial fun _ => .require trivial fun _ =>
      .demand trivial fun _ _ => .demand trivial fun _ _ => .pure _
    exact ⟨[], .turnedDown nofun, .keeps (keeps_refuse _ _ (hadmitted refused hrefused))⟩
  rename_i evidence stamp hcheck
  by_cases hconfirm : resolution.confirmFailure
  · rw [if_pos hconfirm] at h
    unfold confirmAmbiguity at h
    dsimp only at h
    split at h
    · rename_i durable hpersist
      obtain ⟨hconfig, hdurable, hkeeps⟩ := persist_ok hpersist
      obtain ⟨commits, hdecides, hevolves⟩ := doRequestFailover_evolves h
      have hsame : durable.SameRuntime { durable with
          state := promotedState resolution.service (promoted evidence) stamp durable.state } :=
        ⟨rfl, rfl, rfl, rfl, rfl⟩
      exact ⟨_, .confirmed hopened hfind hcheck hconfirm ⟨hkeeps, rfl, rfl⟩ (by exact hconfig)
          (by rfl) hdecides,
        (Evolves.commit hopened hpersist hsame).trans hevolves⟩
    · rename_i code durable hcode hpersist
      cases h
      exact ⟨[], .turnedDown nofun,
        .keeps ((persist_refused (fun hok => hcode (hok ▸ rfl)) hpersist).trans
          (keeps_refusal _ _ _ _ _ _))⟩
  · rw [if_neg hconfirm] at h
    unfold denyAmbiguity at h
    dsimp only at h
    split at h
    all_goals
      rename_i htransact
      cases h
      rcases transact_evolves hopened htransact with
        ⟨code, -, hprogress, hkeeps⟩ | ⟨hdone, before, hbefore, -, hevolves⟩
    · exact ⟨[], .turnedDown nofun, .keeps (hkeeps.trans (keeps_refusal _ _ _ _ _ _))⟩
    · exact absurd rfl (hdone _)
    · cases hprogress
    · exact ⟨_, .denied hopened hfind hcheck (by simpa using hconfirm) ⟨hbefore, rfl, rfl⟩,
        hevolves.then_keeps (keeps_refusal _ _ _ _ _ _)⟩
    · cases hprogress
    · exact ⟨_, .denied hopened hfind hcheck (by simpa using hconfirm) ⟨hbefore, rfl, rfl⟩,
        hevolves.then_keeps (keeps_accept _ _)⟩

/-- An acknowledgement is turned down, or it rewrites the runtime it was matched with. -/
theorem doAcknowledgeIntent_evolves {ack : IntentAck}
    (h : fabric.doAcknowledgeIntent ack = (decision, fabric')) :
    (decision.accepted = false ∧ fabric.Keeps fabric') ∨
    ∃ entry stamp commit, fabric.opened ∧ serviceOfAttempt fabric.state ack.attempt = some entry ∧
      fabric.checkAcknowledgement ack entry.2 = .ok stamp ∧
      fabric.Writes
        (.runtimeChanged .attemptAcknowledged
          { service := entry.2.descriptor.name
            runtime := acknowledgedRuntime entry.2 ack stamp })
        (rewritten entry.2.descriptor.name (acknowledgedRuntime entry.2 ack stamp) stamp) commit ∧
      fabric.Evolves [commit] fabric' ∧ (decision.accepted = true → ack.accepted = true) := by
  unfold doAcknowledgeIntent at h
  dsimp only at h
  split at h
  · cases h
    exact Or.inl ⟨rfl, keeps_refusal _ _ _ _ _ _⟩
  rename_i hclosed
  have hopened : fabric.opened = true := by simpa using hclosed
  split at h
  · cases h
    exact Or.inl ⟨rfl, keeps_refusal _ _ _ _ _ _⟩
  rename_i name runtime hentry
  split at h
  · rename_i refused hrefused
    cases h
    have hadmitted : Check.Admits fabric.state runtime.descriptor.name
        (fabric.checkAcknowledgement ack runtime) :=
      .require trivial fun _ => .require trivial fun _ => .require trivial fun _ =>
      .demand trivial fun _ _ => .require trivial fun _ => .demand_last trivial
    exact Or.inl ⟨rfl, keeps_refuse _ _ (hadmitted refused hrefused)⟩
  rename_i stamp hcheck
  split at h
  all_goals
    rename_i htransact
    cases h
    rcases transact_evolves hopened htransact with
      ⟨code, -, hprogress, hkeeps⟩ | ⟨hdone, before, hbefore, -, hevolves⟩
  · exact Or.inl ⟨rfl, hkeeps.trans (keeps_refusal _ _ _ _ _ _)⟩
  · exact absurd rfl (hdone _)
  · cases hprogress
  · exact Or.inr ⟨_, stamp, _, hopened, hentry, hcheck, ⟨hbefore, rfl, rfl⟩,
      hevolves.then_keeps (keeps_refusal _ _ _ _ _ _), nofun⟩
  · cases hprogress
  · exact Or.inr ⟨_, stamp, _, hopened, hentry, hcheck, ⟨hbefore, rfl, rfl⟩,
      hevolves.then_keeps (keeps_accept _ _), id⟩

/-- A report is turned down or repeated, or its effect is recorded. -/
theorem doReportEffect_evolves {report : EffectReport}
    (h : fabric.doReportEffect report = (decision, fabric')) :
    ((decision.accepted = true → decision.duplicate = true) ∧ fabric.Keeps fabric') ∨
    ∃ runtime next outcome stamp commit, fabric.opened ∧
      fabric.state.services.find? report.service = some runtime ∧
      fabric.checkReport report runtime = .ok () ∧ alreadySeen report runtime = false ∧
      fabric.checkEffect report runtime = .ok (next, outcome, stamp) ∧
      fabric.Writes (.runtimeChanged .effectRecorded { service := report.service, runtime := next })
        (fun state => (rewritten report.service next stamp state).bumpAll
          (effectCounters report next)) commit ∧
      fabric.Evolves [commit] fabric' := by
  unfold doReportEffect at h
  dsimp only at h
  split at h
  · cases h
    exact Or.inl ⟨nofun, keeps_refusal _ _ _ _ _ _⟩
  rename_i hclosed
  have hopened : fabric.opened = true := by simpa using hclosed
  split at h
  · cases h
    exact Or.inl ⟨nofun, keeps_refusal _ _ _ _ _ _⟩
  rename_i runtime hfind
  split at h
  · rename_i refused hrefused
    cases h
    have hadmitted : Check.Admits fabric.state report.service (fabric.checkReport report runtime) :=
      .require trivial fun _ => .require trivial fun _ => .require trivial fun _ =>
      .require trivial fun _ => .require trivial fun _ => .require trivial fun _ =>
      .require trivial fun _ => .require trivial fun _ => .require trivial fun _ =>
      .demand trivial fun _ _ => .require trivial fun _ => .require_last trivial
    exact Or.inl ⟨nofun, keeps_refuse _ _ (hadmitted refused hrefused)⟩
  rename_i hreport
  by_cases hseen : alreadySeen report runtime
  · rw [if_pos hseen] at h
    cases h
    exact Or.inl ⟨fun _ => rfl,
      (keeps_of_state _ (State.keeps_bump _ _ _)).trans (keeps_accept _ _)⟩
  rw [if_neg hseen] at h
  split at h
  · rename_i refused hrefused
    cases h
    have hadmitted :
        Check.Admits fabric.state report.service (fabric.checkEffect report runtime) := by
      refine .require trivial fun _ => .demand trivial fun stamp _ => .bind ?_ fun _ _ =>
        .require trivial fun _ => .pure _
      unfold applyEffect
      dsimp only
      split
      · exact .pure _
      · exact .pure _
      · exact .pure _
      · exact .require trivial fun _ => .pure _
      · exact .require trivial fun _ => .pure _
    exact Or.inl ⟨nofun, keeps_refuse _ _ (hadmitted refused hrefused)⟩
  rename_i next outcome stamp hcheck
  unfold recordEffect at h
  dsimp only at h
  split at h
  all_goals
    rename_i htransact
    rcases transact_evolves hopened htransact with
      ⟨code, -, hprogress, hkeeps⟩ | ⟨hdone, before, hbefore, -, hevolves⟩
  · cases h
    exact Or.inl ⟨nofun, hkeeps.trans (keeps_refuse _ _ trivial)⟩
  · exact absurd rfl (hdone _)
  · cases hprogress
  · cases h
    exact Or.inr ⟨runtime, next, outcome, stamp, _, hopened, hfind, hreport, by simpa using hseen,
      hcheck, ⟨hbefore, rfl, rfl⟩, hevolves.then_keeps (keeps_refuse _ _ trivial)⟩
  · cases hprogress
  · cases h
    exact Or.inr ⟨runtime, next, outcome, stamp, _, hopened, hfind, hreport, by simpa using hseen,
      hcheck, ⟨hbefore, rfl, rfl⟩, hevolves.then_keeps (keeps_accept _ _)⟩

end Reports

end Fabric

end OffloadFabric
