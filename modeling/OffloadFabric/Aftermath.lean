import OffloadFabric.Transitions

/-!
What the call of an accepted move leaves. Apart from bookkeeping the memory is the one that
its commit wrote, so the runtime of the service is the one that the move granted, and every
other service stands where it stood.
-/
namespace OffloadFabric

open Fabric (Op)

section Passes

variable {config : FabricConfig} {state state' : State} {commit : Commit} {commits : List Commit}

/-- The last commit of a call, and how the memory stood before and stands after it. -/
theorem State.Passes.last (h : State.Passes config state (commits ++ [commit]) state') :
    State.Passes config state commits commit.before ∧ State.Keeps config commit.after state' := by
  induction commits generalizing state with
  | nil =>
    cases h with
    | commit hbefore hrest =>
      cases hrest with
      | keeps hkeeps => exact ⟨.keeps hbefore, hkeeps⟩
  | cons first rest ih =>
    cases h with
    | commit hbefore hrest =>
      obtain ⟨hpasses, hkeeps⟩ := ih hrest
      exact ⟨.commit hbefore hpasses, hkeeps⟩

end Passes

/-- How the call of an accepted move came about, and what it left: the check of whoever acted in
the call qualified the move, which was the last thing that the call committed. -/
inductive Fabric.Carries (fabric : Fabric) (op : Op) (decision : RecoveryDecision)
    (service : ServiceName) : Fabric → Op → Move → Grant → State → Prop where
  | intro {actor : Fabric} {op' : Op} {check : ServiceRuntime → Check Qualified}
      {runtime : ServiceRuntime} {qualified : Qualified} {grant : Grant} {prior : Fabric}
      {pushed : Bool} {before : State} :
      fabric.entered.Acts op actor op' → actor.moving op' = some (service, check) →
      actor.state.services.find? service = some runtime → check runtime = .ok qualified →
      actor.Keeps prior → prepare prior qualified.move = .ok grant →
      State.Keeps fabric.config prior.state before →
      decision.intent = some (qualified.move.intent grant prior.state) →
      State.Keeps fabric.config
        (qualified.move.update grant fabric.config prior.state pushed before)
        (fabric.call op).2.state →
      Carries fabric op decision service actor op' qualified.move grant prior.state

section Carries

variable {fabric actor : Fabric} {op op' : Op} {decision : RecoveryDecision}
  {service other : ServiceName} {runtime next : ServiceRuntime} {move : Move} {grant : Grant}
  {prior : State}

theorem Fabric.Op.moves_of_relocates (hop : op.relocates = some service) : op.moves = true := by
  cases op with
  | establishPlacement | requestFailover | resumeRecovery | requestFailback => rfl
  | resolveAmbiguity resolution =>
    cases hconfirm : resolution.confirmFailure with
    | true => exact hconfirm
    | false => simp [Op.relocates, hconfirm] at hop
  | _ => cases hop

theorem Fabric.Accepts.carries (h : fabric.Accepts op decision)
    (hop : op.relocates = some service) :
    fabric.opened = true ∧ ∃ actor op' move grant prior,
      fabric.Carries op decision service actor op' move grant prior := by
  have hmoves := Fabric.Op.moves_of_relocates hop
  have hclose : op ≠ .closeFabric := by
    rintro rfl
    cases hop
  have hopened : fabric.opened = true := (h.relocates hmoves).1
  obtain ⟨-, -, commits, hpasses, -, hanswers⟩ := Fabric.call_passes hopened hclose
  obtain ⟨-, hrelocates⟩ := h.relocated hmoves hanswers
  refine ⟨hopened, ?_⟩
  cases hrelocates with
  | @intro actor op' service' check runtime qualified promotions commit _ hacts hmoving hfind hok
      hmoved =>
    obtain rfl : service' = service := Option.some.inj ((hacts.relocates hmoving).symm.trans hop)
    have hactor : actor.config = fabric.config := acts_config hacts rfl
    obtain ⟨-, hkeeps⟩ := hpasses.last
    cases hmoved with
    | intro hprior hprepare hbefore _ _ _ hintent =>
      rw [hprior.config, hactor] at hbefore hkeeps
      exact ⟨actor, op', _, _, _, .intro hacts hmoving hfind hok hprior hprepare hbefore hintent
        hkeeps⟩

/-- The move is that of the service, and of the runtime that the call found. -/
theorem Fabric.Carries.move_eq
    (h : fabric.Carries op decision service actor op' move grant prior) :
    move.service = service ∧ ∃ runtime,
      fabric.state.services.find? service = some runtime ∧ runtime.hard = move.runtime.hard := by
  cases h with
  | intro hacts hmoving hfind hok =>
    obtain ⟨hservice, hruntime⟩ := Fabric.moving_move hmoving hok
    obtain ⟨runtime, hruntime', hhard⟩ := hacts.service hfind
    exact ⟨hservice, runtime, hruntime', hhard.trans (congrArg _ hruntime.symm)⟩

theorem Fabric.Carries.core_prior
    (h : fabric.Carries op decision service actor op' move grant prior) :
    prior.core = fabric.state.core := by
  cases h with
  | intro hacts _ _ _ hprior =>
    obtain ⟨hsame, hstate⟩ := hprior
    exact hstate.core.trans hacts.same.1

/-- The move replaces the runtime of its service, and no other. -/
theorem Fabric.Carries.core_services
    (h : fabric.Carries op decision service actor op' move grant prior) (other : ServiceName) :
    (fabric.call op).2.state.core.services.find? other =
      if other = service then some (move.nextRuntime grant fabric.config prior).hard
      else fabric.state.core.services.find? other := by
  obtain ⟨hservice, -⟩ := h.move_eq
  have hprior := h.core_prior
  cases h with
  | intro _ _ _ _ _ _ hbefore _ hkeeps =>
    rw [hkeeps.core, ← hprior, ← hbefore.core, State.core_service, State.core_service, Move.update,
      State.services_remember, State.services_bump, State.services_bumpAll, State.services_bump]
    dsimp only
    rw [hservice, OrderedMap.find?_insert]
    split <;> rfl

theorem Fabric.Carries.targets
    (h : fabric.Carries op decision service actor op' move grant prior) :
    (fabric.call op).2.state.targets = fabric.state.targets := by
  have hprior := h.core_prior
  cases h with
  | intro _ _ _ _ _ _ hbefore _ hkeeps =>
    have hupdate := congrArg Core.targets hkeeps.core
    simp only [Move.update, State.core_remember, State.core_bump, State.core_bumpAll] at hupdate
    exact hupdate.trans (congrArg Core.targets (hbefore.core.trans hprior))

end Carries

end OffloadFabric
