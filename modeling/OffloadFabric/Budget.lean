import OffloadFabric.Transitions

/-!
The attempt budget of a service. Every recovery raises its counter of attempts, only a
verified effect resets it, and only a failover looks whether the budget is used up. In a
boot in which resumptions and failbacks find room as well, no counter exceeds the budget.
-/
namespace OffloadFabric

open Fabric (Op Moment)

/-- A resumption or a failback that its check lets through finds room for one more attempt. -/
structure Roomy (fabric : Fabric) (op : Op) : Prop where
  resumption : ∀ request runtime qualified, op = .resumeRecovery request →
    fabric.state.services.find? request.service = some runtime →
    fabric.checkResume request runtime = .ok qualified →
    runtime.attemptsSinceVerified < fabric.state.policy.maxAttemptsPerGeneration
  failback : ∀ request runtime qualified, op = .requestFailback request →
    fabric.state.services.find? request.service = some runtime →
    fabric.checkFailback request runtime = .ok qualified →
    runtime.attemptsSinceVerified < fabric.state.policy.maxAttemptsPerGeneration

/-- The service was tried no more often than that, wherever it is registered. -/
def Tried (budget : UInt32) (service : ServiceName) (state : State) : Prop :=
  state.Each service fun runtime => runtime.attemptsSinceVerified ≤ budget

section Steps

variable {config : FabricConfig} {budget : UInt32} {service : ServiceName}
  {fabric caller actor : Fabric} {op op' : Op} {found next : ServiceRuntime}

theorem remarkable_attempts (service : ServiceName) (budget : UInt32) :
    Remarkable service fun runtime => runtime.attemptsSinceVerified ≤ budget := by
  intro state runtime remark _ _ hbudget
  cases remark <;> exact hbudget

/-- A move raises the counter by one, unless it is a placement. -/
theorem attempts_nextRuntime (move : Move) (grant : Grant) (config : FabricConfig) (state : State) :
    (move.nextRuntime grant config state).attemptsSinceVerified =
      if move.mode = .initialPlacement then move.runtime.attemptsSinceVerified
      else move.runtime.attemptsSinceVerified + 1 := by
  unfold Move.nextRuntime Move.settled Move.departed
  split <;> split <;> rfl

/-- There is room for one more below the budget, and so no overflow. -/
theorem succ_le_of_lt {attempts : UInt32} (h : attempts < budget) : attempts + 1 ≤ budget := by
  have hlt : attempts.toNat < budget.toNat := h
  have hbound : budget.toNat < 2 ^ 32 := budget.toNat_lt
  show (attempts + 1).toNat ≤ budget.toNat
  rw [UInt32.toNat_add]
  show (attempts.toNat + 1) % 2 ^ 32 ≤ budget.toNat
  omega

/-- Whoever decides a move that is a recovery finds room for it. -/
theorem room_of_moving {check : ServiceRuntime → Check Qualified} {qualified : Qualified}
    (hroomy : Roomy fabric op) (hop : fabric.moving op = some (service, check))
    (hfind : fabric.state.services.find? service = some found)
    (hok : check found = .ok qualified) (hmode : qualified.move.mode ≠ .initialPlacement) :
    found.attemptsSinceVerified < fabric.state.policy.maxAttemptsPerGeneration := by
  cases op with
  | establishPlacement request =>
    obtain ⟨rfl, rfl⟩ := Prod.mk.inj (Option.some.inj hop)
    obtain ⟨-, -, -, target, -, -, -, hmove⟩ := Fabric.checkPlacement_ok hok
    exact absurd (congrArg Move.mode hmove) hmode
  | requestFailover request =>
    obtain ⟨rfl, rfl⟩ := Prod.mk.inj (Option.some.inj hop)
    obtain ⟨-, -, -, hattempts, -⟩ := Fabric.checkFailover_ok hok
    exact hattempts
  | resumeRecovery request =>
    obtain ⟨rfl, rfl⟩ := Prod.mk.inj (Option.some.inj hop)
    exact hroomy.resumption request found qualified rfl hfind hok
  | requestFailback request =>
    obtain ⟨rfl, rfl⟩ := Prod.mk.inj (Option.some.inj hop)
    exact hroomy.failback request found qualified rfl hfind hok
  | _ => cases hop

/-- Only a recovery raises the counter. -/
theorem Fabric.Turns.tried (h : fabric.Turns service op found next) (hroomy : Roomy fabric op)
    (hfind : fabric.state.services.find? service = some found)
    (hpolicy : fabric.state.policy.maxAttemptsPerGeneration = budget)
    (htried : found.attemptsSinceVerified ≤ budget) : next.attemptsSinceVerified ≤ budget := by
  cases h with
  | moved grant config state hop hok hruntime =>
    rw [attempts_nextRuntime, hruntime]
    split
    · exact htried
    · rename_i hmode
      exact succ_le_of_lt (hpolicy ▸ room_of_moving hroomy hop hfind hok hmode)
  | denied => exact htried
  | acknowledged =>
    unfold Fabric.acknowledgedRuntime
    split <;> exact htried
  | reported _ _ _ heffect =>
    obtain ⟨-, -, happly⟩ := Fabric.checkEffect_ok heffect
    cases Fabric.applyEffect_ok happly with
    | negative | activated | deactivated | transferred => exact htried
    | healthy =>
      show (0 : UInt32) ≤ budget
      exact UInt32.zero_le

theorem Fabric.Alters.tried (h : fabric.Alters service op found next)
    (htried : found.attemptsSinceVerified ≤ budget) : next.attemptsSinceVerified ≤ budget := by
  cases h <;> exact htried

/-- A call with room for its attempts keeps every counter within the budget. -/
theorem Roomy.steady (h : Roomy fabric op)
    (hpolicy : fabric.state.policy.maxAttemptsPerGeneration = budget) :
    fabric.Steady service (fun runtime => runtime.attemptsSinceVerified ≤ budget) op where
  registered _ _ _ := by
    show (0 : UInt32) ≤ budget
    exact UInt32.zero_le
  turned _ _ hfind hturns htried := hturns.tried h hfind hpolicy htried
  altered _ _ halters htried := halters.tried htried

theorem Roomy.acting (h : Roomy caller op) (hacts : caller.Acts op actor op') :
    Roomy actor op' := by
  cases hacts with
  | direct => exact h
  | confirmed =>
    constructor
    · intro request runtime qualified heq
      cases heq
    · intro request runtime qualified heq
      cases heq

end Steps

/-! ### Boots -/

section Boots

variable {config : FabricConfig} {moments calls : List Moment} {start fabric : Fabric}
  {service : ServiceName} {runtime : ServiceRuntime}

/-- The step lemma of a boot. -/
theorem Tried.call {budget : UInt32} {op : Op} (h : Tried budget service fabric.state)
    (hsound : fabric.state.core.Sound config) (hopened : fabric.opened = true)
    (hroomy : Roomy fabric op)
    (hpolicy : fabric.state.policy.maxAttemptsPerGeneration = budget) :
    Tried budget service (fabric.call op).2.state := by
  refine State.Each.call h (remarkable_attempts service budget) hsound ?_ fun _ => hopened
  intro actor op' hacts _
  have hentered : Roomy fabric.entered op := ⟨hroomy.resumption, hroomy.failback⟩
  refine (hentered.acting hacts).steady ?_
  rw [show actor.state.policy = fabric.state.policy from congrArg Core.policy hacts.same.1]
  exact hpolicy

/-- In a boot in which the policy stands still, and in which resumptions and failbacks find room
for their attempts, no service is tried more often than the policy allows. -/
theorem attempts_within_budget (hrun : Fabric.Run config moments start)
    (hopened : start.opened = true) (hserves : start.Serves calls fabric)
    (hpolicy : ∀ moment ∈ calls, moment.before.state.policy = start.state.policy)
    (hstart : ∀ service, Tried start.state.policy.maxAttemptsPerGeneration service start.state)
    (hroomy : ∀ moment ∈ calls, Roomy moment.before moment.event.op)
    (hfind : fabric.state.services.find? service = some runtime) :
    runtime.attemptsSinceVerified ≤ start.state.policy.maxAttemptsPerGeneration := by
  suffices h : Tried start.state.policy.maxAttemptsPerGeneration service fabric.state from
    h runtime hfind
  clear hfind
  induction hserves with
  | start => exact hstart service
  | @call calls fabric op hserves hclose ih =>
    have hlast : ∀ P : Moment → Prop, (∀ moment ∈ calls ++
        [{ before := fabric, event := .call op (fabric.call op).1 }], P moment) →
        (∀ moment ∈ calls, P moment) ∧
          P { before := fabric, event := .call op (fabric.call op).1 } := fun P h =>
      ⟨fun moment hmoment => h moment (List.mem_append_left _ hmoment), h _ (by simp)⟩
    obtain ⟨hstill, hsame⟩ := hlast _ hpolicy
    obtain ⟨hearlier, hroom⟩ := hlast _ hroomy
    exact (ih hstill hearlier).call (hserves.run hrun).sound (hserves.opened hopened).1 hroom
      (congrArg PolicyDescriptor.maxAttemptsPerGeneration hsame)

end Boots

/-! ### Budgets of the small fleet -/

namespace Fleet

/-- A single attempt is allowed. -/
def strict : Op := .setPolicy { generation := ⟨1⟩, maxAttemptsPerGeneration := 1 }

/-- The service failed over, which used its budget up, and its first target came back. -/
def spent : List Op :=
  opening ++ strict :: adopt primary 1 ++ adopt secondary 1 ++
    [place 1 primary, moveOn 2, turnDown 2] ++ adopt primary 2

def goBackStrictly (key : UInt64) : Op :=
  .requestFailback
    { key := ⟨key⟩, service, preferredTarget := primary, observedTopologyGeneration := ⟨1⟩
      observedPolicyGeneration := ⟨1⟩, requester := operator }

end Fleet

/-- All that are registered were tried no more often, so each of them was. -/
theorem tried_of_all {state : State} {budget : UInt32}
    (h : state.services.entries.all (fun entry => entry.2.attemptsSinceVerified ≤ budget) = true)
    (service : ServiceName) : Tried budget service state := by
  intro runtime hfind
  have hmem := (OrderedMap.find?_eq_some_iff _ _ _).mp hfind
  simpa using List.all_eq_true.mp h _ hmem

/-- A boot of a single call. -/
theorem serves_call (fabric : Fabric) {op : Op} (hclose : op ≠ .closeFabric) :
    fabric.Serves [{ before := fabric, event := .call op (fabric.call op).1 }]
      (fabric.call op).2 :=
  Fabric.Serves.start.call hclose

/-- A placed service that fails over was tried no more often than the policy allows. -/
theorem attempts_within_budget_placed :
    Tried (Fleet.running Fleet.placed).state.policy.maxAttemptsPerGeneration Fleet.service
      ((Fleet.running Fleet.placed).call (Fleet.moveOn 2)).2.state := by
  intro runtime hfind
  have hopened : (Fleet.running Fleet.placed).opened = true := by
    simp only [Fleet.running, Fabric.after_eq_drafted]
    decide +kernel
  have hall : (Fleet.running Fleet.placed).state.services.entries.all
      (fun entry => entry.2.attemptsSinceVerified ≤
        (Fleet.running Fleet.placed).state.policy.maxAttemptsPerGeneration) = true := by
    simp only [Fleet.running, Fabric.after_eq_drafted]
    decide +kernel
  have hclose : Fleet.moveOn 2 ≠ .closeFabric := fun heq => by cases heq
  have hrun := Fleet.run_running Fleet.placed
  generalize Fleet.running Fleet.placed = start at *
  refine attempts_within_budget hrun hopened (serves_call start hclose)
    (fun moment hmoment => ?_) (tried_of_all hall) (fun moment hmoment => ?_) hfind
  · obtain rfl := List.mem_singleton.mp hmoment
    rfl
  · obtain rfl := List.mem_singleton.mp hmoment
    constructor
    · intro request runtime qualified heq
      cases heq
    · intro request runtime qualified heq
      cases heq

/-- A failback goes through although the budget is used up. -/
theorem not_attempts_within_budget : ∃ (start : Fabric) (calls : List Moment) (fabric : Fabric)
    (runtime : ServiceRuntime),
    Fabric.Reachable {} start ∧ start.opened = true ∧ start.Serves calls fabric ∧
    (∀ moment ∈ calls, moment.before.state.policy = start.state.policy) ∧
    fabric.state.policy = start.state.policy ∧
    (∀ service, Tried start.state.policy.maxAttemptsPerGeneration service start.state) ∧
    fabric.state.services.find? Fleet.service = some runtime ∧
    fabric.state.policy.maxAttemptsPerGeneration < runtime.attemptsSinceVerified := by
  have hopened : (Fleet.running Fleet.spent).opened = true := by
    simp only [Fleet.running, Fabric.after_eq_drafted]
    decide +kernel
  have hall : (Fleet.running Fleet.spent).state.services.entries.all
      (fun entry => entry.2.attemptsSinceVerified ≤
        (Fleet.running Fleet.spent).state.policy.maxAttemptsPerGeneration) = true := by
    simp only [Fleet.running, Fabric.after_eq_drafted]
    decide +kernel
  have hpolicy : ((Fleet.running Fleet.spent).call (Fleet.goBackStrictly 3)).2.state.policy =
      (Fleet.running Fleet.spent).state.policy := by
    simp only [Fleet.running, Fabric.after_eq_drafted, Fabric.call_eq_drafted]
    decide +kernel
  have hexceeds : (((Fleet.running Fleet.spent).call
      (Fleet.goBackStrictly 3)).2.state.services.find? Fleet.service).any
      (fun runtime => ((Fleet.running Fleet.spent).call
        (Fleet.goBackStrictly 3)).2.state.policy.maxAttemptsPerGeneration <
          runtime.attemptsSinceVerified) = true := by
    simp only [Fleet.running, Fabric.after_eq_drafted, Fabric.call_eq_drafted]
    decide +kernel
  have hclose : Fleet.goBackStrictly 3 ≠ .closeFabric := fun heq => by cases heq
  have hreachable := Fleet.reachable_running Fleet.spent
  generalize Fleet.running Fleet.spent = start at *
  obtain ⟨runtime, hfind, hmore⟩ := (Option.any_eq_true _ _).mp hexceeds
  refine ⟨start, _, _, runtime, hreachable, hopened, serves_call start hclose, fun moment hmoment =>
    ?_, hpolicy, tried_of_all hall, hfind, of_decide_eq_true hmore⟩
  obtain rfl := List.mem_singleton.mp hmoment
  rfl

end OffloadFabric
