import OffloadFabric.Transitions

/-!
The clock of the coordinator. Bookkeeping leaves it alone, and every commit takes the next tick,
so a call that commits something ends later than it began.
-/
namespace OffloadFabric

open Fabric (Op)

variable {config : FabricConfig} {state state' : State} {fabric : Fabric} {op : Op}
  {commit : Commit} {commits : List Commit}

@[simp] theorem State.tick_bump (state : State) (field : StatField) :
    (state.bump field).tick = state.tick := rfl

@[simp] theorem State.tick_bumpAll (state : State) (fields : List StatField) :
    (state.bumpAll fields).tick = state.tick := by
  unfold State.bumpAll
  induction fields generalizing state with
  | nil => rfl
  | cons field rest ih => exact ih (state.bump field)

@[simp] theorem State.tick_modifyService (state : State) (service : ServiceName)
    (f : ServiceRuntime → ServiceRuntime) : (state.modifyService service f).tick = state.tick := by
  unfold State.modifyService
  split <;> rfl

@[simp] theorem State.tick_remember (state : State) (config : FabricConfig) (key : RequestKey)
    (entry : RequestCacheEntry) : (state.remember config key entry).tick = state.tick := by
  unfold State.remember
  split
  · rfl
  · split <;> rfl

theorem State.tick_evictFailuresFrom (ceiling : Nat) (order : List EvidenceId) (state : State) :
    (Fabric.evictFailuresFrom ceiling order state).tick = state.tick := by
  induction order generalizing state with
  | nil => rfl
  | cons oldest order ih =>
    unfold Fabric.evictFailuresFrom
    split
    · refine (ih _).trans ?_
      split <;> rfl
    · rfl

theorem State.tick_retainFailure (config : FabricConfig) (evidence : FailureEvidence)
    (stamp : LogicalTick) (state : State) :
    (Fabric.retainFailure config evidence stamp state).tick = stamp :=
  State.tick_evictFailuresFrom _ _ _

theorem State.Keeps.tick (h : State.Keeps config state state') : state'.tick = state.tick := by
  induction h with
  | refl => rfl
  | tail _ hstep ih =>
    refine Eq.trans ?_ ih
    cases hstep with
    | count stats => rfl
    | remember key entry _ => exact State.tick_remember _ _ _ _
    | annotate service remark _ => exact State.tick_modifyService _ _ _

theorem Fabric.Ingested.tick {change : Change} {update : State → State}
    (h : fabric.Ingested op change update) :
    ∃ stamp, fabric.state.tick.successor = some stamp ∧ ∀ state, (update state).tick = stamp := by
  cases h with
  | failure hstamp => exact ⟨_, hstamp, State.tick_retainFailure _ _ _⟩
  | suspicion hstamp =>
    exact ⟨_, hstamp, fun _ =>
      (State.tick_modifyService _ _ _).trans (State.tick_retainFailure _ _ _ _)⟩
  | withdrawn hstamp => exact ⟨_, hstamp, fun _ => State.tick_modifyService _ _ _⟩
  | dependency hstamp hupdate =>
    refine ⟨_, hstamp, fun state => ?_⟩
    obtain ⟨stats, hstate⟩ := hupdate state
    rw [hstate]
  | enrolled hstamp | serviceRegistered hstamp | targetRegistered hstamp | topologySet hstamp
  | policySet hstamp | retired hstamp | capability hstamp => exact ⟨_, hstamp, fun _ => rfl⟩

/-- Every commit takes the next tick. -/
theorem Fabric.Caused.tick (h : fabric.Caused op commit) :
    commit.before.tick < commit.after.tick := by
  have hlater {within : FabricConfig} {before : State} {stamp : LogicalTick}
      (hkeeps : State.Keeps within before commit.before)
      (hstamp : before.tick.successor = some stamp) (hafter : commit.after.tick = stamp) :
      commit.before.tick < commit.after.tick := by
    rw [hkeeps.tick, hafter, LogicalTick.lt_iff, LogicalTick.successor_toNat hstamp]
    omega
  cases h with
  | ingested hop hok hwrites =>
    obtain ⟨stamp, hstamp, hupdate⟩ := (Fabric.ingested_of_ok hop hok).tick
    exact hlater hwrites.before hstamp (by rw [hwrites.after, hupdate])
  | moved _ _ _ hmoves =>
    cases hmoves with
    | intro hprior hprepare hbefore _ _ _ _ =>
      refine hlater hbefore (prepare_ok hprepare).1.stamp ?_
      simp [Move.update]
  | denied _ hcheck _ hwrites =>
    exact hlater hwrites.before (Fabric.checkResolution_ok hcheck).2.2.2.2
      (by rw [hwrites.after]; rfl)
  | confirmed _ hcheck _ hwrites =>
    refine hlater hwrites.before (Fabric.checkResolution_ok hcheck).2.2.2.2 ?_
    rw [hwrites.after]
    exact State.tick_modifyService _ _ _
  | acknowledged _ hcheck hwrites =>
    exact hlater hwrites.before (Fabric.checkAcknowledgement_ok hcheck).2.2.2
      (by rw [hwrites.after]; rfl)
  | reported _ _ _ hcheck hwrites =>
    refine hlater hwrites.before (Fabric.checkEffect_ok hcheck).2.1 ?_
    rw [hwrites.after]
    exact State.tick_bumpAll _ _

theorem Fabric.Performs.tick (h : fabric.Performs op commits) :
    ∀ commit ∈ commits, commit.before.tick < commit.after.tick := by
  intro commit hcommit
  obtain ⟨_, _, hcaused, -⟩ := h.caused hcommit
  exact hcaused.tick

theorem State.Passes.tick_le (h : State.Passes config state commits state')
    (hcommits : ∀ commit ∈ commits, commit.before.tick < commit.after.tick) :
    state.tick ≤ state'.tick := by
  induction h with
  | keeps hkeeps => exact hkeeps.tick.ge
  | commit hbefore _ ih =>
    have hlater := hcommits _ List.mem_cons_self
    have hrest := ih fun next hnext => hcommits next (List.mem_cons_of_mem _ hnext)
    rw [← hbefore.tick]
    exact hlater.le.trans hrest

theorem State.Passes.tick_lt (h : State.Passes config state commits state')
    (hcommits : ∀ commit ∈ commits, commit.before.tick < commit.after.tick)
    (hsome : commits ≠ []) : state.tick < state'.tick := by
  cases h with
  | keeps => exact absurd rfl hsome
  | commit hbefore hrest =>
    have hlater := hcommits _ List.mem_cons_self
    have hle := hrest.tick_le fun next hnext => hcommits next (List.mem_cons_of_mem _ hnext)
    rw [← hbefore.tick]
    exact hlater.trans_le hle

end OffloadFabric
