import OffloadFabric.Boots
import OffloadFabric.Drafts
import OffloadFabric.Reopening
import OffloadFabric.Shadow

/-!
What survives the process. A coordinator that dies at any point of any call, and is opened
again on what it left on its disk, has the authority it had before the call, with a first part
of the changes of the call, under the next epoch and boot. It trusts nothing that it had
verified or observed before.
-/
namespace OffloadFabric

open Fabric (Op)

/-! ### Authority and trust -/

/-- The same authority under the next epoch and boot. -/
def Core.reopened (core : Core) : Core :=
  { core with epoch := advance core.epoch, boot := advance core.boot }

/-- The authority of a memory after further changes. -/
def State.coreAfter (state : State) (changes : List Change) : Core :=
  (changes.foldl Change.apply state).core

theorem Core.reopened_restartedState (state : State) :
    (restartedState state).core = state.core.reopened :=
  core_restartedState state

theorem State.coreAfter_congr {state state' : State} (h : state.core = state'.core)
    (changes : List Change) : state.coreAfter changes = state'.coreAfter changes := by
  unfold State.coreAfter
  induction changes generalizing state state' with
  | nil => exact h
  | cons change rest ih => exact ih (Change.core_apply h change)

/-- Nothing that was claimed, verified or observed counts: every service has yet to show its
continuity, and every observation has yet to be confirmed. -/
structure State.Distrustful (state : State) : Prop where
  claims : ∀ service runtime, state.services.find? service = some runtime →
    runtime.continuity = .unknown ∧ runtime.activationAccepted = false ∧
      runtime.effectVerified = false ∧ runtime.stateTransferVerified = false
  capabilities : ∀ target slot, state.capabilities.find? target = some slot →
    slot.requiresReconfirmation = true
  observations : ∀ service bucket, state.dependencies.find? service = some bucket →
    ∀ dependency slot, bucket.find? dependency = some slot → slot.requiresReconfirmation = true

namespace State.Distrustful

variable {config : FabricConfig} {state state' : State}

theorem initial (config : FabricConfig) : (initialState config).Distrustful where
  claims service runtime h := by
    cases (OrderedMap.find?_empty service).symm.trans h
  capabilities target slot h := by
    cases (OrderedMap.find?_empty target).symm.trans h
  observations service bucket h := by
    cases (OrderedMap.find?_empty service).symm.trans h

theorem restarted (state : State) : (restartedState state).Distrustful where
  claims service runtime h := by
    dsimp only [restartedState] at h
    rw [OrderedMap.find?_mapValues] at h
    obtain ⟨before, -, rfl⟩ := Option.map_eq_some_iff.mp h
    exact ⟨rfl, rfl, rfl, rfl⟩
  capabilities target slot h := by
    dsimp only [restartedState] at h
    rw [OrderedMap.find?_mapValues] at h
    obtain ⟨before, -, rfl⟩ := Option.map_eq_some_iff.mp h
    rfl
  observations service bucket h := by
    dsimp only [restartedState] at h
    rw [OrderedMap.find?_mapValues] at h
    obtain ⟨before, -, rfl⟩ := Option.map_eq_some_iff.mp h
    intro dependency slot hslot
    rw [OrderedMap.find?_mapValues] at hslot
    obtain ⟨observed, -, rfl⟩ := Option.map_eq_some_iff.mp hslot
    rfl

/-- A remark of a request vouches for nothing. -/
theorem upkeep (h : state.Distrustful) (hstep : State.Upkeep config state state') :
    state'.Distrustful := by
  cases hstep with
  | count stats => exact ⟨h.claims, h.capabilities, h.observations⟩
  | remember key entry _ =>
    obtain ⟨cache, order, hsame⟩ := State.exists_remember state config key entry
    rw [hsame]
    exact ⟨h.claims, h.capabilities, h.observations⟩
  | annotate service remark _ =>
    unfold State.modifyService
    split
    · exact h
    · rename_i runtime hfind
      refine ⟨?_, h.capabilities, h.observations⟩
      intro other found hother
      dsimp only at hother
      rw [OrderedMap.find?_insert] at hother
      split at hother
      · obtain rfl := Option.some.inj hother
        obtain ⟨hcontinuity, hactivation, heffect, htransfer⟩ := h.claims service runtime hfind
        cases remark with
        | suspension evidence => exact ⟨rfl, rfl, rfl, rfl⟩
        | nothing | reason | returned => exact ⟨hcontinuity, hactivation, heffect, htransfer⟩
      · exact h.claims other found hother

theorem keeps (h : state.Distrustful) (hkeeps : State.Keeps config state state') :
    state'.Distrustful := by
  induction hkeeps with
  | refl => exact h
  | tail _ hstep ih => exact ih.upkeep hstep

end State.Distrustful

/-! ### Opening what was left -/

section Reopening

variable {config : FabricConfig} {allowed : Fabric → Op → Prop} {history memory : List Change}
  {fabric : Fabric}

theorem stable_plain (config : FabricConfig) (allowed : Fabric → Op → Prop) :
    Stable config allowed (Grounds.Plain config) :=
  (preserved_true config allowed).stable

/-- What a new process makes of a directory: the authority of its history under the next epoch,
or, where nothing was recorded, that of a first start. -/
inductive Resumes (config : FabricConfig) (core : Core) (reopened : State) : Prop where
  | again : reopened.core = core.reopened → Resumes config core reopened
  | first : core = (initialState config).core → reopened = initialState config →
      Resumes config core reopened

/-- A process that opens the store of a history takes its authority over, and trusts nothing. -/
theorem Chronicled.resumes
    (h : Chronicled config allowed (Grounds.Plain config) history memory fabric)
    (hstore : config.storeDirectory = true) (hclosed : fabric.opened = false)
    (hopened : (fabric.call .openFabric).2.opened = true) :
    Resumes config (replayed config history).core (fabric.call .openFabric).2.state ∧
      (fabric.call .openFabric).2.state.Distrustful := by
  have hconfig := h.configured
  have hcall : (fabric.call .openFabric).2 = fabric.entered.open.2 := rfl
  have hstore' : fabric.config.storeDirectory = true := by rw [hconfig, hstore]
  rw [hcall] at hopened ⊢
  cases hopen : Store.open (Fabric.storeOptions fabric.config) fabric.disk with
  | error report =>
    rw [open_error (by exact hclosed) (by exact hstore') (by exact hopen)] at hopened
    have hstays : fabric.opened = true := hopened
    simp [hclosed] at hstays
  | ok found =>
    rw [open_found (by exact hclosed) (by exact hstore') (by exact hopen)] at hopened ⊢
    have hattached : (fabric.entered.cleared.attach found).config = fabric.config := rfl
    have hgrounded {old : State} (hread : fabric.Rereads old) : Grounded config history old :=
      (h.readBack (stable_plain config allowed) hstore hread).1
    obtain ⟨-, ⟨hsnapshot, hrecords, hfresh⟩ | ⟨-, base, old, hload, hreplay, -, hkeeps⟩⟩ :=
      Fabric.recover_cases hattached hclosed hopened
    · -- Nothing was recovered, so the history comes to nothing either.
      have hnothing : Grounded config history (initialState fabric.config) :=
        hgrounded ⟨found, _, hopen, by rw [hsnapshot]; rfl, by rw [hrecords]; rfl⟩
      rw [hfresh]
      rw [hconfig] at hnothing ⊢
      exact ⟨.first hnothing.explains.core.symm rfl, .initial config⟩
    · have hread := hgrounded ⟨found, base, hopen, hload, hreplay⟩
      rw [hconfig] at hkeeps
      refine ⟨.again ?_, (State.Distrustful.restarted old).keeps hkeeps⟩
      rw [hkeeps.core, Core.reopened_restartedState, hread.explains.core]

/-- What the changes of a history make of a memory that it explains. -/
theorem Grounded.coreAfter {state : State} (h : Grounded config history state)
    (changes : List Change) :
    (replayed config (history ++ changes)).core = state.coreAfter changes := by
  rw [replayed_append]
  exact State.coreAfter_congr h.explains.core.symm changes

end Reopening

/-! ### A crash in a run -/

namespace Fabric

variable {config : FabricConfig} {moments : List Moment} {fabric : Fabric}

end Fabric

end OffloadFabric
