import OffloadFabric.Drafts
import OffloadFabric.Grounding

/-!
Authority is coherent in every run: a registered service has no authority at all, or its
active target, lease, fence, generation and current attempt all say the same.
-/
namespace OffloadFabric

/-- Nothing was ever placed for the service. -/
structure Vacant (state : State) (name : ServiceName) (runtime : ServiceRuntime) : Prop where
  active : runtime.active = none
  lease : runtime.lease = none
  unfenced : state.fences.find? name = none
  fence : runtime.fence.value = 0
  generation : runtime.generation.value = 0
  attempt : runtime.currentAttempt.isNil = true

/-- The record of the current attempt is kept and agrees with the authority. -/
def KeepsAttempt (runtime : ServiceRuntime) (holder : TargetRef) : Prop :=
  ∃ record ∈ runtime.history, record.id = runtime.currentAttempt ∧ record.toTarget = holder ∧
    record.fence = runtime.fence ∧ record.generation = runtime.generation

/-- Everything about the placement of the service agrees. -/
structure Governed (config : FabricConfig) (state : State) (name : ServiceName)
    (runtime : ServiceRuntime) (held : FenceRecord) : Prop where
  fenced : state.fences.find? name = some held
  active : runtime.active = some held.holder
  fallback : runtime.fallback = some held.holder
  lease : ∃ lease, runtime.lease = some lease ∧ lease.holder = held.holder ∧
    lease.term.value = runtime.generation.value
  fence : runtime.fence = held.token
  generation : held.token.value = runtime.generation.value
  positive : 1 ≤ runtime.generation.value.toNat
  attempt : held.attempt = runtime.currentAttempt
  recorded : 1 ≤ config.maxAttemptHistory → KeepsAttempt runtime held.holder

theorem Vacant.not_governed {config : FabricConfig} {state : State} {name : ServiceName}
    {runtime : ServiceRuntime} {held : FenceRecord} (h : Vacant state name runtime) :
    ¬Governed config state name runtime held := by
  intro hgoverned
  have hactive := hgoverned.active
  rw [h.active] at hactive
  cases hactive

section Shapes

variable {config : FabricConfig} {state : State} {name : ServiceName} {runtime : ServiceRuntime}

theorem keepsAttempt_of_placed {held : FenceRecord}
    (h : Placed config runtime.authority held) (hmax : 1 ≤ config.maxAttemptHistory) :
    KeepsAttempt runtime held.holder := by
  have hkept := h.kept hmax
  have hlast := h.last
  cases hhistory : runtime.history.getLast? with
  | none =>
    rw [List.getLast?_eq_none_iff] at hhistory
    exact absurd (by simp [ServiceRuntime.authority, hhistory]) hkept
  | some record =>
    obtain ⟨hid, htarget, hfence, hgeneration⟩ := hlast record.authority (by
      simp [ServiceRuntime.authority, List.getLast?_map, hhistory])
    exact ⟨record, List.mem_of_getLast? hhistory, hid, htarget, hfence.trans h.fence.symm,
      hgeneration⟩

/-- A sound state has every service in one of the two shapes. -/
theorem shape_of_sound (hsound : state.core.Sound config)
    (hfind : state.services.find? name = some runtime) :
    Vacant state name runtime ∨ ∃ held, Governed config state name runtime held := by
  have hcoherent := hsound.coherent name runtime.hard (by
    rw [State.core_service, hfind]
    rfl)
  rw [authority_hard] at hcoherent
  cases hfence : state.fences.find? name with
  | none =>
    rw [show state.core.fences.find? name = none from hfence] at hcoherent
    have hfenceValue : runtime.fence = {} := hcoherent.fence
    have hgeneration : runtime.generation = {} := hcoherent.generation
    have hattempt : runtime.currentAttempt = {} := hcoherent.attempt
    exact Or.inl ⟨hcoherent.active, hcoherent.lease, hfence, by rw [hfenceValue],
      by rw [hgeneration], by rw [hattempt]; rfl⟩
  | some held =>
    rw [show state.core.fences.find? name = some held from hfence] at hcoherent
    have hplaced : Placed config runtime.authority held := hcoherent
    obtain ⟨lease, hlease, hholder, hterm⟩ := hplaced.lease
    have hgeneration : runtime.generation.value = held.token.value := hplaced.generation
    refine Or.inr ⟨held, hfence, hplaced.active, hplaced.fallback,
      ⟨lease, hlease, hholder, hterm.trans hgeneration.symm⟩, hplaced.fence, hgeneration.symm, ?_,
      hplaced.attempt, keepsAttempt_of_placed hplaced⟩
    rw [hgeneration]
    exact hplaced.positive

end Shapes

theorem sound_blank (config : FabricConfig) : ({} : State).core.Sound config where
  targets _ _ h := by cases h
  services _ _ h := by cases h
  fences _ _ h := by cases h
  coherent _ _ h := by cases h

/-- Whatever a process remembers is sound. -/
theorem sound_of_chronicled {config : FabricConfig} {allowed : Fabric → Fabric.Op → Prop}
    {P : Invariant} {history memory : List Change} {fabric : Fabric}
    (h : Chronicled config allowed (Grounds config P) history memory fabric) :
    fabric.state.core.Sound config := by
  rcases h.remembered with ⟨-, hblank⟩ | hmemory
  · rw [hblank.core]
    exact sound_blank config
  · exact hmemory.1.sound

/-- The registries are sound at the end of every run. -/
theorem Fabric.Run.sound {config : FabricConfig} {moments : List Fabric.Moment} {fabric : Fabric}
    (h : Fabric.Run config moments fabric) : fabric.state.core.Sound config := by
  obtain ⟨history, memory, -, hchronicled⟩ :=
    h.chronicled (preserved_true config fun _ _ => True).stable fun _ _ => trivial
  exact sound_of_chronicled hchronicled

theorem Core.Sound.service_name {config : FabricConfig} {state : State}
    (h : state.core.Sound config) {name : ServiceName} {runtime : ServiceRuntime}
    (hfind : state.services.find? name = some runtime) : runtime.descriptor.name = name := by
  refine h.services name runtime.hard ?_
  rw [State.core_service, hfind]
  rfl

/-- In every reachable state a registered service is in exactly one of the two shapes. -/
theorem authority_coherent {config : FabricConfig} {fabric : Fabric}
    (h : Fabric.Reachable config fabric) {name : ServiceName} {runtime : ServiceRuntime}
    (hfind : fabric.state.services.find? name = some runtime) :
    (Vacant fabric.state name runtime ∨ ∃ held, Governed config fabric.state name runtime held) ∧
      ¬(Vacant fabric.state name runtime ∧
        ∃ held, Governed config fabric.state name runtime held) := by
  obtain ⟨moments, hrun⟩ := h
  refine ⟨shape_of_sound hrun.sound hfind, ?_⟩
  rintro ⟨hvacant, held, hgoverned⟩
  exact hvacant.not_governed hgoverned

/-- A service that was placed has the second shape. -/
theorem authority_coherent_placed : ∃ runtime,
    (Fleet.running (Fleet.opening ++ Fleet.adopt Fleet.primary 1 ++
      [Fleet.place 1 Fleet.primary])).state.services.find? Fleet.service = some runtime ∧
    runtime.active = some (Fleet.booted Fleet.primary 1) ∧
    ∃ held, Governed {} (Fleet.running (Fleet.opening ++ Fleet.adopt Fleet.primary 1 ++
      [Fleet.place 1 Fleet.primary])).state Fleet.service runtime held := by
  have hplaced : ((Fleet.running (Fleet.opening ++ Fleet.adopt Fleet.primary 1 ++
      [Fleet.place 1 Fleet.primary])).state.services.find? Fleet.service).any
        (fun runtime => runtime.active = some (Fleet.booted Fleet.primary 1)) = true := by
    simp only [Fleet.running, Fabric.after_eq_drafted]
    decide +kernel
  obtain ⟨runtime, hfind, hactive⟩ := (Option.any_eq_true _ _).mp hplaced
  have hactive : runtime.active = some (Fleet.booted Fleet.primary 1) := by simpa using hactive
  refine ⟨runtime, hfind, hactive, ?_⟩
  rcases (authority_coherent (Fleet.reachable_running _) hfind).1 with hvacant | hgoverned
  · rw [hvacant.active] at hactive
    cases hactive
  · exact hgoverned

end OffloadFabric
