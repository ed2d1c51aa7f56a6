import OffloadFabric.Runs

/-!
The invariant that every other one is built on. A memory is grounded in a history when the
history explains it and every change of the history was legitimate; grounded memories are
well keyed and sound, in every run. A further invariant only has to be preserved along
grounded memories.
-/
namespace OffloadFabric

open Fabric (Op)

/-- The history explains the memory, and was legitimate all along. -/
structure Grounded (config : FabricConfig) (history : List Change) (state : State) : Prop where
  explains : Explains config history state
  lawful : Along config (Legit config) history

section Grounded

variable {config : FabricConfig} {history past : List Change} {state state' : State}
  {change : Change} {fabric : Fabric} {op : Op} {made : Commit}

theorem soundReplayed (h : Along config (Legit config) history) :
    (replayed config history).core.Sound config :=
  h.preserves (P := fun state => state.core.Sound config) List.nil_prefix (soundInitial config)
    fun _ _ _ _ hsound hlegit => hsound.apply hlegit

theorem Grounded.sound (h : Grounded config history state) : state.core.Sound config :=
  h.explains.core ▸ soundReplayed h.lawful

/-- Whatever is in a history, some first part of it ends with it. -/
theorem exists_prefix_of_mem {α : Type} {item : α} {items : List α} (h : item ∈ items) :
    ∃ past, past ++ [item] <+: items := by
  obtain ⟨past, rest, rfl⟩ := List.append_of_mem h
  exact ⟨past, rest, by simp⟩

theorem Grounded.evidence (h : Grounded config history state) {key : EvidenceId}
    {evidence : FailureEvidence} (hfind : state.failures.find? key = some evidence) :
    key = evidence.id ∧ evidence.id.isNil = false := by
  obtain ⟨hkey, hmem⟩ := h.explains.failures key evidence hfind
  obtain ⟨past, hpast⟩ := exists_prefix_of_mem hmem
  cases h.lawful past _ hpast with
  | failureIngested hid => exact ⟨hkey, hid⟩

theorem State.WellKeyed.of_sound (hsound : state.core.Sound config)
    (hevidence : ∀ key evidence, state.failures.find? key = some evidence →
      key = evidence.id ∧ evidence.id.isNil = false) : state.WellKeyed where
  targets entry hentry :=
    hsound.targets _ _ ((state.targets.find?_eq_some_iff _ _).mpr hentry)
  services entry hentry := by
    have hfind : state.core.services.find? entry.1 = some entry.2.hard := by
      rw [State.core_service, (state.services.find?_eq_some_iff _ _).mpr hentry]
      rfl
    have hname := hsound.services _ _ hfind
    exact hname
  failures entry hentry := by
    obtain ⟨hkey, hid⟩ := hevidence _ _ ((state.failures.find?_eq_some_iff _ _).mpr hentry)
    exact ⟨hkey.symm, hkey ▸ hid⟩
  fences entry hentry :=
    (hsound.fences _ _ ((state.fences.find?_eq_some_iff _ _).mpr hentry)).1

theorem Grounded.wellKeyed (h : Grounded config history state) : state.WellKeyed :=
  .of_sound h.sound fun _ _ hfind => h.evidence hfind

theorem Grounded.initial (config : FabricConfig) : Grounded config [] (initialState config) :=
  ⟨.initial config, .nil⟩

theorem Grounded.keeps (h : Grounded config history state)
    (hkeeps : State.Keeps config state state') : Grounded config history state' :=
  ⟨h.explains.keeps hkeeps, h.lawful⟩

theorem Grounded.legit (h : Grounded config history fabric.state)
    (hconfig : fabric.config = config) (hcaused : fabric.Caused op made) :
    Legit config made.before.core made.change := by
  subst hconfig
  exact hcaused.legit h.sound fun key evidence hfind => (h.evidence hfind).2

theorem Grounded.commit (h : Grounded config history fabric.state)
    (hconfig : fabric.config = config) (hcaused : fabric.Caused op made)
    (hbefore : Grounded config history made.before) :
    Grounded config (history ++ [made.change]) made.after := by
  have hlegit := h.legit hconfig hcaused
  rw [hbefore.explains.core] at hlegit
  exact ⟨hbefore.explains.commit hcaused.takesOver, h.lawful.snoc hlegit⟩

theorem Grounded.restored (h : Grounded config history state) :
    Grounded config history state.restored :=
  ⟨⟨h.explains.core, h.explains.failures⟩, h.lawful⟩

theorem Grounded.restart (h : Grounded config history state) :
    Grounded config (history ++ [.epochAdvanced (advance state.epoch) (advance state.boot)])
      (restartedState state) :=
  ⟨h.explains.restart, h.lawful.snoc (.epochAdvanced _ _)⟩

theorem acts_config {caller actor : Fabric} {op' : Op} (hacts : caller.Acts op actor op')
    (hcaller : caller.config = config) : actor.config = config := by
  cases hacts with
  | direct => exact hcaller
  | confirmed _ _ hmiddle => exact hmiddle.trans hcaller

/-- A change with a warrant is legitimate in what its history gives. -/
theorem legit_of_warrant {allowed : Fabric → Op → Prop} {Q : Invariant}
    (hground : ∀ {past state}, Q past state → Grounded config past state)
    (h : Warrant config allowed Q past change) :
    Legit config (replayed config past).core change := by
  cases h with
  | made _ hconfig hacts _ hactor hcaused hbefore =>
    rw [← (hground hbefore).explains.core]
    exact (hground hactor).legit (acts_config hacts hconfig) hcaused
  | restarted => exact .epochAdvanced _ _

theorem Grounded.replay {allowed : Fabric → Op → Prop} {Q : Invariant}
    (hground : ∀ {past state}, Q past state → Grounded config past state)
    (h : Grounded config history state) (hwarrant : Warrant config allowed Q history change) :
    Grounded config (history ++ [change]) (Change.apply state change) :=
  ⟨h.explains.apply change, h.lawful.snoc (legit_of_warrant hground hwarrant)⟩

end Grounded

/-! ### Further invariants -/

/-- Grounded memories with one more property. -/
def Grounds (config : FabricConfig) (P : Invariant) : Invariant :=
  fun history state => Grounded config history state ∧ P history state

/-- What a further property needs to hold of every memory of every run. -/
structure Preserved (config : FabricConfig) (allowed : Fabric → Op → Prop) (P : Invariant) :
    Prop where
  initial : P [] (initialState config)
  keeps : ∀ {history state state'}, Grounded config history state → P history state →
    State.Upkeep config state state' → P history state'
  commit : ∀ {history caller actor op op' commit}, allowed caller op → caller.config = config →
    caller.Acts op actor op' → actor.opened → Grounds config P history actor.state →
    actor.Caused op' commit → Grounds config P history commit.before →
    P (history ++ [commit.change]) commit.after
  snapshot : ∀ {history state}, Grounded config history state → P history state →
    P history state.restored
  restart : ∀ {history state}, ReadBack config allowed state → Grounded config history state →
    P history state → P (history ++ [.epochAdvanced (advance state.epoch) (advance state.boot)])
      (restartedState state)
  replay : ∀ {history state change}, Grounded config history state → P history state →
    Warrant config allowed (Grounds config P) history change →
    P (history ++ [change]) (Change.apply state change)

theorem Preserved.stable {config : FabricConfig} {allowed : Fabric → Op → Prop} {P : Invariant}
    (h : Preserved config allowed P) : Stable config allowed (Grounds config P) where
  initial := ⟨.initial config, h.initial⟩
  keeps hQ hkeeps := by
    induction hkeeps with
    | refl => exact hQ
    | tail _ hstep ih => exact ⟨ih.1.keeps hstep.keeps, h.keeps ih.1 ih.2 hstep⟩
  commit hallowed hconfig hacts hopened hactor hcaused hbefore :=
    ⟨hactor.1.commit (acts_config hacts hconfig) hcaused hbefore.1,
      h.commit hallowed hconfig hacts hopened hactor hcaused hbefore⟩
  snapshot _ hQ := ⟨hQ.1.wellKeyed, hQ.1.restored, h.snapshot hQ.1 hQ.2⟩
  restart hread hQ := ⟨hQ.1.restart, h.restart hread hQ.1 hQ.2⟩
  replay _ hQ hwarrant :=
    ⟨hQ.1.replay (fun hpast => hpast.1) hwarrant, h.replay hQ.1 hQ.2 hwarrant⟩

/-- A property of the history alone only has to survive one more legitimate change. -/
theorem preserved_true (config : FabricConfig) (allowed : Fabric → Op → Prop) :
    Preserved config allowed fun _ _ => True :=
  ⟨trivial, fun _ _ _ => trivial, fun _ _ _ _ _ _ _ => trivial, fun _ _ => trivial,
    fun _ _ _ => trivial, fun _ _ _ => trivial⟩

section ReadBack

variable {config : FabricConfig} {allowed : Fabric → Op → Prop} {Q : Invariant}
  {history memory : List Change} {fabric : Fabric}

/-- What an open reads back goes with all that the directory holds. -/
theorem Chronicled.readBack {old : State} (h : Chronicled config allowed Q history memory fabric)
    (hstable : Stable config allowed Q) (hstore : config.storeDirectory = true)
    (hread : fabric.Rereads old) : Q history old := by
  obtain ⟨found, base, hopen, hload, hreplay⟩ := hread
  rw [h.configured] at hopen hload hreplay
  obtain ⟨⟨first, changes, rfl, hrecords, hbase⟩, -⟩ := (h.holds hstore).open hopen
  rw [hrecords] at hreplay
  obtain ⟨applied, rest, rfl, rfl, hcomplete⟩ := replay_changes hreplay
  obtain rfl := hcomplete rfl
  rw [List.append_nil] at h ⊢
  exact hstable.replayAll h.trail (hbase _ hload)

end ReadBack

end OffloadFabric
