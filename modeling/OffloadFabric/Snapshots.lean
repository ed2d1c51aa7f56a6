import OffloadFabric.Ceilings
import OffloadFabric.Drafts

/-!
What a snapshot keeps of a memory. The format holds the maps of the state; the order in
which the entries of a map arrived and the latest failure of every service are not in it,
and the decoder enforces ceilings that the calls need not respect.
-/
namespace OffloadFabric

/-- What is not in the snapshot follows from what is: the orders are those of the keys, and
no service has a latest failure. -/
structure State.Derivable (state : State) : Prop where
  failures : state.failureOrder = state.failures.keys
  latest : state.latestFailure = .empty
  requests : state.requestOrder = state.requestCache.keys

/-- The states differ at most in their statistics, which no decision reads. -/
def State.Agrees (read state : State) : Prop := { read with stats := state.stats } = state

theorem State.agrees_restored_iff (state : State) :
    state.restored.Agrees state ↔ state.Derivable := by
  constructor
  · intro h
    exact ⟨(congrArg State.failureOrder h).symm, (congrArg State.latestFailure h).symm,
      (congrArg State.requestOrder h).symm⟩
  · intro h
    unfold State.Agrees State.restored
    rw [← h.failures, ← h.latest, ← h.requests]

/-- The snapshot is read to its last byte, as a state that agrees with the one written. -/
def State.RoundTrips (config : FabricConfig) (state : State) (snapshot : Bytes) : Prop :=
  ∃ read reader, decodeFrom (decodeState config) snapshot = .ok (read, reader) ∧
    reader.atEnd = true ∧ read.Agrees state

theorem State.WellKeyed.roundTrips_iff {config : FabricConfig} {state : State} {snapshot : Bytes}
    (hkeyed : state.WellKeyed)
    (hwrites : CanonicalWriter.run (encodeState state) = some snapshot) :
    state.RoundTrips config snapshot ↔ state.Encodable config ∧ state.Derivable := by
  obtain ⟨hok, herror⟩ := (roundTrips_state config hkeyed).decodeFrom (by decide) hwrites
  rw [← state.agrees_restored_iff]
  constructor
  · rintro ⟨read, reader, hread, -, hagrees⟩
    by_cases hencodable : state.Encodable config
    · rw [hok hencodable] at hread
      obtain ⟨rfl, -⟩ := Prod.mk.inj (Except.ok.inj hread)
      exact ⟨hencodable, hagrees⟩
    · obtain ⟨err, herr⟩ := herror hencodable
      rw [herr] at hread
      cases hread
  · intro ⟨hencodable, hagrees⟩
    exact ⟨state.restored, ⟨[], 0⟩, hok hencodable, rfl, hagrees⟩

section Memory

variable {config : FabricConfig} {moments : List Fabric.Moment} {fabric : Fabric}
  {snapshot : Bytes}

/-- The snapshot of a memory is read back as that memory exactly when the memory is one the
decoder accepts and holds nothing that the format leaves out. -/
theorem snapshot_restores_iff (hrun : Fabric.Run config moments fabric)
    (hwrites : CanonicalWriter.run (encodeState fabric.state) = some snapshot) :
    fabric.state.RoundTrips config snapshot ↔
      fabric.state.Encodable config ∧ fabric.state.Derivable :=
  hrun.wellKeyed.roundTrips_iff hwrites

end Memory

/-! ### Memories that a snapshot keeps, and memories that it does not -/

instance (descriptor : ServiceDescriptor) : Decidable descriptor.known :=
  inferInstanceAs (Decidable (_ ∧ _))

instance (config : FabricConfig) (runtime : ServiceRuntime) :
    Decidable (runtime.Encodable config) :=
  decidable_of_iff (_ ∧ _ ∧ _)
    ⟨fun ⟨hknown, hhistory, heffects⟩ => ⟨hknown, hhistory, heffects⟩,
      fun h => ⟨h.known, h.history, h.effects⟩⟩

namespace Fleet

/-- The first target of the service failed. -/
def struck : List Fabric.Op :=
  opening ++ [register (booted primary 1), reportFailure 1 .unambiguous]

end Fleet

/-- A service was placed: its memory is read back whole. -/
theorem snapshot_restores_placed : ∃ snapshot,
    CanonicalWriter.run (encodeState (Fleet.keeping Fleet.placed).state) = some snapshot ∧
      (Fleet.keeping Fleet.placed).state.RoundTrips { storeDirectory := true } snapshot := by
  have hwritten : (CanonicalWriter.run
      (encodeState (Fleet.keeping Fleet.placed).state)).isSome = true := by
    simp only [Fleet.keeping, Fabric.after_eq_drafted]
    decide +kernel
  obtain ⟨snapshot, hsnapshot⟩ := Option.isSome_iff_exists.mp hwritten
  refine ⟨snapshot, hsnapshot, (snapshot_restores_iff (Fleet.run_keeping _) hsnapshot).mpr ?_⟩
  clear hsnapshot hwritten
  simp only [Fleet.keeping, Fabric.after_eq_drafted]
  refine ⟨?_, ?_⟩
  · constructor
    all_goals decide +kernel
  · constructor
    all_goals decide +kernel

/-- A failure was reported: the snapshot forgets that it is the latest one of the service. -/
theorem not_snapshot_restores : ∃ moments fabric snapshot,
    Fabric.Run { storeDirectory := true } moments fabric ∧
    CanonicalWriter.run (encodeState fabric.state) = some snapshot ∧
      ¬fabric.state.RoundTrips { storeDirectory := true } snapshot := by
  have hwritten : (CanonicalWriter.run
      (encodeState (Fleet.keeping Fleet.struck).state)).isSome = true := by
    simp only [Fleet.keeping, Fabric.after_eq_drafted]
    decide +kernel
  have hlatest : (Fleet.keeping Fleet.struck).state.latestFailure.size = 1 := by
    simp only [Fleet.keeping, Fabric.after_eq_drafted]
    decide +kernel
  obtain ⟨snapshot, hsnapshot⟩ := Option.isSome_iff_exists.mp hwritten
  refine ⟨_, _, snapshot, Fleet.run_keeping _, hsnapshot, fun hround => ?_⟩
  have hderivable :=
    (((Fleet.run_keeping _).wellKeyed.roundTrips_iff hsnapshot).mp hround).2
  rw [hderivable.latest] at hlatest
  cases hlatest

end OffloadFabric
