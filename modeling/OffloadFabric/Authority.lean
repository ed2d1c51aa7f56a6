import OffloadFabric.Chronicle

/-!
The authority of services and how changes may move it. A legitimate change registers,
leaves authority alone, grants it anew or renews it; under such changes every service
keeps one of two shapes, and its active target, lease, fence and current attempt agree.
-/
namespace OffloadFabric

/-! ### Authority -/

/-- What an attempt says about authority. -/
structure AttemptAuthority where
  id : AttemptId
  generation : FailoverGeneration
  fence : FenceToken
  fromTarget : TargetRef
  toTarget : TargetRef

def AttemptRecord.authority (record : AttemptRecord) : AttemptAuthority :=
  { id := record.id, generation := record.generation, fence := record.fence
    fromTarget := record.fromTarget, toTarget := record.toTarget }

/-- What a runtime says about authority. -/
structure RuntimeAuthority where
  descriptor : ServiceDescriptor
  active : Option TargetRef
  fallback : Option TargetRef
  lease : Option LeaseRecord
  fence : FenceToken
  generation : FailoverGeneration
  currentAttempt : AttemptId
  history : List AttemptAuthority

def ServiceRuntime.authority (runtime : ServiceRuntime) : RuntimeAuthority :=
  { descriptor := runtime.descriptor, active := runtime.active, fallback := runtime.fallback
    lease := runtime.lease, fence := runtime.fence, generation := runtime.generation
    currentAttempt := runtime.currentAttempt
    history := runtime.history.map AttemptRecord.authority }

@[simp] theorem authority_hard (runtime : ServiceRuntime) :
    runtime.hard.authority = runtime.authority := by
  have hhistory : (runtime.history.map AttemptRecord.hard).map AttemptRecord.authority =
      runtime.history.map AttemptRecord.authority := by
    rw [List.map_map]
    rfl
  simp only [ServiceRuntime.authority, ServiceRuntime.hard, hhistory]

/-- Everything about a placed service agrees with its fence record. -/
structure Placed (config : FabricConfig) (runtime : RuntimeAuthority) (held : FenceRecord) :
    Prop where
  active : runtime.active = some held.holder
  fallback : runtime.fallback = some held.holder
  lease : ∃ lease, runtime.lease = some lease ∧ lease.holder = held.holder ∧
    lease.term.value = held.token.value
  fence : runtime.fence = held.token
  generation : runtime.generation.value = held.token.value
  positive : 1 ≤ held.token.value.toNat
  attempt : held.attempt = runtime.currentAttempt
  valid : held.holder.valid
  last : ∀ record ∈ runtime.history.getLast?, record.id = runtime.currentAttempt ∧
    record.toTarget = held.holder ∧ record.fence = held.token ∧
    record.generation = runtime.generation
  kept : 1 ≤ config.maxAttemptHistory → runtime.history ≠ []

/-- Nothing about a service was ever placed. -/
structure Unplaced (runtime : RuntimeAuthority) : Prop where
  active : runtime.active = none
  lease : runtime.lease = none
  fence : runtime.fence = {}
  generation : runtime.generation = {}
  attempt : runtime.currentAttempt = {}

/-- A service has no authority at all, or all of it agrees. -/
def Coherent (config : FabricConfig) (runtime : RuntimeAuthority) : Option FenceRecord → Prop
  | none => Unplaced runtime
  | some held => Placed config runtime held

/-- The registries are keyed by their names, and every service is coherent. -/
structure Core.Sound (config : FabricConfig) (core : Core) : Prop where
  targets : ∀ name record, core.targets.find? name = some record →
    record.name = name ∧ name.isEmpty = false
  services : ∀ name runtime, core.services.find? name = some runtime →
    runtime.descriptor.name = name
  fences : ∀ name fence, core.fences.find? name = some fence →
    fence.service = name ∧ ∃ runtime, core.services.find? name = some runtime
  coherent : ∀ name runtime, core.services.find? name = some runtime →
    Coherent config runtime.authority (core.fences.find? name)

/-! ### Legitimate changes -/

/-- A change that the checks of the coordinator let through. -/
inductive Legit (config : FabricConfig) (core : Core) : Change → Prop where
  | serviceRegistered {descriptor : ServiceDescriptor} :
      core.services.find? descriptor.name = none → Legit config core (.serviceRegistered descriptor)
  | targetUpserted {target : TargetRecord} :
      target.name.isEmpty = false → Legit config core (.targetUpserted target)
  | topologyGenerationSet (generation : TopologyGeneration) :
      Legit config core (.topologyGenerationSet generation)
  | policySet (policy : PolicyDescriptor) : Legit config core (.policySet policy)
  | capabilityIngested (evidence : CapabilityEvidence) :
      Legit config core (.capabilityIngested evidence)
  | failureIngested {evidence : FailureEvidence} :
      evidence.id.isNil = false → Legit config core (.failureIngested evidence)
  | dependencyIngested (observation : DependencyObservation) :
      Legit config core (.dependencyIngested observation)
  | targetRetired (target : TargetName) : Legit config core (.targetRetired target)
  | serviceWithdrawn (service : ServiceName) : Legit config core (.serviceWithdrawn service)
  | sourceRegistered (source : SourceName) (role : SourceRole) :
      Legit config core (.sourceRegistered source role)
  | epochAdvanced (epoch : CoordinatorEpoch) (boot : BootId) :
      Legit config core (.epochAdvanced epoch boot)
  | rewritten {kind : RuntimeRecordKind} {service : ServiceName} {next old : ServiceRuntime} :
      core.services.find? service = some old → next.authority = old.authority →
      Legit config core (.runtimeChanged kind { service, runtime := next })
  | granted {state : State} {move : Move} {grant : Grant} {name : TargetName} :
      state.core = core → core.services.find? move.service = some move.runtime.hard →
      Minted state move grant → move.mode ≠ .resume →
      move.source = move.runtime.active.getD {} → core.targets.find? name = some move.target →
      Legit config core (move.change grant config state)
  | renewed {state : State} {move : Move} {grant : Grant} {previous : AttemptRecord} :
      state.core = core → core.services.find? move.service = some move.runtime.hard →
      Minted state move grant → move.mode = .resume →
      move.runtime.currentAttemptRecord = some previous → move.source = previous.fromTarget →
      core.targets.find? previous.toTarget.target = some move.target →
      move.target.incarnation = previous.toTarget.incarnation →
      Legit config core (move.change grant config state)

/-! ### The runtime a commit leaves -/

namespace Move

variable (move : Move) (grant : Grant) (config : FabricConfig) (state : State)

theorem authority_departed (runtime : ServiceRuntime) :
    (move.departed state runtime).authority = runtime.authority := by
  unfold departed
  split <;> rfl

theorem authority_settled (runtime : ServiceRuntime) :
    (move.settled runtime).authority = runtime.authority := by
  unfold settled
  split <;> rfl

/-- The authority a commit leaves, up to what the history keeps. -/
theorem authority_nextRuntime : (move.nextRuntime grant config state).authority =
    { descriptor := move.runtime.descriptor
      active := some move.destination, fallback := some move.destination
      lease := some (move.lease grant state), fence := grant.fence, generation := grant.generation
      currentAttempt := grant.attempt
      history := ((move.extendedHistory grant state).map AttemptRecord.authority).drop
        (move.excess grant config state) } := by
  unfold nextRuntime
  dsimp only
  rw [authority_settled, authority_departed]
  simp only [ServiceRuntime.authority, ServiceRuntime.invalidateVerification, List.map_drop]

theorem extendedHistory_of_granted (hmode : move.mode ≠ .resume) :
    move.extendedHistory grant state =
      move.runtime.history ++ [move.attemptRecord grant state] := by
  unfold extendedHistory
  rw [if_neg fun h => hmode h.1]

theorem excess_eq : move.excess grant config state =
    (move.extendedHistory grant state).length - config.maxAttemptHistory := rfl

end Move

/-- Rewriting a record keeps what it says about authority. -/
theorem authority_modifyFirst {id : AttemptId} {f : AttemptRecord → AttemptRecord}
    (hf : ∀ record, (f record).authority = record.authority) (history : List AttemptRecord) :
    (ServiceRuntime.modifyFirst id f history).map AttemptRecord.authority =
      history.map AttemptRecord.authority := by
  induction history with
  | nil => rfl
  | cons record rest ih =>
    unfold ServiceRuntime.modifyFirst
    split
    · rw [List.map_cons, List.map_cons, hf]
    · rw [List.map_cons, List.map_cons, ih]

theorem authority_modifyNewest {id : AttemptId} {f : AttemptRecord → AttemptRecord}
    (hf : ∀ record, (f record).authority = record.authority) (history : List AttemptRecord) :
    (ServiceRuntime.modifyNewest id f history).map AttemptRecord.authority =
      history.map AttemptRecord.authority := by
  unfold ServiceRuntime.modifyNewest
  rw [List.map_reverse, authority_modifyFirst hf, ← List.map_reverse, List.reverse_reverse]

/-! ### Legitimate changes keep every service coherent -/

section Sound

variable {config : FabricConfig} {core : Core} {state : State} {move : Move} {grant : Grant}
  {old : Option FenceRecord}

theorem getLast?_drop_append {α : Type} (history : List α) (last : α) {count : Nat}
    (h : count ≤ history.length) : ((history ++ [last]).drop count).getLast? = some last := by
  rw [List.drop_append_of_le_length h, List.getLast?_append]
  rfl

theorem toNat_inj {tag tag' : GenTag} {left : Gen tag} {right : Gen tag'}
    (h : left.value.toNat = right.value.toNat) : left.value = right.value :=
  UInt64.toNat_inj.mp h

/-- A grant leaves a placed service, whatever its shape was. -/
theorem placed_of_granted (hcoherent : Coherent config move.runtime.authority old)
    (hold : old = state.fences.find? move.service) (hminted : Minted state move grant)
    (hmode : move.mode ≠ .resume) (hvalid : move.destination.valid) :
    Placed config (move.nextRuntime grant config state).authority
      (move.fenceRecord grant state) := by
  have htoken := hminted.fence_toNat hmode
  have hgeneration := hminted.generation_toNat hmode
  have hterm := hminted.term
  -- The three numbers start together and are raised together.
  have hsame : grant.generation.value.toNat = grant.fence.value.toNat ∧
      grant.term.value.toNat = grant.fence.value.toNat := by
    unfold State.fenceTokenOf at htoken
    cases old with
    | none =>
      have hgen : move.runtime.generation = {} := hcoherent.generation
      have hlease : move.runtime.lease = none := hcoherent.lease
      simp only [← hold] at htoken
      simp only [hlease] at hterm
      rw [hgen] at hgeneration
      rw [← Option.some.inj hterm]
      exact ⟨hgeneration.trans htoken.symm, htoken.symm⟩
    | some held =>
      obtain ⟨lease, hlease, -, hleaseTerm⟩ := hcoherent.lease
      have hlease : move.runtime.lease = some lease := hlease
      have hgen : move.runtime.generation.value = held.token.value := hcoherent.generation
      simp only [← hold] at htoken
      simp only [hlease, if_neg hmode] at hterm
      have hnext := Gen.successor_toNat hterm
      rw [hgen] at hgeneration
      rw [hleaseTerm] at hnext
      exact ⟨hgeneration.trans htoken.symm, hnext.trans htoken.symm⟩
  rw [Move.authority_nextRuntime, Move.extendedHistory_of_granted move grant state hmode]
  refine ⟨rfl, rfl, ⟨_, rfl, rfl, toNat_inj hsame.2⟩, rfl, toNat_inj hsame.1, ?_, rfl, hvalid,
    ?_, ?_⟩
  · rw [Move.fenceRecord, htoken]
    omega
  all_goals
    have hexcess := Move.excess_eq move grant config state
    rw [Move.extendedHistory_of_granted move grant state hmode, List.length_append,
      List.length_singleton] at hexcess
    dsimp only
    rw [List.map_append, List.map_singleton]
  · intro record hrecord
    by_cases hmax : 1 ≤ config.maxAttemptHistory
    · rw [getLast?_drop_append _ _ (by rw [List.length_map]; omega)] at hrecord
      obtain rfl := Option.some.inj hrecord
      exact ⟨rfl, rfl, rfl, rfl⟩
    · rw [List.drop_of_length_le (by simp; omega)] at hrecord
      cases hrecord
  · intro hmax hnil
    have hlength : move.excess grant config state ≤
        (move.runtime.history.map AttemptRecord.authority).length := by
      rw [List.length_map]
      omega
    have hlast := getLast?_drop_append _ (move.attemptRecord grant state).authority hlength
    rw [hnil] at hlast
    cases hlast

/-- The newest record of the current attempt is the last one of a placed service. -/
theorem last_of_currentAttemptRecord {runtime : ServiceRuntime} {held : FenceRecord}
    {previous : AttemptRecord} (hplaced : Placed config runtime.authority held)
    (hprevious : runtime.currentAttemptRecord = some previous) :
    runtime.history.getLast? = some previous := by
  have hlast := hplaced.last
  unfold ServiceRuntime.currentAttemptRecord at hprevious
  rw [← List.head?_reverse]
  cases hhistory : runtime.history.reverse with
  | nil =>
    rw [hhistory] at hprevious
    cases hprevious
  | cons newest rest =>
    have hnewest : runtime.history.getLast? = some newest := by
      rw [← List.head?_reverse, hhistory]
      rfl
    have hid : newest.id = runtime.currentAttempt :=
      (hlast newest.authority (by
        simp only [ServiceRuntime.authority, List.getLast?_map, hnewest]
        rfl)).1
    rw [hhistory, List.find?_cons_of_pos (by simpa using hid)] at hprevious
    exact hprevious

theorem mem_of_currentAttemptRecord {runtime : ServiceRuntime} {previous : AttemptRecord}
    (h : runtime.currentAttemptRecord = some previous) :
    previous ∈ runtime.history ∧ previous.id = runtime.currentAttempt := by
  refine ⟨List.mem_reverse.mp (List.mem_of_find?_eq_some h), ?_⟩
  simpa using List.find?_some h

/-- A renewal re-issues an attempt of the history in place. -/
theorem authority_extendedHistory {previous : AttemptRecord} (hmode : move.mode = .resume)
    (hmem : previous ∈ move.runtime.history) (hid : previous.id = grant.attempt) :
    (move.extendedHistory grant state).map AttemptRecord.authority =
      move.runtime.history.map AttemptRecord.authority := by
  have hany : move.runtime.history.any (fun record => record.id = grant.attempt) := by
    rw [List.any_eq_true]
    exact ⟨previous, hmem, by simpa using hid⟩
  rw [Move.extendedHistory, if_pos ⟨hmode, hany⟩]
  exact authority_modifyFirst (by exact fun _ => rfl) _

/-- A renewal re-issues the attempt of a placed service at its own holder. -/
theorem placed_of_renewed {previous : AttemptRecord}
    (hcoherent : Coherent config move.runtime.authority old) (hminted : Minted state move grant)
    (hmode : move.mode = .resume) (hprevious : move.runtime.currentAttemptRecord = some previous)
    (hname : move.target.name = previous.toTarget.target)
    (hincarnation : move.target.incarnation = previous.toTarget.incarnation) :
    ∃ held, old = some held ∧ move.destination = held.holder ∧ grant.fence = held.token ∧
      move.runtime.history.getLast? = some previous ∧
      (move.nextRuntime grant config state).authority.history =
        (move.runtime.authority.history).drop (move.excess grant config state) ∧
      Placed config (move.nextRuntime grant config state).authority
        (move.fenceRecord grant state) := by
  obtain ⟨hgeneration, hfence, hattempt, hterm⟩ := hminted.resumed hmode
  cases old with
  | none =>
    have hnil : move.runtime.currentAttempt = {} := hcoherent.attempt
    have havailable := hminted.attemptAvailable.1
    rw [hattempt, hnil] at havailable
    exact absurd rfl havailable
  | some held =>
    have hplaced : Placed config move.runtime.authority held := hcoherent
    have hlast := last_of_currentAttemptRecord hplaced hprevious
    obtain ⟨hmem, hid⟩ := mem_of_currentAttemptRecord hprevious
    have hauthority := hplaced.last previous.authority (by
      simp only [ServiceRuntime.authority, List.getLast?_map, hlast]
      rfl)
    have hdestination : move.destination = held.holder :=
      (TargetRef.ext hname hincarnation).trans hauthority.2.1
    have hextended : (move.extendedHistory grant state).map AttemptRecord.authority =
        move.runtime.authority.history :=
      authority_extendedHistory hmode hmem (hid.trans hattempt.symm)
    have htoken : grant.fence = held.token := hfence.trans hplaced.fence
    obtain ⟨lease, hlease, -, hleaseTerm⟩ := hplaced.lease
    have hgrantTerm : grant.term = lease.term := hterm lease hlease
    refine ⟨held, rfl, hdestination, htoken, hlast, ?_, ?_⟩
    · rw [Move.authority_nextRuntime, hextended]
    rw [Move.authority_nextRuntime, hextended]
    refine ⟨rfl, rfl, ⟨_, rfl, rfl, ?_⟩, rfl, ?_, ?_, rfl, ?_, ?_, ?_⟩
    · rw [Move.lease, Move.fenceRecord, hgrantTerm, htoken, hleaseTerm]
    · rw [Move.fenceRecord, hgeneration, htoken]
      exact hplaced.generation
    · rw [Move.fenceRecord, htoken]
      exact hplaced.positive
    · rw [Move.fenceRecord, hdestination]
      exact hplaced.valid
    · intro record hrecord
      rw [List.getLast?_drop] at hrecord
      split at hrecord
      · cases hrecord
      · have hold := hplaced.last record hrecord
        refine ⟨hold.1.trans hattempt.symm, hold.2.1.trans hdestination.symm,
          hold.2.2.1.trans htoken.symm, hold.2.2.2.trans hgeneration.symm⟩
    · intro hmax hnil
      have hkept := hplaced.kept hmax
      have hlength := congrArg List.length hextended
      have hexcess := Move.excess_eq move grant config state
      rw [List.length_map] at hlength
      rw [List.drop_eq_nil_iff] at hnil
      have hpositive := List.length_pos_iff.mpr hkept
      omega

end Sound

end OffloadFabric
