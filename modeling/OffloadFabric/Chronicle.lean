import OffloadFabric.Calls

/-!
The durable history of a coordinator: all changes that were ever made durable, oldest
first. A memory is explained by a history when its authority is what replaying the
history gives, and every evidence it retains was recorded there.
-/
namespace OffloadFabric

/-! ### Commits take over -/

/-- A commit takes its change over into the memory, as far as authority and evidence go. -/
structure Commit.TakesOver (commit : Commit) : Prop where
  core : commit.after.core = (Change.apply commit.before commit.change).core
  failures : ∀ key evidence, commit.after.failures.find? key = some evidence →
    commit.before.failures.find? key = some evidence ∨
      commit.change = .failureIngested evidence ∧ key = evidence.id

namespace State

theorem core_evictFailuresFrom (ceiling : Nat) (order : List EvidenceId) (state : State) :
    (Fabric.evictFailuresFrom ceiling order state).core = state.core := by
  induction order generalizing state with
  | nil => rfl
  | cons oldest order ih =>
    unfold Fabric.evictFailuresFrom
    split
    · rw [ih]
      split <;> rfl
    · rfl

theorem find?_evictFailuresFrom {ceiling : Nat} {order : List EvidenceId} {state : State}
    {key : EvidenceId} {evidence : FailureEvidence}
    (h : (Fabric.evictFailuresFrom ceiling order state).failures.find? key = some evidence) :
    state.failures.find? key = some evidence := by
  induction order generalizing state with
  | nil => exact h
  | cons oldest order ih =>
    unfold Fabric.evictFailuresFrom at h
    split at h
    · have herased := ih h
      split at herased
      · have herased : (state.failures.erase oldest).find? key = some evidence := herased
        rw [OrderedMap.find?_erase] at herased
        split at herased
        · cases herased
        · exact herased
      · exact herased
    · exact h

theorem core_retainFailure (config : FabricConfig) (evidence : FailureEvidence)
    (stamp : LogicalTick) (state : State) :
    (Fabric.retainFailure config evidence stamp state).core = state.core :=
  core_evictFailuresFrom _ _ _

theorem find?_retainFailure {config : FabricConfig} {evidence found : FailureEvidence}
    {stamp : LogicalTick} {state : State} {key : EvidenceId}
    (h : (Fabric.retainFailure config evidence stamp state).failures.find? key = some found) :
    state.failures.find? key = some found ∨ found = evidence ∧ key = evidence.id := by
  have hinsert : ((Fabric.evictFailures config
      { state with
        tick := stamp
        nextEvidenceId :=
          if evidence.id = ⟨state.nextEvidenceId⟩ then state.nextEvidenceId + 1
          else state.nextEvidenceId }).failures.insert evidence.id evidence).find? key =
      some found := h
  rw [OrderedMap.find?_insert] at hinsert
  split at hinsert
  · rename_i hkey
    exact Or.inr ⟨(Option.some.inj hinsert).symm, hkey⟩
  · have hfound := find?_evictFailuresFrom hinsert
    exact Or.inl hfound

@[simp] theorem failures_modifyService (state : State) (service : ServiceName)
    (f : ServiceRuntime → ServiceRuntime) :
    (state.modifyService service f).failures = state.failures := by
  unfold modifyService
  split <;> rfl

@[simp] theorem failures_bump (state : State) (field : StatField) :
    (state.bump field).failures = state.failures := rfl

@[simp] theorem failures_remember (state : State) (config : FabricConfig) (key : RequestKey)
    (entry : RequestCacheEntry) :
    (state.remember config key entry).failures = state.failures := by
  obtain ⟨cache, order, hremember⟩ := state.exists_remember config key entry
  rw [hremember]

@[simp] theorem failures_bumpAll (state : State) (fields : List StatField) :
    (state.bumpAll fields).failures = state.failures := by
  unfold bumpAll
  induction fields generalizing state with
  | nil => rfl
  | cons field rest ih => exact ih (state.bump field)

end State

section TakesOver

variable {fabric : Fabric} {op : Op} {commit : Commit}

/-- A commit that leaves the evidence alone only has to agree on the core. -/
theorem Commit.TakesOver.of_core (hcore : commit.after.core =
    (Change.apply commit.before commit.change).core)
    (hfailures : commit.after.failures = commit.before.failures) : commit.TakesOver :=
  ⟨hcore, fun _ _ h => Or.inl (hfailures ▸ h)⟩

theorem Fabric.Writes.takesOver {change : Change} {update : State → State}
    (h : fabric.Writes change update commit)
    (hcore : ∀ state, (update state).core = (Change.apply state change).core)
    (hfailures : ∀ state, (update state).failures = state.failures) : commit.TakesOver :=
  .of_core (by rw [h.after, h.change, hcore]) (by rw [h.after, hfailures])

/-- Rewriting a runtime is what its record does, whatever is counted besides. -/
theorem core_rewritten (kind : RuntimeRecordKind) (service : ServiceName) (next : ServiceRuntime)
    (stamp : LogicalTick) (state : State) : (Fabric.rewritten service next stamp state).core =
      (Change.apply state (.runtimeChanged kind { service, runtime := next })).core := rfl

theorem Fabric.Ingested.takesOver {change : Change} {update : State → State}
    (hingested : fabric.Ingested op change update) (h : fabric.Writes change update commit) :
    commit.TakesOver := by
  have hretained (evidence : FailureEvidence) (stamp : LogicalTick)
      (hcore : ∀ state, (update state).core =
        (Fabric.retainFailure fabric.config evidence stamp state).core)
      (hfailures : ∀ state, (update state).failures =
        (Fabric.retainFailure fabric.config evidence stamp state).failures)
      (hchange : change = .failureIngested evidence) : commit.TakesOver := by
    subst hchange
    refine ⟨?_, fun key found hfound => ?_⟩
    · rw [h.after, h.change, hcore]
      exact State.core_retainFailure _ _ _ _
    · rw [h.after, hfailures] at hfound
      rcases State.find?_retainFailure hfound with hbefore | ⟨rfl, hkey⟩
      · exact Or.inl hbefore
      · exact Or.inr ⟨h.change, hkey⟩
  cases hingested with
  | enrolled | targetRegistered | topologySet | policySet | retired =>
    exact h.takesOver (fun _ => rfl) (fun _ => rfl)
  | capability _ hrecord =>
    subst hrecord
    exact h.takesOver (fun _ => rfl) (fun _ => rfl)
  | serviceRegistered =>
    refine h.takesOver (fun state => ?_) (fun _ => rfl)
    simp only [State.core, State.bump, Change.apply, OrderedMap.mapValues_insert]
    rfl
  | withdrawn =>
    refine h.takesOver (fun state => ?_) (fun state => by
      simp only [State.bump, State.failures_modifyService])
    rw [State.core_bump, Change.core_serviceWithdrawn]
    exact State.core_modifyService _ fun _ => rfl
  | @failure evidence id stamp => exact hretained _ stamp (fun _ => rfl) (fun _ => rfl) rfl
  | @suspicion evidence id stamp =>
    refine hretained _ stamp (fun state => ?_) (fun state => ?_) rfl
    · rw [State.core_bump]
      exact State.core_modifyService _ fun _ => rfl
    · simp only [State.bump, State.failures_modifyService]
  | dependency _ hupdate =>
    obtain ⟨stats, hafter⟩ := hupdate commit.before
    refine .of_core ?_ ?_
    · rw [h.after, h.change, hafter]
      rfl
    · rw [h.after, hafter]
      rfl

theorem Fabric.Moves.takesOver {move : Move} {decision : RecoveryDecision}
    (h : fabric.Moves move decision commit) : commit.TakesOver := by
  cases h with
  | intro hprior hprepare hbefore _ _ _ _ =>
    refine .of_core ?_ ?_
    · simp only [Move.update, State.core_remember, State.core_bump, State.core_bumpAll]
      rfl
    · simp only [Move.update, State.failures_remember, State.failures_bump,
        State.failures_bumpAll]

/-- Whatever a call commits, it takes over. -/
theorem Fabric.Caused.takesOver (h : fabric.Caused op commit) : commit.TakesOver := by
  cases h with
  | ingested hop hok hwrites => exact (ingested_of_ok hop hok).takesOver hwrites
  | moved _ _ _ hmoves => exact hmoves.takesOver
  | denied _ _ _ hwrites =>
    exact hwrites.takesOver
      (fun _ => (State.core_bump _ _).trans (core_rewritten _ _ _ _ _)) (fun _ => rfl)
  | confirmed _ _ _ hwrites =>
    refine ⟨?_, fun key found hfound => ?_⟩
    · rw [hwrites.after, hwrites.change, promotedState, State.core_bump]
      exact State.core_modifyService _ fun _ => rfl
    · rw [hwrites.after, promotedState] at hfound
      simp only [State.bump, State.failures_modifyService, OrderedMap.find?_insert] at hfound
      split at hfound
      · rename_i hkey
        obtain rfl := Option.some.inj hfound
        exact Or.inr ⟨hwrites.change, hkey⟩
      · exact Or.inl hfound
  | acknowledged _ _ hwrites =>
    exact hwrites.takesOver (fun _ => core_rewritten _ _ _ _ _) (fun _ => rfl)
  | reported _ _ _ _ hwrites =>
    refine hwrites.takesOver (fun state => ?_) (fun state => State.failures_bumpAll _ _)
    rw [State.core_bumpAll]
    exact core_rewritten _ _ _ _ _

end TakesOver

/-! ### Histories -/

/-- The state that replaying a history from nothing gives. -/
def replayed (config : FabricConfig) (history : List Change) : State :=
  history.foldl Change.apply (initialState config)

@[simp] theorem replayed_nil (config : FabricConfig) :
    replayed config [] = initialState config := rfl

theorem replayed_append (config : FabricConfig) (history changes : List Change) :
    replayed config (history ++ changes) = changes.foldl Change.apply (replayed config history) :=
  List.foldl_append

@[simp] theorem replayed_snoc (config : FabricConfig) (history : List Change) (change : Change) :
    replayed config (history ++ [change]) = Change.apply (replayed config history) change := by
  rw [replayed_append]
  rfl

/-- Every change of the history has the relation to the authority it was made under. -/
def Along (config : FabricConfig) (R : Core → Change → Prop) (history : List Change) : Prop :=
  ∀ past change, past ++ [change] <+: history → R (replayed config past).core change

section Along

variable {config : FabricConfig} {R S : Core → Change → Prop} {history past : List Change}
  {change : Change}

theorem Along.nil : Along config R [] := by
  intro past change hfront
  have := List.prefix_nil.mp hfront
  simp at this

theorem Along.of_front (h : Along config R history) (hfront : past <+: history) :
    Along config R past :=
  fun earlier change hearlier => h earlier change (hearlier.trans hfront)

theorem Along.snoc (h : Along config R history)
    (hchange : R (replayed config history).core change) :
    Along config R (history ++ [change]) := by
  intro past next hfront
  rcases List.prefix_concat_iff.mp hfront with heq | hfront
  · obtain ⟨rfl, hlast⟩ := List.append_inj' heq rfl
    obtain rfl := List.singleton_inj.mp hlast
    exact hchange
  · exact h past next hfront

theorem Along.last (h : Along config R (history ++ [change])) :
    R (replayed config history).core change :=
  h history change (List.prefix_refl _)

theorem Along.mono (h : Along config R history)
    (hmono : ∀ past change, past ++ [change] <+: history →
      R (replayed config past).core change → S (replayed config past).core change) :
    Along config S history :=
  fun past change hfront => hmono past change hfront (h past change hfront)

/-- What one change preserves, the history preserves from any point on. -/
theorem Along.preserves (h : Along config R history) {P : State → Prop} (hpast : past <+: history)
    (hstart : P (replayed config past))
    (hstep : ∀ earlier next, past <+: earlier → earlier ++ [next] <+: history →
      P (replayed config earlier) → R (replayed config earlier).core next →
      P (Change.apply (replayed config earlier) next)) :
    P (replayed config history) := by
  induction history using List.reverseRecOn with
  | nil =>
    obtain rfl := List.prefix_nil.mp hpast
    exact hstart
  | append_singleton earlier next ih =>
    rcases List.prefix_concat_iff.mp hpast with rfl | hpast
    · exact hstart
    · rw [replayed_snoc]
      refine hstep earlier next hpast (List.prefix_refl _) ?_ h.last
      refine ih (h.of_front (List.prefix_append _ _)) hpast fun earliest next' hpast' hfront =>
        hstep earliest next' hpast' (hfront.trans (List.prefix_append _ _))

end Along

/-! ### Explained memories -/

/-- The authority of a memory is that of the history, and so is its evidence. -/
structure Explains (config : FabricConfig) (history : List Change) (state : State) : Prop where
  core : state.core = (replayed config history).core
  failures : ∀ key evidence, state.failures.find? key = some evidence →
    key = evidence.id ∧ .failureIngested evidence ∈ history

section Explains

variable {config : FabricConfig} {history : List Change} {state state' : State} {change : Change}

theorem Explains.initial (config : FabricConfig) : Explains config [] (initialState config) :=
  ⟨rfl, fun _ _ h => by cases h⟩

theorem Explains.keeps (h : Explains config history state) {config' : FabricConfig}
    (hkeeps : State.Keeps config' state state') : Explains config history state' := by
  refine ⟨hkeeps.core.trans h.core, fun key evidence hfind => h.failures key evidence ?_⟩
  rw [hkeeps.sameRecords] at hfind
  exact hfind

theorem Explains.commit {commit : Commit} (h : Explains config history commit.before)
    (htakes : commit.TakesOver) : Explains config (history ++ [commit.change]) commit.after := by
  refine ⟨?_, fun key evidence hfind => ?_⟩
  · rw [replayed_snoc, htakes.core]
    exact Change.core_apply h.core _
  · rcases htakes.failures key evidence hfind with hbefore | ⟨hchange, hkey⟩
    · obtain ⟨hkey, hmem⟩ := h.failures key evidence hbefore
      exact ⟨hkey, List.mem_append_left _ hmem⟩
    · exact ⟨hkey, by simp [hchange]⟩

theorem find?_failures_apply {key : EvidenceId} {evidence : FailureEvidence}
    (h : (Change.apply state change).failures.find? key = some evidence) :
    state.failures.find? key = some evidence ∨
      change = .failureIngested evidence ∧ key = evidence.id := by
  cases change with
  | failureIngested found =>
    simp only [Change.apply, OrderedMap.find?_insert] at h
    split at h
    · rename_i hkey
      obtain rfl := Option.some.inj h
      exact Or.inr ⟨rfl, hkey⟩
    · exact Or.inl h
  | serviceWithdrawn service =>
    simp only [Change.apply] at h
    split at h <;> exact Or.inl h
  | _ => exact Or.inl h

/-- Replaying one more change of the history. -/
theorem Explains.apply (h : Explains config history state) (change : Change) :
    Explains config (history ++ [change]) (Change.apply state change) :=
  have htakes : Commit.TakesOver { before := state, change, after := Change.apply state change } :=
    ⟨rfl, fun _ _ hfind => find?_failures_apply hfind⟩
  Explains.commit h htakes

theorem hard_downgradedRecord (record : AttemptRecord) :
    (downgradedRecord record).hard = record.hard := by
  unfold downgradedRecord
  split <;> rfl

theorem hard_downgradedRuntime (runtime : ServiceRuntime) :
    (downgradedRuntime runtime).hard = runtime.hard := by
  have hhistory : (runtime.history.map downgradedRecord).map AttemptRecord.hard =
      runtime.history.map AttemptRecord.hard := by
    rw [List.map_map]
    exact List.map_congr_left fun record _ => hard_downgradedRecord record
  unfold downgradedRuntime
  dsimp only
  split
  · simp only [ServiceRuntime.hard, ServiceRuntime.invalidateVerification, hhistory]
  split <;> simp only [ServiceRuntime.hard, ServiceRuntime.invalidateVerification, hhistory]

theorem core_restartedState (state : State) : (restartedState state).core =
    (Change.apply state (.epochAdvanced (advance state.epoch) (advance state.boot))).core := by
  have hservices : (state.services.mapValues downgradedRuntime).mapValues ServiceRuntime.hard =
      state.services.mapValues ServiceRuntime.hard := by
    rw [OrderedMap.mapValues_mapValues]
    exact congrArg state.services.mapValues (funext hard_downgradedRuntime)
  simp only [State.core, restartedState, Change.apply, hservices, OrderedMap.mapValues_mapValues]

/-- A restart advances epoch and boot, and forgets nothing that carries authority. -/
theorem Explains.restart (h : Explains config history state) :
    Explains config
      (history ++ [.epochAdvanced (advance state.epoch) (advance state.boot)])
      (restartedState state) := by
  refine ⟨?_, ?_⟩
  · rw [replayed_snoc, ← Change.core_apply h.core]
    exact core_restartedState state
  · intro key evidence hfind
    obtain ⟨hkey, hmem⟩ := h.failures key evidence hfind
    exact ⟨hkey, List.mem_append_left _ hmem⟩

end Explains

end OffloadFabric
