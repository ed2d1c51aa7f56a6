import OffloadFabric.Ambiguity
import OffloadFabric.Refusals
import OffloadFabric.Reopening

/-!
Watermarks against replayed observations. Every ingestion takes a sequence number above the
watermark of its source and raises the watermark to it. The confirmation of an ambiguity writes
old evidence again: it leaves the watermark in memory alone, but the replay of its record puts
it back to where it was when that evidence came in. Without such a confirmation the watermarks
in memory are those of the history, and only rise.
-/
namespace OffloadFabric

open Fabric (Op Moment)

/-- The highest sequence recorded of a source; zero, which is never ingested, without one. -/
def State.recordedSequence (state : State) (source : SourceName) : EvidenceSeq :=
  ((state.watermarks.find? source).map SourceWatermark.sequence).getD {}

/-- The provenance whose watermark the replay of the change records. -/
def Change.observed : Change → Option Provenance
  | .failureIngested evidence => some evidence.provenance
  | .dependencyIngested observation => some observation.provenance
  | _ => none

/-- The call is a confirmation that passes its checks, of evidence older than the watermark of
its source. -/
def Fabric.Rewinds (fabric : Fabric) (op : Op) : Prop :=
  ∃ resolution runtime evidence stamp, op = .resolveAmbiguity resolution ∧
    resolution.confirmFailure = true ∧
    fabric.state.services.find? resolution.service = some runtime ∧
    fabric.checkResolution resolution runtime = .ok (evidence, stamp) ∧
    evidence.provenance.sequence < fabric.state.recordedSequence evidence.provenance.source

/-! ### One commit -/

section Commits

variable {config : FabricConfig} {state state' : State} {fabric : Fabric} {op : Op}
  {commit : Commit} {source : SourceName} {provenance : Provenance}

theorem watermarks_keeps (h : State.Keeps config state state') :
    state'.watermarks = state.watermarks := by
  rw [h.sameRecords]

theorem recordedSequence_congr (h : state'.watermarks = state.watermarks) (source : SourceName) :
    state'.recordedSequence source = state.recordedSequence source := by
  rw [State.recordedSequence, h]
  rfl

theorem recordedSequence_keeps (h : State.Keeps config state state') (source : SourceName) :
    state'.recordedSequence source = state.recordedSequence source :=
  recordedSequence_congr (watermarks_keeps h) source

theorem recordedSequence_insert {digest : Digest}
    (h : state'.watermarks =
      state.watermarks.insert provenance.source (Change.watermarkOf provenance digest))
    (source : SourceName) :
    state'.recordedSequence source =
      if source = provenance.source then provenance.sequence
      else state.recordedSequence source := by
  rw [State.recordedSequence, h, OrderedMap.find?_insert]
  split <;> rfl

theorem recordedSequence_apply (state : State) (change : Change) (source : SourceName) :
    (Change.apply state change).recordedSequence source =
      match change.observed with
      | some provenance =>
        if source = provenance.source then provenance.sequence else state.recordedSequence source
      | none => state.recordedSequence source := by
  cases change with
  | failureIngested | dependencyIngested => exact recordedSequence_insert rfl source
  | serviceWithdrawn service =>
    refine recordedSequence_congr ?_ source
    unfold Change.apply
    dsimp only
    split <;> rfl
  | _ => rfl

theorem watermarks_bumpAll (state : State) (fields : List StatField) :
    (state.bumpAll fields).watermarks = state.watermarks :=
  watermarks_keeps (State.keeps_bumpAll {} state fields)

theorem watermarks_remember (state : State) (config : FabricConfig) (key : RequestKey)
    (entry : RequestCacheEntry) :
    (state.remember config key entry).watermarks = state.watermarks := by
  obtain ⟨cache, order, hremember⟩ := state.exists_remember config key entry
  rw [hremember]

theorem watermarks_modifyService (state : State) (service : ServiceName)
    (f : ServiceRuntime → ServiceRuntime) :
    (state.modifyService service f).watermarks = state.watermarks := by
  unfold State.modifyService
  split <;> rfl

theorem watermarks_evictFailuresFrom (ceiling : Nat) (order : List EvidenceId) (state : State) :
    (Fabric.evictFailuresFrom ceiling order state).watermarks = state.watermarks := by
  induction order generalizing state with
  | nil => rfl
  | cons oldest order ih =>
    unfold Fabric.evictFailuresFrom
    split
    · rw [ih]
      split <;> rfl
    · rfl

theorem watermarks_retainFailure (config : FabricConfig) (evidence : FailureEvidence)
    (stamp : LogicalTick) (state : State) :
    (Fabric.retainFailure config evidence stamp state).watermarks =
      state.watermarks.insert evidence.provenance.source
        (Change.watermarkOf evidence.provenance evidence.contentDigest) := by
  simp only [Fabric.retainFailure, Fabric.evictFailures, State.bump,
    watermarks_evictFailuresFrom]

/-- A sequence that passes the checks of an ingestion is above the watermark of its source. -/
theorem recordedSequence_lt (hfresh : ∀ watermark ∈ state.watermarks.find? provenance.source,
      watermark.sequence < provenance.sequence)
    (hsequence : provenance.sequence.isInitial = false) :
    state.recordedSequence provenance.source < provenance.sequence := by
  unfold State.recordedSequence
  cases hfind : state.watermarks.find? provenance.source with
  | some watermark => exact hfresh watermark hfind
  | none =>
    have hpositive : provenance.sequence.value ≠ 0 := by simpa [Gen.isInitial] using hsequence
    have hvalue : provenance.sequence.value.toNat ≠ 0 := fun hzero =>
      hpositive (UInt64.toNat_inj.mp hzero)
    exact Nat.pos_of_ne_zero hvalue

theorem sequence_of_checkIngestDependency {observation : DependencyObservation}
    {proposal : Fabric.Proposal} (h : fabric.checkIngestDependency observation = .ok proposal) :
    observation.provenance.sequence.isInitial = false := by
  simp only [Fabric.checkIngestDependency, require_bind_ok, demand_bind_ok] at h
  obtain ⟨-, -, _, -, _, -, -, hsequence, -⟩ := h
  simpa using hsequence

/-- A commit records a new observation, or leaves the watermarks alone. -/
inductive Commit.Observes (commit : Commit) : Prop where
  | nothing : commit.change.observed = none →
      commit.after.watermarks = commit.before.watermarks → Observes commit
  | fresh {provenance : Provenance} : commit.change.observed = some provenance →
      commit.before.recordedSequence provenance.source < provenance.sequence →
      (∀ source, commit.after.recordedSequence source =
        if source = provenance.source then provenance.sequence
        else commit.before.recordedSequence source) → Observes commit

/-- The commit of a confirmation writes old evidence again, which only its replay notices. -/
structure Commit.Repeats (fabric : Fabric) (op : Op) (commit : Commit)
    (evidence : FailureEvidence) : Prop where
  change : commit.change.observed = some evidence.provenance
  retained : ∃ key, commit.before.failures.find? key = some evidence
  forward : ¬fabric.Rewinds op → commit.before.recordedSequence evidence.provenance.source ≤
    evidence.provenance.sequence
  same : commit.after.watermarks = commit.before.watermarks

theorem Fabric.Writes.observes_nothing {change : Change} {update : State → State}
    (h : fabric.Writes change update commit) (hchange : change.observed = none)
    (hupdate : ∀ state, (update state).watermarks = state.watermarks) : commit.Observes :=
  .nothing (by rw [h.change, hchange]) (by rw [h.after, hupdate])

theorem Fabric.Ingested.observes {checked : Check Fabric.Proposal}
    {proposal : Fabric.Proposal} (hop : fabric.ingestion op = some checked)
    (hok : checked = .ok proposal) (h : fabric.Writes proposal.change proposal.update commit) :
    commit.Observes := by
  have hbefore (source : SourceName) : commit.before.recordedSequence source =
      fabric.state.recordedSequence source := recordedSequence_keeps h.before source
  have hingested := Fabric.ingested_of_ok hop hok
  revert h hingested
  generalize hchange : proposal.change = change
  generalize hupdate : proposal.update = update
  intro h hingested
  cases hingested with
  | enrolled | serviceRegistered | targetRegistered | topologySet | policySet | retired
  | capability =>
    exact h.observes_nothing rfl fun _ => rfl
  | withdrawn =>
    exact h.observes_nothing rfl fun _ => watermarks_modifyService _ _ _
  | @failure evidence id stamp _ hcredible =>
    refine .fresh (by rw [h.change]; rfl) ?_ fun source => ?_
    · rw [hbefore]
      exact recordedSequence_lt hcredible.fresh hcredible.sequence
    · rw [h.after]
      exact recordedSequence_insert (watermarks_retainFailure _ _ _ _) source
  | @suspicion evidence id stamp _ hcredible =>
    refine .fresh (by rw [h.change]; rfl) ?_ fun source => ?_
    · rw [hbefore]
      exact recordedSequence_lt hcredible.fresh hcredible.sequence
    · have hafter : commit.after.watermarks = (Fabric.retainFailure fabric.config
          (Fabric.retainedEvidence evidence id stamp) stamp commit.before).watermarks := by
        rw [h.after]
        simp only [State.bump, watermarks_modifyService]
      rw [recordedSequence_congr hafter]
      exact recordedSequence_insert (watermarks_retainFailure _ _ _ _) source
  | @dependency observation stamp update _ hafter =>
    have hchecked : fabric.checkIngestDependency observation = .ok proposal :=
      (Option.some.inj hop).trans hok
    obtain ⟨stats, hstate⟩ := hafter commit.before
    have hlt : fabric.state.recordedSequence observation.provenance.source <
        observation.provenance.sequence :=
      recordedSequence_lt (Fabric.checkIngestDependency_ok hchecked).1
        (sequence_of_checkIngestDependency hchecked)
    refine .fresh (by rw [h.change]; rfl) ?_ fun source => ?_
    · rw [hbefore]
      exact hlt
    · rw [h.after, hstate]
      exact recordedSequence_apply commit.before
        (.dependencyIngested (Fabric.retainedObservation observation stamp)) source

/-- Whatever a call commits, it records a new observation, writes an old one again, or leaves
the watermarks alone. -/
theorem Fabric.Caused.observes (h : fabric.Caused op commit) :
    commit.Observes ∨ ∃ evidence, commit.Repeats fabric op evidence := by
  cases h with
  | ingested hop hok hwrites => exact Or.inl (Fabric.Ingested.observes hop hok hwrites)
  | moved _ _ _ hmoves =>
    cases hmoves with
    | intro hprior hprepare hbefore _ _ _ _ =>
      refine Or.inl (.nothing rfl ?_)
      simp only [Move.update, watermarks_remember, State.bump, watermarks_bumpAll]
  | denied _ _ _ hwrites => exact Or.inl (hwrites.observes_nothing rfl fun _ => rfl)
  | @confirmed resolution runtime evidence stamp commit hfind hcheck hconfirm hwrites =>
    have hfailures : commit.before.failures = fabric.state.failures := by
      rw [hwrites.before.sameRecords]
    obtain ⟨-, -, -, hevidence, -⟩ := Fabric.checkResolution_ok hcheck
    refine Or.inr ⟨evidence, by rw [hwrites.change]; rfl, ⟨_, hfailures ▸ hevidence⟩,
      fun hforward => ?_, ?_⟩
    · rw [recordedSequence_keeps hwrites.before, ← not_lt]
      exact fun holder =>
        hforward ⟨resolution, runtime, evidence, stamp, rfl, hconfirm, hfind, hcheck, holder⟩
    · rw [hwrites.after]
      exact watermarks_modifyService _ _ _
  | acknowledged _ _ hwrites => exact Or.inl (hwrites.observes_nothing rfl fun _ => rfl)
  | reported _ _ _ _ hwrites =>
    exact Or.inl (hwrites.observes_nothing rfl fun state =>
      watermarks_bumpAll (Fabric.rewritten _ _ _ state) _)

end Commits

/-! ### The live memory -/

section Live

variable {config : FabricConfig} {state state' : State} {fabric : Fabric} {op : Op}
  {commit : Commit} {commits : List Commit}

theorem Commit.Observes.recordedSequence_le (h : commit.Observes) (source : SourceName) :
    commit.before.recordedSequence source ≤ commit.after.recordedSequence source := by
  cases h with
  | nothing _ hsame => exact (recordedSequence_congr hsame source).ge
  | fresh _ hfresh hafter =>
    rw [hafter]
    split
    · rename_i hsource
      exact hsource ▸ hfresh.le
    · exact le_refl _

theorem Fabric.Caused.recordedSequence_le (h : fabric.Caused op commit) (source : SourceName) :
    commit.before.recordedSequence source ≤ commit.after.recordedSequence source := by
  rcases h.observes with hobserves | ⟨evidence, hrepeats⟩
  · exact hobserves.recordedSequence_le source
  · exact (recordedSequence_congr hrepeats.same source).ge

theorem State.Passes.recordedSequence_le (h : State.Passes config state commits state')
    (hcommits : ∀ commit ∈ commits, ∀ source,
      commit.before.recordedSequence source ≤ commit.after.recordedSequence source)
    (source : SourceName) : state.recordedSequence source ≤ state'.recordedSequence source := by
  induction h with
  | keeps hkeeps => exact (recordedSequence_keeps hkeeps source).ge
  | commit hbefore _ ih =>
    rw [← recordedSequence_keeps hbefore source]
    exact (hcommits _ List.mem_cons_self source).trans
      (ih fun next hnext => hcommits next (List.mem_cons_of_mem _ hnext))

theorem Fabric.Performs.recordedSequence_le (h : fabric.Performs op commits) :
    ∀ commit ∈ commits, ∀ source,
      commit.before.recordedSequence source ≤ commit.after.recordedSequence source := by
  cases h with
  | nothing => simp
  | once hcaused => simpa using fun source => hcaused.recordedSequence_le source
  | twice _ _ hfirst _ _ _ hsecond =>
    simpa using ⟨fun source => hfirst.recordedSequence_le source,
      fun source => hsecond.recordedSequence_le source⟩

/-- The step lemma of an open coordinator: no call puts a watermark back. -/
theorem Fabric.recordedSequence_call (hopened : fabric.opened = true) (source : SourceName) :
    fabric.state.recordedSequence source ≤ (fabric.call op).2.state.recordedSequence source := by
  by_cases hclose : op = .closeFabric
  · subst hclose
    have hcall : (fabric.call .closeFabric).2 = fabric.entered.close.2 := rfl
    rw [hcall, Fabric.close]
    split <;> exact le_refl _
  · obtain ⟨-, -, commits, hpasses, hperforms, -⟩ := Fabric.call_passes hopened hclose
    exact hpasses.recordedSequence_le hperforms.recordedSequence_le source

end Live

/-! ### Observations that are applied -/

/-- An observation with that source and sequence number was answered as recorded. -/
inductive Fabric.Moment.Applies (moment : Moment) (source : SourceName) (sequence : EvidenceSeq) :
    Prop where
  | failure {evidence : FailureEvidence} {explanation : Explanation} :
      moment.event = .call (.ingestFailure evidence)
        (.explained .acceptFailureRecorded explanation) →
      evidence.provenance.source = source → evidence.provenance.sequence = sequence →
      Applies moment source sequence
  | dependency {observation : DependencyObservation} {explanation : Explanation} :
      moment.event = .call (.ingestDependency observation)
        (.explained .acceptDependencyRecorded explanation) →
      observation.provenance.source = source → observation.provenance.sequence = sequence →
      Applies moment source sequence

section Applies

variable {moment : Moment} {fabric' : Fabric} {source : SourceName} {sequence : EvidenceSeq}

theorem fails_checkIngestDependency (fabric : Fabric) (observation : DependencyObservation) :
    (fabric.checkIngestDependency observation).Fails
      fun refused => refused.code ≠ .acceptDependencyRecorded := by
  refine .require nofun fun _ => .require nofun fun _ => .demand nofun fun _ _ =>
    .demand nofun fun _ _ => .require nofun fun _ => .require nofun fun _ => .bind ?_ fun _ _ =>
    .bind ?_ fun _ _ => .require nofun fun _ => .require nofun fun _ => .demand nofun fun _ _ =>
    .pure _
  · exact .require nofun fun _ => .require_last nofun
  · unfold Fabric.checkWatermark
    dsimp only
    split
    · exact .pure _
    · exact .require nofun fun _ => .require nofun fun _ => .require_last nofun

/-- What an ingestion that was committed does to the watermark of its source. -/
theorem Fabric.Moment.recorded {op : Op} {checked : Check Fabric.Proposal} {code : Reason}
    {explanation : Explanation}
    (hevent : moment.event = .call op (.explained code explanation))
    (hop : moment.before.entered.ingestion op = some checked) (haccept : code.isAccept = true)
    (hfails : checked.Fails fun refused => refused.code ≠ code)
    (hobserved : ∀ proposal, checked = .ok proposal → ∃ provenance,
      proposal.change.observed = some provenance ∧ provenance.source = source ∧
        provenance.sequence = sequence)
    (hstep : Fabric.Step moment.before moment.event fabric') :
    moment.before.opened = true ∧ fabric'.opened = true ∧
      moment.before.state.recordedSequence source < sequence ∧
      fabric'.state.recordedSequence source = sequence := by
  have hopen : op ≠ .openFabric := by
    rintro rfl
    cases hop
  have hclose : op ≠ .closeFabric := by
    rintro rfl
    cases hop
  obtain ⟨commits, hpasses, hanswers⟩ := Moment.passes hevent hopen hclose hstep
  obtain ⟨proposal, commit, hok, rfl, hwrites⟩ :=
    Moment.committed hevent hop haccept hfails hstep hanswers
  have hopened : moment.before.opened = true := Fabric.opened_of_ingestion hop hok
  have hopened' : fabric'.opened = true := by
    generalize moment.event = event at hevent hstep
    cases hstep with
    | crash => cases hevent
    | call =>
      obtain ⟨rfl, -⟩ := Fabric.Event.call.inj hevent
      exact (Fabric.call_passes hopened hclose).1
  obtain ⟨provenance, hprovenance, rfl, rfl⟩ := hobserved proposal hok
  have hbefore : commit.before.recordedSequence provenance.source =
      moment.before.state.recordedSequence provenance.source :=
    recordedSequence_keeps hwrites.before provenance.source
  cases Fabric.Ingested.observes hop hok hwrites with
  | nothing hnone =>
    rw [hwrites.change, hprovenance] at hnone
    cases hnone
  | fresh hsome hfresh hafter =>
    obtain rfl := Option.some.inj ((hwrites.change ▸ hsome).symm.trans hprovenance)
    cases hpasses with
    | commit _ hrest =>
      cases hrest with
      | keeps hkeeps =>
        refine ⟨hopened, hopened', ?_, ?_⟩
        · rw [← hbefore]
          exact hfresh
        · rw [recordedSequence_keeps hkeeps, hafter, if_pos rfl]

theorem Fabric.Moment.Applies.recorded (h : moment.Applies source sequence)
    (hstep : Fabric.Step moment.before moment.event fabric') :
    moment.before.opened = true ∧ fabric'.opened = true ∧
      moment.before.state.recordedSequence source < sequence ∧
      fabric'.state.recordedSequence source = sequence := by
  cases h with
  | failure hevent hsource hsequence =>
    refine Moment.recorded hevent rfl (by decide) (fails_checkIngestFailure _ _)
      (fun proposal hok => ?_) hstep
    obtain ⟨-, stamp, id, -, -, hchange, -⟩ := Fabric.checkIngestFailure_ok hok
    exact ⟨_, congrArg Change.observed hchange, hsource, hsequence⟩
  | dependency hevent hsource hsequence =>
    refine Moment.recorded hevent rfl (by decide) (fails_checkIngestDependency _ _)
      (fun proposal hok => ?_) hstep
    obtain ⟨-, stamp, -, hchange, -⟩ := Fabric.checkIngestDependency_ok hok
    exact ⟨_, congrArg Change.observed hchange, hsource, hsequence⟩

end Applies

/-! ### Histories -/

/-- Replaying the history never puts a watermark back. -/
def Rising (config : FabricConfig) (history : List Change) : Prop :=
  ∀ past change, past ++ [change] <+: history → ∀ provenance,
    change.observed = some provenance →
    (replayed config past).recordedSequence provenance.source ≤ provenance.sequence

/-- The memory has the watermarks of its history, which only rise. -/
structure Sequenced (config : FabricConfig) (history : List Change) (state : State) : Prop where
  same : ∀ source,
    state.recordedSequence source = (replayed config history).recordedSequence source
  rising : Rising config history

section Histories

variable {config : FabricConfig} {past history : List Change} {state : State} {change : Change}
  {fabric caller actor : Fabric} {op op' : Op} {commit : Commit} {evidence : FailureEvidence}

theorem Rising.of_front (h : Rising config history) (hfront : past <+: history) :
    Rising config past :=
  fun earlier next hnext => h earlier next (hnext.trans hfront)

theorem Rising.snoc (h : Rising config history)
    (hchange : ∀ provenance, change.observed = some provenance →
      (replayed config history).recordedSequence provenance.source ≤ provenance.sequence) :
    Rising config (history ++ [change]) := by
  intro past next hnext
  rcases List.prefix_concat_iff.mp hnext with heq | hfront
  · obtain ⟨rfl, hsame⟩ := List.append_inj' heq rfl
    obtain rfl := List.singleton_inj.mp hsame
    exact hchange
  · exact h past next hfront

theorem Rising.recordedSequence_le (h : Rising config history) (hfront : past <+: history)
    (source : SourceName) : (replayed config past).recordedSequence source ≤
      (replayed config history).recordedSequence source := by
  obtain ⟨rest, rfl⟩ := hfront
  induction rest using List.reverseRecOn with
  | nil => rw [List.append_nil]
  | append_singleton rest change ih =>
    rw [← List.append_assoc] at h ⊢
    refine (ih (h.of_front (List.prefix_append _ _))).trans ?_
    rw [replayed_snoc, recordedSequence_apply]
    cases hobserved : change.observed with
    | none => exact le_refl _
    | some provenance =>
      dsimp only
      split
      · rename_i hsource
        exact hsource ▸ h _ _ (List.prefix_refl _) provenance hobserved
      · exact le_refl _

/-- Evidence of the history is no newer than the watermark of its source. -/
theorem Rising.evidence_le (h : Rising config history)
    (hmem : .failureIngested evidence ∈ history) :
    evidence.provenance.sequence ≤
      (replayed config history).recordedSequence evidence.provenance.source := by
  obtain ⟨past, hfront⟩ := exists_prefix_of_mem hmem
  refine le_trans (le_of_eq ?_) (h.recordedSequence_le hfront _)
  rw [replayed_snoc, recordedSequence_apply]
  exact (if_pos rfl).symm

theorem Sequenced.apply (h : Sequenced config history state)
    (hchange : ∀ provenance, change.observed = some provenance →
      state.recordedSequence provenance.source ≤ provenance.sequence) :
    Sequenced config (history ++ [change]) (Change.apply state change) where
  same source := by
    rw [replayed_snoc, recordedSequence_apply, recordedSequence_apply, h.same]
  rising := h.rising.snoc fun provenance hobserved => h.same _ ▸ hchange provenance hobserved

/-- Whoever acts in a call that does not rewind does not rewind. -/
theorem Fabric.Acts.not_rewinds (h : caller.Acts op actor op') (hforward : ¬caller.Rewinds op) :
    ¬actor.Rewinds op' := by
  cases h with
  | direct => exact hforward
  | confirmed =>
    rintro ⟨resolution, runtime, evidence, stamp, hop, -⟩
    cases hop

/-- What a call that does not rewind commits agrees with its replay, and only rises. -/
theorem Fabric.Caused.sequenced (h : fabric.Caused op commit) (hforward : ¬fabric.Rewinds op)
    (hgrounded : Grounded config history commit.before)
    (hbefore : Sequenced config history commit.before) :
    (∀ provenance, commit.change.observed = some provenance →
      commit.before.recordedSequence provenance.source ≤ provenance.sequence) ∧
    ∀ source, commit.after.recordedSequence source =
      (Change.apply commit.before commit.change).recordedSequence source := by
  rcases h.observes with hobserves | ⟨evidence, hrepeats⟩
  · cases hobserves with
    | nothing hnone hsame =>
      refine ⟨fun provenance hsome => ?_, fun source => ?_⟩
      · rw [hnone] at hsome
        cases hsome
      · rw [recordedSequence_apply, hnone, recordedSequence_congr hsame]
    | fresh hsome hfresh hafter =>
      refine ⟨fun provenance hobserved => ?_, fun source => ?_⟩
      · obtain rfl := Option.some.inj (hsome.symm.trans hobserved)
        exact hfresh.le
      · rw [recordedSequence_apply, hsome, hafter]
  · obtain ⟨key, hretained⟩ := hrepeats.retained
    have hle : evidence.provenance.sequence ≤
        commit.before.recordedSequence evidence.provenance.source := by
      rw [hbefore.same]
      exact hbefore.rising.evidence_le (hgrounded.explains.failures key evidence hretained).2
    refine ⟨fun provenance hobserved => ?_, fun source => ?_⟩
    · obtain rfl := Option.some.inj (hrepeats.change.symm.trans hobserved)
      exact hrepeats.forward hforward
    · rw [recordedSequence_apply, hrepeats.change, recordedSequence_congr hrepeats.same]
      dsimp only
      split
      · rename_i hsource
        rw [hsource]
        exact le_antisymm (hrepeats.forward hforward) hle
      · rfl

theorem preserved_sequenced (config : FabricConfig) :
    Preserved config (fun caller op => ¬caller.Rewinds op) (Sequenced config) where
  initial := ⟨fun _ => rfl, fun past change hfront => by simp at hfront⟩
  keeps _ h hkeeps := ⟨fun source => by rw [recordedSequence_keeps hkeeps.keeps, h.same], h.rising⟩
  commit hforward _ hacts _ _ hcaused hbefore := by
    obtain ⟨hrises, hagrees⟩ :=
      hcaused.sequenced (hacts.not_rewinds hforward) hbefore.1 hbefore.2
    have happly := hbefore.2.apply hrises
    exact ⟨fun source => (hagrees source).trans (happly.same source), happly.rising⟩
  snapshot _ h := ⟨h.same, h.rising⟩
  restart {history state} _ _ h := by
    have hnone : ∀ provenance,
        (Change.epochAdvanced (advance state.epoch) (advance state.boot)).observed =
          some provenance →
        state.recordedSequence provenance.source ≤ provenance.sequence := nofun
    exact ⟨(h.apply hnone).same, (h.apply hnone).rising⟩
  replay {history state change} _ h hwarrant := by
    refine h.apply fun provenance hobserved => ?_
    cases hwarrant with
    | made hforward _ hacts _ _ hcaused hbefore =>
      obtain ⟨hrises, -⟩ := hcaused.sequenced (hacts.not_rewinds hforward) hbefore.1 hbefore.2
      rw [h.same, ← hbefore.2.same]
      exact hrises provenance hobserved
    | restarted => cases hobserved

end Histories

/-! ### Runs -/

section Runs

variable {config : FabricConfig} {moments earlier between later : List Moment}
  {moment first second : Moment} {fabric fabric' : Fabric} {source : SourceName}
  {sequence : EvidenceSeq}

/-- The run lemma without a store: until the process starts over no watermark is put back. -/
theorem Fabric.Run.recordedSequence_le_of_storeless (hrun : Fabric.Run config moments fabric)
    (hsplit : moments = earlier ++ moment :: later)
    (hbase : ∀ fabric', Fabric.Step moment.before moment.event fabric' →
      sequence ≤ fabric'.state.recordedSequence source)
    (hstore : config.storeDirectory = false)
    (hkept : ∀ next ∈ later, ¬next.before.Forgets config next.event)
    (hopened : fabric.opened = true) : sequence ≤ fabric.state.recordedSequence source := by
  have honward := hrun.onward (P := fun later fabric =>
      (∀ next ∈ later, ¬next.before.Forgets config next.event) → fabric.opened = true →
      sequence ≤ fabric.state.recordedSequence source) hsplit
    (fun fabric' _ hstep _ _ => hbase fabric' hstep)
    fun {between fabric event fabric'} hrun hstep ih hkept hopened' => by
      have hlast := hkept { before := fabric, event } (by simp)
      have hbefore := ih fun next hnext => hkept next (List.mem_append_left _ hnext)
      cases hstep with
      | crash => cases hopened'
      | call op =>
        by_cases hopened : fabric.opened = true
        · exact (hbefore hopened).trans (Fabric.recordedSequence_call hopened source)
        · have hclosed : fabric.opened = false := by simpa using hopened
          by_cases hopen : op = .openFabric
          · exact absurd ⟨hstore, hopen, hclosed⟩ hlast
          · rw [Fabric.call_closed hclosed hopen] at hopened'
            cases hopened'
  exact honward hkept hopened

/-- No call of the run confirms evidence older than the watermark, as far as a store would
replay it. -/
def Unrewound (config : FabricConfig) (moments : List Moment) : Prop :=
  config.storeDirectory = true → ∀ moment ∈ moments, ¬moment.before.Rewinds moment.event.op

/-- With a store: at the points of such a run at which the coordinator is open, and after
every call, the watermarks are those of the history so far. -/
theorem Fabric.Run.recordedSequence_le_of_store (hrun : Fabric.Run config moments fabric)
    (hforward : ∀ moment ∈ moments, ¬moment.before.Rewinds moment.event.op)
    (hsplit : moments = earlier ++ moment :: later)
    (hkept : ∀ next ∈ moment :: later, ¬next.before.Forgets config next.event)
    (hopened : moment.before.opened = true) (hopened' : fabric.opened = true) :
    moment.before.state.recordedSequence source ≤ fabric.state.recordedSequence source := by
  obtain ⟨history, memory, -, hchronicled, hstaged⟩ :=
    hrun.staged (preserved_sequenced config).stable hforward
  obtain ⟨past, memory', hpast⟩ := hstaged earlier moment later hsplit
  obtain ⟨added, -, hfront⟩ := hpast.kept hkept
  obtain ⟨-, -, hbefore⟩ := hpast.chronicled.running hopened
  obtain ⟨-, -, hafter⟩ := hchronicled.running hopened'
  rw [hbefore.same, hafter.same]
  exact hafter.rising.recordedSequence_le ((List.prefix_append _ _).trans hfront) source

/-- At the points of such a run at which the coordinator is open no watermark was put back,
as long as no process without a store started over. -/
theorem Fabric.Run.recordedSequence_le (hrun : Fabric.Run config moments fabric)
    (hforward : Unrewound config moments) (hsplit : moments = earlier ++ moment :: later)
    (hkept : ∀ next ∈ moment :: later, ¬next.before.Forgets config next.event)
    (hopened : moment.before.opened = true) (hopened' : fabric.opened = true)
    (source : SourceName) :
    moment.before.state.recordedSequence source ≤ fabric.state.recordedSequence source := by
  by_cases hstore : config.storeDirectory = true
  · exact hrun.recordedSequence_le_of_store (hforward hstore) hsplit hkept hopened hopened'
  · have hstoreless : config.storeDirectory = false := by simpa using hstore
    refine hrun.recordedSequence_le_of_storeless hsplit (fun fabric' hstep => ?_) hstoreless
      (fun next hnext => hkept next (List.mem_cons_of_mem _ hnext)) hopened'
    have hfirst := hkept moment List.mem_cons_self
    obtain ⟨before, event⟩ := moment
    change Fabric.Step before event fabric' at hstep
    cases hstep with
    | crash => exact absurd hstoreless hfirst
    | call => exact Fabric.recordedSequence_call hopened source

/-- In a run that rewinds nothing the watermark of a source never goes back, and of each source
and sequence number at most one observation is applied, as long as no process without a store
starts over. -/
theorem replay_protected (hrun : Fabric.Run config moments fabric)
    (hforward : Unrewound config moments) :
    (∀ earlier moment later, moments = earlier ++ moment :: later →
      (∀ next ∈ moment :: later, ¬next.before.Forgets config next.event) →
      moment.before.opened = true → fabric.opened = true → ∀ source,
        moment.before.state.recordedSequence source ≤ fabric.state.recordedSequence source) ∧
    ∀ earlier first between second later source sequence,
      moments = earlier ++ first :: (between ++ second :: later) →
      (∀ next ∈ between, ¬next.before.Forgets config next.event) →
      first.Applies source sequence → ¬second.Applies source sequence := by
  refine ⟨fun earlier moment later hsplit hkept hopened hopened' source =>
    hrun.recordedSequence_le hforward hsplit hkept hopened hopened' source, ?_⟩
  intro earlier first between second later source sequence hsplit hkept hfirst hsecond
  rw [← List.cons_append, ← List.append_assoc] at hsplit
  obtain ⟨hfront, fabric₂, hstep₂⟩ := hrun.front hsplit
  obtain ⟨hopened, -, hlt, -⟩ := hsecond.recorded hstep₂
  refine absurd hlt (not_lt.mpr ?_)
  cases between with
  | nil =>
    obtain ⟨-, hstep₁⟩ := hfront.last
    exact (hfirst.recorded hstep₁).2.2.2.ge
  | cons next between =>
    have hnext : earlier ++ first :: next :: between = (earlier ++ [first]) ++ next :: between := by
      simp
    obtain ⟨hfront₁, -⟩ := hfront.front hnext
    obtain ⟨-, hstep₁⟩ := hfront₁.last
    obtain ⟨-, hopened₁, -, hrecorded⟩ := hfirst.recorded hstep₁
    rw [← hrecorded]
    refine hfront.recordedSequence_le (fun hstore moment hmoment => ?_) hnext hkept hopened₁
      hopened _
    exact hforward hstore moment (hsplit ▸ List.mem_append_left _ hmoment)

end Runs

/-! ### Reports of the operator -/

/-- What the reply to an ingestion says the coordinator did. -/
def Fabric.Reply.recorded : Reply → Bool
  | .explained .acceptFailureRecorded _ => true
  | _ => false

theorem Fabric.applies_recorded {fabric : Fabric} {evidence : FailureEvidence}
    (h : (fabric.call (.ingestFailure evidence)).1.recorded = true) :
    Moment.Applies
      { before := fabric
        event := .call (.ingestFailure evidence) (fabric.call (.ingestFailure evidence)).1 }
      evidence.provenance.source evidence.provenance.sequence := by
  generalize hreply : (fabric.call (.ingestFailure evidence)).1 = reply at h
  unfold Reply.recorded at h
  split at h
  · exact .failure rfl rfl rfl
  · cases h

theorem unrewound_momentsOf {config : FabricConfig} {fabric : Fabric} {ops : List Op}
    (h : ∀ resolution, .resolveAmbiguity resolution ∉ ops) :
    Unrewound config (fabric.momentsOf ops) := by
  intro _ moment hmoment hrewinds
  obtain ⟨resolution, -, -, -, hop, -⟩ := hrewinds
  exact Fabric.forall_momentsOf (P := fun _ op => ∀ resolution, op ≠ .resolveAmbiguity resolution)
    (fun op hop _ resolution heq => h resolution (heq ▸ hop)) moment hmoment resolution hop

/-- The operator reports the same failure twice. -/
def Fleet.repeated : List Op :=
  placed ++ [reportFailure 1 .unambiguous, reportFailure 1 .unambiguous]

/-- The second report with the same sequence number is not applied. -/
theorem replay_protected_repeated :
    ∃ first second,
      (Fabric.create { storeDirectory := true } {}).momentsOf Fleet.repeated =
        (Fabric.create { storeDirectory := true } {}).momentsOf Fleet.placed ++ [first, second] ∧
      first.Applies Fleet.operator ⟨1⟩ ∧ ¬second.Applies Fleet.operator ⟨1⟩ := by
  have hrecorded : ((Fleet.keeping Fleet.placed).call
      (Fleet.reportFailure 1 .unambiguous)).1.recorded = true := by
    simp only [Fleet.keeping, Fabric.after_eq_drafted, Fabric.call_eq_drafted]
    decide +kernel
  have hforward : Unrewound { storeDirectory := true }
      ((Fabric.create { storeDirectory := true } {}).momentsOf Fleet.repeated) := by
    refine unrewound_momentsOf fun resolution => ?_
    simp [Fleet.repeated, Fleet.placed, Fleet.opening, Fleet.adopt, Fleet.register, Fleet.support,
      Fleet.place, Fleet.reportFailure]
  obtain ⟨-, hsecond⟩ := replay_protected (Fleet.run_keeping Fleet.repeated) hforward
  have hsplit : (Fabric.create { storeDirectory := true } {}).momentsOf Fleet.repeated =
      _ ++ (Fleet.keeping Fleet.placed).momentsOf
        [Fleet.reportFailure 1 .unambiguous, Fleet.reportFailure 1 .unambiguous] :=
    Fabric.momentsOf_append _ _ _
  generalize Fleet.keeping Fleet.placed = start at hrecorded hsplit
  have hfirst := Fabric.applies_recorded hrecorded
  exact ⟨_, _, hsplit, hfirst, hsecond _ _ [] _ [] _ _ hsplit (by simp) hfirst⟩

/-! ### Watermarks put back -/

/-- A coordinator without a store starts over: the same report comes in once more. -/
def Fleet.startedOver : List Op :=
  placed ++ reportFailure 1 .unambiguous :: ([.closeFabric] ++ placed) ++
    [reportFailure 1 .unambiguous]

/-- A confirmation of older evidence than the last report, before a restart. -/
def Fleet.confirmedLate : List Op :=
  placed ++ [reportFailure 1 .ambiguous, reportFailure 2 .unambiguous, settle 2 1 true]

set_option maxRecDepth 100000 in
theorem Fleet.recordedSequence_confirmedLate :
    ((keeping confirmedLate).state.recordedSequence operator,
      (keeping (confirmedLate ++ [.closeFabric, .openFabric])).state.recordedSequence operator) =
    (⟨2⟩, ⟨1⟩) := by
  have hreopens : ((keeping confirmedLate).reopening.map fun fabric =>
      ((keeping confirmedLate).state.recordedSequence operator,
        fabric.state.recordedSequence operator)) = some (⟨2⟩, ⟨1⟩) := by
    simp only [Fleet.keeping, Fabric.after_eq_drafted]
    decide +kernel
  obtain ⟨fabric, hfabric, hfacts⟩ := Option.map_eq_some_iff.mp hreopens
  have hafter : keeping (confirmedLate ++ [.closeFabric, .openFabric]) = fabric := by
    rw [← List.append_nil (confirmedLate ++ _)]
    exact keeping_reopening hfabric
  rw [hafter, ← hfacts]

/-- Without a store a sequence number is applied twice, and with one the confirmation of older
evidence puts a watermark back at the next restart. -/
theorem not_replay_protected :
    (∃ earlier first between second, Fabric.Run {} (earlier ++ first :: (between ++ [second]))
        (Fleet.running Fleet.startedOver) ∧
      first.Applies Fleet.operator ⟨1⟩ ∧ second.Applies Fleet.operator ⟨1⟩) ∧
    ∃ moments moments', Fabric.Run { storeDirectory := true } moments
        (Fleet.keeping Fleet.confirmedLate) ∧
      Fabric.Run { storeDirectory := true } (moments ++ moments')
        (Fleet.keeping (Fleet.confirmedLate ++ [.closeFabric, .openFabric])) ∧
      (Fleet.keeping (Fleet.confirmedLate ++ [.closeFabric, .openFabric])).state.recordedSequence
          Fleet.operator <
        (Fleet.keeping Fleet.confirmedLate).state.recordedSequence Fleet.operator := by
  constructor
  · have hrecorded : ((Fleet.running Fleet.placed).call
          (Fleet.reportFailure 1 .unambiguous)).1.recorded = true ∧
        ((Fleet.running (Fleet.placed ++ Fleet.reportFailure 1 .unambiguous ::
          ([.closeFabric] ++ Fleet.placed))).call
          (Fleet.reportFailure 1 .unambiguous)).1.recorded = true := by
      simp only [Fleet.running, Fabric.after_eq_drafted, Fabric.call_eq_drafted]
      decide +kernel
    obtain ⟨hfirst, hsecond⟩ := hrecorded
    have hrun := Fleet.run_running Fleet.startedOver
    rw [Fleet.startedOver, Fabric.momentsOf_split, Fabric.momentsOf_split, List.append_assoc,
      List.cons_append] at hrun
    exact ⟨_, _, _, _, hrun, Fabric.applies_recorded hfirst, Fabric.applies_recorded hsecond⟩
  · obtain ⟨hbefore, hafter⟩ := Prod.mk.inj Fleet.recordedSequence_confirmedLate
    refine ⟨_, (Fleet.keeping Fleet.confirmedLate).momentsOf [.closeFabric, .openFabric],
      Fleet.run_keeping Fleet.confirmedLate, ?_, ?_⟩
    · have hrun := Fleet.run_keeping (Fleet.confirmedLate ++ [.closeFabric, .openFabric])
      rwa [Fabric.momentsOf_append] at hrun
    · rw [hbefore, hafter]
      decide

end OffloadFabric
