import OffloadFabric.Eligibility

/-!
What would be read back. A process may die at any time, so what an open would make of its
directory accompanies the memory like a shadow: every commit reaches both, and a snapshot
starts the shadow over from the memory. A coupling is a property of memories together with a
relation between a memory and its shadow that every step of a run keeps.
-/
namespace OffloadFabric

open Fabric (Op)

/-! ### Reading back -/

/-- However many of the records can be applied, `N` holds then, and `R` when all of them can. -/
def ReadsBack (config : FabricConfig) (N R : State → Prop) (snapshot : Bytes)
    (records : List Record) : Prop :=
  ∀ base, loadBase config snapshot = .ok base →
    N (replay config base records).1 ∧
      ((replay config base records).2 = true → R (replay config base records).1)

/-- Whatever is read back from the directory satisfies `N`. -/
def Readable (config : FabricConfig) (N : State → Prop) (dir : Directory) : Prop :=
  ∃ snapshot records, Durable dir snapshot records ∧
    ReadsBack config N (fun _ => True) snapshot records

/-- The store is linked to its directory, and a crash leaves it recoverable. -/
structure Backs (config : FabricConfig) (N R : State → Prop) (start : Directory)
    (fabric : Fabric) : Prop where
  disk : fabric.disk = start.performAll fabric.log
  linked : ∀ store, fabric.store = some store → ∃ snapshot records,
    Connected store fabric.disk snapshot records ∧ ReadsBack config N R snapshot records
  crash : fabric.store ≠ none → ∀ dir, start.CrashImage fabric.log dir →
    Readable config N dir

section Reading

variable {config : FabricConfig} {N R R' : State → Prop} {snapshot buffer : Bytes}
  {records : List Record} {change : Change} {state : State} {start dir : Directory}
  {fabric fabric' durable : Fabric}

theorem replay_append (config : FabricConfig) (state : State) (records rest : List Record) :
    replay config state (records ++ rest) =
      if (replay config state records).2 then replay config (replay config state records).1 rest
      else replay config state records := by
  induction records generalizing state with
  | nil => simp [replay]
  | cons record records ih =>
    rw [List.cons_append, replay, replay]
    cases applyRecord config state record with
    | none => rfl
    | some next => exact ih next

theorem ReadsBack.mono (h : ReadsBack config N R snapshot records)
    (hmono : ∀ read, N read → R read → R' read) : ReadsBack config N R' snapshot records := by
  intro base hload
  obtain ⟨hread, hcomplete⟩ := h base hload
  exact ⟨hread, fun hall => hmono _ hread (hcomplete hall)⟩

/-- One more change is applied if all before it were, and if it can be read at all. -/
theorem ReadsBack.commit (h : ReadsBack config N R snapshot records)
    (hstep : ∀ read, N read → R read →
      N (Change.apply read change) ∧ R' (Change.apply read change)) :
    ReadsBack config N R' snapshot (records ++ [change.record]) := by
  intro base hload
  obtain ⟨hread, hcomplete⟩ := h base hload
  rw [replay_append]
  split
  · rename_i hall
    unfold replay
    cases happly : applyRecord config (replay config base records).1 change.record with
    | none => exact ⟨hread, fun hall => by cases hall⟩
    | some next =>
      unfold applyRecord at happly
      obtain ⟨decoded, hdecoded, rfl⟩ := Option.map_eq_some_iff.mp happly
      obtain rfl := Change.eq_of_decodeChange hdecoded
      obtain ⟨hnext, hnext'⟩ := hstep _ hread (hcomplete hall)
      exact ⟨hnext, fun _ => hnext'⟩
  · rename_i hpart
    exact ⟨hread, fun hall => absurd hall hpart⟩

/-- A snapshot is read back as the memory it was taken of. -/
theorem readsBack_encodeState (hkeyed : state.WellKeyed)
    (hrun : CanonicalWriter.run (encodeState state) = some buffer) (hread : N state.restored)
    (hall : R state.restored) : ReadsBack config N R buffer [] := by
  intro base hload
  rw [loadBase_encodeState hkeyed hrun hload]
  exact ⟨hread, fun _ => hall⟩

theorem ReadsBack.readable (h : ReadsBack config N R snapshot records)
    (hdurable : Durable dir snapshot records) : Readable config N dir :=
  ⟨snapshot, records, hdurable, h.mono fun _ _ _ => trivial⟩

theorem Backs.mono (h : Backs config N R start fabric)
    (hmono : ∀ read, N read → R read → R' read) : Backs config N R' start fabric where
  disk := h.disk
  linked store hstore := by
    obtain ⟨snapshot, records, hconnected, hreads⟩ := h.linked store hstore
    exact ⟨snapshot, records, hconnected, hreads.mono hmono⟩
  crash := h.crash

theorem Backs.sameRuntime (h : Backs config N R start fabric) (hsame : fabric.SameRuntime fabric') :
    Backs config N R start fabric' where
  disk := by rw [hsame.disk, hsame.log, h.disk]
  linked := by
    rw [hsame.store, hsame.disk]
    exact h.linked
  crash := by
    rw [hsame.store, hsame.log]
    exact h.crash

theorem Backs.readable (h : Backs config N R start fabric) (hsome : fabric.store ≠ none) :
    Readable config N fabric.disk := by
  obtain ⟨store, hstore⟩ := Option.ne_none_iff_exists'.mp hsome
  obtain ⟨snapshot, records, hconnected, hreads⟩ := h.linked store hstore
  exact hreads.readable hconnected.durable

/-- A durable change reaches the shadow, and a crash on the way leaves it in or out. -/
theorem Backs.persist (h : Backs config N R start fabric)
    (hstep : ∀ read, N read → R read →
      N (Change.apply read change) ∧ R' (Change.apply read change))
    (hpersist : fabric.persist [change.record] = (.ok, durable)) :
    Backs config N R' start durable := by
  unfold Fabric.persist at hpersist
  split at hpersist
  · rename_i hstore
    cases hpersist
    refine ⟨h.disk, fun store hsome => ?_, fun hsome => absurd hstore hsome⟩
    rw [hsome] at hstore
    cases hstore
  rename_i store hstore
  split at hpersist
  rename_i code store' ops hcommit
  by_cases hcode : code = .ok
  · subst hcode
    simp only [ne_eq, not_true_eq_false, if_false] at hpersist
    cases hpersist
    obtain ⟨snapshot, records, hconnected, hreads⟩ := h.linked store hstore
    refine ⟨?_, ?_, ?_⟩
    · dsimp only [Fabric.perform, Fabric.bump]
      rw [h.disk, Directory.performAll, Directory.performAll, Directory.performAll,
        List.foldl_append]
    · intro found hfound
      cases hfound
      exact ⟨snapshot, _, hconnected.commit hcommit, hreads.commit hstep⟩
    · intro _ dir hcrash
      rcases hcrash.append_cases with hbefore | hduring
      · exact h.crash (by rw [hstore]; simp) dir hbefore
      · rw [← h.disk] at hduring
        rcases hconnected.crash_commit hcommit hduring with hdurable | hdurable
        · exact hreads.readable hdurable
        · exact (hreads.commit hstep).readable hdurable
  · simp only [ne_eq, hcode, not_false_eq_true, if_true] at hpersist
    cases hpersist
    exact absurd rfl hcode

/-- A rotation starts the shadow over from the memory, if it comes about. -/
theorem Backs.rotate {code : Reason} (h : Backs config N R start fabric)
    (hkeyed : fabric.state.WellKeyed) (hread : N fabric.state.restored)
    (hall : R fabric.state.restored) (hrotate : fabric.rotateIfDue = (code, fabric')) :
    Backs config N R start fabric' := by
  unfold Fabric.rotateIfDue at hrotate
  split at hrotate
  · cases hrotate
    exact h
  split at hrotate
  swap
  · cases hrotate
    exact h
  unfold Fabric.maybeCompact at hrotate
  split at hrotate
  · cases hrotate
    exact h
  rename_i store hstore
  split at hrotate
  · cases hrotate
    exact h
  rename_i buffer hrun
  split at hrotate
  rename_i reason store' ops hcompact
  dsimp only at hrotate
  have hfresh : ReadsBack config N R buffer [] := readsBack_encodeState hkeyed hrun hread hall
  by_cases hreason : reason = .ok
  · subst hreason
    rw [if_pos rfl] at hrotate
    cases hrotate
    obtain ⟨snapshot, records, hconnected, hreads⟩ := h.linked store hstore
    refine ⟨?_, ?_, ?_⟩
    · dsimp only [Fabric.perform, Fabric.bump]
      rw [h.disk, Directory.performAll, Directory.performAll, Directory.performAll,
        List.foldl_append]
    · intro found hfound
      cases hfound
      exact ⟨buffer, [], hconnected.compact hcompact, hfresh⟩
    · intro _ dir hcrash
      rcases hcrash.append_cases with hbefore | hduring
      · exact h.crash (by rw [hstore]; simp) dir hbefore
      · rw [← h.disk] at hduring
        rcases hconnected.crash_compact hcompact hduring with hdurable | hdurable
        · exact hreads.readable hdurable
        · exact hfresh.readable hdurable
  · rw [if_neg hreason] at hrotate
    obtain ⟨rfl, rfl⟩ := Store.compact_refused hreason hcompact
    cases hrotate
    exact h.sameRuntime ⟨rfl, rfl, hstore.symm, rfl, List.append_nil _⟩

end Reading

/-! ### Couplings -/

/-- The commits of an ingestion are made in the memory that its check has found, up to what is
counted. -/
def Fabric.Exact (fabric : Fabric) (op : Op) (commit : Commit) : Prop :=
  ∀ checked, fabric.ingestion op = some checked → ∃ stats,
    commit.before = { fabric.state with stats }

/-- What the commit does to a memory and to its shadow. -/
structure Commit.Couples (N : State → Prop) (P : State → State → Prop) (commit : Commit) :
    Prop where
  memory : N commit.before → N commit.after
  shadow : ∀ read, N commit.before → N read → P commit.before read →
    N (Change.apply read commit.change) ∧ P commit.after (Change.apply read commit.change)

/-- A property of memories, and a relation between a memory and what would be read back, that
every step keeps. -/
structure Coupling (config : FabricConfig) (allowed : Fabric → Op → Prop) (N : State → Prop)
    (P : State → State → Prop) : Prop where
  blank : N {}
  initial : N (initialState config)
  refl : ∀ {state}, N state → P state state
  keeps : ∀ {state state'}, N state → State.Upkeep config state state' →
    N state' ∧ ∀ read, P state read → P state' read
  commit : ∀ {caller actor op op' commit}, allowed caller op → caller.config = config →
    caller.Acts op actor op' → actor.state.core.Sound config → N actor.state →
    actor.Caused op' commit → actor.Exact op' commit → commit.Couples N P
  snapshot : ∀ {state}, N state → N state.restored ∧ P state state.restored
  restart : ∀ {state}, N state → N (restartedState state) ∧
    N (Change.apply state (.epochAdvanced (advance state.epoch) (advance state.boot))) ∧
    P (restartedState state)
      (Change.apply state (.epochAdvanced (advance state.epoch) (advance state.boot)))

section Coupled

variable {config : FabricConfig} {allowed : Fabric → Op → Prop} {N : State → Prop}
  {P : State → State → Prop} {history memory first : List Change} {start : Directory}
  {fabric fabric' caller actor : Fabric} {op op' : Op} {commits : List Commit}

theorem Coupling.keepsAll {state state' : State} (h : Coupling config allowed N P)
    (hN : N state) (hkeeps : State.Keeps config state state') :
    N state' ∧ ∀ read, P state read → P state' read := by
  induction hkeeps with
  | refl => exact ⟨hN, fun _ hP => hP⟩
  | tail _ hstep ih =>
    obtain ⟨hnext, hread⟩ := h.keeps ih.1 hstep
    exact ⟨hnext, fun read hP => hread read (ih.2 read hP)⟩

/-- The invariant that comes with every run: memories are grounded. -/
abbrev Grounds.Plain (config : FabricConfig) : Invariant := Grounds config fun _ _ => True

/-- What one call does to the memory and to its shadow. -/
theorem Fabric.Evolves.coupled (hcoupling : Coupling config allowed N P)
    (hevolves : fabric.Evolves commits fabric')
    (htracked : Tracked config allowed (Grounds.Plain config) start first history fabric)
    (hwarranted : Warranted config allowed (Grounds.Plain config) history commits)
    (hcouples : ∀ commit ∈ commits, commit.Couples N P) (hmemory : N fabric.state)
    (hbacks : Backs config N (P fabric.state) start fabric) :
    N fabric'.state ∧ Backs config N (P fabric'.state) start fabric' := by
  have hstable := (preserved_true config allowed).stable
  induction hevolves generalizing history with
  | keeps hkeeps =>
    obtain ⟨hN, hP⟩ := hcoupling.keepsAll hmemory (htracked.configured ▸ hkeeps.state)
    exact ⟨hN, (hbacks.mono fun read _ => hP read).sameRuntime hkeeps.toSameRuntime⟩
  | @commit fabric durable fabric' change hopened hpersist hsame =>
    obtain ⟨-, -, hkeeps⟩ := Fabric.persist_ok hpersist
    obtain ⟨hN, hP⟩ := hcoupling.keepsAll hmemory (htracked.configured ▸ hkeeps)
    obtain ⟨hafter, hshadow⟩ := hcouples _ (List.mem_singleton_self _)
    refine ⟨hafter hN, Backs.sameRuntime (Backs.persist hbacks (fun read hread hcoupled => ?_)
      hpersist) hsame⟩
    exact hshadow read hN hread (hP read hcoupled)
  | rotate hopened hrotate =>
    obtain ⟨-, -, hkeeps⟩ := Fabric.rotateIfDue_keeps hrotate
    obtain ⟨hN, hP⟩ := hcoupling.keepsAll hmemory (htracked.configured ▸ hkeeps)
    obtain ⟨hread, hall⟩ := hcoupling.snapshot hmemory
    refine ⟨hN, Backs.mono ?_ fun read _ => hP read⟩
    exact hbacks.rotate htracked.memory.1.wellKeyed hread hall hrotate
  | @trans fabric middle fabric' commits commits' hfirst hsecond ih ih' =>
    have hfront : Warranted config allowed (Grounds.Plain config) history commits :=
      fun earlier commit hfront => hwarranted earlier commit (hfront.trans (List.prefix_append _ _))
    obtain ⟨hN, hbacks⟩ := ih htracked hfront
      (fun commit hmem => hcouples commit (List.mem_append_left _ hmem)) hmemory hbacks
    refine ih' (hfirst.tracked hstable htracked hfront) ?_
      (fun commit hmem => hcouples commit (List.mem_append_right _ hmem)) hN hbacks
    intro earlier commit hfront hbefore
    have hwhole : (commits ++ earlier) ++ [commit] <+: commits ++ commits' := by
      rw [List.append_assoc]
      exact (List.prefix_append_right_inj commits).mpr hfront
    have := hwarranted (commits ++ earlier) commit hwhole
    rw [List.map_append, ← List.append_assoc] at this
    exact this hbefore

/-- What persisting leaves of the memory. -/
theorem Fabric.state_persist {records : List Record} {code : Reason} {durable : Fabric}
    (h : fabric.persist records = (code, durable)) :
    ∃ stats, durable.state = { fabric.state with stats } := by
  unfold Fabric.persist at h
  split at h
  · cases h
    exact ⟨_, rfl⟩
  split at h
  dsimp only at h
  split at h
  all_goals
    cases h
    exact ⟨_, rfl⟩

/-- An ingestion commits in the memory that its check has found, up to what is counted. -/
theorem Fabric.ingest_exact {service : ServiceName} {subject : Bytes} {checked : Check Proposal}
    (hop : fabric.ingestion op = some checked) : ∃ commits,
    fabric.Evolves commits (fabric.ingest service subject checked).2 ∧
      fabric.Performs op commits ∧ ∀ commit ∈ commits, fabric.Exact op commit := by
  have hnone : ∀ commit ∈ ([] : List Commit), fabric.Exact op commit := fun _ hmem => by cases hmem
  unfold Fabric.ingest
  cases checked with
  | error refused =>
    exact ⟨[], .keeps ((keeps_of_state _ (State.keeps_bumpAll _ _ _)).trans
      (keeps_finishIngest _ _)), .nothing, hnone⟩
  | ok proposal =>
    have hopened := opened_of_ingestion hop rfl
    dsimp only
    unfold transact
    rcases hpersist : fabric.persist [proposal.change.record] with ⟨code, durable⟩
    by_cases hcode : code = .ok
    · subst hcode
      obtain ⟨hconfig, hdurable, hkeeps⟩ := persist_ok hpersist
      obtain ⟨stats, hstate⟩ := Fabric.state_persist hpersist
      have hsame : durable.SameRuntime { durable with state := proposal.update durable.state } :=
        ⟨rfl, rfl, rfl, rfl, rfl⟩
      have hcommit := Evolves.commit hopened hpersist hsame
      have hperforms : fabric.Performs op [{ before := durable.state, change := proposal.change
                                             after := proposal.update durable.state }] :=
        .once (.ingested hop rfl ⟨hkeeps, rfl, rfl⟩)
      rcases hrotate : rotateIfDue { durable with state := proposal.update durable.state } with
        ⟨rotated, fabric₁⟩
      have hevolves := hcommit.trans (.rotate (hdurable.trans hopened) hrotate)
      refine ⟨_, ?_, hperforms, fun commit hmem _ _ => ?_⟩
      · have hfinish := fun explanation =>
          hevolves.then_keeps (fabric₁.keeps_finishIngest explanation)
        simp only [ne_eq, not_true_eq_false, if_false, hrotate]
        split
        · rename_i hprogress
          split at hprogress <;> cases hprogress
        · rename_i hprogress
          split at hprogress <;> cases hprogress
          exact hfinish _
        · rename_i hprogress
          split at hprogress <;> cases hprogress
          exact hfinish _
      · rw [List.mem_singleton.mp hmem]
        exact ⟨stats, hstate⟩
    · simp only [ne_eq, hcode, not_false_eq_true, if_true]
      exact ⟨[], .keeps ((persist_refused hcode hpersist).trans (keeps_finishIngest _ _)), .nothing,
        hnone⟩

theorem Fabric.dispatch_exact (hopen : op ≠ .openFabric) (hclose : op ≠ .closeFabric) :
    ∃ commits, fabric.Evolves commits (fabric.dispatch op).2 ∧ fabric.Performs op commits ∧
      ∀ commit ∈ commits, fabric.Exact op commit := by
  cases hop : fabric.ingestion op with
  | none =>
    obtain ⟨commits, hevolves, hperforms, -⟩ := fabric.dispatch_evolves hopen hclose
    refine ⟨commits, hevolves, hperforms, fun commit _ checked hchecked => ?_⟩
    rw [hop] at hchecked
    cases hchecked
  | some checked =>
    obtain ⟨service, subject, hdispatch⟩ := dispatch_ingestion hop
    rw [hdispatch]
    exact Fabric.ingest_exact hop

/-- Every commit of a call is a step of the coupling. -/
theorem Fabric.Performs.couples (hperforms : fabric.Performs op commits)
    (hcoupling : Coupling config allowed N P) (hallowed : allowed fabric op)
    (hconfig : fabric.config = config) (hsound : fabric.state.core.Sound config)
    (hmemory : N fabric.state) (hexact : ∀ commit ∈ commits, fabric.Exact op commit) :
    ∀ commit ∈ commits, commit.Couples N P := by
  have hone {commit : Commit} (hcaused : fabric.Caused op commit)
      (hexact : fabric.Exact op commit) : commit.Couples N P :=
    hcoupling.commit hallowed hconfig (.direct op) hsound hmemory hcaused hexact
  intro commit hmem
  cases hperforms with
  | nothing => cases hmem
  | once hcaused =>
    obtain rfl := List.mem_singleton.mp hmem
    exact hone hcaused (hexact _ hmem)
  | @twice resolution leading second middle hop hconfirm hcaused hmiddleConfig hmiddleOpened
      hmiddle hsecond =>
    subst hop
    have hleading := hone hcaused (hexact _ List.mem_cons_self)
    rcases List.mem_cons.mp hmem with rfl | hmem
    · exact hleading
    · obtain rfl := List.mem_singleton.mp hmem
      have hacts := Fabric.Acts.confirmed hconfirm hcaused hmiddleConfig hmiddleOpened hmiddle
      obtain ⟨hbefore, -⟩ := hcoupling.keepsAll hmemory (hconfig ▸ hcaused.before_keeps)
      refine hcoupling.commit hallowed hconfig hacts (hacts.same.1 ▸ hsound) ?_ hsecond
        fun _ h => ?_
      · rw [hmiddle]
        exact hleading.memory hbefore
      · cases h

/-! ### Runs -/

/-- A process between calls: its memory, what its directory would be read back as, and, while it
is open, how the two go together. -/
structure Mirrored (config : FabricConfig) (N : State → Prop) (P : State → State → Prop)
    (fabric : Fabric) : Prop where
  memory : N fabric.state
  readable : config.storeDirectory = true → Readable config N fabric.disk
  backed : fabric.opened = true → Backs config N (P fabric.state) fabric.disk fabric.entered

/-- A call left the process mirrored, and any crash on the way left its directory recoverable. -/
structure Mirrors (config : FabricConfig) (N : State → Prop) (P : State → State → Prop)
    (start : Directory) (fabric : Fabric) : Prop extends Mirrored config N P fabric where
  crash : config.storeDirectory = true → ∀ dir, start.CrashImage fabric.log dir →
    Readable config N dir

theorem Backs.entered {R : State → Prop} (h : Backs config N R start fabric) :
    Backs config N R fabric.disk fabric.entered where
  disk := rfl
  linked := h.linked
  crash hsome dir hcrash := by
    rw [crashImage_nil hcrash]
    exact h.readable hsome

/-- Where no file operation was performed, a crash finds the directory as it was. -/
theorem Mirrored.quiet (h : Mirrored config N P fabric') (hdisk : fabric'.disk = start)
    (hlog : fabric'.log = []) : Mirrors config N P start fabric' where
  toMirrored := h
  crash hstore dir hcrash := by
    rw [hlog] at hcrash
    rw [crashImage_nil hcrash, ← hdisk]
    exact h.readable hstore

theorem Mirrored.created {dir : Directory} (hcoupling : Coupling config allowed N P)
    (hreadable : config.storeDirectory = true → Readable config N dir) :
    Mirrored config N P (Fabric.create config dir) :=
  ⟨hcoupling.blank, hreadable, nofun⟩

/-- A call between opening and closing. -/
theorem Mirrored.call (h : Mirrored config N P fabric) (hcoupling : Coupling config allowed N P)
    (hchronicled : Chronicled config allowed (Grounds.Plain config) history memory fabric)
    (hallowed : allowed fabric.entered op) (hopen : op ≠ .openFabric) (hclose : op ≠ .closeFabric) :
    Mirrors config N P fabric.disk (fabric.call op).2 := by
  have hstable := (preserved_true config allowed).stable
  obtain ⟨commits, hevolves, hperforms, hexact⟩ := fabric.entered.dispatch_exact hopen hclose
  obtain ⟨hopenedSame, hstoreSame⟩ := hevolves.runtime
  by_cases hopened : fabric.opened = true
  · have hground := (hchronicled.running hopened).2
    have hcouples := hperforms.couples hcoupling hallowed hchronicled.configured hground.1.sound
      h.memory hexact
    obtain ⟨hmemory, hbacks⟩ := hevolves.coupled hcoupling (hchronicled.tracked hopened)
      (hperforms.warranted hstable hallowed hchronicled.configured hopened hground) hcouples
      h.memory (h.backed hopened)
    have hattached (hstore : config.storeDirectory = true) : (fabric.call op).2.store ≠ none :=
      fun hnone => hchronicled.attached hopened hstore (hstoreSame.mp hnone)
    exact ⟨⟨hmemory, fun hstore => hbacks.readable (hattached hstore), fun _ => hbacks.entered⟩,
      fun hstore => hbacks.crash (hattached hstore)⟩
  · have hclosed : fabric.entered.opened = false := eq_false_of_ne_true hopened
    obtain ⟨-, hkeeps⟩ := hevolves.closed hclosed
    have hmirrored : Mirrored config N P (fabric.call op).2 := by
      refine ⟨(hcoupling.keepsAll h.memory (hchronicled.configured ▸ hkeeps.state)).1, ?_, ?_⟩
      · intro hstore
        have hdisk : (fabric.call op).2.disk = fabric.disk := hkeeps.disk
        rw [hdisk]
        exact h.readable hstore
      · intro hopened'
        exact absurd (hkeeps.opened.symm.trans hopened') hopened
    exact hmirrored.quiet hkeeps.disk hkeeps.log

theorem Mirrored.close (h : Mirrored config N P fabric) :
    Mirrors config N P fabric.disk (fabric.call .closeFabric).2 := by
  have hcall : (fabric.call .closeFabric).2 = fabric.entered.close.2 := rfl
  rw [hcall]
  unfold Fabric.close
  split
  · exact Mirrored.quiet ⟨h.memory, h.readable, h.backed⟩ rfl rfl
  · exact Mirrored.quiet ⟨h.memory, h.readable, nofun⟩ rfl rfl

theorem State.WellKeyed.counted {state : State} (h : state.WellKeyed) (stats : FabricStats) :
    ({ state with stats } : State).WellKeyed :=
  ⟨h.targets, h.services, h.failures, h.fences⟩

/-- The record of a new epoch is refused, or it reaches the shadow of a memory that has it. -/
theorem Backs.advance {R : State → Prop} {change : Change} {progress : Fabric.Progress}
    (h : Backs config N R start fabric) (hcoupling : Coupling config allowed N P)
    (hconfig : fabric.config = config) (hmemory : N fabric.state)
    (hkeyed : fabric.state.WellKeyed)
    (hstep : ∀ read, N read → R read →
      N (Change.apply read change) ∧ P fabric.state (Change.apply read change))
    (htransact : fabric.transact change id = (progress, fabric')) :
    N fabric'.state ∧ Backs config N (fun _ => True) start fabric' ∧
      (∀ code, progress = .refused code → fabric'.opened = fabric.opened) ∧
      ((∀ code, progress ≠ .refused code) → Backs config N (P fabric'.state) start fabric') := by
  unfold Fabric.transact at htransact
  rcases hpersist : fabric.persist [change.record] with ⟨code, durable⟩
  rw [hpersist] at htransact
  by_cases hcode : code = .ok
  · subst hcode
    obtain ⟨hdurable, -, hkeeps⟩ := Fabric.persist_ok hpersist
    obtain ⟨stats, hstate⟩ := Fabric.state_persist hpersist
    obtain ⟨hN, hP⟩ := hcoupling.keepsAll hmemory (hconfig ▸ hkeeps)
    have hbacks :
        Backs config N (P durable.state) start { durable with state := id durable.state } :=
      (Backs.persist h hstep hpersist).mono fun read _ => hP read
    simp only [ne_eq, not_true_eq_false, if_false] at htransact
    rcases hrotate : Fabric.rotateIfDue { durable with state := id durable.state } with
      ⟨rotated, fabric₁⟩
    obtain ⟨-, -, hkeeps'⟩ := Fabric.rotateIfDue_keeps hrotate
    have hupdated : N (id durable.state) := hN
    obtain ⟨hN', hP'⟩ := hcoupling.keepsAll hupdated (hconfig ▸ hdurable ▸ hkeeps')
    obtain ⟨hread, hall⟩ := hcoupling.snapshot hN
    have hwell : durable.state.WellKeyed := by
      rw [hstate]
      exact hkeyed.counted stats
    have hend := (hbacks.rotate hwell hread hall hrotate).mono fun read _ => hP' read
    simp only [hrotate] at htransact
    split at htransact <;>
    · cases htransact
      exact ⟨hN', hend.mono fun _ _ _ => trivial, nofun, fun _ => hend⟩
  · simp only [ne_eq, hcode, not_false_eq_true, if_true] at htransact
    cases htransact
    have hkeeps := Fabric.persist_refused hcode hpersist
    refine ⟨(hcoupling.keepsAll hmemory (hconfig ▸ hkeeps.state)).1,
      (h.mono fun _ _ _ => trivial).sameRuntime hkeeps.toSameRuntime, fun _ _ => hkeeps.opened,
      fun hnot => ?_⟩
    exact absurd rfl (hnot code)

/-- What the recovery of a store leaves. -/
theorem Backs.recover {found : Store.Opened} (hcoupling : Coupling config allowed N P)
    (h : Backs config N (fun read => ∃ base, loadBase config found.snapshot = .ok base ∧
      replay config base found.records = (read, true)) start fabric)
    (hconfig : fabric.config = config) (hclosed : fabric.opened = false) (hmemory : N fabric.state)
    (hreads : ReadsBack config N (fun _ => True) found.snapshot found.records)
    (hground : ∀ base state, loadBase config found.snapshot = .ok base →
      replay config base found.records = (state, true) → ∃ past, Grounded config past state) :
    N (fabric.recover found).2.state ∧
      Backs config N (fun _ => True) start (fabric.recover found).2 ∧
      ((fabric.recover found).2.opened = true →
        Backs config N (P (fabric.recover found).2.state) start (fabric.recover found).2) := by
  subst hconfig
  have hplain := h.mono fun (_ : State) _ _ => trivial
  unfold Fabric.recover
  cases hload : loadBase fabric.config found.snapshot with
  | error code => exact ⟨hmemory, hplain, fun hopened => absurd hopened (by simp [hclosed])⟩
  | ok base =>
    obtain ⟨hread, -⟩ := hreads base hload
    dsimp only
    rcases hreplay : replay fabric.config base found.records with ⟨state, complete⟩
    rw [hreplay] at hread
    have hleft (restart : RestartSummary) (opened : Bool) :
        Backs fabric.config N (fun _ => True) start { fabric with state, opened, restart } :=
      ⟨hplain.disk, hplain.linked, hplain.crash⟩
    dsimp only
    split
    · exact ⟨hread, hleft _ _, fun hopened => absurd hopened (by simp [hclosed])⟩
    rename_i hcomplete
    have hall : complete = true := by simpa using hcomplete
    rw [hall] at hreplay
    have hsame {read : State} (hfound : ∃ base, loadBase fabric.config found.snapshot = .ok base ∧
        replay fabric.config base found.records = (read, true)) : read = state := by
      obtain ⟨base', hload', hreplay'⟩ := hfound
      obtain rfl := Except.ok.inj (hload'.symm.trans hload)
      exact (Prod.mk.inj (hreplay'.symm.trans hreplay)).1
    split
    · exact ⟨hread, hleft _ _, fun hopened => absurd hopened (by simp [hclosed])⟩
    split
    · refine ⟨hread, hleft _ _, fun _ => ?_⟩
      have hbacks : Backs fabric.config N (P state) start fabric := h.mono fun read _ hfound => by
        rw [hsame hfound]
        exact hcoupling.refl hread
      exact ⟨hbacks.disk, hbacks.linked, hbacks.crash⟩
    · obtain ⟨past, hgrounded⟩ := hground base state hload hreplay
      obtain ⟨hrestarted, hshadow, hcoupled⟩ := hcoupling.restart hread
      have hstart : Backs fabric.config N (fun read => read = state) start
          { fabric with
            state := restartedState state
            restart := restartSummary fabric.restart.store state } :=
        have hbacks := h.mono fun (_ : State) _ => hsame
        ⟨hbacks.disk, hbacks.linked, hbacks.crash⟩
      split <;> rename_i fabric₁ htransact
      all_goals
        obtain ⟨hN, hbacks, hrefused, hlinked⟩ := hstart.advance hcoupling rfl hrestarted
          hgrounded.restart.wellKeyed (fun read _ hfound => by
            rw [hfound]
            exact ⟨hshadow, hcoupled⟩) htransact
      · refine ⟨hN, hbacks, fun hopened => ?_⟩
        rw [hrefused _ rfl, hclosed] at hopened
        cases hopened
      · exact ⟨hN, hbacks, fun _ => hlinked fun _ hcode => by cases hcode⟩
      · have hend := hlinked fun _ hcode => by cases hcode
        exact ⟨hN, ⟨hbacks.disk, hbacks.linked, hbacks.crash⟩,
          fun _ => ⟨hend.disk, hend.linked, hend.crash⟩⟩

theorem Fabric.store_recover (fabric : Fabric) (found : Store.Opened)
    (hsome : fabric.store ≠ none) :
    (fabric.recover found).2.store ≠ none := by
  unfold Fabric.recover
  cases loadBase fabric.config found.snapshot with
  | error code => exact hsome
  | ok base =>
    dsimp only
    split
    · exact hsome
    split
    · exact hsome
    split
    · exact hsome
    split <;>
    · rename_i htransact
      exact mt (Fabric.store_transact htransact).mp hsome

/-- An open that reads a store. -/
theorem Mirrored.openStore (h : Mirrored config N P fabric)
    (hcoupling : Coupling config allowed N P)
    (hchronicled : Chronicled config allowed (Grounds.Plain config) history memory fabric)
    (hclosed : fabric.opened = false) (hstore : config.storeDirectory = true) :
    Mirrors config N P fabric.disk (fabric.call .openFabric).2 := by
  have hconfigured := hchronicled.configured
  subst hconfigured
  have hcall : (fabric.call .openFabric).2 = fabric.entered.open.2 := rfl
  have hreadable := h.readable hstore
  rw [hcall]
  cases hopen : Store.open (Fabric.storeOptions fabric.config) fabric.disk with
  | error report =>
    rw [open_error (by exact hclosed) (by exact hstore) (by exact hopen)]
    refine Mirrored.quiet ⟨hcoupling.initial, fun _ => hreadable, fun hopened => ?_⟩ rfl rfl
    exact absurd hopened (by simp [Fabric.cleared, Fabric.entered, hclosed])
  | ok found =>
    rw [open_found (by exact hclosed) (by exact hstore) (by exact hopen)]
    obtain ⟨snapshot, records, hdurable, hreads⟩ := hreadable
    obtain ⟨rfl, rfl, -, hconnected, hcrashed⟩ := hdurable.open rfl hopen
    have hattached : Backs fabric.config N (fun read => ∃ base,
        loadBase fabric.config found.snapshot = .ok base ∧
          replay fabric.config base found.records = (read, true)) fabric.disk
        (fabric.entered.cleared.attach found) := by
      refine ⟨rfl, fun store hsome => ⟨_, _, ?_, fun base hload => ⟨(hreads base hload).1, ?_⟩⟩,
        fun _ dir hcrash => hreads.readable (hcrashed dir hcrash)⟩
      · obtain rfl := Option.some.inj hsome
        exact hconnected
      · exact fun hall => ⟨base, hload, Prod.ext rfl hall⟩
    obtain ⟨hmemory, hbacks, hopened⟩ := hattached.recover hcoupling rfl hclosed hcoupling.initial
      hreads fun base state hload hreplay => ⟨_, (hchronicled.readBack
        (preserved_true fabric.config allowed).stable hstore ⟨_, base, hopen, hload, hreplay⟩).1⟩
    have hsome := (fabric.entered.cleared.attach found).store_recover found (Option.some_ne_none _)
    exact ⟨⟨hmemory, fun _ => hbacks.readable hsome, fun h => (hopened h).entered⟩,
      fun _ => hbacks.crash hsome⟩

/-- Without a store there is nothing to read back. -/
theorem Mirrored.openMemory (h : Mirrored config N P fabric)
    (hcoupling : Coupling config allowed N P)
    (hchronicled : Chronicled config allowed (Grounds.Plain config) history memory fabric)
    (hclosed : fabric.opened = false) (hstore : config.storeDirectory = false) :
    Mirrors config N P fabric.disk (fabric.call .openFabric).2 := by
  have hconfigured := hchronicled.configured
  subst hconfigured
  have hcall : (fabric.call .openFabric).2 = { fabric.entered.cleared with opened := true } := by
    have hclosed' : fabric.entered.opened = false := hclosed
    have hstore' : fabric.entered.config.storeDirectory = false := hstore
    simp [Fabric.call, Fabric.dispatch, Fabric.replyCode, Fabric.open, hclosed', hstore']
  rw [hcall]
  have hnone : fabric.store = none := hchronicled.storeless hstore
  refine Mirrored.quiet ⟨hcoupling.initial, h.readable, fun _ => ⟨rfl, fun store hsome => ?_,
    fun hsome => absurd hnone hsome⟩⟩ rfl rfl
  cases hnone.symm.trans hsome

/-- What any call leaves of the process and, if it dies on the way, of its directory. -/
theorem Mirrored.mirrors (h : Mirrored config N P fabric) (hcoupling : Coupling config allowed N P)
    (hchronicled : Chronicled config allowed (Grounds.Plain config) history memory fabric)
    (hallowed : allowed fabric.entered op) : Mirrors config N P fabric.disk (fabric.call op).2 := by
  by_cases hclose : op = .closeFabric
  · rw [hclose]
    exact h.close
  by_cases hopen : op = .openFabric
  · subst hopen
    by_cases hopened : fabric.opened = true
    · have hcall : (fabric.call .openFabric).2 = fabric.entered := by
        have hopened' : fabric.entered.opened = true := hopened
        simp [Fabric.call, Fabric.dispatch, Fabric.replyCode, Fabric.open, hopened']
      rw [hcall]
      exact Mirrored.quiet ⟨h.memory, h.readable, h.backed⟩ rfl rfl
    · have hclosed : fabric.opened = false := eq_false_of_ne_true hopened
      by_cases hstore : config.storeDirectory = true
      · exact h.openStore hcoupling hchronicled hclosed hstore
      · exact h.openMemory hcoupling hchronicled hclosed (eq_false_of_ne_true hstore)
  · exact h.call hcoupling hchronicled hallowed hopen hclose

/-- The run lemma: a coupling holds of every process of a run of allowed calls. -/
theorem Fabric.Run.mirrored {moments : List Fabric.Moment} (hrun : Fabric.Run config moments fabric)
    (hcoupling : Coupling config allowed N P)
    (hallowed : ∀ moment ∈ moments, allowed moment.before.entered moment.event.op) :
    Mirrored config N P fabric := by
  induction hrun with
  | start =>
    refine .created hcoupling fun _ => ⟨[], [], Durable.empty, fun base hload =>
      ⟨?_, fun _ => trivial⟩⟩
    obtain rfl : initialState config = base := Except.ok.inj hload
    exact hcoupling.initial
  | @step moments fabric fabric' event hrun hstep ih =>
    have hbefore (moment : Fabric.Moment) (hmoment : moment ∈ moments) :=
      hallowed moment (List.mem_append_left _ hmoment)
    obtain ⟨_, _, -, hchronicled⟩ :=
      hrun.chronicled (preserved_true config allowed).stable hbefore
    have hlast : allowed fabric.entered event.op := hallowed { before := fabric, event } (by simp)
    have hmirrors := (ih hbefore).mirrors hcoupling hchronicled hlast
    cases hstep with
    | call op => exact hmirrors.toMirrored
    | crash op dir hcrash =>
      rw [hchronicled.configured]
      exact .created hcoupling fun hstore => hmirrors.crash hstore dir hcrash

end Coupled

end OffloadFabric
