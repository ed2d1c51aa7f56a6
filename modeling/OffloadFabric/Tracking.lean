import OffloadFabric.Legitimacy

/-!
Memory, directory and history of a coordinator. An invariant relates a memory to the
history that led to it; it is stable when live commits, bookkeeping, snapshots, restarts
and the replay of records all keep it. The directory holds a history when whatever can be
recovered from it is a memory that the invariant relates to that history.
-/
namespace OffloadFabric

open Store (transactionFrames)

/-- A relation between histories and the memories they lead to. -/
abbrev Invariant := List Change → State → Prop

/-- An open of this process reads the state back from its directory: the snapshot, and all the
records after it. -/
def Fabric.Rereads (fabric : Fabric) (state : State) : Prop :=
  ∃ found base, Store.open (storeOptions fabric.config) fabric.disk = .ok found ∧
    loadBase fabric.config found.snapshot = .ok base ∧
    replay fabric.config base found.records = (state, true)

/-- What an allowed open of a closed process has read back before it restarts it. -/
def ReadBack (config : FabricConfig) (allowed : Fabric → Fabric.Op → Prop) (state : State) :
    Prop :=
  ∃ caller : Fabric, caller.config = config ∧ caller.opened = false ∧
    allowed caller .openFabric ∧ caller.Rereads state

/-- Why a change stands in a history: a live runtime made it, or a restart of what was read
back did. Both had a memory that the invariant related to the history so far. -/
inductive Warrant (config : FabricConfig) (allowed : Fabric → Fabric.Op → Prop) (Q : Invariant)
    (past : List Change) : Change → Prop where
  | made {caller actor : Fabric} {op op' : Fabric.Op} {commit : Commit} :
      allowed caller op → caller.config = config → caller.Acts op actor op' → actor.opened →
      Q past actor.state → actor.Caused op' commit → Q past commit.before →
      Warrant config allowed Q past commit.change
  | restarted {state : State} : ReadBack config allowed state → Q past state →
      Warrant config allowed Q past (.epochAdvanced (advance state.epoch) (advance state.boot))

/-- Every change of the history has a warrant. -/
def Trail (config : FabricConfig) (allowed : Fabric → Fabric.Op → Prop) (Q : Invariant)
    (history : List Change) : Prop :=
  ∀ past change, past ++ [change] <+: history → Warrant config allowed Q past change

/-- What an invariant needs to hold of every memory of every run. -/
structure Stable (config : FabricConfig) (allowed : Fabric → Fabric.Op → Prop) (Q : Invariant) :
    Prop where
  initial : Q [] (initialState config)
  keeps : ∀ {history state state'}, Q history state → State.Keeps config state state' →
    Q history state'
  commit : ∀ {history caller actor op op' commit}, allowed caller op → caller.config = config →
    caller.Acts op actor op' → actor.opened → Q history actor.state → actor.Caused op' commit →
    Q history commit.before → Q (history ++ [commit.change]) commit.after
  snapshot : ∀ {history state}, Trail config allowed Q history → Q history state →
    state.WellKeyed ∧ Q history state.restored
  restart : ∀ {history state}, ReadBack config allowed state → Q history state →
    Q (history ++ [.epochAdvanced (advance state.epoch) (advance state.boot)])
      (restartedState state)
  replay : ∀ {history state change}, Trail config allowed Q history → Q history state →
    Warrant config allowed Q history change →
    Q (history ++ [change]) (Change.apply state change)

section Trail

variable {config : FabricConfig} {allowed : Fabric → Fabric.Op → Prop} {Q : Invariant}
  {history past changes : List Change} {change : Change}

theorem Trail.nil : Trail config allowed Q [] := by
  intro past change hfront
  have hnil := List.prefix_nil.mp hfront
  simp at hnil

theorem Trail.of_front (h : Trail config allowed Q history) (hfront : past <+: history) :
    Trail config allowed Q past :=
  fun earlier change hearlier => h earlier change (hearlier.trans hfront)

theorem Trail.snoc (h : Trail config allowed Q history)
    (hchange : Warrant config allowed Q history change) :
    Trail config allowed Q (history ++ [change]) := by
  intro past next hfront
  rcases List.prefix_concat_iff.mp hfront with heq | hfront
  · obtain ⟨rfl, hlast⟩ := List.append_inj' heq rfl
    obtain rfl := List.singleton_inj.mp hlast
    exact hchange
  · exact h past next hfront

theorem Trail.last (h : Trail config allowed Q (history ++ [change])) :
    Warrant config allowed Q history change :=
  h history change (List.prefix_refl _)

/-- What every change of a trail keeps, given its warrant, holds at its end. -/
theorem Trail.along (h : Trail config allowed Q history) {R : Core → Change → Prop}
    (hstep : ∀ past change, past ++ [change] <+: history → Along config R past →
      Warrant config allowed Q past change → R (replayed config past).core change) :
    Along config R history := by
  induction history using List.reverseRecOn with
  | nil => exact Along.nil
  | append_singleton earlier next ih =>
    have hearlier := ih (h.of_front (List.prefix_append _ _)) fun past change hfront =>
      hstep past change (hfront.trans (List.prefix_append _ _))
    exact hearlier.snoc (hstep earlier next (List.prefix_refl _) hearlier h.last)

end Trail

/-! ### What a directory holds -/

section Backing

variable {config : FabricConfig} {Q : Invariant} {allowed : Fabric → Fabric.Op → Prop}
  {history : List Change} {store store' : Store} {dir dir' : Directory} {ops : List DiskOp}

/-- The snapshot stands for the first part of the history and the records are the rest. -/
def Backed (config : FabricConfig) (Q : Invariant) (contents : Bytes → List Record → Prop)
    (history : List Change) : Prop :=
  ∃ snapshot base changes, contents snapshot (changes.map Change.record) ∧
    history = base ++ changes ∧ ∀ state, loadBase config snapshot = .ok state → Q base state

def Holds (config : FabricConfig) (Q : Invariant) (dir : Directory) (history : List Change) :
    Prop :=
  Backed config Q (Durable dir) history

def Linked (config : FabricConfig) (Q : Invariant) (store : Store) (dir : Directory)
    (history : List Change) : Prop :=
  Backed config Q (Connected store dir) history

theorem Holds.empty (hinitial : Q [] (initialState config)) : Holds config Q {} [] := by
  refine ⟨[], [], [], Durable.empty, rfl, fun state hload => ?_⟩
  obtain rfl := Except.ok.inj hload
  exact hinitial

theorem Linked.holds (h : Linked config Q store dir history) : Holds config Q dir history := by
  obtain ⟨snapshot, base, changes, hconnected, hsplit, hbase⟩ := h
  exact ⟨snapshot, base, changes, hconnected.durable, hsplit, hbase⟩

theorem Linked.commit {change : Change} (h : Linked config Q store dir history)
    (hcommit : store.commitTransaction [change.record] = (.ok, store', ops)) :
    Linked config Q store' (dir.performAll ops) (history ++ [change]) := by
  obtain ⟨snapshot, base, changes, hconnected, rfl, hbase⟩ := h
  refine ⟨snapshot, base, changes ++ [change], ?_, List.append_assoc _ _ _, hbase⟩
  rw [List.map_append]
  exact hconnected.commit hcommit

theorem Linked.crash_commit {change : Change} (h : Linked config Q store dir history)
    (hcommit : store.commitTransaction [change.record] = (.ok, store', ops))
    (hcrash : dir.CrashImage ops dir') :
    Holds config Q dir' history ∨ Holds config Q dir' (history ++ [change]) := by
  obtain ⟨snapshot, base, changes, hconnected, rfl, hbase⟩ := h
  rcases hconnected.crash_commit hcommit hcrash with hdurable | hdurable
  · exact Or.inl ⟨snapshot, base, changes, hdurable, rfl, hbase⟩
  · refine Or.inr ⟨snapshot, base, changes ++ [change], ?_, List.append_assoc _ _ _, hbase⟩
    rw [List.map_append]
    exact hdurable

/-- The snapshot of a memory stands for the whole history of that memory. -/
theorem loadBase_encodeState {state loaded : State} {buffer : Bytes} (hkeyed : state.WellKeyed)
    (hrun : CanonicalWriter.run (encodeState state) = some buffer)
    (hload : loadBase config buffer = .ok loaded) : loaded = state.restored := by
  obtain ⟨hok, herror⟩ := (roundTrips_state config hkeyed).decodeFrom (by decide) hrun
  have hleast : 2 ≤ buffer.length := (roundTrips_state config hkeyed).least_le hrun
  have hnonempty : buffer.isEmpty = false := by
    cases buffer with
    | nil => simp at hleast
    | cons first rest => rfl
  unfold loadBase at hload
  simp only [hnonempty, Bool.false_eq_true, if_false] at hload
  by_cases hencodable : state.Encodable config
  · rw [hok hencodable] at hload
    simp only at hload
    split at hload
    · exact (Except.ok.inj hload).symm
    · cases hload
  · obtain ⟨err, herr⟩ := herror hencodable
    rw [herr] at hload
    cases hload

/-- A compaction moves the whole history into the snapshot. -/
theorem Linked.compact {state : State} {buffer : Bytes} (h : Linked config Q store dir history)
    (hkeyed : state.WellKeyed) (hrestored : Q history state.restored)
    (hrun : CanonicalWriter.run (encodeState state) = some buffer)
    (hcompact : store.compact buffer = (.ok, store', ops)) :
    Linked config Q store' (dir.performAll ops) history ∧
      ∀ dir', dir.CrashImage ops dir' → Holds config Q dir' history := by
  obtain ⟨snapshot, base, changes, hconnected, rfl, hbase⟩ := h
  have hloaded : ∀ loaded, loadBase config buffer = .ok loaded → Q (base ++ changes) loaded := by
    intro loaded hload
    rw [loadBase_encodeState hkeyed hrun hload]
    exact hrestored
  refine ⟨⟨buffer, base ++ changes, [], hconnected.compact hcompact, by simp, hloaded⟩,
    fun dir' hcrash => ?_⟩
  rcases hconnected.crash_compact hcompact hcrash with hdurable | hdurable
  · exact ⟨snapshot, base, changes, hdurable, rfl, hbase⟩
  · exact ⟨buffer, base ++ changes, [], hdurable, by simp, hloaded⟩

/-- What an open finds: the history in two parts, and a store linked to it. -/
theorem Holds.open {opened : Store.Opened} (h : Holds config Q dir history)
    (hopen : Store.open (Fabric.storeOptions config) dir = .ok opened) :
    (∃ base changes, history = base ++ changes ∧ opened.records = changes.map Change.record ∧
      ∀ state, loadBase config opened.snapshot = .ok state → Q base state) ∧
      Linked config Q opened.store (dir.performAll opened.ops) history ∧
      ∀ dir', dir.CrashImage opened.ops dir' → Holds config Q dir' history := by
  obtain ⟨snapshot, base, changes, hdurable, rfl, hbase⟩ := h
  obtain ⟨hsnapshot, hrecords, -, hconnected, hcrash⟩ := hdurable.open rfl hopen
  refine ⟨⟨base, changes, rfl, hrecords, ?_⟩, ⟨snapshot, base, changes, hconnected, rfl, hbase⟩,
    fun dir' himage => ⟨snapshot, base, changes, hcrash dir' himage, rfl, hbase⟩⟩
  rw [hsnapshot]
  exact hbase

/-- Replaying applies a first part of the changes, and all of them if it is complete. -/
theorem replay_changes {changes : List Change} {state state' : State} {complete : Bool}
    (h : replay config state (changes.map Change.record) = (state', complete)) :
    ∃ applied rest, changes = applied ++ rest ∧ state' = applied.foldl Change.apply state ∧
      (complete = true → rest = []) := by
  induction changes generalizing state with
  | nil =>
    cases h
    exact ⟨[], [], rfl, rfl, fun _ => rfl⟩
  | cons change changes ih =>
    rw [List.map_cons, replay] at h
    split at h
    · cases h
      exact ⟨[], change :: changes, rfl, rfl, fun hcomplete => by cases hcomplete⟩
    · rename_i next hnext
      unfold applyRecord at hnext
      obtain ⟨decoded, hdecoded, rfl⟩ := Option.map_eq_some_iff.mp hnext
      obtain rfl := Change.eq_of_decodeChange hdecoded
      obtain ⟨applied, rest, rfl, rfl, hrest⟩ := ih h
      exact ⟨decoded :: applied, rest, rfl, rfl, hrest⟩

/-- An invariant that held at the base holds after the replay of what follows on a trail. -/
theorem Stable.replayAll {base applied : List Change} {state : State}
    (hstable : Stable config allowed Q) (htrail : Trail config allowed Q (base ++ applied))
    (hbase : Q base state) : Q (base ++ applied) (applied.foldl Change.apply state) := by
  induction applied using List.reverseRecOn with
  | nil => simpa using hbase
  | append_singleton earlier change ih =>
    rw [← List.append_assoc] at htrail ⊢
    have hearlier := htrail.of_front (List.prefix_append _ _)
    rw [List.foldl_append]
    exact hstable.replay hearlier (ih hearlier) htrail.last

end Backing

/-! ### A running call -/

/-- A crash during a sequence of file operations hits the first or the second part. -/
theorem Directory.CrashImage.append_cases {dir dir' : Directory} {first second : List DiskOp}
    (h : dir.CrashImage (first ++ second) dir') :
    dir.CrashImage first dir' ∨ (dir.performAll first).CrashImage second dir' := by
  rcases h with rfl | ⟨done, op, rest, hsplit, hcut⟩
  · right
    left
    exact List.foldl_append
  · rcases List.append_eq_append_iff.mp hsplit with ⟨middle, rfl, hsecond⟩ | ⟨middle, hfirst, hop⟩
    · right
      right
      refine ⟨middle, op, rest, hsecond, ?_⟩
      rwa [Directory.performAll, List.foldl_append] at hcut
    · cases middle with
      | nil =>
        right
        right
        refine ⟨[], op, rest, hop.symm, ?_⟩
        rw [List.append_nil] at hfirst
        rw [hfirst]
        exact hcut
      | cons head tail =>
        obtain ⟨rfl, rfl⟩ := List.cons.inj hop
        left
        right
        exact ⟨done, op, tail, hfirst, hcut⟩

/-- A call that started at the history `first` has made `history` durable. Wherever the
process dies, the directory holds a history in between. -/
structure Anchored (config : FabricConfig) (allowed : Fabric → Fabric.Op → Prop) (Q : Invariant)
    (start : Directory) (first history : List Change) (fabric : Fabric) : Prop where
  configured : fabric.config = config
  trail : Trail config allowed Q history
  extends_first : first <+: history
  disk : fabric.disk = start.performAll fabric.log
  linked : ∀ store, fabric.store = some store → Linked config Q store fabric.disk history
  crash : fabric.store ≠ none → ∀ dir, start.CrashImage fabric.log dir →
    ∃ kept, first <+: kept ∧ kept <+: history ∧ Holds config Q dir kept

/-- The memory keeps up with what was made durable. -/
structure Tracked (config : FabricConfig) (allowed : Fabric → Fabric.Op → Prop) (Q : Invariant)
    (start : Directory) (first history : List Change) (fabric : Fabric) : Prop
    extends Anchored config allowed Q start first history fabric where
  memory : Q history fabric.state

section Tracked

variable {config : FabricConfig} {allowed : Fabric → Fabric.Op → Prop} {Q : Invariant}
  {start : Directory} {first history : List Change} {fabric fabric' durable : Fabric}

theorem Anchored.sameRuntime (h : Anchored config allowed Q start first history fabric)
    (hsame : fabric.SameRuntime fabric') :
    Anchored config allowed Q start first history fabric' where
  configured := hsame.config.trans h.configured
  trail := h.trail
  extends_first := h.extends_first
  disk := by rw [hsame.disk, hsame.log, h.disk]
  linked := by
    rw [hsame.store, hsame.disk]
    exact h.linked
  crash := by
    rw [hsame.store, hsame.log]
    exact h.crash

theorem Tracked.keeps (h : Tracked config allowed Q start first history fabric)
    (hstable : Stable config allowed Q) (hkeeps : fabric.Keeps fabric') :
    Tracked config allowed Q start first history fabric' :=
  ⟨h.toAnchored.sameRuntime hkeeps.toSameRuntime,
    hstable.keeps h.memory (h.configured ▸ hkeeps.state)⟩

/-- A durable change extends the history; a crash on the way leaves it in or out. -/
theorem Anchored.persist {change : Change}
    (h : Anchored config allowed Q start first history fabric)
    (hwarrant : Warrant config allowed Q history change)
    (hpersist : fabric.persist [change.record] = (.ok, durable)) :
    Anchored config allowed Q start first (history ++ [change]) durable := by
  have hfront : history <+: history ++ [change] := List.prefix_append _ _
  unfold Fabric.persist at hpersist
  split at hpersist
  · rename_i hstore
    cases hpersist
    refine ⟨h.configured, h.trail.snoc hwarrant, h.extends_first.trans hfront, h.disk,
      fun store hsome => ?_, fun hsome => absurd hstore hsome⟩
    rw [hsome] at hstore
    cases hstore
  · rename_i store hstore
    split at hpersist
    rename_i code store' ops hcommit
    by_cases hcode : code = .ok
    · subst hcode
      simp only [ne_eq, not_true_eq_false, if_false] at hpersist
      cases hpersist
      have hlinked := h.linked store hstore
      refine ⟨h.configured, h.trail.snoc hwarrant, h.extends_first.trans hfront, ?_, ?_, ?_⟩
      · dsimp only [Fabric.perform, Fabric.bump]
        rw [h.disk, Directory.performAll, Directory.performAll, Directory.performAll,
          List.foldl_append]
      · intro found hfound
        cases hfound
        exact hlinked.commit hcommit
      · intro _ dir hcrash
        rcases hcrash.append_cases with hbefore | hduring
        · obtain ⟨kept, hkept, hle, hholds⟩ := h.crash (by rw [hstore]; simp) dir hbefore
          exact ⟨kept, hkept, hle.trans hfront, hholds⟩
        · rw [← h.disk] at hduring
          rcases hlinked.crash_commit hcommit hduring with hholds | hholds
          · exact ⟨history, h.extends_first, hfront, hholds⟩
          · exact ⟨_, h.extends_first.trans hfront, List.prefix_refl _, hholds⟩
    · simp only [ne_eq, hcode, not_false_eq_true, if_true] at hpersist
      cases hpersist
      exact absurd rfl hcode

theorem Tracked.rotate {code : Reason} (h : Tracked config allowed Q start first history fabric)
    (hstable : Stable config allowed Q) (hrotate : fabric.rotateIfDue = (code, fabric')) :
    Tracked config allowed Q start first history fabric' := by
  refine ⟨?_, ?_⟩
  swap
  · obtain ⟨-, -, hkeeps⟩ := Fabric.rotateIfDue_keeps hrotate
    exact hstable.keeps h.memory (h.configured ▸ hkeeps)
  unfold Fabric.rotateIfDue at hrotate
  split at hrotate
  · cases hrotate
    exact h.toAnchored
  split at hrotate
  swap
  · cases hrotate
    exact h.toAnchored
  unfold Fabric.maybeCompact at hrotate
  split at hrotate
  · cases hrotate
    exact h.toAnchored
  rename_i store hstore
  split at hrotate
  · cases hrotate
    exact h.toAnchored
  rename_i buffer hrun
  split at hrotate
  rename_i reason store' ops hcompact
  dsimp only at hrotate
  by_cases hreason : reason = .ok
  · subst hreason
    rw [if_pos rfl] at hrotate
    cases hrotate
    obtain ⟨hkeyed, hrestored⟩ := hstable.snapshot h.trail h.memory
    obtain ⟨hlinked, hcrashed⟩ :=
      (h.linked store hstore).compact hkeyed hrestored hrun hcompact
    refine ⟨h.configured, h.trail, h.extends_first, ?_, ?_, ?_⟩
    · dsimp only [Fabric.perform, Fabric.bump]
      rw [h.disk, Directory.performAll, Directory.performAll, Directory.performAll,
        List.foldl_append]
    · intro found hfound
      cases hfound
      exact hlinked
    · intro _ dir hcrash
      rcases hcrash.append_cases with hbefore | hduring
      · exact h.crash (by rw [hstore]; simp) dir hbefore
      · rw [← h.disk] at hduring
        exact ⟨history, h.extends_first, List.prefix_refl _, hcrashed dir hduring⟩
  · rw [if_neg hreason] at hrotate
    obtain ⟨rfl, rfl⟩ := Store.compact_refused hreason hcompact
    cases hrotate
    exact h.toAnchored.sameRuntime ⟨rfl, rfl, hstore.symm, rfl, List.append_nil _⟩

/-- The warrants of a sequence of commits, each under the history so far. -/
def Warranted (config : FabricConfig) (allowed : Fabric → Fabric.Op → Prop) (Q : Invariant)
    (history : List Change) (commits : List Commit) : Prop :=
  ∀ earlier commit, earlier ++ [commit] <+: commits →
    Q (history ++ earlier.map Commit.change) commit.before →
    Warrant config allowed Q (history ++ earlier.map Commit.change) commit.change ∧
      Q (history ++ earlier.map Commit.change ++ [commit.change]) commit.after

/-- The run lemma of one call: its moves keep the memory, the directory and the history
in step. -/
theorem Fabric.Evolves.tracked {commits : List Commit} (hstable : Stable config allowed Q)
    (hevolves : fabric.Evolves commits fabric')
    (h : Tracked config allowed Q start first history fabric)
    (hwarranted : Warranted config allowed Q history commits) :
    Tracked config allowed Q start first (history ++ commits.map Commit.change) fabric' := by
  induction hevolves generalizing history with
  | keeps hkeeps =>
    rw [List.map_nil, List.append_nil]
    exact h.keeps hstable hkeeps
  | @commit fabric durable fabric' change hopened hpersist hsame =>
    obtain ⟨-, -, hkeeps⟩ := Fabric.persist_ok hpersist
    have hbefore : Q history durable.state := hstable.keeps h.memory (h.configured ▸ hkeeps)
    obtain ⟨hwarrant, hafter⟩ := hwarranted [] _ (List.prefix_refl _) (by simpa using hbefore)
    simp only [List.map_nil, List.append_nil] at hwarrant hafter
    exact ⟨(h.toAnchored.persist hwarrant hpersist).sameRuntime hsame, hafter⟩
  | rotate hopened hrotate =>
    rw [List.map_nil, List.append_nil]
    exact h.rotate hstable hrotate
  | @trans fabric middle fabric' commits commits' _ _ ih ih' =>
    rw [List.map_append, ← List.append_assoc]
    refine ih' (ih h fun earlier commit hfront =>
      hwarranted earlier commit (hfront.trans (List.prefix_append _ _))) ?_
    intro earlier commit hfront hbefore
    have hwhole : (commits ++ earlier) ++ [commit] <+: commits ++ commits' := by
      rw [List.append_assoc]
      exact (List.prefix_append_right_inj commits).mpr hfront
    have := hwarranted (commits ++ earlier) commit hwhole
    rw [List.map_append, ← List.append_assoc] at this
    exact this hbefore

/-- The memory a commit is made in is the one its check found, up to bookkeeping. -/
theorem Fabric.Caused.before_keeps {op : Fabric.Op} {commit : Commit}
    (h : fabric.Caused op commit) : State.Keeps fabric.config fabric.state commit.before := by
  cases h with
  | ingested _ _ hwrites => exact hwrites.before
  | moved _ _ _ hmoves =>
    cases hmoves with
    | intro hprior _ hbefore _ _ _ _ => exact hprior.state.trans (hprior.config ▸ hbefore)
  | denied _ _ _ hwrites => exact hwrites.before
  | confirmed _ _ _ hwrites => exact hwrites.before
  | acknowledged _ _ hwrites => exact hwrites.before
  | reported _ _ _ _ hwrites => exact hwrites.before

theorem eq_of_prefix_singleton {α : Type} {earlier : List α} {last only : α}
    (h : earlier ++ [last] <+: [only]) : earlier = [] ∧ last = only := by
  cases earlier with
  | nil => exact ⟨rfl, (List.cons_prefix_cons.mp h).1⟩
  | cons head tail =>
    have hlength := h.length_le
    simp at hlength

theorem Fabric.Performs.warranted {op : Fabric.Op} {commits : List Commit}
    (hstable : Stable config allowed Q) (h : fabric.Performs op commits)
    (hallowed : allowed fabric op) (hconfig : fabric.config = config) (hopened : fabric.opened)
    (hmemory : Q history fabric.state) : Warranted config allowed Q history commits := by
  have hone {commit : Commit} (hcaused : fabric.Caused op commit) :
      Warrant config allowed Q history commit.change ∧
        Q (history ++ [commit.change]) commit.after := by
    have hbefore := hstable.keeps hmemory (hconfig ▸ hcaused.before_keeps)
    exact ⟨.made hallowed hconfig (.direct op) hopened hmemory hcaused hbefore,
      hstable.commit hallowed hconfig (.direct op) hopened hmemory hcaused hbefore⟩
  intro earlier commit hfront hbefore
  cases h with
  | nothing => simp at hfront
  | once hcaused =>
    obtain ⟨rfl, rfl⟩ := eq_of_prefix_singleton hfront
    simpa using hone hcaused
  | @twice resolution leading second middle hop hconfirm hcaused hmiddleConfig hmiddleOpened
      hmiddle hsecond =>
    subst hop
    cases earlier with
    | nil =>
      obtain ⟨rfl, -⟩ := List.cons_prefix_cons.mp hfront
      simpa using hone hcaused
    | cons head tail =>
      obtain ⟨rfl, htail⟩ := List.cons_prefix_cons.mp hfront
      obtain ⟨rfl, rfl⟩ := eq_of_prefix_singleton htail
      have hacts : fabric.Acts (.resolveAmbiguity resolution) middle
          (.requestFailover (Fabric.resolutionRequest resolution)) :=
        .confirmed hconfirm hcaused hmiddleConfig hmiddleOpened hmiddle
      have hactor : Q (history ++ [head.change]) middle.state := by
        rw [hmiddle]
        exact (hone hcaused).2
      rw [List.map_singleton] at hbefore ⊢
      exact ⟨.made hallowed hconfig hacts hmiddleOpened hactor hsecond hbefore,
        hstable.commit hallowed hconfig hacts hmiddleOpened hactor hsecond hbefore⟩

/-- A closed runtime makes no commit. -/
theorem Fabric.Evolves.closed {commits : List Commit} (h : fabric.Evolves commits fabric')
    (hclosed : fabric.opened = false) : commits = [] ∧ fabric.Keeps fabric' := by
  induction h with
  | keeps hkeeps => exact ⟨rfl, hkeeps⟩
  | commit hopened =>
    rw [hclosed] at hopened
    cases hopened
  | rotate hopened =>
    rw [hclosed] at hopened
    cases hopened
  | trans _ _ ih ih' =>
    obtain ⟨rfl, hkeeps⟩ := ih hclosed
    obtain ⟨rfl, hkeeps'⟩ := ih' (hkeeps.opened.trans hclosed)
    exact ⟨rfl, hkeeps.trans hkeeps'⟩

end Tracked

end OffloadFabric
