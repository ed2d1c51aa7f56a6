import OffloadFabric.Tracking

/-!
Runs of a coordinator and their histories. At every point of a run the directory holds the
history of what was made durable, an open memory is related to that whole history, and a
closed one to some history that agrees with it as far as both go.
-/
namespace OffloadFabric

namespace Fabric

/-- The operation that an event is about. -/
def Event.op : Event → Op
  | .call op _ => op
  | .crash op => op

/-- What a call adds to the history when it returns. -/
inductive Adds (fabric : Fabric) : Op → List Change → Prop where
  | opensQuietly : Adds fabric .openFabric []
  | opensAgain {old : State} : fabric.Rereads old →
      Adds fabric .openFabric [.epochAdvanced (advance old.epoch) (advance old.boot)]
  | closes : Adds fabric .closeFabric []
  | performs {op : Op} {commits : List Commit} :
      op ≠ .openFabric → op ≠ .closeFabric →
      fabric.entered.Evolves commits (fabric.call op).2 → fabric.entered.Performs op commits →
      fabric.entered.Answers op commits → (commits ≠ [] → fabric.opened) →
      Adds fabric op (commits.map Commit.change)

end Fabric

section Chronicled

variable {config : FabricConfig} {allowed : Fabric → Fabric.Op → Prop} {Q : Invariant}
  {history memory : List Change} {fabric fabric' : Fabric}

/-- Whenever an open of this process reads its store, it can apply every record. -/
def Fabric.ReplaysAll (fabric : Fabric) : Prop :=
  ∀ found base, Store.open (storeOptions fabric.config) fabric.disk = .ok found →
    loadBase fabric.config found.snapshot = .ok base →
    (replay fabric.config base found.records).2 = true

/-- An open of an empty directory finds nothing to replay. -/
theorem Fabric.found_empty {found : Store.Opened} (hdisk : fabric.disk = {})
    (hopen : Store.open (storeOptions fabric.config) fabric.disk = .ok found) :
    found.records = [] ∧ ∀ base, loadBase fabric.config found.snapshot = .ok base →
      base = initialState fabric.config := by
  rw [hdisk] at hopen
  have hholds : Holds fabric.config (fun _ state => state = initialState fabric.config) {} [] :=
    .empty rfl
  obtain ⟨⟨first, changes, hsplit, hrecords, hbase⟩, -⟩ := hholds.open hopen
  obtain ⟨-, rfl⟩ := List.append_eq_nil_iff.mp hsplit.symm
  exact ⟨hrecords, hbase⟩

theorem Fabric.replaysAll_empty (hdisk : fabric.disk = {}) : fabric.ReplaysAll := by
  intro found base hopen _
  obtain ⟨hrecords, -⟩ := found_empty hdisk hopen
  rw [hrecords]
  rfl

/-- No open that is allowed stops in the middle of a replay. -/
def Thorough (config : FabricConfig) (allowed : Fabric → Fabric.Op → Prop) : Prop :=
  ∀ fabric, fabric.config = config → allowed fabric .openFabric → fabric.ReplaysAll

/-- What is remembered is nothing, or everything the directory holds; only an open that
stopped in the middle remembers a first part. -/
def Agrees (config : FabricConfig) (allowed : Fabric → Fabric.Op → Prop)
    (history memory : List Change) : Prop :=
  (memory = [] ∨ history <+: memory) ∨ ¬Thorough config allowed ∧ memory <+: history

/-- The history that the directory holds, and the history of what the process remembers. -/
structure Chronicled (config : FabricConfig) (allowed : Fabric → Fabric.Op → Prop)
    (Q : Invariant) (history memory : List Change) (fabric : Fabric) : Prop where
  configured : fabric.config = config
  trail : Trail config allowed Q history
  memoryTrail : Trail config allowed Q memory
  remembered : (memory = [] ∧ State.Keeps config {} fabric.state) ∨ Q memory fabric.state
  agree : Agrees config allowed history memory
  holds : config.storeDirectory = true → Holds config Q fabric.disk history
  running : fabric.opened = true → memory = history ∧ Q history fabric.state
  linked : fabric.opened = true → ∀ store, fabric.store = some store →
    Linked config Q store fabric.disk history
  attached : fabric.opened = true → config.storeDirectory = true → fabric.store ≠ none
  storeless : config.storeDirectory = false → fabric.store = none

/-- A closed process only has to remember something that agrees with the directory. -/
theorem Chronicled.of_closed (hconfigured : fabric.config = config)
    (htrail : Trail config allowed Q history) (hmemoryTrail : Trail config allowed Q memory)
    (hremembered : (memory = [] ∧ State.Keeps config {} fabric.state) ∨ Q memory fabric.state)
    (hagree : Agrees config allowed history memory)
    (hholds : config.storeDirectory = true → Holds config Q fabric.disk history)
    (hclosed : fabric.opened = false)
    (hstoreless : config.storeDirectory = false → fabric.store = none) :
    Chronicled config allowed Q history memory fabric where
  configured := hconfigured
  trail := htrail
  memoryTrail := hmemoryTrail
  remembered := hremembered
  agree := hagree
  holds := hholds
  running hopened := absurd hopened (by simp [hclosed])
  linked hopened := absurd hopened (by simp [hclosed])
  attached hopened := absurd hopened (by simp [hclosed])
  storeless := hstoreless

/-- A new process on a directory that holds a history. -/
theorem Chronicled.created {dir : Directory} (htrail : Trail config allowed Q history)
    (hholds : config.storeDirectory = true → Holds config Q dir history) :
    Chronicled config allowed Q history [] (Fabric.create config dir) :=
  .of_closed rfl htrail Trail.nil (Or.inl ⟨rfl, State.Keeps.refl _ _⟩) (Or.inl (Or.inl rfl))
    hholds rfl fun _ => rfl

theorem Chronicled.start (hstable : Stable config allowed Q) :
    Chronicled config allowed Q [] [] (Fabric.create config {}) :=
  .created Trail.nil fun _ => Holds.empty hstable.initial

/-! ### Calls between opening and closing -/

/-- Persisting replaces the store, but never lets it go. -/
theorem Fabric.store_persist {records : List Record} {code : Reason}
    (h : fabric.persist records = (code, fabric')) :
    fabric'.store = none ↔ fabric.store = none := by
  unfold Fabric.persist at h
  split at h
  · cases h
    exact Iff.rfl
  · rename_i store hstore
    split at h
    dsimp only at h
    split at h <;> cases h <;> simp [Fabric.perform, Fabric.bump, hstore]

theorem Fabric.store_rotateIfDue {code : Reason} (h : fabric.rotateIfDue = (code, fabric')) :
    fabric'.store = none ↔ fabric.store = none := by
  unfold Fabric.rotateIfDue at h
  split at h
  · cases h
    exact Iff.rfl
  split at h
  swap
  · cases h
    exact Iff.rfl
  unfold Fabric.maybeCompact at h
  split at h
  · cases h
    exact Iff.rfl
  rename_i store hstore
  split at h
  · cases h
    exact Iff.rfl
  split at h
  dsimp only at h
  cases h
  split <;> simp [Fabric.perform, Fabric.bump, hstore]

theorem Fabric.store_transact {change : Change} {update : State → State}
    {progress : Fabric.Progress} (h : fabric.transact change update = (progress, fabric')) :
    fabric'.store = none ↔ fabric.store = none := by
  unfold Fabric.transact at h
  rcases hpersist : fabric.persist [change.record] with ⟨code, durable⟩
  have hdurable := Fabric.store_persist hpersist
  rw [hpersist] at h
  dsimp only at h
  split at h
  · cases h
    exact hdurable
  rcases hrotate : Fabric.rotateIfDue { durable with state := update durable.state } with
    ⟨rotated, fabric₁⟩
  rw [hrotate] at h
  dsimp only at h
  split at h <;>
  · cases h
    exact (Fabric.store_rotateIfDue hrotate).trans hdurable

theorem Fabric.Evolves.runtime {commits : List Commit} (h : fabric.Evolves commits fabric') :
    fabric'.opened = fabric.opened ∧ (fabric'.store = none ↔ fabric.store = none) := by
  induction h with
  | keeps hkeeps => exact ⟨hkeeps.opened, by rw [hkeeps.store]⟩
  | commit hopened hpersist hsame =>
    refine ⟨hsame.opened.trans (persist_ok hpersist).2.1, ?_⟩
    rw [hsame.store]
    exact Fabric.store_persist hpersist
  | rotate hopened hrotate =>
    exact ⟨(rotateIfDue_keeps hrotate).2.1, Fabric.store_rotateIfDue hrotate⟩
  | trans _ _ ih ih' => exact ⟨ih'.1.trans ih.1, ih'.2.trans ih.2⟩

theorem Chronicled.entered (h : Chronicled config allowed Q history memory fabric) :
    Chronicled config allowed Q history memory fabric.entered :=
  ⟨h.configured, h.trail, h.memoryTrail, h.remembered, h.agree, h.holds, h.running, h.linked,
    h.attached, h.storeless⟩

/-- A call that starts on an open runtime is tracked from its first file operation on. -/
theorem Chronicled.tracked (h : Chronicled config allowed Q history memory fabric)
    (hopened : fabric.opened = true) :
    Tracked config allowed Q fabric.disk history history fabric.entered := by
  refine ⟨⟨h.configured, h.trail, List.prefix_refl _, rfl, h.linked hopened, ?_⟩,
    (h.running hopened).2⟩
  intro hsome dir hcrash
  obtain ⟨store, hstore⟩ := Option.ne_none_iff_exists'.mp hsome
  rw [crashImage_nil hcrash]
  exact ⟨history, List.prefix_refl _, List.prefix_refl _, (h.linked hopened store hstore).holds⟩

/-- An open runtime that was tracked through a call is where its history says. -/
theorem Tracked.chronicled {start : Directory} {first : List Change}
    (h : Tracked config allowed Q start first history fabric)
    (hattached : config.storeDirectory = true → fabric.store ≠ none)
    (hstoreless : config.storeDirectory = false → fabric.store = none) :
    Chronicled config allowed Q history history fabric where
  configured := h.configured
  trail := h.trail
  memoryTrail := h.trail
  remembered := Or.inr h.memory
  agree := Or.inl (Or.inr (List.prefix_refl _))
  holds hstore := by
    obtain ⟨store, hsome⟩ := Option.ne_none_iff_exists'.mp (hattached hstore)
    exact (h.linked store hsome).holds
  running _ := ⟨rfl, h.memory⟩
  linked _ := h.linked
  attached _ := hattached
  storeless := hstoreless

/-- The step lemma of a call that neither opens nor closes. -/
theorem Chronicled.call {op : Fabric.Op} {commits : List Commit}
    (h : Chronicled config allowed Q history memory fabric) (hstable : Stable config allowed Q)
    (hallowed : allowed fabric.entered op)
    (hevolves : fabric.entered.Evolves commits (fabric.call op).2)
    (hperforms : fabric.entered.Performs op commits) :
    (commits ≠ [] → fabric.opened = true) ∧
      Chronicled config allowed Q (history ++ commits.map Commit.change)
        (memory ++ commits.map Commit.change) (fabric.call op).2 ∧
      ∀ dir, fabric.disk.CrashImage (fabric.call op).2.log dir →
        ∃ kept, kept <+: commits.map Commit.change ∧
          Chronicled config allowed Q
            (if config.storeDirectory then history ++ kept else []) []
              (Fabric.create config dir) := by
  obtain ⟨hopenedSame, hstoreSame⟩ := hevolves.runtime
  by_cases hopened : fabric.opened = true
  · have hmemory := (h.running hopened).1
    have htracked := hevolves.tracked hstable (h.tracked hopened)
      (hperforms.warranted hstable hallowed h.configured hopened (h.running hopened).2)
    refine ⟨fun _ => hopened, ?_, fun dir hcrash => ?_⟩
    · rw [hmemory]
      exact htracked.chronicled
        (fun hstore hnone => h.attached hopened hstore (hstoreSame.mp hnone))
        (fun hstore => hstoreSame.mpr (h.storeless hstore))
    · by_cases hstore : config.storeDirectory = true
      · have hsome : (fabric.call op).2.store ≠ none := fun hnone =>
          h.attached hopened hstore (hstoreSame.mp hnone)
        obtain ⟨kept, ⟨added, rfl⟩, hle, hholds⟩ := htracked.crash hsome dir hcrash
        refine ⟨added, (List.prefix_append_right_inj history).mp hle, ?_⟩
        rw [if_pos hstore]
        exact .created (htracked.trail.of_front hle) fun _ => hholds
      · refine ⟨[], List.nil_prefix, ?_⟩
        rw [if_neg hstore]
        exact .created Trail.nil fun hstore' => absurd hstore' hstore
  · have hclosed : fabric.opened = false := by simpa using hopened
    obtain ⟨rfl, hkeeps⟩ := hevolves.closed hclosed
    have hlog : (fabric.call op).2.log = [] := hkeeps.log
    have hkept : State.Keeps config fabric.state (fabric.call op).2.state :=
      h.configured ▸ hkeeps.state
    simp only [List.map_nil, List.append_nil]
    refine ⟨fun hnonempty => absurd rfl hnonempty, ?_, fun dir hcrash => ⟨[], List.nil_prefix, ?_⟩⟩
    · refine .of_closed (hkeeps.config.trans h.configured) h.trail h.memoryTrail ?_ h.agree ?_
        (hkeeps.opened.trans hclosed) fun hstore => hkeeps.store.trans (h.storeless hstore)
      · rcases h.remembered with ⟨hnil, hblank⟩ | hmemory
        · exact Or.inl ⟨hnil, hblank.trans hkept⟩
        · exact Or.inr (hstable.keeps hmemory hkept)
      · rw [hkeeps.disk]
        exact h.holds
    · rw [hlog] at hcrash
      rw [crashImage_nil hcrash]
      by_cases hstore : config.storeDirectory = true
      · rw [if_pos hstore, List.append_nil]
        exact .created h.trail h.holds
      · rw [if_neg hstore]
        exact .created Trail.nil fun hstore' => absurd hstore' hstore

/-! ### Closing and opening -/

theorem Chronicled.close (h : Chronicled config allowed Q history memory fabric) :
    Chronicled config allowed Q history memory (fabric.call .closeFabric).2 ∧
      (fabric.call .closeFabric).2.log = [] := by
  have hcall : (fabric.call .closeFabric).2 = fabric.entered.close.2 := rfl
  rw [hcall]
  unfold Fabric.close
  split
  · exact ⟨h.entered, rfl⟩
  · exact ⟨.of_closed h.configured h.trail h.memoryTrail h.remembered h.agree h.holds rfl
      fun _ => rfl, rfl⟩

theorem Anchored.holds {start : Directory} {first : List Change}
    (h : Anchored config allowed Q start first history fabric) (hsome : fabric.store ≠ none) :
    Holds config Q fabric.disk history := by
  obtain ⟨store, hstore⟩ := Option.ne_none_iff_exists'.mp hsome
  exact (h.linked store hstore).holds

/-- A process that took over a store but is not open remembers some part of the history. -/
theorem Anchored.chronicled {start : Directory} {first : List Change}
    (h : Anchored config allowed Q start first history fabric) (hsome : fabric.store ≠ none)
    (hstore : config.storeDirectory = true) (hclosed : fabric.opened = false)
    (hmemoryTrail : Trail config allowed Q memory) (hmemory : Q memory fabric.state)
    (hagree : Agrees config allowed history memory) :
    Chronicled config allowed Q history memory fabric :=
  .of_closed h.configured h.trail hmemoryTrail (Or.inr hmemory) hagree (fun _ => h.holds hsome)
    hclosed fun hstoreless => by simp [hstore] at hstoreless

/-- The record of a new epoch is refused, or it becomes part of the history. -/
theorem Anchored.advanceEpoch {start : Directory} {change : Change} {progress : Fabric.Progress}
    (h : Anchored config allowed Q start history history fabric)
    (hstable : Stable config allowed Q) (hsome : fabric.store ≠ none)
    (hwarrant : Warrant config allowed Q history change)
    (hmemory : Q (history ++ [change]) fabric.state)
    (htransact : fabric.transact change id = (progress, fabric')) :
    ((∃ code, progress = .refused code) ∧ fabric.Keeps fabric') ∨
    (∀ code, progress ≠ .refused code) ∧ fabric'.store ≠ none ∧
      fabric'.opened = fabric.opened ∧
      Tracked config allowed Q start history (history ++ [change]) fabric' := by
  unfold Fabric.transact at htransact
  split at htransact
  rename_i code durable hpersist
  by_cases hcode : code = .ok
  · subst hcode
    obtain ⟨-, hopened, hkeeps⟩ := Fabric.persist_ok hpersist
    have hdurable : Q (history ++ [change]) durable.state :=
      hstable.keeps hmemory (h.configured ▸ hkeeps)
    have htracked : Tracked config allowed Q start history (history ++ [change])
        { durable with state := id durable.state } :=
      ⟨h.persist hwarrant hpersist, hdurable⟩
    have hkept : durable.store ≠ none := mt (Fabric.store_persist hpersist).mp hsome
    simp only [ne_eq, not_true_eq_false, if_false] at htransact
    rcases hrotate : Fabric.rotateIfDue { durable with state := id durable.state } with
      ⟨rotated, fabric₁⟩
    simp only [hrotate] at htransact
    have hend := htracked.rotate hstable hrotate
    have hstore₁ : fabric₁.store ≠ none := mt (Fabric.store_rotateIfDue hrotate).mp hkept
    have hopened₁ : fabric₁.opened = fabric.opened :=
      (Fabric.rotateIfDue_keeps hrotate).2.1.trans hopened
    right
    split at htransact <;>
    · cases htransact
      exact ⟨fun _ hrefused => by (cases hrefused), hstore₁, hopened₁, hend⟩
  · simp only [ne_eq, hcode, not_false_eq_true, if_true] at htransact
    cases htransact
    exact Or.inl ⟨⟨code, rfl⟩, Fabric.persist_refused hcode hpersist⟩

/-- What the recovery of a store leaves, with or without the advance of the epoch. -/
theorem Anchored.recover {start : Directory} {found : Store.Opened} (caller : Fabric)
    (hcaller : caller.config = config) (hshut : caller.opened = false)
    (hallowed : allowed caller.entered .openFabric)
    (hopen : Store.open (Fabric.storeOptions config) caller.disk = .ok found)
    (h : Anchored config allowed Q start history history fabric)
    (hstable : Stable config allowed Q) (hstore : config.storeDirectory = true)
    (hsome : fabric.store ≠ none) (hclosed : fabric.opened = false)
    (hstate : Q [] fabric.state)
    (hparts : ∃ base changes, history = base ++ changes ∧
      found.records = changes.map Change.record ∧
      ∀ state, loadBase config found.snapshot = .ok state → Q base state)
    (hreplays : Thorough config allowed → ∀ base, loadBase config found.snapshot = .ok base →
      (replay config base found.records).2 = true) :
    ∃ added memory, caller.Adds .openFabric added ∧
      Chronicled config allowed Q (history ++ added) memory (fabric.recover found).2 ∧
      Anchored config allowed Q start history (history ++ added) (fabric.recover found).2 ∧
      (fabric.recover found).2.store ≠ none := by
  have hconfigured := h.configured
  subst hconfigured
  obtain ⟨base, changes, hsplit, hrecords, hbase⟩ := hparts
  -- Leaving with nothing added to the history.
  have hquiet {fabric₁ : Fabric} {memory : List Change} (hsame : fabric.SameRuntime fabric₁)
      (hmemoryTrail : Trail fabric.config allowed Q memory) (hmemory : Q memory fabric₁.state)
      (hagree : Agrees fabric.config allowed history memory) :
      ∃ added memory, caller.Adds .openFabric added ∧
        Chronicled fabric.config allowed Q (history ++ added) memory fabric₁ ∧
        Anchored fabric.config allowed Q start history (history ++ added) fabric₁ ∧
        fabric₁.store ≠ none := by
    have hanchored := h.sameRuntime hsame
    have hsome' : fabric₁.store ≠ none := by
      rw [hsame.store]
      exact hsome
    refine ⟨[], memory, .opensQuietly, ?_, ?_, hsome'⟩ <;> rw [List.append_nil]
    · exact hanchored.chronicled hsome' hstore (hsame.opened.trans hclosed) hmemoryTrail hmemory
        hagree
    · exact hanchored
  have hstoreless {store : Option Store} : fabric.config.storeDirectory = false → store = none :=
    fun hstoreless => by simp [hstore] at hstoreless
  unfold Fabric.recover
  rw [hrecords]
  cases hload : loadBase fabric.config found.snapshot with
  | error code => exact hquiet (.refl fabric) Trail.nil hstate (Or.inl (Or.inl rfl))
  | ok loaded =>
    dsimp only
    rcases hreplay : replay fabric.config loaded (changes.map Change.record) with
      ⟨state, complete⟩
    obtain ⟨applied, rest, hchanges, hreplayed, hrest⟩ := replay_changes hreplay
    have hfront : base ++ applied <+: history := by
      rw [hsplit, hchanges, ← List.append_assoc]
      exact List.prefix_append _ _
    have happlied : Q (base ++ applied) state :=
      hreplayed ▸ hstable.replayAll (h.trail.of_front hfront) (hbase loaded hload)
    dsimp only
    cases complete with
    | false =>
      simp only [Bool.not_false, if_true]
      exact hquiet (by exact ⟨rfl, rfl, rfl, rfl, rfl⟩) (h.trail.of_front hfront) happlied
        (Or.inr ⟨fun hthorough => by
          simpa [hrecords, hreplay] using hreplays hthorough loaded hload, hfront⟩)
    | true =>
      obtain rfl : history = base ++ applied := by
        rw [hsplit, hchanges, hrest rfl, List.append_nil]
      simp only [Bool.not_true, Bool.false_eq_true, if_false]
      split
      · exact hquiet (by exact ⟨rfl, rfl, rfl, rfl, rfl⟩) h.trail happlied
          (Or.inl (Or.inr (List.prefix_refl _)))
      split
      · -- Nothing was recovered, so nothing is downgraded.
        have htracked : Tracked fabric.config allowed Q start (base ++ applied) (base ++ applied)
            { fabric with state, opened := true } :=
          ⟨⟨rfl, h.trail, h.extends_first, h.disk, h.linked, h.crash⟩, happlied⟩
        refine ⟨[], base ++ applied, .opensQuietly, ?_, ?_, hsome⟩ <;> rw [List.append_nil]
        · exact htracked.chronicled (fun _ => hsome) hstoreless
        · exact htracked.toAnchored
      · -- The epoch and the boot advance, and every claim is downgraded.
        have hrereads : caller.Rereads state := by
          refine ⟨found, loaded, ?_, ?_, ?_⟩ <;> rw [hcaller]
          · exact hopen
          · exact hload
          · rw [hrecords]
            exact hreplay
        have hread : ReadBack fabric.config allowed state :=
          ⟨caller.entered, hcaller, hshut, hallowed, hrereads⟩
        have hwarrant : Warrant fabric.config allowed Q (base ++ applied) _ :=
          .restarted hread happlied
        have hrestarted := hstable.restart hread happlied
        have hlonger := h.trail.snoc hwarrant
        split <;> rename_i fabric₁ htransact
        all_goals
          rcases (h.sameRuntime (by exact ⟨rfl, rfl, rfl, rfl, rfl⟩)).advanceEpoch hstable
              (by exact hsome) hwarrant (by exact hrestarted) htransact with
            ⟨⟨_, hrefused⟩, hkeeps⟩ | ⟨hnot, hsome₁, hopened₁, htracked⟩
        · exact hquiet (Fabric.SameRuntime.trans (by exact ⟨rfl, rfl, rfl, rfl, rfl⟩)
            hkeeps.toSameRuntime) hlonger (hstable.keeps (by exact hrestarted) hkeeps.state)
            (Or.inl (Or.inr (List.prefix_append _ _)))
        · exact absurd rfl (hnot _)
        · cases hrefused
        · exact ⟨_, _, .opensAgain hrereads, htracked.chronicled (fun _ => hsome₁) hstoreless,
            htracked.toAnchored, hsome₁⟩
        · cases hrefused
        · have hopened : Tracked fabric.config allowed Q start (base ++ applied) _
              { fabric₁ with opened := true } :=
            ⟨⟨htracked.configured, htracked.trail, htracked.extends_first, htracked.disk,
              htracked.linked, htracked.crash⟩, htracked.memory⟩
          exact ⟨_, _, .opensAgain hrereads, hopened.chronicled (fun _ => hsome₁) hstoreless,
            hopened.toAnchored, hsome₁⟩

theorem adds_open_of_prefix {added kept : List Change} (hadds : fabric.Adds .openFabric added)
    (hkept : kept <+: added) : fabric.Adds .openFabric kept := by
  cases hadds with
  | opensQuietly =>
    obtain rfl := List.prefix_nil.mp hkept
    exact .opensQuietly
  | opensAgain hrereads =>
    rcases List.prefix_concat_iff.mp (show kept <+: [] ++ [_] from hkept) with heq | hnil
    · rw [heq]
      exact .opensAgain hrereads
    · obtain rfl := List.prefix_nil.mp hnil
      exact .opensQuietly
  | performs hopen => exact absurd rfl hopen

theorem open_error {report : RecoveryReport} (hclosed : fabric.opened = false)
    (hstore : fabric.config.storeDirectory = true)
    (hopen : Store.open (Fabric.storeOptions fabric.config) fabric.disk = .error report) :
    fabric.open.2 = { fabric.cleared with restart := { store := report } } := by
  unfold Fabric.open
  rw [hopen]
  simp [hclosed, hstore]

theorem open_found {found : Store.Opened} (hclosed : fabric.opened = false)
    (hstore : fabric.config.storeDirectory = true)
    (hopen : Store.open (Fabric.storeOptions fabric.config) fabric.disk = .ok found) :
    fabric.open = (fabric.cleared.attach found).recover found := by
  unfold Fabric.open
  rw [hopen]
  simp [hclosed, hstore]

/-- The step lemma of opening a closed process that keeps a store. -/
theorem Chronicled.openStore (h : Chronicled config allowed Q history memory fabric)
    (hstable : Stable config allowed Q) (hallowed : allowed fabric.entered .openFabric)
    (hclosed : fabric.opened = false)
    (hstore : config.storeDirectory = true) :
    (∃ added memory', fabric.Adds .openFabric added ∧
      Chronicled config allowed Q (history ++ added) memory' (fabric.call .openFabric).2) ∧
    ∀ dir, fabric.disk.CrashImage (fabric.call .openFabric).2.log dir → ∃ kept,
      fabric.Adds .openFabric kept ∧
        Chronicled config allowed Q (history ++ kept) [] (Fabric.create config dir) := by
  have hconfigured := h.configured
  subst hconfigured
  have hcall : (fabric.call .openFabric).2 = fabric.entered.open.2 := rfl
  have hholds := h.holds hstore
  rw [hcall]
  cases hopen : Store.open (Fabric.storeOptions fabric.config) fabric.disk with
  | error report =>
    rw [open_error (by exact hclosed) (by exact hstore) (by exact hopen)]
    have hleft : Chronicled fabric.config allowed Q history []
        { fabric.entered.cleared with restart := { store := report } } :=
      .of_closed rfl h.trail Trail.nil (Or.inr hstable.initial) (Or.inl (Or.inl rfl)) h.holds
        hclosed fun hstoreless => by simp [hstore] at hstoreless
    refine ⟨⟨[], [], .opensQuietly, by simpa using hleft⟩, fun dir hcrash => ?_⟩
    rw [crashImage_nil hcrash]
    exact ⟨[], .opensQuietly, by simpa using Chronicled.created h.trail h.holds⟩
  | ok found =>
    rw [open_found (by exact hclosed) (by exact hstore) (by exact hopen)]
    obtain ⟨hparts, hlinked, himages⟩ := hholds.open hopen
    have hanchored : Anchored fabric.config allowed Q fabric.disk history history
        (fabric.entered.cleared.attach found) := by
      refine ⟨rfl, h.trail, List.prefix_refl _, rfl, fun store hsome => ?_,
        fun _ dir hcrash => ?_⟩
      · obtain rfl := Option.some.inj hsome
        exact hlinked
      · exact ⟨history, List.prefix_refl _, List.prefix_refl _, himages dir hcrash⟩
    have hsome : (fabric.entered.cleared.attach found).store ≠ none := Option.some_ne_none _
    obtain ⟨added, memory', hadds, hchronicled, hanchored', hsome'⟩ :=
      hanchored.recover fabric rfl hclosed hallowed hopen hstable hstore hsome hclosed
        hstable.initial hparts
        fun hthorough base hload => hthorough fabric.entered rfl hallowed found base hopen hload
    refine ⟨⟨added, memory', hadds, hchronicled⟩, fun dir hcrash => ?_⟩
    obtain ⟨kept, ⟨front, rfl⟩, hle, hkept⟩ := hanchored'.crash hsome' dir hcrash
    refine ⟨front, adds_open_of_prefix hadds ((List.prefix_append_right_inj history).mp hle), ?_⟩
    exact .created (hanchored'.trail.of_front hle) fun _ => hkept

/-- Without a store every open starts over. -/
theorem Chronicled.openMemory (h : Chronicled config allowed Q history memory fabric)
    (hstable : Stable config allowed Q) (hclosed : fabric.opened = false)
    (hstore : config.storeDirectory = false) :
    Chronicled config allowed Q [] [] (fabric.call .openFabric).2 ∧
      (fabric.call .openFabric).2.log = [] := by
  have hconfigured := h.configured
  subst hconfigured
  have hcall : (fabric.call .openFabric).2 = { fabric.entered.cleared with opened := true } := by
    have hclosed' : fabric.entered.opened = false := hclosed
    have hstore' : fabric.entered.config.storeDirectory = false := hstore
    simp [Fabric.call, Fabric.dispatch, Fabric.replyCode, Fabric.open, hclosed', hstore']
  have hnone : fabric.store = none := h.storeless hstore
  rw [hcall]
  have htracked : Tracked fabric.config allowed Q fabric.disk [] []
      { fabric.entered.cleared with opened := true } := by
    refine ⟨⟨rfl, Trail.nil, List.prefix_refl _, rfl, fun store hsome => ?_,
      fun hsome => absurd hnone hsome⟩, hstable.initial⟩
    cases hnone.symm.trans hsome
  exact ⟨htracked.chronicled (fun hstore' => by simp [hstore] at hstore') fun _ => hnone, rfl⟩

/-! ### Steps and runs -/

/-- What an event adds to the history: all of what its call adds, or a first part of it
when the process died in the call. -/
def Fabric.Records (fabric : Fabric) : Fabric.Event → List Change → Prop
  | .call op _, added => fabric.Adds op added
  | .crash op, kept => ∃ added, fabric.Adds op added ∧ kept <+: added

/-- Whether the event leaves a process that starts over with nothing. -/
def Fabric.Forgets (config : FabricConfig) (fabric : Fabric) : Fabric.Event → Prop
  | .call op _ => config.storeDirectory = false ∧ op = .openFabric ∧ fabric.opened = false
  | .crash _ => config.storeDirectory = false

theorem Chronicled.step_call {op : Fabric.Op}
    (h : Chronicled config allowed Q history memory fabric) (hstable : Stable config allowed Q)
    (hallowed : allowed fabric.entered op) :
    ∃ history' memory', Chronicled config allowed Q history' memory' (fabric.call op).2 ∧
      ((∃ added, fabric.Adds op added ∧ history' = history ++ added) ∨
        (config.storeDirectory = false ∧ op = .openFabric ∧ fabric.opened = false) ∧
          history' = []) := by
  by_cases hopen : op = .openFabric
  · subst hopen
    by_cases hopened : fabric.opened = true
    · have hcall : (fabric.call .openFabric).2 = fabric.entered := by
        have hopened' : fabric.entered.opened = true := hopened
        simp [Fabric.call, Fabric.dispatch, Fabric.replyCode, Fabric.open, hopened']
      rw [hcall]
      exact ⟨history, memory, h.entered, Or.inl ⟨[], .opensQuietly, (List.append_nil _).symm⟩⟩
    · have hclosed : fabric.opened = false := by simpa using hopened
      by_cases hstore : config.storeDirectory = true
      · obtain ⟨⟨added, memory', hadds, hchronicled⟩, -⟩ :=
          h.openStore hstable hallowed hclosed hstore
        exact ⟨_, memory', hchronicled, Or.inl ⟨added, hadds, rfl⟩⟩
      · have hstore : config.storeDirectory = false := by simpa using hstore
        exact ⟨[], [], (h.openMemory hstable hclosed hstore).1,
          Or.inr ⟨⟨hstore, rfl, hclosed⟩, rfl⟩⟩
  by_cases hclose : op = .closeFabric
  · subst hclose
    exact ⟨history, memory, h.close.1, Or.inl ⟨[], .closes, (List.append_nil _).symm⟩⟩
  · obtain ⟨commits, hevolves, hperforms, hanswers⟩ := Fabric.dispatch_evolves hopen hclose
    obtain ⟨hopened, hchronicled, -⟩ := h.call hstable hallowed hevolves hperforms
    exact ⟨_, _, hchronicled,
      Or.inl ⟨_, .performs hopen hclose hevolves hperforms hanswers hopened, rfl⟩⟩

theorem Chronicled.step_crash {op : Fabric.Op} {dir : Directory}
    (h : Chronicled config allowed Q history memory fabric) (hstable : Stable config allowed Q)
    (hallowed : allowed fabric.entered op)
    (hcrash : fabric.disk.CrashImage (fabric.call op).2.log dir)
    (hstore : config.storeDirectory = true) :
    ∃ kept, (∃ added, fabric.Adds op added ∧ kept <+: added) ∧
      Chronicled config allowed Q (history ++ kept) [] (Fabric.create config dir) := by
  -- A call without file operations leaves the directory alone.
  have hquiet {added : List Change} (hlog : (fabric.call op).2.log = [])
      (hadds : fabric.Adds op added) :
      ∃ kept, (∃ added, fabric.Adds op added ∧ kept <+: added) ∧
        Chronicled config allowed Q (history ++ kept) [] (Fabric.create config dir) := by
    rw [hlog] at hcrash
    rw [crashImage_nil hcrash]
    refine ⟨[], ⟨added, hadds, List.nil_prefix⟩, ?_⟩
    rw [List.append_nil]
    exact .created h.trail h.holds
  by_cases hopen : op = .openFabric
  · subst hopen
    by_cases hopened : fabric.opened = true
    · refine hquiet ?_ .opensQuietly
      have hopened' : fabric.entered.opened = true := hopened
      simp only [Fabric.call, Fabric.dispatch, Fabric.replyCode, Fabric.open, hopened', if_true]
      rfl
    · have hclosed : fabric.opened = false := by simpa using hopened
      obtain ⟨kept, hadds, hchronicled⟩ :=
        (h.openStore hstable hallowed hclosed hstore).2 dir hcrash
      exact ⟨kept, ⟨kept, hadds, List.prefix_refl _⟩, hchronicled⟩
  by_cases hclose : op = .closeFabric
  · subst hclose
    exact hquiet h.close.2 .closes
  · obtain ⟨commits, hevolves, hperforms, hanswers⟩ := Fabric.dispatch_evolves hopen hclose
    obtain ⟨hopened, -, himages⟩ := h.call hstable hallowed hevolves hperforms
    obtain ⟨kept, hkept, hchronicled⟩ := himages dir hcrash
    rw [if_pos hstore] at hchronicled
    exact ⟨kept, ⟨_, .performs hopen hclose hevolves hperforms hanswers hopened, hkept⟩,
      hchronicled⟩

/-- The step lemma of a run. -/
theorem Chronicled.step {event : Fabric.Event}
    (h : Chronicled config allowed Q history memory fabric) (hstable : Stable config allowed Q)
    (hallowed : allowed fabric.entered event.op) (hstep : Fabric.Step fabric event fabric') :
    ∃ history' memory', Chronicled config allowed Q history' memory' fabric' ∧
      ((∃ added, fabric.Records event added ∧ history' = history ++ added) ∨
        fabric.Forgets config event ∧ history' = []) := by
  cases hstep with
  | call op => exact h.step_call hstable hallowed
  | crash op dir hcrash =>
    rw [h.configured]
    by_cases hstore : config.storeDirectory = true
    · obtain ⟨kept, hadds, hchronicled⟩ := h.step_crash hstable hallowed hcrash hstore
      exact ⟨_, [], hchronicled, Or.inl ⟨kept, hadds, rfl⟩⟩
    · exact ⟨[], [], .created Trail.nil fun hstore' => absurd hstore' hstore,
        Or.inr ⟨Bool.eq_false_of_not_eq_true hstore, rfl⟩⟩

/-- A run with the history that its directory holds in the end. -/
inductive Fabric.Recorded (config : FabricConfig) :
    List Fabric.Moment → List Change → Fabric → Prop where
  | start : Recorded config [] [] (create config {})
  | extended {moments : List Moment} {history added : List Change} {fabric fabric' : Fabric}
      {event : Event} : Recorded config moments history fabric → Step fabric event fabric' →
      fabric.Records event added →
      Recorded config (moments ++ [{ before := fabric, event }]) (history ++ added) fabric'
  | forgotten {moments : List Moment} {history : List Change} {fabric fabric' : Fabric}
      {event : Event} : Recorded config moments history fabric → Step fabric event fabric' →
      fabric.Forgets config event →
      Recorded config (moments ++ [{ before := fabric, event }]) [] fabric'

/-- An earlier moment of a run, with the history that was durable when it came. Unless a
process started over since, what it added is still there. -/
structure Staged (config : FabricConfig) (allowed : Fabric → Fabric.Op → Prop) (Q : Invariant)
    (history : List Change) (earlier : List Fabric.Moment) (moment : Fabric.Moment)
    (later : List Fabric.Moment) (past memory : List Change) : Prop where
  recorded : Fabric.Recorded config earlier past moment.before
  chronicled : Chronicled config allowed Q past memory moment.before
  kept : (∀ next ∈ moment :: later, ¬next.before.Forgets config next.event) →
    ∃ added, moment.before.Records moment.event added ∧ past ++ added <+: history

/-- A list with one more item splits at that item or before it. -/
theorem append_singleton_split {α : Type} {items earlier later : List α} {last item : α}
    (h : items ++ [last] = earlier ++ item :: later) :
    (items = earlier ∧ last = item ∧ later = []) ∨
      ∃ rest, later = rest ++ [last] ∧ items = earlier ++ item :: rest := by
  cases later using List.reverseRecOn with
  | nil =>
    obtain ⟨rfl, hlast⟩ := List.append_inj' h rfl
    exact Or.inl ⟨rfl, List.singleton_inj.mp hlast, rfl⟩
  | append_singleton rest next =>
    have h : items ++ [last] = (earlier ++ item :: rest) ++ [next] := by simpa using h
    obtain ⟨rfl, hlast⟩ := List.append_inj' h rfl
    exact Or.inr ⟨rest, by rw [List.singleton_inj.mp hlast], rfl⟩

/-- The run lemma: if every call of the run is allowed, the run has a history, and every
stable invariant holds of it, at its end and at every moment before. -/
theorem Fabric.Run.staged {moments : List Fabric.Moment} (hrun : Fabric.Run config moments fabric)
    (hstable : Stable config allowed Q)
    (hallowed : ∀ moment ∈ moments, allowed moment.before.entered moment.event.op) :
    ∃ history memory, Fabric.Recorded config moments history fabric ∧
      Chronicled config allowed Q history memory fabric ∧
      ∀ earlier moment later, moments = earlier ++ moment :: later →
        ∃ past memory, Staged config allowed Q history earlier moment later past memory := by
  induction hrun with
  | start => exact ⟨[], [], .start, .start hstable, fun earlier moment later h => by simp at h⟩
  | @step moments fabric fabric' event _ hstep ih =>
    obtain ⟨history, memory, hrecorded, hchronicled, hstaged⟩ :=
      ih fun moment hmoment => hallowed moment (List.mem_append_left _ hmoment)
    obtain ⟨history', memory', hchronicled', hadds⟩ :=
      hchronicled.step hstable (hallowed { before := fabric, event } (by simp)) hstep
    have hkept : ¬fabric.Forgets config event →
        ∃ added, fabric.Records event added ∧ history' = history ++ added := fun hforgets => by
      rcases hadds with hadded | ⟨hforgotten, -⟩
      · exact hadded
      · exact absurd hforgotten hforgets
    refine ⟨history', memory', ?_, hchronicled', fun earlier moment later hsplit => ?_⟩
    · rcases hadds with ⟨added, hrecords, rfl⟩ | ⟨hforgets, rfl⟩
      · exact .extended hrecorded hstep hrecords
      · exact .forgotten hrecorded hstep hforgets
    rcases append_singleton_split hsplit with ⟨rfl, rfl, rfl⟩ | ⟨rest, rfl, hearlier⟩
    · refine ⟨history, memory, hrecorded, hchronicled, fun hnone => ?_⟩
      obtain ⟨added, hrecords, rfl⟩ := hkept (hnone { before := fabric, event } (by simp))
      exact ⟨added, hrecords, List.prefix_refl _⟩
    · obtain ⟨past, memory, hpast⟩ := hstaged earlier moment rest hearlier
      refine ⟨past, memory, hpast.recorded, hpast.chronicled, fun hnone => ?_⟩
      obtain ⟨added, hrecords, hfront⟩ := hpast.kept fun next hnext => hnone next (by
        rcases List.mem_cons.mp hnext with rfl | hnext <;> simp_all)
      obtain ⟨more, -, rfl⟩ := hkept (hnone { before := fabric, event } (by simp))
      exact ⟨added, hrecords, hfront.trans (List.prefix_append _ _)⟩

/-- What a moment of the run brings about, and every later step keeps, holds at its end. -/
theorem Fabric.Run.onward {moments earlier later : List Fabric.Moment} {moment : Fabric.Moment}
    {P : List Fabric.Moment → Fabric → Prop} (h : Fabric.Run config moments fabric)
    (hsplit : moments = earlier ++ moment :: later)
    (hbase : ∀ fabric', Fabric.Run config earlier moment.before →
      Fabric.Step moment.before moment.event fabric' → P [] fabric')
    (hstep : ∀ {between fabric event fabric'},
      Fabric.Run config (earlier ++ moment :: between) fabric → Fabric.Step fabric event fabric' →
      P between fabric → P (between ++ [{ before := fabric, event }]) fabric') :
    P later fabric := by
  induction h generalizing later with
  | start => simp at hsplit
  | @step moments fabric fabric' event hrun hlast ih =>
    rcases append_singleton_split hsplit with ⟨rfl, rfl, rfl⟩ | ⟨rest, rfl, rfl⟩
    · exact hbase fabric' hrun hlast
    · exact hstep hrun hlast (ih rfl)

/-- The last moment of a run led to where it ended. -/
theorem Fabric.Run.last {moments : List Fabric.Moment} {moment : Fabric.Moment}
    (h : Fabric.Run config (moments ++ [moment]) fabric) :
    Fabric.Run config moments moment.before ∧
      Fabric.Step moment.before moment.event fabric := by
  generalize hsplit : moments ++ [moment] = all at h
  cases h with
  | start => simp at hsplit
  | step hrun hstep =>
    obtain ⟨rfl, hmoment⟩ := List.append_inj' hsplit rfl
    obtain rfl := List.singleton_inj.mp hmoment
    exact ⟨hrun, hstep⟩

/-- A run stops before each of its moments. -/
theorem Fabric.Run.front {moments earlier later : List Fabric.Moment}
    {moment : Fabric.Moment} (h : Fabric.Run config moments fabric)
    (hsplit : moments = earlier ++ moment :: later) :
    Fabric.Run config earlier moment.before ∧
      ∃ fabric', Fabric.Step moment.before moment.event fabric' := by
  induction h generalizing later with
  | start => simp at hsplit
  | @step moments fabric fabric' event hrun hstep ih =>
    rcases append_singleton_split hsplit with ⟨rfl, rfl, -⟩ | ⟨rest, -, hearlier⟩
    · exact ⟨hrun, fabric', hstep⟩
    · exact ih hearlier

theorem Fabric.Run.chronicled {moments : List Fabric.Moment}
    (hrun : Fabric.Run config moments fabric) (hstable : Stable config allowed Q)
    (hallowed : ∀ moment ∈ moments, allowed moment.before.entered moment.event.op) :
    ∃ history memory, Fabric.Recorded config moments history fabric ∧
      Chronicled config allowed Q history memory fabric := by
  obtain ⟨history, memory, hrecorded, hchronicled, -⟩ := hrun.staged hstable hallowed
  exact ⟨history, memory, hrecorded, hchronicled⟩

end Chronicled

/-! ### Runs of calls that all return -/

namespace Fabric

variable {config : FabricConfig} {moments : List Moment} {fabric : Fabric}

/-- The runtime after calls that all return. -/
def after (fabric : Fabric) (ops : List Op) : Fabric :=
  ops.foldl (fun fabric op => (fabric.call op).2) fabric

/-- The moments of such calls. -/
def momentsOf (fabric : Fabric) : List Op → List Moment
  | [] => []
  | op :: ops =>
    { before := fabric, event := .call op (fabric.call op).1 } :: momentsOf (fabric.call op).2 ops

theorem after_append (fabric : Fabric) (ops ops' : List Op) :
    fabric.after (ops ++ ops') = (fabric.after ops).after ops' :=
  List.foldl_append

theorem momentsOf_append (fabric : Fabric) (ops ops' : List Op) :
    fabric.momentsOf (ops ++ ops') = fabric.momentsOf ops ++ (fabric.after ops).momentsOf ops' := by
  induction ops generalizing fabric with
  | nil => rfl
  | cons op ops ih => simp [momentsOf, after, ih]

theorem momentsOf_split (fabric : Fabric) (ops : List Op) (op : Op) (rest : List Op) :
    fabric.momentsOf (ops ++ op :: rest) = fabric.momentsOf ops ++
      { before := fabric.after ops, event := .call op ((fabric.after ops).call op).1 } ::
        ((fabric.after ops).call op).2.momentsOf rest :=
  momentsOf_append fabric ops (op :: rest)

/-- What holds of each call, whoever makes it, holds at every moment. -/
theorem forall_momentsOf {P : Fabric → Op → Prop} {ops : List Op}
    (h : ∀ op ∈ ops, ∀ fabric, P fabric op) :
    ∀ moment ∈ fabric.momentsOf ops, P moment.before moment.event.op := by
  induction ops generalizing fabric with
  | nil => exact fun _ hmem => by cases hmem
  | cons op ops ih =>
    intro moment hmoment
    rcases List.mem_cons.mp hmoment with rfl | hmoment
    · exact h op List.mem_cons_self fabric
    · exact ih (fun next hnext => h next (List.mem_cons_of_mem _ hnext)) moment hmoment

/-- The calls are thorough when only the first one opens, an empty directory. -/
theorem thorough_momentsOf {ops : List Op} (h : ∀ op ∈ ops, op ≠ .openFabric) :
    ∀ moment ∈ (create config {}).momentsOf (.openFabric :: ops),
      moment.event.op = .openFabric → moment.before.ReplaysAll := by
  intro moment hmoment hopen
  rcases List.mem_cons.mp hmoment with rfl | hmoment
  · exact replaysAll_empty rfl
  · exact absurd hopen (forall_momentsOf (P := fun _ op => op ≠ .openFabric)
      (fun op hop _ => h op hop) moment hmoment)

theorem Run.calls (ops : List Op) (h : Run config moments fabric) :
    Run config (moments ++ fabric.momentsOf ops) (fabric.after ops) := by
  induction ops generalizing moments fabric with
  | nil => simpa [momentsOf, after] using h
  | cons op ops ih => simpa [momentsOf, after] using ih (h.step (.call fabric op))

theorem Run.of_calls (config : FabricConfig) (ops : List Op) :
    Run config ((create config {}).momentsOf ops) ((create config {}).after ops) := by
  simpa using Run.start.calls ops

end Fabric

/-! ### A small fleet

One service, its operator and the targets it moves between, to run the coordinator on. -/

namespace Fleet

open Fabric (Op)

def service : ServiceName := ⟨[115], by decide⟩
def scope : ScopeName := ⟨[122], by decide⟩
def operator : SourceName := ⟨[111], by decide⟩
def primary : TargetName := ⟨[97], by decide⟩
def secondary : TargetName := ⟨[98], by decide⟩
def tertiary : TargetName := ⟨[99], by decide⟩

/-- A target after its host was booted that often. -/
def booted (target : TargetName) (boot : UInt64) : TargetRef :=
  { target, incarnation := { host := ⟨boot⟩, device := ⟨1⟩ } }

theorem valid_host :
    ([104] : Bytes).length ≤ kMaxNameLength ∧ ([104] : Bytes).all isValidNameChar = true := by
  decide

theorem valid_device :
    ([100] : Bytes).length ≤ kMaxNameLength ∧ ([100] : Bytes).all isValidNameChar = true := by
  decide

def register (target : TargetRef) : Op :=
  .registerTarget
    { name := target.target, host := ⟨[104], valid_host⟩, device := ⟨[100], valid_device⟩, scope
      incarnation := target.incarnation } operator

def support (target : TargetRef) (generation : UInt64) : Op :=
  .ingestCapability
    { target := target.target, generation := ⟨generation⟩, topologyGeneration := ⟨1⟩
      incarnation := target.incarnation, source := operator }

/-- Adopt a target and vouch for what it can do. -/
def adopt (target : TargetName) (boot : UInt64) : List Op :=
  [register (booted target boot), support (booted target boot) boot]

def descriptor : ServiceDescriptor := { name := service, scope }

/-- Open the coordinator and register the service. -/
def opening : List Op :=
  [.openFabric, .enrollSource operator .operator, .setTopologyGeneration ⟨1⟩ operator,
   .registerService descriptor operator]

def place (key : UInt64) (target : TargetName) : Op :=
  .establishPlacement { key := ⟨key⟩, service, target, requester := operator }

/-- A failover on an operator's command. -/
def moveOn (key : UInt64) : Op :=
  .requestFailover
    { key := ⟨key⟩, service, trigger := .operatorCommand, requester := operator
      operatorAuthorized := true }

def goBack (key : UInt64) (target : TargetName) (requester : SourceName) : Op :=
  .requestFailback
    { key := ⟨key⟩, service, preferredTarget := target, observedTopologyGeneration := ⟨1⟩
      requester }

/-- The operator reports that the first target failed. -/
def reportFailure (sequence : UInt64) (ambiguity : AmbiguityState) : Op :=
  .ingestFailure
    { service, target := booted primary 1, topologyGeneration := ⟨1⟩, ambiguity
      provenance := { source := operator, epoch := ⟨1⟩, boot := ⟨1⟩, sequence := ⟨sequence⟩ } }

/-- A failover on the evidence. -/
def moveAway (key evidence : UInt64) : Op :=
  .requestFailover { key := ⟨key⟩, service, evidence := ⟨evidence⟩, requester := operator }

/-- The executor turns the intent of the attempt down. -/
def turnDown (attempt : UInt64) : Op :=
  .acknowledgeIntent
    { attempt := ⟨attempt⟩, fence := ⟨attempt⟩, generation := ⟨attempt⟩, accepted := false
      executor := operator }

/-- The service was placed on its first target. -/
def placed : List Op :=
  opening ++ adopt primary 1 ++ adopt secondary 1 ++ [place 1 primary]

/-- The service was placed, then failed over to a target that turned it down. -/
def failedOver : List Op :=
  opening ++ adopt primary 1 ++ adopt secondary 1 ++
    [place 1 primary, moveOn 2, turnDown 2]

/-- The coordinator after some calls, without a store. -/
def running (ops : List Op) : Fabric := (Fabric.create {} {}).after ops

theorem run_running (ops : List Op) :
    Fabric.Run {} ((Fabric.create {} {}).momentsOf ops) (running ops) :=
  Fabric.Run.of_calls {} ops

theorem reachable_running (ops : List Op) : Fabric.Reachable {} (running ops) :=
  ⟨_, run_running ops⟩

end Fleet

end OffloadFabric
