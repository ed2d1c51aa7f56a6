import OffloadFabric.Acceptance

/-!
One boot of a coordinator: an open that succeeded, and the calls that were made since. An
open runtime of a run is always in such a boot. What an open leaves is the initial memory
or a restarted one, and every later memory comes from it by commits and bookkeeping.
-/
namespace OffloadFabric

/-- The memory goes through the commits in order, and only keeps books in between. -/
inductive State.Passes (config : FabricConfig) : State → List Commit → State → Prop where
  | keeps {state state' : State} : Keeps config state state' → Passes config state [] state'
  | commit {state state' : State} {commit : Commit} {commits : List Commit} :
      Keeps config state commit.before → Passes config commit.after commits state' →
      Passes config state (commit :: commits) state'

namespace State.Passes

variable {config : FabricConfig} {state state' state'' : State} {commits commits' : List Commit}

theorem after_keeps (hkeeps : Keeps config state state')
    (h : Passes config state' commits state'') :
    Passes config state commits state'' := by
  cases h with
  | keeps hkeeps' => exact .keeps (hkeeps.trans hkeeps')
  | commit hbefore hrest => exact .commit (hkeeps.trans hbefore) hrest

theorem trans (h : Passes config state commits state')
    (h' : Passes config state' commits' state'') :
    Passes config state (commits ++ commits') state'' := by
  induction h with
  | keeps hkeeps => exact h'.after_keeps hkeeps
  | commit hbefore _ ih => exact .commit hbefore (ih h')

end State.Passes

namespace Fabric

section Calls

variable {fabric fabric' : Fabric} {op : Op}

theorem Evolves.config {commits : List Commit} (h : fabric.Evolves commits fabric') :
    fabric'.config = fabric.config := by
  induction h with
  | keeps hkeeps => exact hkeeps.config
  | commit _ hpersist hsame => exact hsame.config.trans (persist_ok hpersist).1
  | rotate _ hrotate => exact (rotateIfDue_keeps hrotate).1
  | trans _ _ ih ih' => exact ih'.trans ih

theorem Evolves.passes {commits : List Commit} (h : fabric.Evolves commits fabric') :
    State.Passes fabric.config fabric.state commits fabric'.state := by
  induction h with
  | keeps hkeeps => exact .keeps hkeeps.state
  | commit _ hpersist _ => exact .commit (persist_ok hpersist).2.2 (.keeps (.refl _ _))
  | rotate _ hrotate => exact .keeps (rotateIfDue_keeps hrotate).2.2
  | @trans fabric fabric' fabric'' _ _ h _ ih ih' => exact ih.trans (h.config ▸ ih')

/-- What a call that neither opens nor closes did to the memory. -/
theorem Moment.passes {moment : Moment} {op : Op} {reply : Reply} {fabric' : Fabric}
    (hevent : moment.event = .call op reply) (hopen : op ≠ .openFabric) (hclose : op ≠ .closeFabric)
    (hstep : Step moment.before moment.event fabric') : ∃ commits,
    State.Passes moment.before.config moment.before.state commits fabric'.state ∧
      moment.before.entered.Answers op commits := by
  rw [hevent] at hstep
  cases hstep with
  | call =>
    obtain ⟨commits, hevolves, -, hanswers⟩ := moment.before.entered.dispatch_evolves hopen hclose
    exact ⟨commits, hevolves.passes, hanswers⟩

/-- What one call does to the memory of an open runtime, unless it closes it. -/
theorem call_passes (hopened : fabric.opened = true) (hclose : op ≠ .closeFabric) :
    (fabric.call op).2.opened = true ∧ (fabric.call op).2.config = fabric.config ∧
      ∃ commits, State.Passes fabric.config fabric.state commits (fabric.call op).2.state ∧
        fabric.entered.Performs op commits ∧ fabric.entered.Answers op commits := by
  by_cases hopen : op = .openFabric
  · subst hopen
    have hcall : (fabric.call .openFabric).2 = fabric.entered := by
      have hopened' : fabric.entered.opened = true := hopened
      simp [call, dispatch, replyCode, «open», hopened']
    rw [hcall]
    exact ⟨hopened, rfl, [], .keeps (.refl _ _), .nothing, .of_other rfl rfl fun _ heq => by
      cases heq⟩
  · obtain ⟨commits, hevolves, hperforms, hanswers⟩ := dispatch_evolves hopen hclose
    exact ⟨hevolves.runtime.1.trans hopened, hevolves.config, commits, hevolves.passes, hperforms,
      hanswers⟩

/-- A record that is committed for its own sake only keeps books. -/
theorem transact_id {change : Change} {progress : Progress}
    (h : fabric.transact change id = (progress, fabric')) :
    fabric'.config = fabric.config ∧ State.Keeps fabric.config fabric.state fabric'.state := by
  unfold transact at h
  split at h
  rename_i code durable hpersist
  by_cases hcode : code = .ok
  · subst hcode
    obtain ⟨hconfig, -, hkeeps⟩ := persist_ok hpersist
    rcases hrotate : rotateIfDue { durable with state := id durable.state } with
      ⟨rotated, fabric₁⟩
    obtain ⟨hconfig', -, hkeeps'⟩ := rotateIfDue_keeps hrotate
    simp only [ne_eq, not_true_eq_false, if_false, hrotate] at h
    split at h <;>
    · cases h
      exact ⟨hconfig'.trans hconfig, hkeeps.trans (hconfig ▸ hkeeps')⟩
  · simp only [ne_eq, hcode, not_false_eq_true, if_true] at h
    cases h
    have hkeeps := persist_refused hcode hpersist
    exact ⟨hkeeps.config, hkeeps.state⟩

/-- The memory an open leaves: nothing was recovered, or all that a store kept was restarted. -/
inductive Opens (config : FabricConfig) : State → Prop where
  | fresh {state : State} : State.Keeps config (initialState config) state → Opens config state
  | restarted {old state : State} : config.storeDirectory = true →
      State.Keeps config (restartedState old) state → Opens config state

/-- The memory an open leaves, with what it read back. -/
inductive Awakens (fabric : Fabric) : State → Prop where
  | fresh {state : State} :
      State.Keeps fabric.config (initialState fabric.config) state → Awakens fabric state
  | restarted {found : Store.Opened} {base old state : State} :
      fabric.config.storeDirectory = true →
      Store.open (storeOptions fabric.config) fabric.disk = .ok found →
      loadBase fabric.config found.snapshot = .ok base →
      replay fabric.config base found.records = (old, true) → validPolicy old.policy = true →
      State.Keeps fabric.config (restartedState old) state → Awakens fabric state

theorem Awakens.opens {state : State} (h : fabric.Awakens state) : Opens fabric.config state := by
  cases h with
  | fresh hkeeps => exact .fresh hkeeps
  | restarted hstore _ _ _ _ hkeeps => exact .restarted hstore hkeeps

/-- What a recovery that succeeds has taken over: nothing, when there was nothing, or all that
it read back. -/
theorem recover_cases {found : Store.Opened} (hconfig : fabric'.config = fabric.config)
    (hclosed : fabric'.opened = false) (h : (fabric'.recover found).2.opened = true) :
    (fabric'.recover found).2.config = fabric.config ∧
      ((found.snapshot = [] ∧ found.records = [] ∧
          (fabric'.recover found).2.state = initialState fabric.config) ∨
        (found.snapshot ≠ [] ∨ found.records ≠ []) ∧ ∃ base old,
          loadBase fabric.config found.snapshot = .ok base ∧
          replay fabric.config base found.records = (old, true) ∧ validPolicy old.policy = true ∧
          State.Keeps fabric.config (restartedState old) (fabric'.recover found).2.state) := by
  unfold recover at h ⊢
  rw [hconfig] at h ⊢
  cases hload : loadBase fabric.config found.snapshot with
  | error code =>
    simp only [hload] at h
    simp [hclosed] at h
  | ok base =>
    simp only [hload] at h ⊢
    rcases hreplay : replay fabric.config base found.records with ⟨state, complete⟩
    simp only [hreplay] at h ⊢
    split at h
    · simp [hclosed] at h
    split at h
    · simp [hclosed] at h
    split at h
    · rename_i hcomplete hpolicy hrecovered
      rw [if_neg hcomplete, if_neg hpolicy, if_pos hrecovered]
      have hnothing : found.snapshot = [] ∧ found.records = [] := by
        simpa [List.isEmpty_iff] using hrecovered
      rw [hnothing.1] at hload
      rw [hnothing.2] at hreplay
      obtain rfl : initialState fabric.config = base := Except.ok.inj hload
      obtain ⟨rfl, -⟩ := Prod.mk.inj hreplay
      exact ⟨rfl, Or.inl ⟨hnothing.1, hnothing.2, rfl⟩⟩
    · rename_i hcomplete hpolicy hrecovered
      rw [if_neg hcomplete, if_neg hpolicy, if_neg hrecovered]
      have hsome : found.snapshot ≠ [] ∨ found.records ≠ [] := by
        simpa [List.isEmpty_iff, or_iff_not_imp_left] using hrecovered
      have hall : complete = true := by simpa using hcomplete
      have hvalid : validPolicy state.policy = true := by simpa using hpolicy
      rw [hall] at hreplay
      split <;> rename_i fabric₁ htransact <;>
      · obtain ⟨hconfig', hkeeps⟩ := transact_id htransact
        exact ⟨hconfig', Or.inr ⟨hsome, base, state, rfl, hreplay, hvalid, hkeeps⟩⟩

theorem recover_awakens {found : Store.Opened} (hstore : fabric.config.storeDirectory = true)
    (hopen : Store.open (storeOptions fabric.config) fabric.disk = .ok found)
    (hconfig : fabric'.config = fabric.config) (hclosed : fabric'.opened = false)
    (h : (fabric'.recover found).2.opened = true) :
    (fabric'.recover found).2.config = fabric.config ∧
      fabric.Awakens (fabric'.recover found).2.state := by
  obtain ⟨hsame, ⟨-, -, hfresh⟩ | ⟨-, base, old, hload, hreplay, hvalid, hkeeps⟩⟩ :=
    recover_cases hconfig hclosed h
  · exact ⟨hsame, .fresh (hfresh ▸ .refl _ _)⟩
  · exact ⟨hsame, .restarted hstore hopen hload hreplay hvalid hkeeps⟩

/-- An open that finds anything in its store restarts what it reads back. -/
theorem open_restarts {found : Store.Opened} (hclosed : fabric.opened = false)
    (hstore : fabric.config.storeDirectory = true)
    (hopen : Store.open (storeOptions fabric.config) fabric.disk = .ok found)
    (hsome : found.snapshot ≠ [] ∨ found.records ≠ [])
    (h : (fabric.call .openFabric).2.opened = true) : ∃ base old,
      loadBase fabric.config found.snapshot = .ok base ∧
      replay fabric.config base found.records = (old, true) ∧ validPolicy old.policy = true ∧
      State.Keeps fabric.config (restartedState old) (fabric.call .openFabric).2.state := by
  have hcall : (fabric.call .openFabric).2 = fabric.entered.open.2 := rfl
  rw [hcall, open_found (by exact hclosed) (by exact hstore) (by exact hopen)] at h ⊢
  have hconfig : (fabric.entered.cleared.attach found).config = fabric.config := rfl
  obtain ⟨-, ⟨hsnapshot, hrecords, -⟩ | ⟨-, hread⟩⟩ := recover_cases hconfig hclosed h
  · exact absurd hsome (by simp [hsnapshot, hrecords])
  · exact hread

theorem call_awakens (hclosed : fabric.opened = false)
    (h : (fabric.call .openFabric).2.opened = true) :
    (fabric.call .openFabric).2.config = fabric.config ∧
      fabric.Awakens (fabric.call .openFabric).2.state := by
  have hcall : (fabric.call .openFabric).2 = fabric.entered.open.2 := rfl
  rw [hcall] at h ⊢
  by_cases hstore : fabric.config.storeDirectory = true
  · cases hopen : Store.open (storeOptions fabric.config) fabric.disk with
    | error report =>
      rw [open_error (by exact hclosed) (by exact hstore) (by exact hopen)] at h
      have hopened : fabric.opened = true := h
      simp [hclosed] at hopened
    | ok found =>
      rw [open_found (by exact hclosed) (by exact hstore) (by exact hopen)] at h ⊢
      exact recover_awakens hstore hopen rfl hclosed h
  · have hopen : fabric.entered.open.2 = { fabric.entered.cleared with opened := true } := by
      have hclosed' : fabric.entered.opened = false := hclosed
      have hstore' : fabric.entered.config.storeDirectory = false := eq_false_of_ne_true hstore
      simp [«open», hclosed', hstore']
    rw [hopen]
    exact ⟨rfl, .fresh (.refl _ _)⟩

theorem call_opens (hclosed : fabric.opened = false)
    (h : (fabric.call .openFabric).2.opened = true) :
    (fabric.call .openFabric).2.config = fabric.config ∧
      Opens fabric.config (fabric.call .openFabric).2.state := by
  obtain ⟨hconfig, hawakens⟩ := call_awakens hclosed h
  exact ⟨hconfig, hawakens.opens⟩

end Calls

/-! ### Boots -/

/-- The calls of one boot, none of which closes it. -/
inductive Serves (start : Fabric) : List Moment → Fabric → Prop where
  | start : Serves start [] start
  | call {moments : List Moment} {fabric : Fabric} {op : Op} : Serves start moments fabric →
      op ≠ .closeFabric → Serves start
        (moments ++ [{ before := fabric, event := .call op (fabric.call op).1 }])
        (fabric.call op).2

/-- The moments of a run since the last open that succeeded. -/
def SinceOpen (moments later : List Moment) : Prop :=
  ∃ earlier before, before.opened = false ∧ moments = earlier ++
    { before, event := .call .openFabric (before.call .openFabric).1 } :: later ∧
    ∀ moment ∈ later, moment.before.opened = true

section Boots

variable {config : FabricConfig} {moments calls : List Moment} {start fabric : Fabric}

theorem Run.configured (h : Run config moments fabric) : fabric.config = config := by
  obtain ⟨_, _, -, hchronicled⟩ :=
    h.chronicled (preserved_true config fun _ _ => True).stable fun _ _ => trivial
  exact hchronicled.configured

theorem call_close_opened (fabric : Fabric) : (fabric.call .closeFabric).2.opened = false := by
  have hcall : (fabric.call .closeFabric).2 = fabric.entered.close.2 := rfl
  rw [hcall]
  unfold close
  split
  · rename_i hclosed
    simpa using hclosed
  · rfl

/-- Only an open opens a closed process. -/
theorem call_closed {op : Op} (hclosed : fabric.opened = false) (hopen : op ≠ .openFabric) :
    (fabric.call op).2.opened = false := by
  by_cases hclose : op = .closeFabric
  · subst hclose
    exact call_close_opened fabric
  · obtain ⟨commits, hevolves, -⟩ := fabric.entered.dispatch_evolves hopen hclose
    exact hevolves.runtime.1.trans hclosed

theorem Serves.opened (h : start.Serves moments fabric) (hstart : start.opened = true) :
    fabric.opened = true ∧ fabric.config = start.config := by
  induction h with
  | start => exact ⟨hstart, rfl⟩
  | call _ hclose ih =>
    obtain ⟨hopened, hconfig, -⟩ := call_passes ih.1 hclose
    exact ⟨hopened, hconfig.trans ih.2⟩

theorem Serves.opened_before {moment : Moment} (h : start.Serves moments fabric)
    (hstart : start.opened = true) (hmoment : moment ∈ moments) : moment.before.opened = true := by
  induction h with
  | start => cases hmoment
  | call hserves _ ih =>
    rcases List.mem_append.mp hmoment with hmoment | hmoment
    · exact ih hmoment
    · obtain rfl := List.mem_singleton.mp hmoment
      exact (hserves.opened hstart).1

theorem Serves.run (h : start.Serves calls fabric) (hrun : Run config moments start) :
    Run config (moments ++ calls) fabric := by
  induction h with
  | start => simpa using hrun
  | @call calls fabric op _ _ ih =>
    rw [← List.append_assoc]
    exact ih.step (.call fabric op)

/-- Every moment of a boot is a call, on what the calls before have left. -/
theorem Serves.split {moment : Moment} {before after : List Moment}
    (h : start.Serves (before ++ moment :: after) fabric) :
    start.Serves before moment.before ∧
      ∃ op, moment.event = .call op (moment.before.call op).1 := by
  generalize hcalls : before ++ moment :: after = calls at h
  induction h generalizing after with
  | start => simp at hcalls
  | @call calls fabric op hserves hclose ih =>
    rcases List.eq_nil_or_concat after with rfl | ⟨after, last, rfl⟩
    · obtain ⟨rfl, hlast⟩ := List.append_inj' hcalls rfl
      obtain rfl := (List.cons.inj hlast).1
      exact ⟨hserves, op, rfl⟩
    · rw [List.concat_eq_append, ← List.cons_append, ← List.append_assoc] at hcalls
      exact ih (List.append_inj' hcalls rfl).1

/-- Calls none of which closes make a boot. -/
theorem Serves.onward {ops : List Op} (h : start.Serves calls fabric)
    (hclose : .closeFabric ∉ ops) :
    start.Serves (calls ++ fabric.momentsOf ops) (fabric.after ops) := by
  induction ops generalizing calls fabric with
  | nil => simpa [momentsOf, after] using h
  | cons op ops ih =>
    rw [List.mem_cons, not_or] at hclose
    simpa [momentsOf, after] using ih (h.call (Ne.symm hclose.1)) hclose.2

/-- An open runtime of a run has been served by calls since the last open. -/
theorem Run.boot (h : Run config moments fabric) (hopened : fabric.opened = true) :
    ∃ earlier before later, Run config earlier before ∧ before.opened = false ∧
      moments = earlier ++
        { before, event := .call .openFabric (before.call .openFabric).1 } :: later ∧
      (before.call .openFabric).2.opened = true ∧
      (before.call .openFabric).2.Serves later fabric := by
  induction h with
  | start => cases hopened
  | @step moments fabric fabric' event hrun hstep ih =>
    cases hstep with
    | call op =>
      by_cases hbefore : fabric.opened = true
      · obtain ⟨earlier, before, later, hrun', hclosed, rfl, hstart, hserves⟩ := ih hbefore
        have hclose : op ≠ .closeFabric := by
          rintro rfl
          rw [call_close_opened] at hopened
          cases hopened
        exact ⟨earlier, before, later ++ [_], hrun', hclosed, by simp, hstart, hserves.call hclose⟩
      · have hclosed : fabric.opened = false := by simpa using hbefore
        by_cases hopen : op = .openFabric
        · subst hopen
          exact ⟨moments, fabric, [], hrun, hclosed, rfl, hopened, .start⟩
        · rw [call_closed hclosed hopen] at hopened
          cases hopened
    | crash op disk _ => cases hopened

/-- An invariant of boots: it holds of what an open leaves, and calls keep it. -/
theorem Run.boot_invariant {P : List Moment → Fabric → Prop} (h : Run config moments fabric)
    (hopened : fabric.opened = true)
    (hopens : ∀ fabric, fabric.config = config → Opens config fabric.state → P [] fabric)
    (hcall : ∀ {earlier later fabric op}, Run config (earlier ++ later) fabric →
      fabric.config = config → fabric.opened = true → op ≠ .closeFabric → P later fabric →
      P (later ++ [{ before := fabric, event := .call op (fabric.call op).1 }])
        (fabric.call op).2) :
    ∃ later, SinceOpen moments later ∧ P later fabric := by
  obtain ⟨earlier, before, later, hrun, hclosed, hmoments, hstart, hserves⟩ := h.boot hopened
  have hconfig : before.config = config := hrun.configured
  obtain ⟨hconfig', hopens'⟩ := call_opens hclosed hstart
  refine ⟨later, ⟨earlier, before, hclosed, hmoments, fun _ => hserves.opened_before hstart⟩, ?_⟩
  clear h hmoments hopened
  have hboth : P later fabric ∧ Run config ((earlier ++
      [{ before, event := .call .openFabric (before.call .openFabric).1 }]) ++ later) fabric := by
    induction hserves with
    | start =>
      refine ⟨hopens _ (hconfig'.trans hconfig) (hconfig ▸ hopens'), ?_⟩
      simpa using hrun.step (.call before .openFabric)
    | @call moments fabric op hserves hclose ih =>
      obtain ⟨hP, hrun'⟩ := ih
      obtain ⟨hopened, hsame⟩ := hserves.opened hstart
      refine ⟨hcall hrun' (hsame.trans (hconfig'.trans hconfig)) hopened hclose hP, ?_⟩
      rw [← List.append_assoc]
      exact hrun'.step (.call fabric op)
  exact hboth.1

end Boots

end Fabric

end OffloadFabric
