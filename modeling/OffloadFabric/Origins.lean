import OffloadFabric.Succession
import OffloadFabric.Transitions

/-!
Where the changes of a history come from. Every change was made in one call of the run, in
the memory that the changes before it lead to, and no process started over with nothing
since. A call that made a move was accepted, unless its process died before it answered.
-/
namespace OffloadFabric

open Fabric (Op Event Moment)

/-- The process that the moment before these others left. -/
def leads : List Moment → Fabric → Fabric
  | [], fabric => fabric
  | next :: _, _ => next.before

/-- From one history to another the coordinator was only opened. The first time that it was
open, its memory went with the first history and the epochs that opening it had started. -/
def OnlyOpened (config : FabricConfig) (allowed : Fabric → Op → Prop) (Q : Invariant)
    (made history : List Change) (processes : List Fabric) : Prop :=
  ∃ epochs, (∀ change ∈ epochs, ∃ epoch boot, change = .epochAdvanced epoch boot) ∧
    (processes.find? Fabric.opened = none → history = made ++ epochs) ∧
    ∀ next ∈ processes.find? Fabric.opened, ∃ memory,
      Chronicled config allowed Q (made ++ epochs) memory next

/-- The call of the moment made the change, and before it whatever of the past was not yet
durable when the call came. -/
structure Originates (config : FabricConfig) (allowed : Fabric → Op → Prop) (Q : Invariant)
    (history past : List Change) (change : Change) (moment : Moment) (later : List Moment)
    (fabric : Fabric) : Prop where
  steps : Fabric.Step moment.before moment.event (leads later fabric)
  made : ∃ first memory added memory', Chronicled config allowed Q first memory moment.before ∧
    moment.before.Records moment.event added ∧
    Chronicled config allowed Q (first ++ added) memory' (leads later fabric) ∧
    first <+: past ∧ past ++ [change] <+: first ++ added ∧
    OnlyOpened config allowed Q (first ++ added) history (later.map Moment.before ++ [fabric])

section Origins

variable {config : FabricConfig} {allowed : Fabric → Op → Prop} {Q : Invariant}
  {moments : List Moment} {moment : Moment} {fabric fabric' : Fabric} {event : Event}
  {history memory past : List Change} {change : Change}

/-- A process that starts over with nothing has no history. -/
theorem Chronicled.forgets (h : Chronicled config allowed Q history memory fabric)
    (hstable : Stable config allowed Q) (hstep : Fabric.Step fabric event fabric')
    (hforgets : fabric.Forgets config event) : Chronicled config allowed Q [] [] fabric' := by
  cases hstep with
  | call op =>
    obtain ⟨hstore, rfl, hclosed⟩ := hforgets
    exact (h.openMemory hstable hclosed hstore).1
  | crash op dir _ =>
    rw [h.configured]
    have hstoreless : config.storeDirectory = false := hforgets
    exact .created Trail.nil fun hstore => by simp [hstoreless] at hstore

theorem leads_snoc {later : List Moment} :
    leads (later ++ [{ before := fabric, event }]) fabric' = leads later fabric := by
  cases later <;> rfl

/-- A process that is not open records at most that it is opened. -/
theorem Fabric.Records.closed {added : List Change} (h : fabric.Records event added)
    (hclosed : fabric.opened = false) :
    ∀ change ∈ added, ∃ epoch boot, change = .epochAdvanced epoch boot := by
  have hadds {op : Op} {added : List Change} (h : fabric.Adds op added) :
      ∀ change ∈ added, ∃ epoch boot, change = .epochAdvanced epoch boot := by
    cases h with
    | opensQuietly | closes => exact fun _ hmem => by cases hmem
    | opensAgain =>
      intro change hmem
      exact ⟨_, _, List.mem_singleton.mp hmem⟩
    | @performs _ commits _ _ _ _ _ hrunning =>
      cases commits with
      | nil => exact fun _ hmem => by cases hmem
      | cons commit commits =>
        rw [hrunning (List.cons_ne_nil _ _)] at hclosed
        cases hclosed
  cases event with
  | call op reply => exact hadds h
  | crash op =>
    obtain ⟨all, hall, hfront⟩ := h
    exact fun change hmem => hadds hall change (hfront.subset hmem)

theorem OnlyOpened.snoc {made added : List Change} {processes : List Fabric}
    (h : OnlyOpened config allowed Q made history processes) (hlast : fabric ∈ processes)
    (hrecords : fabric.Records event added)
    (hchronicled : Chronicled config allowed Q (history ++ added) memory fabric') :
    OnlyOpened config allowed Q made (history ++ added) (processes ++ [fabric']) := by
  obtain ⟨epochs, hepochs, hnone, hsome⟩ := h
  unfold OnlyOpened
  rw [List.find?_append]
  cases hfind : processes.find? Fabric.opened with
  | some next =>
    rw [hfind] at hsome
    exact ⟨epochs, hepochs, fun hnever => by simp at hnever, hsome⟩
  | none =>
    have hclosed : fabric.opened = false := by
      simpa using List.find?_eq_none.mp hfind fabric hlast
    obtain rfl := hnone hfind
    refine ⟨epochs ++ added, fun change hmem => ?_, fun _ => List.append_assoc _ _ _, ?_⟩
    · rcases List.mem_append.mp hmem with hmem | hmem
      · exact hepochs change hmem
      · exact hrecords.closed hclosed change hmem
    · intro next hnext
      obtain rfl : next = fabric' := by
        simpa using List.mem_of_find?_eq_some hnext
      rw [← List.append_assoc]
      exact ⟨memory, hchronicled⟩

/-- The run lemma: calls of the run made all changes that its directory holds. -/
theorem Fabric.Run.originates (hrun : Fabric.Run config moments fabric)
    (hstable : Stable config allowed Q)
    (hallowed : ∀ moment ∈ moments, allowed moment.before.entered moment.event.op) :
    ∃ history memory, Fabric.Recorded config moments history fabric ∧
      Chronicled config allowed Q history memory fabric ∧
      ∀ past change, past ++ [change] <+: history → ∃ earlier moment later,
        moments = earlier ++ moment :: later ∧
        (∀ next ∈ moment :: later, ¬next.before.Forgets config next.event) ∧
        Originates config allowed Q history past change moment later fabric := by
  induction hrun with
  | start =>
    refine ⟨[], [], .start, .start hstable, fun past change hfront => ?_⟩
    simp at hfront
  | @step moments fabric fabric' event _ hstep ih =>
    obtain ⟨history, memory, hrecorded, hchronicled, horigins⟩ :=
      ih fun moment hmoment => hallowed moment (List.mem_append_left _ hmoment)
    by_cases hforgets : fabric.Forgets config event
    · refine ⟨[], [], .forgotten hrecorded hstep hforgets,
        hchronicled.forgets hstable hstep hforgets, fun past change hfront => ?_⟩
      simp at hfront
    · obtain ⟨history', memory', hchronicled', hadds⟩ :=
        hchronicled.step hstable (hallowed { before := fabric, event } (by simp)) hstep
      rcases hadds with ⟨added, hrecords, rfl⟩ | ⟨hforgotten, -⟩
      swap
      · exact absurd hforgotten hforgets
      refine ⟨_, memory', .extended hrecorded hstep hrecords, hchronicled',
        fun past change hfront => ?_⟩
      have hcases : past ++ [change] <+: history ∨ history <+: past := by
        rcases List.prefix_or_prefix_of_prefix hfront (List.prefix_append history added) with
          hold | hlonger
        · exact Or.inl hold
        · rcases List.prefix_concat_iff.mp hlonger with rfl | hnew
          · exact Or.inl (List.prefix_refl _)
          · exact Or.inr hnew
      rcases hcases with hold | hnew
      · obtain ⟨earlier, moment, later, rfl, hkept, hsteps, first, memory₁, added₁, memory₂,
          hbefore, hmade, hafter, hpast, hreach, hrests⟩ := horigins past change hold
        refine ⟨earlier, moment, later ++ [{ before := fabric, event }], by simp, ?_, ?_, first,
          memory₁, added₁, memory₂, hbefore, hmade, ?_, hpast, hreach, ?_⟩
        · intro next hnext
          rw [← List.cons_append] at hnext
          rcases List.mem_append.mp hnext with hnext | hnext
          · exact hkept next hnext
          · obtain rfl := List.mem_singleton.mp hnext
            exact hforgets
        · rw [leads_snoc]
          exact hsteps
        · rw [leads_snoc]
          exact hafter
        · rw [List.map_append]
          exact hrests.snoc (by simp) hrecords hchronicled'
      · refine ⟨moments, _, [], rfl, ?_, hstep, history, memory, added, memory', hchronicled,
          hrecords, hchronicled', hnew, hfront, [], by simp, fun _ => (List.append_nil _).symm, ?_⟩
        · intro next hnext
          obtain rfl := List.mem_singleton.mp hnext
          exact hforgets
        · intro next hnext
          obtain rfl : next = fabric' := by
            simpa using List.mem_of_find?_eq_some hnext
          rw [List.append_nil]
          exact ⟨memory', hchronicled'⟩

/-! ### The commit behind a change -/

/-- The service is registered, and the attempt is its current one. -/
def State.Pursues (state : State) (service : ServiceName) (attempt : AttemptId) : Prop :=
  ∃ runtime, state.services.find? service = some runtime ∧ runtime.currentAttempt = attempt

/-- The call of the moment issued the attempt for the service. It was accepted with an intent
for it; or its process died in the call, which would have been accepted so, and whatever can be
read back of the directory that it left pursues the attempt. -/
inductive Fabric.Moment.Issues (moment : Moment) (after : Fabric) (service : ServiceName) (op : Op)
    (attempt : AttemptId) : Prop where
  | accepted {decision : RecoveryDecision} {intent : FailoverIntent} :
      moment.Accepts op decision → decision.intent = some intent → intent.service = service →
      intent.attempt = attempt → Issues moment after service op attempt
  | crashed {decision : RecoveryDecision} {intent : FailoverIntent} :
      moment.event = .crash op → moment.before.Accepts op decision →
      decision.intent = some intent → intent.service = service → intent.attempt = attempt →
      (∀ state, after.Rereads state → state.Pursues service attempt) →
      Issues moment after service op attempt

/-- The call of the moment moved the service by the change: the check of whoever acted in it
qualified the move, in a memory that the past leads to. -/
inductive Undertakes (Q : Invariant) (past : List Change) (change : Change) (service : ServiceName)
    (moment : Moment) : Op → RecoveryDecision → Move → Prop where
  | intro {actor : Fabric} {op op' : Op} {check : ServiceRuntime → Check Qualified}
      {runtime : ServiceRuntime} {qualified : Qualified} {decision : RecoveryDecision}
      {commit : Commit} :
      moment.before.opened → moment.event.op = op →
      (∀ reply, moment.event = .call op reply → moment.Accepts op decision) →
      moment.before.entered.Acts op actor op' → actor.moving op' = some (service, check) →
      Q past actor.state → actor.state.services.find? service = some runtime →
      check runtime = .ok qualified → actor.Moves qualified.move decision commit →
      commit.change = change → Undertakes Q past change service moment op decision qualified.move

variable {service : ServiceName} {held : FenceRecord} {op : Op} {commit : Commit}
  {later : List Moment}

/-- Only a commit that moves a service writes a fence record. -/
theorem Fabric.Caused.of_holding (h : fabric.Caused op commit)
    (hholding : commit.change.holding service = some held) :
    ∃ check, fabric.moving op = some (service, check) := by
  cases h with
  | ingested hop hok hwrites =>
    have hingested := ingested_of_ok hop hok
    rw [hwrites.change] at hholding
    generalize Fabric.Proposal.change _ = change at hingested hholding
    generalize Fabric.Proposal.update _ = update at hingested
    cases hingested <;> cases hholding
  | moved hop hfind hok hmoves =>
    obtain ⟨hservice, -⟩ := Fabric.moving_move hop hok
    cases hmoves with
    | intro =>
      obtain ⟨rfl, -⟩ := Move.of_holding hholding
      exact ⟨_, hservice ▸ hop⟩
  | confirmed _ _ _ hwrites =>
    rw [hwrites.change] at hholding
    cases hholding
  | denied _ _ _ hwrites | acknowledged _ _ hwrites | reported _ _ _ _ hwrites =>
    rw [hwrites.change] at hholding
    simp only [Change.holding, ite_self] at hholding
    cases hholding

/-- A change that moves a service was undertaken by the call it originates from, which is
accepted whenever it returns, and records nothing after it. -/
theorem Originates.undertakes
    (h : Originates config allowed Q history past change moment later fabric)
    (hstable : Stable config allowed Q) (hallowed : allowed moment.before.entered moment.event.op)
    (hholding : change.holding service = some held) :
    ∃ op decision move, Undertakes Q past change service moment op decision move ∧
      moment.before.Accepts op decision ∧
      (∃ memory', Chronicled config allowed Q (past ++ [change]) memory' (leads later fabric)) ∧
      OnlyOpened config allowed Q (past ++ [change]) history
        (later.map Moment.before ++ [fabric]) := by
  obtain ⟨hstep, first, memory, added, memory', hchronicled, hrecords, hafter, ⟨middle, rfl⟩,
    hfront, hrests⟩ := h
  rw [List.append_assoc, List.prefix_append_right_inj] at hfront
  obtain ⟨all, hadds, hall, hkept⟩ : ∃ all, moment.before.Adds moment.event.op all ∧
      middle ++ [change] <+: all ∧ added <+: all := by
    cases hevent : moment.event with
    | call op reply =>
      rw [hevent] at hrecords
      exact ⟨added, hrecords, hfront, List.prefix_refl _⟩
    | crash op =>
      rw [hevent] at hrecords
      obtain ⟨all, hadds, hkept⟩ := hrecords
      exact ⟨all, hadds, hfront.trans hkept, hkept⟩
  generalize hop : moment.event.op = op at hadds hallowed
  -- The answer is that of the decision behind the commits.
  have haccepts {decision : RecoveryDecision} (haccepts : moment.before.Accepts op decision)
      (reply : Fabric.Reply) (hevent : moment.event = .call op reply) :
      moment.Accepts op decision := by
    refine ⟨?_, haccepts.accepted, haccepts.fresh⟩
    obtain ⟨after, hstep⟩ : ∃ after, Fabric.Step moment.before moment.event after := ⟨_, hstep⟩
    generalize moment.event = event at hstep hevent
    cases hstep with
    | call op' =>
      obtain ⟨rfl, -⟩ := Event.call.inj hevent
      exact congrArg _ haccepts.reply
    | crash => cases hevent
  -- Nothing is recorded after the change, since nothing is committed after it.
  have hends (hlast : all = middle ++ [change]) :
      (∃ memory', Chronicled config allowed Q (first ++ middle ++ [change]) memory'
        (leads later fabric)) ∧
      OnlyOpened config allowed Q (first ++ middle ++ [change]) history
        (later.map Moment.before ++ [fabric]) := by
    obtain rfl : middle ++ [change] = added := hfront.eq_of_length_le (hlast ▸ hkept.length_le)
    rw [List.append_assoc]
    exact ⟨⟨memory', hafter⟩, hrests⟩
  cases hadds with
  | opensQuietly | closes => simp at hall
  | opensAgain =>
    obtain ⟨-, rfl⟩ := eq_of_prefix_singleton hall
    cases hholding
  | @performs _ commits hopen hclose hevolves hperforms hanswers hrunning =>
    have hopened : moment.before.opened = true := hrunning (by
      rintro rfl
      simp at hall)
    have hmemory := (hchronicled.running hopened).2
    cases hperforms with
    | nothing => simp at hall
    | @once commit hcaused =>
      obtain ⟨rfl, rfl⟩ := eq_of_prefix_singleton hall
      obtain ⟨check, hmoving⟩ := hcaused.of_holding hholding
      obtain ⟨decision, hdecided, hdecides⟩ := hanswers.moves _ _ hmoving
      cases hdecides with
      | moved _ hfind hok hmoves =>
        have haccepted : moment.before.Accepts op decision :=
          ⟨hdecided, hmoves.decides.1, hmoves.decides.2⟩
        refine ⟨op, decision, _, .intro hopened hop (haccepts haccepted) (.direct op) hmoving ?_
          hfind hok hmoves rfl, haccepted, hends rfl⟩
        rw [List.append_nil]
        exact hmemory
    | @twice resolution one two _ hop' hconfirm _ _ _ _ _ =>
      subst hop'
      obtain ⟨decision, hdecided, hresolves⟩ := hanswers.resolves resolution rfl
      cases hresolves with
      | confirmed _ hfind hcheck _ hwrites hconfig hmiddle hdecides =>
        cases hdecides with
        | moved hopened' hfind' hok hmoves =>
          have hcaused := Fabric.Caused.confirmed hfind hcheck hconfirm hwrites
          have hacts := Fabric.Acts.confirmed hconfirm hcaused hconfig hopened' hmiddle
          have hbefore := hstable.keeps hmemory (hchronicled.configured ▸ hwrites.before)
          have hfirst := hstable.commit hallowed hchronicled.configured (.direct _) hopened hmemory
            hcaused hbefore
          cases middle with
          | nil =>
            obtain ⟨rest, hrest⟩ := hall
            obtain ⟨rfl, -⟩ := List.cons.inj hrest
            rw [hwrites.change] at hholding
            cases hholding
          | cons next middle =>
            rw [List.cons_append, List.map_cons, List.cons_prefix_cons] at hall
            obtain ⟨rfl, hall⟩ := hall
            obtain ⟨rfl, rfl⟩ := eq_of_prefix_singleton hall
            have hmoved :
                Fabric.Caused _ (.requestFailover (Fabric.resolutionRequest resolution)) _ :=
              .moved rfl hfind' hok hmoves
            obtain ⟨check, hmoving⟩ := hmoved.of_holding hholding
            cases hmoving
            have haccepted : moment.before.Accepts _ decision :=
              ⟨hdecided, hmoves.decides.1, hmoves.decides.2⟩
            refine ⟨_, decision, _, .intro hopened hop (haccepts haccepted) hacts rfl ?_ hfind' hok
              hmoves rfl, haccepted, hends rfl⟩
            rw [hmiddle]
            exact hfirst

end Origins

end OffloadFabric
