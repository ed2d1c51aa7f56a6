import OffloadFabric.Ambiguity
import OffloadFabric.FenceSafety
import OffloadFabric.Generations
import OffloadFabric.Origins
import OffloadFabric.Reopening

/-!
Where placements come from and where moves start. The first placement of a service was
issued by a call that places it, or that an operator commanded; every other move of a service
starts from its active target, and a resumption starts from where the attempt did that it
issues again.
-/
namespace OffloadFabric

open Fabric (Op Moment)

/-! ### Along a history -/

/-- The last attempt that the registries keep of the service. -/
def lastAttempt (core : Core) (service : ServiceName) : Option AttemptAuthority :=
  (core.services.find? service).bind fun runtime => runtime.authority.history.getLast?

section Histories

variable {config : FabricConfig} {state : State} {history past : List Change} {change : Change}
  {service : ServiceName} {held : FenceRecord} {record : AttemptAuthority}

/-- A service that holds a fence came by it in some first move. -/
theorem exists_first_holding (h : (replayed config history).fences.find? service = some held) :
    ∃ past change written, past ++ [change] <+: history ∧
      change.holding service = some written ∧
      (replayed config past).fences.find? service = none := by
  induction history using List.reverseRecOn generalizing held with
  | nil => cases h
  | append_singleton past change ih =>
    cases hpast : (replayed config past).fences.find? service with
    | some before =>
      obtain ⟨earlier, first, written, hfront, hfirst⟩ := ih hpast
      exact ⟨earlier, first, written, hfront.trans (List.prefix_append _ _), hfirst⟩
    | none =>
      rw [replayed_snoc, find?_fences_apply, hpast, Option.or_none] at h
      exact ⟨past, change, held, List.prefix_refl _, h, hpast⟩

/-- The change issued the attempt, from the active target of the service. -/
structure Issuing (core : Core) (service : ServiceName) (record : AttemptAuthority)
    (change : Change) : Prop where
  anew : change.resumes = false
  holds : ∃ held, change.holding service = some held ∧ held.attempt = record.id
  source : ∃ runtime, core.services.find? service = some runtime ∧
    record.fromTarget = runtime.active.getD {}

/-- A legitimate change leaves the last attempt of a service alone, or issues it. -/
theorem Legit.lastAttempt (h : Legit config state.core change) (hsound : state.core.Sound config)
    (hlast : lastAttempt (Change.apply state change).core service = some record) :
    lastAttempt state.core service = some record ∨ Issuing state.core service record change := by
  unfold OffloadFabric.lastAttempt at hlast
  cases h with
  | @serviceRegistered descriptor hnew =>
    simp only [Change.apply, State.core, OrderedMap.mapValues_insert, OrderedMap.find?_insert]
      at hlast
    split at hlast
    · cases hlast
    · exact Or.inl hlast
  | targetUpserted | topologyGenerationSet | policySet | capabilityIngested | failureIngested
  | dependencyIngested | targetRetired | sourceRegistered | epochAdvanced => exact Or.inl hlast
  | serviceWithdrawn name =>
    rw [Change.core_serviceWithdrawn] at hlast
    exact Or.inl hlast
  | @rewritten kind name next old hfind hauthority =>
    rw [find?_services_runtimeChanged] at hlast
    split at hlast
    · rename_i hservice
      have hsame : next.hard.authority = old.authority := (authority_hard next).trans hauthority
      rw [Option.bind_some, hsame] at hlast
      left
      rw [OffloadFabric.lastAttempt, hservice, hfind]
      exact hlast
    · exact Or.inl hlast
  | @granted found move grant name hcore hfind hminted hmode hsource htarget =>
    rw [Move.change, find?_services_runtimeChanged] at hlast
    split at hlast
    swap
    · exact Or.inl hlast
    rename_i hservice
    subst hservice
    rw [Option.bind_some, authority_hard] at hlast
    have hrecord := last_of_granted hmode hlast
    right
    refine ⟨by rw [Move.change, if_neg hmode]; rfl, ⟨move.fenceRecord grant found, if_pos rfl, ?_⟩,
      move.runtime.hard, hfind, ?_⟩
    · rw [hrecord]
      rfl
    · rw [hrecord]
      exact hsource
  | @renewed found move grant previous hcore hfind hminted hmode hprevious hsource htarget
      hincarnation =>
    rw [Move.change, find?_services_runtimeChanged] at hlast
    split at hlast
    swap
    · exact Or.inl hlast
    rename_i hservice
    subst hservice
    obtain ⟨hrecord, -⟩ := hsound.targets _ _ htarget
    obtain ⟨-, -, -, -, -, hhistory, -⟩ :=
      placed_of_renewed (hsound.moved hfind).2 hminted hmode hprevious hrecord hincarnation
    rw [Option.bind_some, authority_hard, hhistory, List.getLast?_drop] at hlast
    split at hlast
    · cases hlast
    · left
      rw [OffloadFabric.lastAttempt, show state.core.services.find? move.service = _ from hfind,
        Option.bind_some, authority_hard]
      exact hlast

/-- The last attempt of a service was issued by some change of the history, which left it the
last one. -/
theorem exists_issuing (hlawful : Along config (Legit config) history)
    (h : lastAttempt (replayed config history).core service = some record) :
    ∃ past change, past ++ [change] <+: history ∧
      Issuing (replayed config past).core service record change ∧
      lastAttempt (replayed config (past ++ [change])).core service = some record := by
  induction history using List.reverseRecOn with
  | nil => cases h
  | append_singleton past change ih =>
    have hpast := hlawful.of_front (List.prefix_append past [change])
    have hlast := h
    rw [replayed_snoc] at hlast
    rcases hlawful.last.lastAttempt (soundReplayed hpast) hlast with hbefore | hissuing
    · obtain ⟨earlier, issue, hfront, hissuing⟩ := ih hpast hbefore
      exact ⟨earlier, issue, hfront.trans (List.prefix_append _ _), hissuing⟩
    · exact ⟨past, change, List.prefix_refl _, hissuing, h⟩

end Histories

/-! ### Services without a placement -/

/-- A service that was never placed has no target to return to. -/
def Unmoved (runtime : ServiceRuntime) : Prop :=
  runtime.active = none → runtime.preFailoverTarget = none

section Unmoved

variable {config : FabricConfig} {fabric : Fabric} {op : Op} {service : ServiceName}
  {found next : ServiceRuntime}

theorem remarkable_unmoved (service : ServiceName) : Remarkable service Unmoved := by
  intro state runtime remark _ _ h
  cases remark with
  | returned => exact fun _ => rfl
  | _ => exact h

theorem Fabric.Turns.unmoved (h : fabric.Turns service op found next) (hfound : Unmoved found) :
    Unmoved next := by
  cases h with
  | @moved _ check _ qualified grant config state _ _ hruntime =>
    intro hactive
    have hplaced : (qualified.move.nextRuntime grant config state).active =
        some qualified.move.destination :=
      congrArg RuntimeAuthority.active (Move.authority_nextRuntime _ grant config state)
    rw [hactive] at hplaced
    cases hplaced
  | denied => exact hfound
  | acknowledged =>
    unfold Fabric.acknowledgedRuntime
    dsimp only
    split <;> exact hfound
  | reported _ _ _ hcheck =>
    obtain ⟨-, -, happly⟩ := Fabric.checkEffect_ok hcheck
    cases Fabric.applyEffect_ok happly <;> exact hfound

theorem Fabric.Alters.unmoved (h : fabric.Alters service op found next) (hfound : Unmoved found) :
    Unmoved next := by
  cases h <;> exact hfound

/-- A restart keeps where a service is and where it may return to. -/
theorem departed_downgradedRuntime (runtime : ServiceRuntime) :
    (downgradedRuntime runtime).active = runtime.active ∧
      (downgradedRuntime runtime).preFailoverTarget = runtime.preFailoverTarget ∧
      (downgradedRuntime runtime).failoverRecorded = runtime.failoverRecorded := by
  unfold downgradedRuntime
  dsimp only
  split
  · exact ⟨rfl, rfl, rfl⟩
  · split <;> exact ⟨rfl, rfl, rfl⟩

theorem steady_unmoved (fabric : Fabric) (op : Op) (service : ServiceName) :
    fabric.Steady service Unmoved op where
  registered _ _ _ _ := rfl
  turned _ _ _ hturns hfound := hturns.unmoved hfound
  altered _ _ halters hfound := halters.unmoved hfound

theorem preserved_unmoved (config : FabricConfig) (allowed : Fabric → Op → Prop)
    (service : ServiceName) :
    Preserved config allowed fun _ state => state.Each service Unmoved :=
  preserved_each (remarkable_unmoved service) (fun _ _ _ _ _ _ _ _ => steady_unmoved _ _ service)
    (fun _ _ => rfl) (fun _ h => h) fun runtime h hactive => by
      obtain ⟨hsame, htarget, -⟩ := departed_downgradedRuntime runtime
      rw [htarget]
      exact h (hsame.symm.trans hactive)

end Unmoved

/-! ### Runs -/

/-- The calls that can give a service its first placement: one that places it, and a failover
on the command of an operator, which does not look whether there is a placement to leave. -/
inductive Enters (service : ServiceName) : Op → Prop where
  | placement {request : PlacementRequest} : request.service = service →
      Enters service (.establishPlacement request)
  | commanded {request : FailoverRequest} : request.service = service →
      request.trigger ≠ .failureEvidence → Enters service (.requestFailover request)

/-- In some call of the run, since which no process started over with nothing, the attempt
was issued for the service, which the open coordinator found like this. When the coordinator
was next open, it pursued the attempt. -/
def Issued (config : FabricConfig) (moments : List Moment) (fabric : Fabric)
    (service : ServiceName) (attempt : AttemptId) (op : Op) (found : ServiceRuntime) : Prop :=
  ∃ earlier moment later, moments = earlier ++ moment :: later ∧
    (∀ next ∈ moment :: later, ¬next.before.Forgets config next.event) ∧
    moment.before.opened = true ∧ moment.before.state.services.find? service = some found ∧
    moment.Issues (leads later fabric) service op attempt ∧
    ∀ next ∈ (later.map Moment.before ++ [fabric]).find? Fabric.opened,
      next.state.Pursues service attempt

/-- The reference says what a move of the service leaves: its active target, which is valid,
or nothing. -/
def Leaves (runtime : ServiceRuntime) (source : TargetRef) : Prop :=
  source = runtime.active.getD {} ∧ ∀ active ∈ runtime.active, active.valid = true

section Runs

variable {config : FabricConfig} {allowed : Fabric → Op → Prop} {Q : Invariant}
  {moments : List Moment} {moment : Moment} {fabric actor : Fabric} {history past : List Change}
  {change : Change} {service : ServiceName} {held : FenceRecord} {op op' : Op}
  {decision : RecoveryDecision} {move : Move}

/-- The intent of a commit: what it moves, from where, under which attempt. -/
theorem Fabric.Moves.departs {commit : Commit} (h : fabric.Moves move decision commit) :
    ∃ intent held, decision.intent = some intent ∧ intent.service = move.service ∧
      intent.fromTarget = move.source ∧ intent.attempt = held.attempt ∧
      commit.change.holding move.service = some held := by
  cases h with
  | intro hprior hprepare hbefore haccepted hduplicate hplan hintent =>
    exact ⟨_, _, hintent, rfl, rfl, rfl, if_pos rfl⟩

/-- A memory that nothing but new epochs separates from the move of a service pursues the
attempt of its fence record. -/
theorem Grounded.pursues {state : State} {epochs : List Change}
    (h : Grounded config (past ++ [change] ++ epochs) state)
    (hepochs : ∀ change ∈ epochs, ∃ epoch boot, change = .epochAdvanced epoch boot)
    (hholding : change.holding service = some held) : state.Pursues service held.attempt := by
  have hreplayed : (replayed config (past ++ [change] ++ epochs)).fences.find? service =
      some held := by
    clear h
    induction epochs using List.reverseRecOn with
    | nil => rw [List.append_nil, replayed_snoc, find?_fences_apply, hholding, Option.some_or]
    | append_singleton earlier last ih =>
      obtain ⟨epoch, boot, rfl⟩ := hepochs last (by simp)
      rw [← List.append_assoc, replayed_snoc]
      exact ih fun change hmem => hepochs change (List.mem_append_left _ hmem)
  have hfences : state.fences = (replayed config (past ++ [change] ++ epochs)).fences :=
    congrArg Core.fences h.explains.core
  have hfenced : state.fences.find? service = some held := by rw [hfences, hreplayed]
  obtain ⟨-, hard, hhard⟩ := h.sound.fences service held hfenced
  rw [State.core_service] at hhard
  obtain ⟨runtime, hfind, -⟩ := Option.map_eq_some_iff.mp hhard
  refine ⟨runtime, hfind, ?_⟩
  rcases shape_of_sound h.sound hfind with hvacant | ⟨other, hgoverned⟩
  · rw [hvacant.unfenced] at hfenced
    cases hfenced
  · obtain rfl := Option.some.inj (hfenced.symm.trans hgoverned.fenced)
    exact hgoverned.attempt.symm

/-- The call that undertook a change issued the attempt of its fence record. -/
theorem Undertakes.issues {after : Fabric}
    (h : Undertakes Q past change service moment op decision move)
    (hholding : change.holding service = some held) (haccepted : moment.before.Accepts op decision)
    (hsurvives : moment.event = .crash op →
      ∀ state, after.Rereads state → state.Pursues service held.attempt) :
    moment.Issues after service op held.attempt := by
  cases h with
  | @intro actor op op' check runtime qualified decision commit _ hop haccepts _ hmoving _ _ hok
      hmoves hchange =>
    subst hchange
    obtain ⟨hservice, -⟩ := Fabric.moving_move hmoving hok
    obtain ⟨intent, held', hintent, hsame, -, hattempt, hholding'⟩ := hmoves.departs
    obtain rfl : held' = held := by
      cases hmoves with
      | intro =>
        obtain ⟨-, rfl⟩ := Move.of_holding hholding
        obtain ⟨-, rfl⟩ := Move.of_holding hholding'
        rfl
    cases hevent : moment.event with
    | call op' reply =>
      rw [hevent] at hop
      obtain rfl : op' = op := hop
      exact .accepted (haccepts reply hevent) hintent (hsame.trans hservice) hattempt
    | crash op' =>
      rw [hevent] at hop
      obtain rfl : op' = op := hop
      exact .crashed hevent haccepted hintent (hsame.trans hservice) hattempt (hsurvives hevent)

/-- Whether a move resumes is whether its call does. -/
theorem Undertakes.resumes (h : Undertakes Q past change service moment op decision move) :
    change.resumes = op.resumes := by
  cases h with
  | intro _ _ _ hacts hmoving _ _ hok hmoves hchange =>
    rw [← hchange, hmoves.resumes hmoving hok, hacts.resumes]

/-- Only a service that holds a fence can be resumed. -/
theorem Legit.anew {state : State} (h : Legit config state.core change)
    (hsound : state.core.Sound config) (hholding : change.holding service = some held)
    (hnone : state.fences.find? service = none) : change.resumes = false := by
  cases h with
  | granted _ _ _ hmode =>
    rw [Move.change, if_neg hmode]
    rfl
  | renewed _ hfind hminted hmode hprevious _ htarget hincarnation =>
    obtain ⟨rfl, -⟩ := Move.of_holding hholding
    obtain ⟨hrecord, -⟩ := hsound.targets _ _ htarget
    obtain ⟨old, hold, -⟩ :=
      placed_of_renewed (hsound.moved hfind).2 hminted hmode hprevious hrecord hincarnation
    rw [hnone] at hold
    cases hold
  | rewritten =>
    simp only [Change.holding, ite_self] at hholding
    cases hholding
  | _ => cases hholding

/-- A move that does not resume starts from the active target of its service. -/
theorem source_of_moving {check : ServiceRuntime → Check Qualified} {runtime : ServiceRuntime}
    {qualified : Qualified} (hop : fabric.moving op = some (service, check))
    (hok : check runtime = .ok qualified) (hresumes : op.resumes = false) :
    qualified.move.source = runtime.active.getD {} := by
  cases op with
  | establishPlacement request =>
    cases hop
    obtain ⟨-, -, hactive, target, -, -, -, hmove⟩ := Fabric.checkPlacement_ok hok
    rw [hmove, hactive]
    rfl
  | requestFailover request =>
    cases hop
    obtain ⟨-, -, -, -, -, -, evidence, target, -, -, hmove⟩ := Fabric.checkFailover_ok hok
    rw [hmove]
  | resumeRecovery request => cases hresumes
  | requestFailback request =>
    cases hop
    obtain ⟨-, -, -, -, original, record, slot, -, -, -, -, -, -, -, -, hmove⟩ :=
      Fabric.checkFailback_ok hok
    rw [hmove]
  | _ => cases hop

/-- Only some moves do without an active target to start from. -/
theorem enters_of_moving {check : ServiceRuntime → Check Qualified} {runtime : ServiceRuntime}
    {qualified : Qualified} (hacts : fabric.Acts op actor op')
    (hop : actor.moving op' = some (service, check)) (hok : check runtime = .ok qualified)
    (hresumes : op.resumes = false) (hunmoved : Unmoved runtime) (hactive : runtime.active = none) :
    Enters service op := by
  rw [← hacts.resumes] at hresumes
  cases op' with
  | establishPlacement request =>
    cases hop
    cases hacts
    exact .placement rfl
  | requestFailover request =>
    cases hop
    obtain ⟨-, -, -, -, -, -, evidence, target, htrigger, -, -⟩ := Fabric.checkFailover_ok hok
    rcases Fabric.checkTrigger_ok htrigger with ⟨-, found, -, hjustifies⟩ | ⟨hcommand, -⟩
    · have hplaced := hjustifies.active
      rw [hactive] at hplaced
      cases hplaced
    · cases hacts with
      | direct => exact .commanded rfl hcommand
      | confirmed hconfirm => exact (hcommand (if_pos hconfirm)).elim
  | resumeRecovery request => cases hresumes
  | requestFailback request =>
    cases hop
    obtain ⟨-, -, -, -, original, record, slot, horiginal, -⟩ := Fabric.checkFailback_ok hok
    rw [hunmoved hactive] at horiginal
    cases horiginal
  | _ => cases hop

/-- The active target of a service is valid. -/
theorem leaves_of_sound {state : State} {runtime : ServiceRuntime}
    (hsound : state.core.Sound config) (hfind : state.core.services.find? service = some runtime) :
    Leaves runtime (runtime.active.getD {}) := by
  refine ⟨rfl, fun active hactive => ?_⟩
  have hcoherent := hsound.coherent service runtime hfind
  cases hfence : state.core.fences.find? service with
  | none =>
    rw [hfence] at hcoherent
    rw [Option.mem_def, show runtime.active = none from Unplaced.active hcoherent] at hactive
    cases hactive
  | some held =>
    rw [hfence] at hcoherent
    have hplaced : Placed config runtime.authority held := hcoherent
    obtain rfl := Option.some.inj (hplaced.active.symm.trans hactive)
    exact hplaced.valid

/-- Whoever undertook a move found the service as the history before it says. -/
theorem Undertakes.found {P : Invariant}
    (h : Undertakes (Grounds config P) past change service moment op decision move) :
    ∃ found, moment.before.state.services.find? service = some found ∧
      (replayed config past).core.services.find? service = some found.hard := by
  cases h with
  | intro _ _ _ hacts _ hmemory hfind _ _ _ =>
    obtain ⟨found, hfound, hhard⟩ := hacts.service hfind
    refine ⟨found, hfound, ?_⟩
    rw [← hmemory.1.explains.core, core_find?_service hfind, hhard]

/-- The call that a move originates from issued the attempt of its fence record. -/
theorem Originates.issued {P : Invariant} {earlier later : List Moment}
    (h : Originates config allowed (Grounds config P) history past change moment later fabric)
    (hstable : Stable config allowed (Grounds config P))
    (hallowed : allowed moment.before.entered moment.event.op)
    (hsplit : moments = earlier ++ moment :: later)
    (hkept : ∀ next ∈ moment :: later, ¬next.before.Forgets config next.event)
    (hholding : change.holding service = some held) : ∃ op decision move found,
      Undertakes (Grounds config P) past change service moment op decision move ∧
      Issued config moments fabric service held.attempt op found ∧
      moment.before.state.services.find? service = some found ∧
      (replayed config past).core.services.find? service = some found.hard := by
  obtain ⟨op, decision, move, hundertakes, haccepted, ⟨memory, hafter⟩, epochs, hepochs, -,
      hnext⟩ :=
    h.undertakes hstable hallowed hholding
  obtain ⟨found, hfound, hcore⟩ := hundertakes.found
  refine ⟨op, decision, move, found, hundertakes, ⟨earlier, moment, later, hsplit, hkept, ?_,
    hfound, hundertakes.issues hholding haccepted fun hcrash state hread => ?_,
    fun next hopen => ?_⟩,
    hfound, hcore⟩
  · cases hundertakes with
    | intro hopened => exact hopened
  · have hstore : config.storeDirectory = true := by
      have hforgets := hkept moment List.mem_cons_self
      rw [hcrash] at hforgets
      simpa [Fabric.Forgets] using hforgets
    have hgrounded := (hafter.readBack hstable hstore hread).1
    rw [← List.append_nil (past ++ [change])] at hgrounded
    exact hgrounded.pursues (by simp) hholding
  · obtain ⟨memory', hchronicled⟩ := hnext next hopen
    have hopened : next.opened = true := List.find?_some hopen
    exact (hchronicled.running hopened).2.1.pursues hepochs hholding

theorem active_of_hard {found runtime : ServiceRuntime} (h : found.hard = runtime.hard) :
    found.active = runtime.active := by
  have hsame := congrArg ServiceRuntime.active h
  exact hsame

/-- An active placement goes back to a call that found none. -/
theorem Fabric.Run.entered (hrun : Fabric.Run config moments fabric)
    (hopened : fabric.opened = true) {runtime : ServiceRuntime}
    (hfind : fabric.state.services.find? service = some runtime) (hactive : runtime.active ≠ none) :
    ∃ op attempt found, Issued config moments fabric service attempt op found ∧
      found.active = none ∧ Enters service op := by
  have hstable := (preserved_unmoved config (fun _ _ => True) service).stable
  obtain ⟨history, memory, -, hchronicled, horigins⟩ := hrun.originates hstable fun _ _ => trivial
  obtain ⟨-, hgrounded, -⟩ := hchronicled.running hopened
  obtain ⟨held, hheld⟩ : ∃ held, (replayed config history).fences.find? service = some held := by
    have hsame : fabric.state.fences = (replayed config history).fences :=
      congrArg Core.fences hgrounded.explains.core
    rw [← hsame]
    rcases shape_of_sound hgrounded.sound hfind with hvacant | ⟨held, hgoverned⟩
    · exact absurd hvacant.active hactive
    · exact ⟨held, hgoverned.fenced⟩
  obtain ⟨past, change, written, hfront, hholding, hnone⟩ := exists_first_holding hheld
  obtain ⟨earlier, moment, later, hsplit, hkept, horigin⟩ := horigins past change hfront
  obtain ⟨op, decision, move, found, hundertakes, hissued, hfound, -⟩ :=
    horigin.issued hstable trivial hsplit hkept hholding
  have hpast := hgrounded.lawful.of_front ((List.prefix_append _ _).trans hfront)
  have hanew := (hgrounded.lawful past change hfront).anew (soundReplayed hpast) hholding hnone
  rw [hundertakes.resumes] at hanew
  cases hundertakes with
  | @intro actor _ _ _ runtime' _ _ _ _ _ _ hacts hmoving hmemory hfind' hok _ _ =>
    obtain ⟨found', hfound', hhard⟩ := hacts.service hfind'
    obtain rfl := Option.some.inj (hfound.symm.trans hfound')
    obtain ⟨hground, hunmoved⟩ := hmemory
    have hvacant : Vacant actor.state service runtime' := by
      rcases shape_of_sound hground.sound hfind' with hvacant | ⟨held, hgoverned⟩
      · exact hvacant
      · have hsame : actor.state.fences = (replayed config past).fences :=
          congrArg Core.fences hground.explains.core
        have hfenced := hgoverned.fenced
        rw [hsame, hnone] at hfenced
        cases hfenced
    refine ⟨op, written.attempt, found, hissued, ?_,
      enters_of_moving hacts hmoving hok hanew (hunmoved _ hfind') hvacant.active⟩
    rw [active_of_hard hhard]
    exact hvacant.active

/-- The current attempt of a service is the last one that the registries keep. -/
theorem lastAttempt_of_currentAttemptRecord {state : State} {runtime : ServiceRuntime}
    {previous : AttemptRecord} (hsound : state.core.Sound config)
    (hfind : state.services.find? service = some runtime)
    (hprevious : runtime.currentAttemptRecord = some previous)
    (hplaced : ∃ held, state.fences.find? service = some held) :
    lastAttempt state.core service = some previous.authority := by
  obtain ⟨held, hheld⟩ := hplaced
  have hcore : state.core.services.find? service = some runtime.hard := by
    rw [State.core_service, hfind]
    rfl
  have hcoherent := hsound.coherent service _ hcore
  rw [authority_hard, show state.core.fences.find? service = some held from hheld] at hcoherent
  have hlast := last_of_currentAttemptRecord hcoherent hprevious
  rw [lastAttempt, show state.core.services.find? service = _ from hcore, Option.bind_some,
    authority_hard]
  simp only [ServiceRuntime.authority, List.getLast?_map, hlast, Option.map_some]

/-- The last attempt of a service was issued by some call, from where the service was then. -/
theorem Fabric.Run.issued (hrun : Fabric.Run config moments fabric)
    (hopened : fabric.opened = true) {record : AttemptAuthority}
    (hlast : lastAttempt fabric.state.core service = some record) :
    ∃ op found, Issued config moments fabric service record.id op found ∧ op.resumes = false ∧
      OffloadFabric.Leaves found record.fromTarget := by
  have hstable := (preserved_true config fun _ _ => True).stable
  obtain ⟨history, memory, -, hchronicled, horigins⟩ := hrun.originates hstable fun _ _ => trivial
  obtain ⟨-, hgrounded, -⟩ := hchronicled.running hopened
  rw [hgrounded.explains.core] at hlast
  obtain ⟨past, change, hfront, ⟨hanew, ⟨held, hholding, hid⟩, before, hbefore, hsource⟩, -⟩ :=
    exists_issuing hgrounded.lawful hlast
  obtain ⟨earlier, moment, later, hsplit, hkept, horigin⟩ := horigins past change hfront
  obtain ⟨op, decision, move, found, hundertakes, hissued, -, hcore⟩ :=
    horigin.issued hstable trivial hsplit hkept hholding
  rw [hundertakes.resumes] at hanew
  have hpast := hgrounded.lawful.of_front ((List.prefix_append _ _).trans hfront)
  have hleaves := leaves_of_sound (soundReplayed hpast) hbefore
  obtain rfl := Option.some.inj (hbefore.symm.trans hcore)
  rw [hid] at hissued
  rw [hsource]
  exact ⟨op, found, hissued, hanew, hleaves⟩

theorem Fabric.Run.unmoved (hrun : Fabric.Run config moments fabric)
    (hopened : fabric.opened = true) (service : ServiceName) :
    fabric.state.Each service Unmoved := by
  obtain ⟨history, memory, -, hchronicled⟩ :=
    hrun.chronicled (preserved_unmoved config (fun _ _ => True) service).stable fun _ _ => trivial
  exact (hchronicled.running hopened).2.2

/-- A resumed attempt is the last one that the registries keep. -/
theorem lastAttempt_of_resume {check : ServiceRuntime → Check Qualified} {runtime : ServiceRuntime}
    {qualified : Qualified} {commit : Commit} (hsound : fabric.state.core.Sound fabric.config)
    (hop : fabric.moving op = some (service, check))
    (hfind : fabric.state.services.find? service = some runtime)
    (hok : check runtime = .ok qualified)
    (hmoves : fabric.Moves qualified.move decision commit) (hresumes : op.resumes = true)
    (hholding : commit.change.holding service = some held) :
    ∃ previous, lastAttempt fabric.state.core service = some previous ∧
      previous.id = held.attempt ∧ previous.fromTarget = qualified.move.source := by
  obtain ⟨-, hruntime⟩ := Fabric.moving_move hop hok
  have hanew := hmoves.resumes hop hok
  have hlegit := Fabric.Decides.legit hop hfind hok hmoves
  rw [hmoves.core] at hlegit
  have hplaced : ∃ held, fabric.state.fences.find? service = some held := by
    by_contra hnone
    rw [hlegit.anew hsound hholding (Option.eq_none_iff_forall_ne_some.mpr (not_exists.mp hnone)),
      hresumes] at hanew
    cases hanew
  cases op with
  | resumeRecovery request =>
    cases hop
    obtain ⟨-, -, -, previous, target, hprevious, -, -, -, hmove⟩ := Fabric.checkResume_ok hok
    refine ⟨previous.authority,
      lastAttempt_of_currentAttemptRecord hsound hfind hprevious hplaced, ?_, ?_⟩
    · cases hmoves with
      | intro _ hprepare =>
        obtain ⟨-, rfl⟩ := Move.of_holding hholding
        obtain ⟨hminted, -⟩ := prepare_ok hprepare
        obtain ⟨-, -, hattempt, -⟩ := hminted.resumed (by rw [hmove])
        obtain ⟨-, hid⟩ := mem_of_currentAttemptRecord hprevious
        rw [hruntime] at hattempt
        exact hid.trans hattempt.symm
    · rw [hmove]
      rfl
  | _ => cases hresumes

/-- Placements come from calls that place a service, or that an operator commanded. Every
other move starts from the active target of its service, and a resumption from where the
attempt did that it issues again. -/
theorem placement_first (hrun : Fabric.Run config moments fabric)
    (hopened : fabric.opened = true) :
    (∀ service runtime, fabric.state.services.find? service = some runtime →
      runtime.active ≠ none → ∃ op attempt found,
        Issued config moments fabric service attempt op found ∧ found.active = none ∧
        Enters service op) ∧
    ∀ op decision, fabric.Accepts op decision → op.moves = true → ∃ intent runtime,
      decision.intent = some intent ∧
      fabric.state.services.find? intent.service = some runtime ∧
      (op.resumes = false → Leaves runtime intent.fromTarget ∧
        (runtime.active = none → Enters intent.service op)) ∧
      (op.resumes = true → ∃ op' found,
        Issued config moments fabric intent.service intent.attempt op' found ∧
        op'.resumes = false ∧ Leaves found intent.fromTarget) := by
  refine ⟨fun service runtime hfind hactive => hrun.entered hopened hfind hactive,
    fun op decision haccepts hmoves => ?_⟩
  obtain ⟨-, commits, hrelocates⟩ := haccepts.relocates hmoves
  cases hrelocates with
  | @intro actor op' service check runtime qualified _ commit _ hacts hop hfind hok hmoved =>
    obtain ⟨found, hfound, hhard⟩ := hacts.service hfind
    have hfound' : fabric.state.services.find? service = some found := hfound
    obtain ⟨hservice, hruntime⟩ := Fabric.moving_move hop hok
    obtain ⟨intent, held, hintent, hsame, hsource, hattempt, hholding⟩ := hmoved.departs
    rw [hservice] at hsame hholding
    have hactive := active_of_hard hhard
    refine ⟨intent, found, hintent, hsame ▸ hfound', fun hresumes => ?_, fun hresumes => ?_⟩
    · have hleaves := leaves_of_sound hrun.sound (core_find?_service hfound')
      have hfrom := source_of_moving hop hok (hacts.resumes.trans hresumes)
      refine ⟨?_, fun hnone => ?_⟩
      · rw [hsource, hfrom, ← hactive]
        exact hleaves
      · rw [hsame]
        have hentered : fabric.entered.state.Each service Unmoved := hrun.unmoved hopened service
        have hunmoved := hentered.acts (remarkable_unmoved service) hrun.sound
          (steady_unmoved _ _ service) hacts
        exact enters_of_moving hacts hop hok hresumes (hunmoved runtime hfind)
          (hactive.symm.trans hnone)
    · cases hacts with
      | confirmed => cases hresumes
      | direct =>
        obtain ⟨previous, hlast, hid, hfrom⟩ :=
          lastAttempt_of_resume (hrun.configured ▸ hrun.sound) hop hfind hok hmoved hresumes
            hholding
        obtain ⟨op', found, hissued, hanew, hleaves⟩ := hrun.issued hopened hlast
        rw [hid, ← hattempt] at hissued
        rw [hfrom, ← hsource] at hleaves
        rw [hsame]
        exact ⟨op', found, hissued, hanew, hleaves⟩

/-- The call that places a service, and the one that moves it on. -/
theorem placement_first_placed :
    (∃ op attempt found, Issued {} ((Fabric.create {} {}).momentsOf Fleet.placed)
      (Fleet.running Fleet.placed) Fleet.service attempt op found ∧ found.active = none ∧
      Enters Fleet.service op) ∧
    ∃ decision intent runtime, (Fleet.running Fleet.placed).Accepts (Fleet.moveOn 2) decision ∧
      decision.intent = some intent ∧
      (Fleet.running Fleet.placed).state.services.find? intent.service = some runtime ∧
      Leaves runtime intent.fromTarget := by
  have hactive : ((Fleet.running Fleet.placed).state.services.find? Fleet.service).map
      ServiceRuntime.active = some (some (Fleet.booted Fleet.primary 1)) := by
    simp only [Fleet.running, Fabric.after_eq_drafted]
    decide +kernel
  have haccepted : (Fleet.running Fleet.placed).accepted (Fleet.moveOn 2) = true := by
    simp only [Fleet.running, Fabric.after_eq_drafted, Fabric.accepted, Fabric.call_eq_drafted]
    decide +kernel
  obtain ⟨runtime, hfind, hplaced⟩ := Option.map_eq_some_iff.mp hactive
  obtain ⟨decision, haccepts⟩ := Fabric.exists_accepts_of_accepted haccepted
  have hopened : (Fleet.running Fleet.placed).opened = true := by
    simp only [Fleet.running, Fabric.after_eq_drafted]
    decide +kernel
  obtain ⟨hfirst, hmoves⟩ := placement_first (Fleet.run_running Fleet.placed) hopened
  refine ⟨hfirst Fleet.service runtime hfind (by simp [hplaced]), decision, ?_⟩
  obtain ⟨intent, found, hintent, hfound, hleaves, -⟩ := hmoves _ decision haccepts rfl
  exact ⟨intent, found, haccepts, hintent, hfound, (hleaves rfl).1⟩

/-- The service was moved on, and after a restart its new target was vouched for again. -/
def Fleet.interrupted : List Op :=
  placed ++ [moveOn 2, .closeFabric, .openFabric, support (booted secondary 1) 2]

set_option maxRecDepth 100000 in
theorem Fleet.resumes_interrupted :
    (((keeping interrupted).emits (resume 3)).map fun intent => (intent.service, intent.fromTarget),
      ((keeping interrupted).state.services.find? Fleet.service).map ServiceRuntime.active) =
    (some (Fleet.service, booted primary 1), some (some (booted secondary 1))) := by
  have hreopens : ((keeping (placed ++ [moveOn 2])).reopening.map fun fabric =>
      let vouched := fabric.after [support (booted secondary 1) 2]
      ((vouched.emits (resume 3)).map fun intent => (intent.service, intent.fromTarget),
        (vouched.state.services.find? Fleet.service).map ServiceRuntime.active)) =
      some (some (Fleet.service, booted primary 1), some (some (booted secondary 1))) := by
    simp only [Fleet.keeping, Fabric.after_eq_drafted, Fabric.emits, Fabric.call_eq_drafted]
    decide +kernel
  obtain ⟨fabric, hfabric, hfacts⟩ := Option.map_eq_some_iff.mp hreopens
  rw [← hfacts, show interrupted = placed ++ [moveOn 2] ++ [.closeFabric, .openFabric] ++
    [support (booted secondary 1) 2] by simp [interrupted], keeping_reopening hfabric]

/-- The resumption of a failover does not start from where the service is, and a failover that
an operator commands may start from nowhere. -/
theorem not_placement_first :
    (∃ decision intent runtime,
      (Fleet.keeping Fleet.interrupted).Accepts (Fleet.resume 3) decision ∧
      decision.intent = some intent ∧
      (Fleet.keeping Fleet.interrupted).state.services.find? intent.service = some runtime ∧
      runtime.active ≠ some intent.fromTarget) ∧
    ∃ decision intent,
      (Fleet.running (Fleet.opening ++ Fleet.adopt Fleet.primary 1)).Accepts (Fleet.moveOn 1)
        decision ∧
      decision.intent = some intent ∧ intent.fromTarget.valid = false := by
  constructor
  · obtain ⟨hemits, hactive⟩ := Prod.mk.inj Fleet.resumes_interrupted
    obtain ⟨decision, intent, haccepts, hintent, hfrom⟩ := Fabric.exists_accepts_of_emits hemits
    obtain ⟨runtime, hfind, hplaced⟩ := Option.map_eq_some_iff.mp hactive
    obtain ⟨hservice, hsource⟩ := Prod.mk.inj hfrom
    refine ⟨decision, intent, runtime, haccepts, hintent, hservice ▸ hfind, ?_⟩
    rw [hplaced, hsource]
    decide
  · have hemits : ((Fleet.running (Fleet.opening ++ Fleet.adopt Fleet.primary 1)).emits
        (Fleet.moveOn 1)).map (fun intent => intent.fromTarget.valid) = some false := by
      simp only [Fleet.running, Fabric.after_eq_drafted, Fabric.emits, Fabric.call_eq_drafted]
      decide +kernel
    exact Fabric.exists_accepts_of_emits hemits

end Runs

end OffloadFabric
