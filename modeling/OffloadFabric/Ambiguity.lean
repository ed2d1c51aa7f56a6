import OffloadFabric.Succession
import OffloadFabric.Transitions

/-!
Ambiguous failure evidence. No path that commits a recovery looks at the pending ambiguity
of the service. An operator's command, other evidence about the same target and a failback
go through regardless, and so does a resumption once a restart has read back a recovery that
was under way. A request that relies on none of these is refused.
-/
namespace OffloadFabric

open Fabric (Op Moment)

/-- Ambiguous failure evidence about the active target of the service was accepted. -/
def Fabric.Moment.Suspects (moment : Moment) (service : ServiceName) : Prop :=
  ∃ evidence explanation runtime, moment.event =
      .call (.ingestFailure evidence) (.explained .acceptFailureRecorded explanation) ∧
    evidence.service = service ∧ evidence.ambiguity ≠ .unambiguous ∧
    moment.before.state.services.find? service = some runtime ∧
    runtime.active = some evidence.target

/-- The request goes past a pending ambiguity of the service. -/
inductive Fabric.Overrides (fabric : Fabric) (service : ServiceName) : Op → Prop where
  | command {request : FailoverRequest} : request.service = service →
      request.trigger ≠ .failureEvidence → request.operatorAuthorized = true →
      fabric.state.roleSatisfies request.requester .operator = true →
      Overrides fabric service (.requestFailover request)
  | evidence {request : FailoverRequest} {runtime : ServiceRuntime} {evidence : FailureEvidence} :
      request.service = service → request.trigger = .failureEvidence →
      fabric.state.services.find? service = some runtime →
      Fabric.Justifies fabric.state request runtime evidence →
      Overrides fabric service (.requestFailover request)
  | failback {request : FailbackRequest} {runtime : ServiceRuntime} {original : TargetRef}
      {record : TargetRecord} : request.service = service →
      fabric.state.services.find? service = some runtime → runtime.failoverRecorded = true →
      runtime.preFailoverTarget = some original →
      fabric.state.targets.find? original.target = some record →
      original.incarnation < record.incarnation →
      Overrides fabric service (.requestFailback request)

/-- Nothing that the directory holds of the service was under way. -/
def Settled (fabric : Fabric) (service : ServiceName) : Prop :=
  ∀ found base state runtime,
    Store.open (Fabric.storeOptions fabric.config) fabric.disk = .ok found →
    loadBase fabric.config found.snapshot = .ok base →
    replay fabric.config base found.records = (state, true) →
    state.services.find? service = some runtime → runtime.recovery.interrupted = false

/-- The service that a failover, a resumption or a failback is about. -/
def Fabric.Op.recovers : Op → Option ServiceName
  | .requestFailover request | .resumeRecovery request => some request.service
  | .requestFailback request => some request.service
  | _ => none

/-- The service has nothing to resume. -/
def Unresumable (service : ServiceName) (state : State) : Prop :=
  state.Each service fun runtime => runtime.recovery ≠ .intentRecorded

/-! ### A placed service stays placed -/

section Placed

variable {config : FabricConfig} {past history : List Change} {moments earlier later : List Moment}
  {moment : Moment} {fabric : Fabric} {service : ServiceName} {runtime : ServiceRuntime}

/-- A history keeps every fence of its beginnings. -/
theorem fenced_of_front (hfront : past <+: history)
    (h : ((replayed config past).fences.find? service).isSome = true) :
    ((replayed config history).fences.find? service).isSome = true := by
  obtain ⟨added, rfl⟩ := hfront
  induction added using List.reverseRecOn with
  | nil => simpa using h
  | append_singleton added change ih =>
    rw [← List.append_assoc, replayed_snoc, find?_fences_apply, Option.isSome_or, ih, Bool.or_true]

theorem Fabric.Run.active_iff_fenced (hrun : Fabric.Run config moments fabric)
    (hfind : fabric.state.services.find? service = some runtime) :
    runtime.active.isSome = true ↔ (fabric.state.fences.find? service).isSome = true := by
  have hcoherent := hrun.sound.coherent service runtime.hard (by
    rw [State.core_service, hfind]
    rfl)
  rw [authority_hard] at hcoherent
  cases hfence : fabric.state.fences.find? service with
  | none =>
    rw [show fabric.state.core.fences.find? service = none from hfence] at hcoherent
    have hactive : runtime.active = none := hcoherent.active
    rw [hactive]
    rfl
  | some held =>
    rw [show fabric.state.core.fences.find? service = some held from hfence] at hcoherent
    have hplaced : Placed config runtime.authority held := hcoherent
    have hactive : runtime.active = some held.holder := hplaced.active
    rw [hactive]
    rfl

/-- Until the process forgets everything, a service that has an active target keeps one. -/
theorem Fabric.Run.still_placed (hrun : Fabric.Run config moments fabric)
    (hsplit : moments = earlier ++ moment :: later) (hopened : moment.before.opened = true)
    (hfind : moment.before.state.services.find? service = some runtime)
    (hactive : runtime.active.isSome = true)
    (hkept : ∀ next ∈ moment :: later, ¬next.before.Forgets config next.event)
    (hopened' : fabric.opened = true) :
    fabric.state.Each service fun runtime => runtime.active.isSome = true := by
  obtain ⟨history, memory, -, hchronicled, hstaged⟩ :=
    hrun.staged (preserved_true config fun _ _ => True).stable fun _ _ => trivial
  obtain ⟨past, memory', hpast⟩ := hstaged earlier moment later hsplit
  obtain ⟨-, hbefore, -⟩ := hpast.chronicled.running hopened
  obtain ⟨-, hgrounded, -⟩ := hchronicled.running hopened'
  obtain ⟨hrun', -⟩ := hrun.front hsplit
  obtain ⟨added, -, hfront⟩ := hpast.kept hkept
  intro next hnext
  rw [hrun.active_iff_fenced hnext]
  have hfences : fabric.state.fences = (replayed config history).fences :=
    congrArg Core.fences hgrounded.explains.core
  have hfences' : moment.before.state.fences = (replayed config past).fences :=
    congrArg Core.fences hbefore.explains.core
  rw [hfences]
  refine fenced_of_front ((List.prefix_append past added).trans hfront) ?_
  rw [← hfences', ← hrun'.active_iff_fenced hfind]
  exact hactive

end Placed

/-! ### Nothing to resume -/

section Unresumable

variable {config : FabricConfig} {fabric caller actor : Fabric} {op op' : Op} {moment : Moment}
  {service : ServiceName} {found next : ServiceRuntime} {old state : State}

theorem remarkable_unresumable (service : ServiceName) :
    Remarkable service fun runtime => runtime.recovery ≠ .intentRecorded := by
  intro state runtime remark _ _ hrecovery
  cases remark with
  | nothing => exact hrecovery
  | reason code => exact hrecovery
  | suspension id => exact nofun
  | returned => exact hrecovery

/-- Only a first placement leaves something to resume. -/
theorem Fabric.Turns.unresumable (h : fabric.Turns service op found next)
    (hrecovery : found.recovery ≠ .intentRecorded) (hactive : found.active.isSome = true) :
    next.recovery ≠ .intentRecorded := by
  cases h with
  | @moved op check runtime qualified grant config state hop hok _ =>
    have hmode : qualified.move.mode ≠ .initialPlacement := by
      cases op with
      | establishPlacement request =>
        cases hop
        rw [(Fabric.checkPlacement_ok hok).2.2.1] at hactive
        cases hactive
      | requestFailover request =>
        cases hop
        obtain ⟨-, -, -, -, -, -, evidence, target, -, -, hmove⟩ := Fabric.checkFailover_ok hok
        rw [hmove]
        exact nofun
      | resumeRecovery request =>
        cases hop
        obtain ⟨-, -, -, previous, target, -, -, -, -, hmove⟩ := Fabric.checkResume_ok hok
        rw [hmove]
        exact nofun
      | requestFailback request =>
        cases hop
        obtain ⟨-, -, -, -, original, record, slot, -, -, -, -, -, -, -, -, hmove⟩ :=
          Fabric.checkFailback_ok hok
        rw [hmove]
        exact nofun
      | _ => cases hop
    have hauthorized : (qualified.move.nextRuntime grant config state).recovery = .authorized := by
      simp only [Move.nextRuntime, Move.settled, hmode, if_false, Move.departed]
      split <;> rfl
    rw [hauthorized]
    exact nofun
  | denied => exact nofun
  | acknowledged =>
    unfold Fabric.acknowledgedRuntime
    dsimp only
    split
    · dsimp only
      split
      · exact nofun
      · exact hrecovery
    · exact nofun
  | reported _ _ _ hcheck =>
    obtain ⟨-, -, happly⟩ := Fabric.checkEffect_ok hcheck
    cases Fabric.applyEffect_ok happly with
    | negative | activated | deactivated | healthy => exact nofun
    | transferred => exact hrecovery

theorem Fabric.Alters.unresumable (h : fabric.Alters service op found next)
    (hrecovery : found.recovery ≠ .intentRecorded) : next.recovery ≠ .intentRecorded := by
  cases h with
  | withdrawn => exact nofun
  | suspected => exact nofun
  | confirmed => exact hrecovery

/-- While the service is placed, no call leaves something to resume. -/
theorem Unresumable.steady
    (hplaced : actor.state.Each service fun runtime => runtime.active.isSome = true) :
    actor.Steady service (fun runtime => runtime.recovery ≠ .intentRecorded) op where
  registered _ _ _ := nofun
  turned found _ hfind hturns hrecovery := hturns.unresumable hrecovery (hplaced found hfind)
  altered _ _ halters hrecovery := halters.unresumable hrecovery

/-- A placed service is placed for whoever acts in a call. -/
theorem Fabric.Acts.placed (hacts : caller.Acts op actor op')
    (hplaced : caller.state.Each service fun runtime => runtime.active.isSome = true) :
    actor.state.Each service fun runtime => runtime.active.isSome = true := by
  intro runtime hfind
  have hsome : (actor.state.core.services.find? service) = some runtime.hard := by
    rw [State.core_service, hfind]
    rfl
  rw [hacts.same.1, State.core_service] at hsome
  obtain ⟨earlier, hearlier, hhard⟩ := Option.map_eq_some_iff.mp hsome
  have hactive : earlier.hard.active = runtime.hard.active := congrArg _ hhard
  have hsame : earlier.active = runtime.active := hactive
  rw [← hsame]
  exact hplaced earlier hearlier

/-- A restart leaves nothing to resume of a service that was settled. -/
theorem unresumable_restarted
    (h : ∀ runtime, old.services.find? service = some runtime →
      runtime.recovery.interrupted = false) : Unresumable service (restartedState old) := by
  intro runtime hfind
  simp only [restartedState, OrderedMap.find?_mapValues] at hfind
  obtain ⟨earlier, hearlier, rfl⟩ := Option.map_eq_some_iff.mp hfind
  have hsettled := h earlier hearlier
  have hrecovery : (downgradedRuntime earlier).recovery = earlier.recovery := by
    unfold downgradedRuntime
    dsimp only
    rw [if_neg (by simp [hsettled])]
    split <;> rfl
  rw [hrecovery]
  intro hintent
  rw [hintent] at hsettled
  cases hsettled

theorem fails_checkFailureEvidence (fabric : Fabric) (evidence : FailureEvidence) :
    (fabric.checkFailureEvidence evidence).Fails
      fun refused => refused.code ≠ .acceptFailureRecorded := by
  refine .require nofun fun _ => .require nofun fun _ => .demand nofun fun _ _ =>
    .demand nofun fun _ _ => .require nofun fun _ => .bind ?_ fun _ _ => .bind ?_ fun _ _ =>
    .require nofun fun _ => .require nofun fun _ => .require nofun fun _ =>
    .require nofun fun _ => .require nofun fun _ => .require nofun fun _ => ?_
  · exact .require nofun fun _ => .require_last nofun
  · unfold Fabric.checkWatermark
    dsimp only
    split
    · exact .pure _
    · exact .require nofun fun _ => .require nofun fun _ => .require_last nofun
  · unfold Fabric.checkEvidenceId
    dsimp only
    split
    · exact .pure _
    split
    · exact .pure _
    · exact .require (by intro h; cases h) fun _ => .throw (by intro h; cases h)

theorem fails_checkIngestFailure (fabric : Fabric) (evidence : FailureEvidence) :
    (fabric.checkIngestFailure evidence).Fails
      fun refused => refused.code ≠ .acceptFailureRecorded := by
  refine .bind (fails_checkFailureEvidence fabric evidence) fun _ _ => .demand nofun fun _ _ =>
    .bind ?_ fun _ _ => ?_
  · unfold Fabric.assignEvidenceId
    split
    · exact .pure _
    · exact .require (by intro h; cases h) fun _ => .pure _
  · dsimp only
    split <;> exact .pure _

end Unresumable

/-! ### Runs -/

section Runs

variable {config : FabricConfig} {moments earlier between later : List Moment} {fabric : Fabric}
  {suspected moment : Moment} {op : Op} {service : ServiceName} {decision : RecoveryDecision}

/-- An accepted suspicion is made by an open process, and leaves nothing to resume. -/
theorem Fabric.Moment.Suspects.unresumable {fabric' : Fabric} (h : suspected.Suspects service)
    (hstep : Fabric.Step suspected.before suspected.event fabric') :
    suspected.before.opened = true ∧ Unresumable service fabric'.state := by
  obtain ⟨evidence, explanation, runtime, hevent, rfl, hambiguous, -, -⟩ := h
  obtain ⟨commits, hpasses, hanswers⟩ := Moment.passes hevent nofun nofun hstep
  obtain ⟨proposal, commit, hok, rfl, hwrites⟩ := Moment.committed hevent rfl (by decide)
    (fails_checkIngestFailure _ _) hstep hanswers
  have hop : suspected.before.entered.ingestion (.ingestFailure evidence) =
      some (suspected.before.entered.checkIngestFailure evidence) := rfl
  have hopened : suspected.before.entered.opened = true := Fabric.opened_of_ingestion hop hok
  obtain ⟨-, stamp, id, -, -, -, hupdate⟩ := Fabric.checkIngestFailure_ok hok
  rw [if_neg hambiguous] at hupdate
  refine ⟨hopened, ?_⟩
  cases hpasses with
  | commit _ hrest =>
    cases hrest with
    | keeps hkeeps =>
      refine State.Each.keeps (fun found hfind => ?_) (remarkable_unresumable _) hkeeps
      rw [hwrites.after, hupdate, State.services_bump, State.find?_modifyService, if_pos rfl]
        at hfind
      obtain ⟨earlier, -, rfl⟩ := Option.map_eq_some_iff.mp hfind
      exact nofun

/-- From a suspicion on, as long as the process remembers and every restart finds the service
settled, there is nothing to resume. -/
theorem Fabric.Run.unresumable (hrun : Fabric.Run config moments fabric)
    (hsplit : moments = earlier ++ suspected :: between) (hsuspects : suspected.Suspects service)
    (hkept : ∀ next ∈ between, ¬next.before.Forgets config next.event)
    (hsettled : ∀ next ∈ between, next.event.op = .openFabric → Settled next.before service)
    (hopened : fabric.opened = true) : Unresumable service fabric.state := by
  have honward := hrun.onward (P := fun between fabric =>
      (∀ next ∈ between, ¬next.before.Forgets config next.event) →
      (∀ next ∈ between, next.event.op = .openFabric → Settled next.before service) →
      fabric.opened = true → Unresumable service fabric.state) hsplit
    (fun fabric' _ hstep _ _ _ => (hsuspects.unresumable hstep).2)
    fun {between fabric event fabric'} hrun hstep ih hkept hsettled hopened' => by
      have hlast := hsettled { before := fabric, event } (by simp)
      have hbefore := ih (fun next hnext => hkept next (List.mem_append_left _ hnext))
        fun next hnext => hsettled next (List.mem_append_left _ hnext)
      cases hstep with
      | crash => cases hopened'
      | call op =>
        by_cases hopened : fabric.opened = true
        · have hplaced : fabric.state.Each service fun runtime => runtime.active.isSome = true := by
            obtain ⟨hrun', fabric₁, hstep⟩ := hrun.front rfl
            obtain ⟨hopened₁, -⟩ := hsuspects.unresumable hstep
            obtain ⟨evidence, explanation, runtime, hevent, -, -, hfind, hactive⟩ := id hsuspects
            refine hrun.still_placed rfl hopened₁ hfind (by rw [hactive]; rfl)
              (fun next hnext => ?_) hopened
            rcases List.mem_cons.mp hnext with rfl | hnext
            · rw [hevent]
              exact fun hforgets => by cases hforgets.2.1
            · exact hkept next (List.mem_append_left _ hnext)
          have hentered : fabric.entered.state.Each service
              fun runtime => runtime.active.isSome = true := hplaced
          exact State.Each.call (hbefore hopened) (remarkable_unresumable service) hrun.sound
            (fun actor op' hacts _ => Unresumable.steady (hacts.placed hentered)) fun _ => hopened
        · have hclosed : fabric.opened = false := by simpa using hopened
          by_cases hopen : op = .openFabric
          · subst hopen
            obtain ⟨-, hawakens⟩ := Fabric.call_awakens hclosed hopened'
            cases hawakens with
            | fresh hkeeps =>
              refine State.Each.keeps (fun runtime hfind => ?_) (remarkable_unresumable _) hkeeps
              cases hfind
            | restarted _ hfound hload hreplay _ hkeeps =>
              have hstands := unresumable_restarted fun runtime hfind =>
                hlast rfl _ _ _ runtime hfound hload hreplay hfind
              exact State.Each.keeps hstands (remarkable_unresumable _) hkeeps
          · rw [Fabric.call_closed hclosed hopen] at hopened'
            cases hopened'
  exact honward hkept hsettled hopened

/-- An accepted recovery call that is no resumption goes past every pending ambiguity. -/
theorem Fabric.Accepts.overrides (h : fabric.Accepts op decision)
    (hop : op.recovers = some service) :
    fabric.Overrides service op ∨ ∃ runtime, fabric.state.services.find? service = some runtime ∧
      runtime.recovery = .intentRecorded := by
  have hmoves : op.moves = true := by
    cases op with
    | requestFailover | resumeRecovery | requestFailback => rfl
    | _ => cases hop
  obtain ⟨-, commits, hrelocates⟩ := h.relocates hmoves
  cases hrelocates with
  | @intro actor op' name check runtime qualified promotions commit _ hacts hmoving hfind hok _ =>
    cases hacts with
    | confirmed => cases hop
    | direct =>
      cases op with
      | requestFailover request =>
        obtain rfl := Option.some.inj hop
        cases hmoving
        obtain ⟨-, -, -, -, -, -, evidence, target, htrigger, -⟩ := Fabric.checkFailover_ok hok
        rcases Fabric.checkTrigger_ok htrigger with
          ⟨hevidence, found, -, hjustifies⟩ | ⟨hother, -, hauthorized, hrole⟩
        · exact Or.inl (.evidence rfl hevidence hfind hjustifies)
        · exact Or.inl (.command rfl hother hauthorized hrole)
      | resumeRecovery request =>
        obtain rfl := Option.some.inj hop
        cases hmoving
        exact Or.inr ⟨runtime, hfind, (Fabric.checkResume_ok hok).2.1⟩
      | requestFailback request =>
        obtain rfl := Option.some.inj hop
        cases hmoving
        obtain ⟨hrecorded, -, -, -, original, record, slot, horiginal, hrecord, hnewer, -⟩ :=
          Fabric.checkFailback_ok hok
        exact Or.inl (.failback rfl hfind hrecorded horiginal hrecord hnewer)
      | _ => cases hop

/-- A resumption goes past no ambiguity. -/
theorem not_overrides_resume (fabric : Fabric) (service : ServiceName) (request : FailoverRequest) :
    ¬fabric.Overrides service (.resumeRecovery request) := nofun

/-- In every run, once ambiguous evidence about the active target of a service was accepted, no
recovery of the service is committed by a request that does not go past the ambiguity, as long
as the process remembers and no restart finds a recovery of the service under way. -/
theorem ambiguity_blocks (hrun : Fabric.Run config moments fabric)
    (hsplit : moments = earlier ++ suspected :: (between ++ moment :: later))
    (hsuspects : suspected.Suspects service)
    (hkept : ∀ next ∈ between, ¬next.before.Forgets config next.event)
    (hsettled : ∀ next ∈ between, next.event.op = .openFabric → Settled next.before service)
    (hheeds : ¬moment.before.Overrides service moment.event.op)
    (haccepts : moment.Accepts op decision) :
    op.recovers ≠ some service := by
  intro hop
  have hfront : moments = (earlier ++ suspected :: between) ++ moment :: later := by
    rw [hsplit, List.append_assoc, List.cons_append]
  obtain ⟨hbefore, -⟩ := hrun.front hfront
  have hmem : moment ∈ moments := by simp [hfront]
  obtain ⟨-, haccepted⟩ := hrun.accepts hmem haccepts
  have hmoves : op.moves = true := by
    cases op with
    | requestFailover | resumeRecovery | requestFailback => rfl
    | _ => cases hop
  obtain ⟨hopened, -⟩ := haccepted.relocates hmoves
  rcases haccepted.overrides hop with hoverrides | ⟨runtime, hfind, hrecovery⟩
  · rw [show moment.event.op = op by rw [haccepts.1]; rfl] at hheeds
    exact hheeds hoverrides
  · exact hbefore.unresumable rfl hsuspects hkept hsettled hopened runtime hfind hrecovery

/-! ### A suspicion about the first target -/

def Fleet.resume (key : UInt64) : Op :=
  .resumeRecovery { key := ⟨key⟩, service := Fleet.service, requester := operator }

theorem Fabric.suspects {sequence : UInt64}
    (hexplains : fabric.explains (Fleet.reportFailure sequence .ambiguous) =
      some .acceptFailureRecorded)
    (hactive : (fabric.state.services.find? Fleet.service).map ServiceRuntime.active =
      some (some (Fleet.booted Fleet.primary 1))) :
    Moment.Suspects
      { before := fabric
        event := .call (Fleet.reportFailure sequence .ambiguous)
          (fabric.call (Fleet.reportFailure sequence .ambiguous)).1 } Fleet.service := by
  obtain ⟨explanation, hreply⟩ := Fabric.exists_explained_of_explains hexplains
  obtain ⟨runtime, hfind, hactive⟩ := Option.map_eq_some_iff.mp hactive
  rw [hreply]
  exact ⟨_, explanation, runtime, rfl, rfl, nofun, hfind, hactive⟩

/-- The placement of a suspected service is not issued again. -/
theorem ambiguity_blocks_resume : ¬∃ decision,
    ((Fleet.running Fleet.placed).call (Fleet.reportFailure 1 .ambiguous)).2.Accepts
      (Fleet.resume 2) decision := by
  have hrefuses {moments : List Moment} {fabric : Fabric} (hrun : Fabric.Run {} moments fabric)
      (hexplains : fabric.explains (Fleet.reportFailure 1 .ambiguous) =
        some .acceptFailureRecorded)
      (hactive : (fabric.state.services.find? Fleet.service).map ServiceRuntime.active =
        some (some (Fleet.booted Fleet.primary 1))) :
      ¬∃ decision, (fabric.call (Fleet.reportFailure 1 .ambiguous)).2.Accepts
        (Fleet.resume 2) decision := by
    rintro ⟨decision, haccepts⟩
    have hnext := (hrun.step (.call fabric (Fleet.reportFailure 1 .ambiguous))).step
      (.call _ (Fleet.resume 2))
    exact ambiguity_blocks hnext (List.append_assoc _ _ ([] ++ [_]))
      (Fabric.suspects hexplains hactive) (fun _ hnext => absurd hnext List.not_mem_nil)
      (fun _ hnext => absurd hnext List.not_mem_nil) (not_overrides_resume _ _ _)
      haccepts.asMoment rfl
  have hexplains : (Fleet.running Fleet.placed).explains (Fleet.reportFailure 1 .ambiguous) =
      some .acceptFailureRecorded := by
    simp only [Fleet.running, Fabric.after_eq_drafted, Fabric.explains, Fabric.call_eq_drafted]
    decide +kernel
  have hactive : ((Fleet.running Fleet.placed).state.services.find? Fleet.service).map
      ServiceRuntime.active = some (some (Fleet.booted Fleet.primary 1)) := by
    simp only [Fleet.running, Fabric.after_eq_drafted]
    decide +kernel
  exact hrefuses (Fleet.run_running Fleet.placed) hexplains hactive

/-- The service is moved away on earlier evidence, although later evidence about the same
target is ambiguous and nobody resolved it. -/
theorem not_ambiguity_blocks : ∃ (earlier : List Moment) (suspected moment : Moment)
    (fabric : Fabric) (decision : RecoveryDecision),
    Fabric.Run {} (earlier ++ suspected :: [moment]) fabric ∧
    suspected.Suspects Fleet.service ∧ moment.Accepts (Fleet.moveAway 2 1) decision ∧
    (Fleet.moveAway 2 1).recovers = some Fleet.service := by
  have hexplains : ((Fabric.create {} {}).after (Fleet.placed ++
      [Fleet.reportFailure 1 .unambiguous])).explains (Fleet.reportFailure 2 .ambiguous) =
        some .acceptFailureRecorded := by
    simp only [Fabric.after_eq_drafted, Fabric.explains, Fabric.call_eq_drafted]
    decide +kernel
  have hactive : (((Fabric.create {} {}).after (Fleet.placed ++
      [Fleet.reportFailure 1 .unambiguous])).state.services.find? Fleet.service).map
        ServiceRuntime.active = some (some (Fleet.booted Fleet.primary 1)) := by
    simp only [Fabric.after_eq_drafted]
    decide +kernel
  have haccepted : (((Fabric.create {} {}).after (Fleet.placed ++
      [Fleet.reportFailure 1 .unambiguous])).call (Fleet.reportFailure 2 .ambiguous)).2.accepted
        (Fleet.moveAway 2 1) = true := by
    simp only [Fabric.after_eq_drafted, Fabric.accepted, Fabric.call_eq_drafted]
    decide +kernel
  obtain ⟨decision, haccepts⟩ := Fabric.exists_accepts_of_accepted haccepted
  have hrun := Fleet.run_running ((Fleet.placed ++ [Fleet.reportFailure 1 .unambiguous]) ++
    Fleet.reportFailure 2 .ambiguous :: [Fleet.moveAway 2 1])
  rw [Fabric.momentsOf_split] at hrun
  exact ⟨_, _, _, _, decision, hrun, Fabric.suspects hexplains hactive, haccepts.asMoment, rfl⟩

end Runs

end OffloadFabric
