import OffloadFabric.Transitions

/-!
Withdrawn services. Placements, failovers and resumptions look whether a service was
withdrawn, but suspicions, denials, refused intents, effects and failbacks do not, and a
restart only looks at how far the recovery was. In a run in which none of these reaches a
withdrawn service, withdrawal is terminal.
-/
namespace OffloadFabric

open Fabric (Op Moment)

/-- The service is withdrawn wherever it is registered. -/
def Withdrawn (service : ServiceName) (state : State) : Prop :=
  state.Each service fun runtime => runtime.lifecycle = .withdrawn

/-- The call does nothing that brings a withdrawn service back: whatever would be carried out
without a look at the withdrawal is not asked for. -/
structure Harmless (fabric : Fabric) (service : ServiceName) (op : Op) : Prop where
  suspicion : ∀ evidence, op = .ingestFailure evidence → evidence.service = service →
    fabric.Credible evidence → evidence.ambiguity = .unambiguous
  denial : ∀ resolution runtime outcome, op = .resolveAmbiguity resolution →
    resolution.service = service → fabric.state.services.find? service = some runtime →
    fabric.checkResolution resolution runtime = .ok outcome → resolution.confirmFailure = true
  acknowledgement : ∀ ack runtime stamp, op = .acknowledgeIntent ack →
    fabric.state.services.find? service = some runtime → runtime.currentAttempt = ack.attempt →
    fabric.checkAcknowledgement ack runtime = .ok stamp → ack.accepted = true
  effect : ∀ report runtime, op = .reportEffect report → report.service = service →
    fabric.state.services.find? service = some runtime →
    fabric.checkReport report runtime = .ok () → Fabric.alreadySeen report runtime = false →
    (runtime.recovery = .verified → report.kind = .serviceHealthy) →
    report.result = .positive ∧ (report.kind = .serviceHealthy → runtime.activationAccepted = false)
  failback : ∀ request runtime qualified, op = .requestFailback request →
    request.service = service → fabric.state.services.find? service = some runtime →
    fabric.checkFailback request runtime ≠ .ok qualified

/-- The recovery of a withdrawn service is settled in what the directory holds, so that a
restart leaves the service alone. -/
def Rests (fabric : Fabric) (service : ServiceName) : Prop :=
  ∀ found base state runtime,
    Store.open (Fabric.storeOptions fabric.config) fabric.disk = .ok found →
    loadBase fabric.config found.snapshot = .ok base →
    replay fabric.config base found.records = (state, true) →
    state.services.find? service = some runtime → runtime.lifecycle = .withdrawn →
    runtime.recovery.interrupted = false ∧ runtime.recovery ≠ .ambiguityPending

/-- A withdrawn service is left alone by the call, and by every open that reads a store. -/
structure Respects (service : ServiceName) (fabric : Fabric) (op : Op) : Prop where
  harmless : Withdrawn service fabric.state → Harmless fabric service op
  replays : op = .openFabric → fabric.ReplaysAll
  rests : op = .openFabric → Rests fabric service

section Commits

variable {config : FabricConfig} {fabric caller actor : Fabric} {op op' : Op} {commit : Commit}
  {service : ServiceName} {state state' : State} {found next : ServiceRuntime}

/-- No check of a move that reaches a withdrawn service lets it pass. -/
theorem Harmless.not_qualified {check : ServiceRuntime → Check Qualified} {qualified : Qualified}
    (h : Harmless fabric service op) (hop : fabric.moving op = some (service, check))
    (hfind : fabric.state.services.find? service = some found)
    (hlifecycle : found.lifecycle = .withdrawn) : check found ≠ .ok qualified := by
  intro hok
  cases op with
  | establishPlacement request =>
    cases hop
    exact (Fabric.checkPlacement_ok hok).2.1 hlifecycle
  | requestFailover request =>
    cases hop
    exact (Fabric.checkFailover_ok hok).1 hlifecycle
  | resumeRecovery request =>
    cases hop
    exact (Fabric.checkResume_ok hok).1 hlifecycle
  | requestFailback request =>
    cases hop
    exact h.failback request found _ rfl rfl hfind hok
  | _ => cases hop

/-- A harmless call that turns a withdrawn runtime leaves it withdrawn. -/
theorem Fabric.Turns.keeps_withdrawn (h : fabric.Turns service op found next)
    (hfind : fabric.state.services.find? service = some found)
    (hlifecycle : found.lifecycle = .withdrawn) (hharmless : Harmless fabric service op) :
    next.lifecycle = .withdrawn := by
  cases h with
  | moved grant config state hop hok _ =>
    exact absurd hok (hharmless.not_qualified hop hfind hlifecycle)
  | denied hservice hcheck hconfirm =>
    have hconfirmed := hharmless.denial _ found _ rfl hservice hfind hcheck
    rw [hconfirm] at hconfirmed
    cases hconfirmed
  | acknowledged hattempt hcheck =>
    have haccepted := hharmless.acknowledgement _ found _ rfl hfind hattempt hcheck
    simp only [Fabric.acknowledgedRuntime, haccepted, if_true]
    exact hlifecycle
  | reported hservice hreport hseen hcheck =>
    obtain ⟨hverified, -, happly⟩ := Fabric.checkEffect_ok hcheck
    obtain ⟨hpositive, hhealthy⟩ :=
      hharmless.effect _ found rfl hservice hfind hreport hseen hverified
    cases Fabric.applyEffect_ok happly with
    | negative hnegative =>
      rw [hpositive] at hnegative
      cases hnegative
    | activated | deactivated | transferred => exact hlifecycle
    | healthy _ hkind hactivated =>
      rw [hhealthy hkind] at hactivated
      cases hactivated

theorem Fabric.Alters.keeps_withdrawn (h : fabric.Alters service op found next)
    (hlifecycle : found.lifecycle = .withdrawn) (hharmless : Harmless fabric service op) :
    next.lifecycle = .withdrawn := by
  cases h with
  | withdrawn stamp => rfl
  | suspected id stamp hservice hcredible hambiguous =>
    exact absurd (hharmless.suspicion _ rfl hservice hcredible) hambiguous
  | confirmed => exact hlifecycle

theorem remarkable_withdrawn (service : ServiceName) :
    Remarkable service fun runtime => runtime.lifecycle = .withdrawn := by
  intro state runtime remark hfind hadmitted hlifecycle
  cases remark with
  | nothing => exact hlifecycle
  | reason code => exact hlifecycle
  | suspension id =>
    obtain ⟨other, _, _, hother, hnot, -⟩ := hadmitted
    obtain rfl := Option.some.inj (hfind.symm.trans hother)
    exact absurd hlifecycle hnot
  | returned => exact hlifecycle

/-- A harmless call that does not register the service keeps it withdrawn. -/
theorem Harmless.steady (h : Harmless fabric service op)
    (hregisters : ¬fabric.Registers service op) :
    fabric.Steady service (fun runtime => runtime.lifecycle = .withdrawn) op where
  registered _ _ hregistered := absurd hregistered hregisters
  turned _ _ hfind hturns hlifecycle := hturns.keeps_withdrawn hfind hlifecycle h
  altered _ _ halters hlifecycle := halters.keeps_withdrawn hlifecycle h

theorem Respects.entered (h : Respects service fabric op) : Respects service fabric.entered op where
  harmless hwithdrawn :=
    have hharmless := h.harmless hwithdrawn
    { suspicion := fun evidence hop hservice hcredible =>
        hharmless.suspicion evidence hop hservice ⟨hcredible.role, hcredible.epoch,
          hcredible.boot, hcredible.topology, hcredible.policy, hcredible.service,
          hcredible.target, hcredible.fresh, hcredible.sequence, hcredible.id⟩
      denial := hharmless.denial
      acknowledgement := hharmless.acknowledgement
      effect := hharmless.effect
      failback := hharmless.failback }
  replays := h.replays
  rests := h.rests

/-- Only the call itself can be a suspicion, a denial, a report or a failback. -/
theorem Respects.acting (h : Respects service caller op) (hacts : caller.Acts op actor op')
    (hwithdrawn : Withdrawn service actor.state) : Harmless actor service op' := by
  cases hacts with
  | direct => exact h.harmless hwithdrawn
  | confirmed =>
    exact
      { suspicion := fun _ hop => by cases hop
        denial := fun _ _ _ hop => by cases hop
        acknowledgement := fun _ _ _ hop => by cases hop
        effect := fun _ _ hop => by cases hop
        failback := fun _ _ _ hop => by cases hop }

/-- Only the call itself can be a registration. -/
theorem Respects.steady (h : Respects service caller op) (hregisters : ¬caller.Registers service op)
    (hacts : caller.Acts op actor op') (hwithdrawn : Withdrawn service actor.state) :
    actor.Steady service (fun runtime => runtime.lifecycle = .withdrawn) op' := by
  refine (h.acting hacts hwithdrawn).steady fun hregistered => ?_
  cases hacts with
  | direct => exact hregisters hregistered
  | confirmed =>
    obtain ⟨_, _, _, hop, -⟩ := hregistered
    cases hop

theorem Fabric.Registers.unregistered (h : fabric.Registers service op) :
    fabric.state.services.find? service = none := by
  obtain ⟨descriptor, registrar, proposal, -, rfl, hok⟩ := h
  exact (Fabric.checkRegisterService_ok hok).2.1

/-- Only a withdrawal records one. -/
theorem Fabric.Caused.withdraws (h : fabric.Caused op commit)
    (hchange : commit.change = .serviceWithdrawn service) :
    ∃ runtime stamp, fabric.state.services.find? service = some runtime ∧
      commit.after = ({ commit.before with tick := stamp }.modifyService service
        fun runtime => runtime.withdraw stamp).bump .withdrawnServices := by
  cases h with
  | ingested hop hok hwrites =>
    have hingested := ingested_of_ok hop hok
    rw [hwrites.change] at hchange
    have hafter := hwrites.after
    generalize hupdate : Fabric.Proposal.update _ = update at hingested hafter
    rw [hchange] at hingested
    cases hingested with
    | withdrawn _ hfind _ => exact ⟨_, _, hfind, hafter⟩
  | moved _ _ _ hmoves =>
    cases hmoves with
    | intro => cases hchange
  | denied _ _ _ hwrites | confirmed _ _ _ hwrites | acknowledged _ _ hwrites
  | reported _ _ _ _ hwrites =>
    rw [hwrites.change] at hchange
    cases hchange

/-- Memories with the same authority register the same services. -/
theorem State.registered_of_core (hcore : state'.core = state.core)
    (hfind : ∃ runtime, state.services.find? service = some runtime) :
    ∃ runtime, state'.services.find? service = some runtime := by
  obtain ⟨runtime, hfind⟩ := hfind
  have hsome : (state'.services.find? service).map ServiceRuntime.hard = some runtime.hard := by
    rw [← State.core_service, hcore, State.core_service, hfind]
    rfl
  obtain ⟨found, hfound, -⟩ := Option.map_eq_some_iff.mp hsome
  exact ⟨found, hfound⟩

end Commits

/-! ### Every memory -/

/-- Once its withdrawal is in the history, the service is registered and withdrawn. -/
def StaysWithdrawn (service : ServiceName) (history : List Change) (state : State) : Prop :=
  .serviceWithdrawn service ∈ history →
    Withdrawn service state ∧ ∃ runtime, state.services.find? service = some runtime

section Preserved

variable {config : FabricConfig} {fabric caller actor : Fabric} {op op' : Op} {commit : Commit}
  {service : ServiceName} {history : List Change} {state : State} {change : Change}

theorem StaysWithdrawn.committed (h : StaysWithdrawn service history commit.before)
    (hactor : StaysWithdrawn service history actor.state) (hnamed : actor.state.Named)
    (hallowed : Respects service caller op) (hacts : caller.Acts op actor op')
    (hcaused : actor.Caused op' commit) :
    StaysWithdrawn service (history ++ [commit.change]) commit.after := by
  intro hmem
  rcases List.mem_append.mp hmem with hpast | hlast
  · obtain ⟨hwithdrawn, runtime, hfind⟩ := h hpast
    obtain ⟨hactor, found, hfound⟩ := hactor hpast
    have hregisters : ¬actor.Registers service op' := fun hregisters => by
      rw [hregisters.unregistered] at hfound
      cases hfound
    have hfollows := hcaused.follows hnamed service
    have hsteady := (hallowed.acting hacts hactor).steady hregisters
    refine ⟨hactor.follows hsteady hwithdrawn hfollows, ?_⟩
    rw [hfind] at hfollows
    generalize commit.after.services.find? service = after at hfollows ⊢
    cases hfollows <;> exact ⟨_, rfl⟩
  · obtain ⟨runtime, stamp, hfind, hafter⟩ := hcaused.withdraws (List.mem_singleton.mp hlast).symm
    obtain ⟨found, hfound⟩ :=
      State.registered_of_core hcaused.before_keeps.core ⟨runtime, hfind⟩
    have hnext : commit.after.services.find? service = some (found.withdraw stamp) := by
      rw [hafter, State.services_bump, State.find?_modifyService, if_pos rfl]
      exact congrArg (Option.map _) hfound
    refine ⟨fun next hnext' => ?_, _, hnext⟩
    obtain rfl := Option.some.inj (hnext.symm.trans hnext')
    rfl

theorem StaysWithdrawn.restart (h : StaysWithdrawn service history state)
    (hrests : ∀ runtime, state.services.find? service = some runtime →
      runtime.lifecycle = .withdrawn →
      runtime.recovery.interrupted = false ∧ runtime.recovery ≠ .ambiguityPending) :
    StaysWithdrawn service
      (history ++ [.epochAdvanced (advance state.epoch) (advance state.boot)])
      (restartedState state) := by
  intro hmem
  rcases List.mem_append.mp hmem with hpast | hlast
  · obtain ⟨hwithdrawn, runtime, hfind⟩ := h hpast
    have hlifecycle := hwithdrawn runtime hfind
    obtain ⟨hsettled, hresolved⟩ := hrests runtime hfind hlifecycle
    have hnext : (restartedState state).services.find? service =
        some (downgradedRuntime runtime) := by
      simp only [restartedState, OrderedMap.find?_mapValues, hfind, Option.map_some]
    refine ⟨fun next hnext' => ?_, _, hnext⟩
    obtain rfl := Option.some.inj (hnext.symm.trans hnext')
    unfold downgradedRuntime
    dsimp only
    rw [if_neg (by simp [hsettled]), if_neg hresolved]
    exact hlifecycle
  · cases List.mem_singleton.mp hlast

theorem StaysWithdrawn.replay (h : StaysWithdrawn service history state)
    (hgrounded : Grounded config history state)
    (hwarrant : Warrant config (Respects service)
      (Grounds config (StaysWithdrawn service)) history change) :
    StaysWithdrawn service (history ++ [change]) (Change.apply state change) := by
  cases hwarrant with
  | restarted =>
    intro hmem
    rcases List.mem_append.mp hmem with hpast | hlast
    · exact h hpast
    · cases List.mem_singleton.mp hlast
  | @made caller actor op op' commit hallowed hconfig hacts hopened hactor hcaused _ =>
    obtain ⟨hground, hactor⟩ := hactor
    intro hmem
    rcases List.mem_append.mp hmem with hpast | hlast
    · obtain ⟨hwithdrawn, runtime, hfind⟩ := h hpast
      obtain ⟨hactor, found, hfound⟩ := hactor hpast
      have hharmless := hallowed.acting hacts hactor
      have hreplays := hcaused.replays (.of_sound hground.sound) state service
      have hboth : ∀ after, actor.Replays op' service (some runtime) after →
          (∀ next, after = some next → next.lifecycle = .withdrawn) ∧
            ∃ next, after = some next := by
        intro after hafter
        cases hafter with
        | same => exact ⟨fun next hnext => hwithdrawn next (hfind.trans hnext), _, rfl⟩
        | registered _ hnew =>
          rw [hfound] at hnew
          cases hnew
        | withdrawn =>
          refine ⟨fun next hnext => ?_, _, rfl⟩
          cases hnext
          rfl
        | turned hfound' hturns =>
          refine ⟨fun next hnext => ?_, _, rfl⟩
          cases hnext
          exact hturns.keeps_withdrawn hfound' (hactor _ hfound') hharmless
      rw [hfind] at hreplays
      exact hboth _ hreplays
    · have hchange := (List.mem_singleton.mp hlast).symm
      obtain ⟨runtime, stamp, hfind, -⟩ := hcaused.withdraws hchange
      have hcore : state.core = actor.state.core :=
        hgrounded.explains.core.trans hground.explains.core.symm
      obtain ⟨found, hfound⟩ := State.registered_of_core hcore ⟨runtime, hfind⟩
      have hnext : (Change.apply state commit.change).services.find? service =
          some { found with lifecycle := .withdrawn } := by
        rw [hchange]
        simp only [Change.apply, hfound, OrderedMap.find?_insert_self]
      refine ⟨fun next hnext' => ?_, _, hnext⟩
      obtain rfl := Option.some.inj (hnext.symm.trans hnext')
      rfl

/-- In every run whose calls respect the withdrawal, every memory keeps it. -/
theorem preserved_withdrawn (config : FabricConfig) (service : ServiceName) :
    Preserved config (Respects service) (StaysWithdrawn service) where
  initial hmem := by cases hmem
  keeps _ hP hupkeep hmem := by
    obtain ⟨hwithdrawn, hfind⟩ := hP hmem
    exact ⟨hwithdrawn.keeps (remarkable_withdrawn service) (.single hupkeep),
      State.registered_of_core hupkeep.core hfind⟩
  commit hallowed _ hacts _ hactor hcaused hbefore :=
    hbefore.2.committed hactor.2 (.of_sound hactor.1.sound) hallowed hacts hcaused
  snapshot _ hP := hP
  restart hread _ hP := by
    obtain ⟨caller, rfl, -, hallowed, found, base, hopen, hload, hreplay⟩ := hread
    exact hP.restart fun runtime => hallowed.rests rfl found base _ runtime hopen hload hreplay
  replay hgrounded hP hwarrant := hP.replay hgrounded hwarrant

end Preserved

/-! ### Runs -/

/-- The service that the commit of a recovery call moves. -/
def Fabric.Op.moved : Op → Option ServiceName
  | .establishPlacement request => some request.service
  | .requestFailover request | .resumeRecovery request => some request.service
  | .requestFailback request => some request.service
  | .resolveAmbiguity resolution =>
    if resolution.confirmFailure then some resolution.service else none
  | _ => none

/-- The call withdrew the service, and was answered so. -/
def Fabric.Moment.Withdraws (moment : Moment) (service : ServiceName) : Prop :=
  ∃ requester explanation, moment.event =
    .call (.withdrawService service requester) (.explained .acceptServiceWithdrawn explanation)

section Runs

variable {config : FabricConfig} {moments earlier later : List Moment}
  {fabric caller actor : Fabric} {moment : Moment} {op op' : Op} {service : ServiceName}
    {state : State}
  {decision : RecoveryDecision}

theorem fails_checkWithdrawService (fabric : Fabric) (service : ServiceName)
    (requester : SourceName) : (fabric.checkWithdrawService service requester).Fails
      fun refused => refused.code ≠ .acceptServiceWithdrawn :=
  .require nofun fun _ => .require nofun fun _ => .demand nofun fun _ _ =>
  .require nofun fun _ => .demand nofun fun _ _ => .pure _

/-- An accepted withdrawal makes one commit, which records it. -/
theorem Fabric.Moment.Withdraws.commits {fabric' : Fabric} {commits : List Commit}
    (h : moment.Withdraws service) (hstep : Fabric.Step moment.before moment.event fabric')
    (hanswers : moment.before.entered.Answers moment.event.op commits) :
    ∃ commit, commits = [commit] ∧ commit.change = .serviceWithdrawn service ∧
      moment.before.entered.Caused moment.event.op commit := by
  obtain ⟨requester, explanation, hevent⟩ := h
  have hop : moment.event.op = .withdrawService service requester := by rw [hevent]; rfl
  rw [hop] at hanswers ⊢
  obtain ⟨proposal, commit, hok, hcommits, hwrites⟩ := Moment.committed hevent rfl (by decide)
    (fails_checkWithdrawService _ _ _) hstep hanswers
  refine ⟨commit, hcommits, ?_, .ingested rfl hok hwrites⟩
  obtain ⟨-, runtime, stamp, -, -, -, hchange, -⟩ := Fabric.checkWithdrawService_ok hok
  rw [hwrites.change, hchange]

/-- With a store, the withdrawal is in every later history. -/
theorem Fabric.Run.withdrawn_stored (hrun : Fabric.Run config moments fabric)
    (hstore : config.storeDirectory = true)
    (hrespects : ∀ moment ∈ moments, Respects service moment.before moment.event.op)
    (hsplit : moments = earlier ++ moment :: later) (hwithdraws : moment.Withdraws service) :
    Withdrawn service fabric.state := by
  obtain ⟨history, memory, -, hchronicled, hstaged⟩ :=
    hrun.staged (preserved_withdrawn config service).stable fun moment hmoment =>
      (hrespects moment hmoment).entered
  obtain ⟨past, memory', hpast⟩ := hstaged earlier moment later hsplit
  obtain ⟨-, fabric', hstep⟩ := hrun.front hsplit
  obtain ⟨added, hrecords, hfront⟩ := hpast.kept fun next _ hforgets => by
    cases hevent : next.event with
    | call => rw [hevent] at hforgets; simp [Fabric.Forgets, hstore] at hforgets
    | crash => rw [hevent] at hforgets; simp [Fabric.Forgets, hstore] at hforgets
  have hmem : .serviceWithdrawn service ∈ history := by
    refine hfront.subset (List.mem_append_right _ ?_)
    obtain ⟨requester, explanation, hevent⟩ := id hwithdraws
    have hop : moment.event.op = .withdrawService service requester := by rw [hevent]; rfl
    rw [hevent] at hrecords
    cases hrecords with
    | performs _ _ _ _ hanswers _ =>
      rw [← hop] at hanswers
      obtain ⟨commit, rfl, hchange, -⟩ := hwithdraws.commits hstep hanswers
      simp [hchange]
  have hnobody (hservices : fabric.state.core.services = .empty) :
      Withdrawn service fabric.state := by
    intro runtime hfind
    have hsome := core_find?_service hfind
    rw [hservices] at hsome
    cases hsome
  rcases hchronicled.remembered with ⟨-, hblank⟩ | ⟨hgrounded, hstays⟩
  · exact hnobody (congrArg Core.services hblank.core)
  rcases hchronicled.agree with (rfl | hfront) | ⟨hnot, -⟩
  · exact hnobody (congrArg Core.services hgrounded.explains.core)
  · exact (hstays (hfront.subset hmem)).1
  · exact absurd (fun _ _ hallowed => hallowed.replays rfl) hnot

/-- Without a store, an open leaves no service at all. -/
theorem withdrawn_of_openMemory (hstore : fabric.config.storeDirectory = false)
    (hclosed : fabric.opened = false) : Withdrawn service (fabric.call .openFabric).2.state := by
  have hcall : (fabric.call .openFabric).2 = { fabric.entered.cleared with opened := true } := by
    have hclosed' : fabric.entered.opened = false := hclosed
    have hstore' : fabric.entered.config.storeDirectory = false := hstore
    simp [Fabric.call, Fabric.dispatch, Fabric.replyCode, Fabric.open, hclosed', hstore']
  rw [hcall]
  intro runtime hfind
  cases hfind

/-- An accepted withdrawal leaves the service withdrawn. -/
theorem Fabric.Moment.Withdraws.withdrawn {fabric' : Fabric} (h : moment.Withdraws service)
    (hstep : Fabric.Step moment.before moment.event fabric') : Withdrawn service fabric'.state := by
  obtain ⟨requester, explanation, hevent⟩ := id h
  obtain ⟨commits, hpasses, hanswers⟩ := Moment.passes hevent nofun nofun hstep
  obtain ⟨commit, rfl, hchange, hcaused⟩ := h.commits hstep (by rw [hevent]; exact hanswers)
  obtain ⟨runtime, stamp, -, hafter⟩ := hcaused.withdraws hchange
  cases hpasses with
  | commit _ hrest =>
    cases hrest with
    | keeps hkeeps =>
      refine State.Each.keeps (fun found hfind => ?_) (remarkable_withdrawn service) hkeeps
      rw [hafter, State.services_bump, State.find?_modifyService, if_pos rfl] at hfind
      obtain ⟨earlier, -, rfl⟩ := Option.map_eq_some_iff.mp hfind
      rfl

/-- Without a store, the service stays withdrawn until it is registered anew. -/
theorem Fabric.Run.withdrawn_storeless (hrun : Fabric.Run config moments fabric)
    (hstore : config.storeDirectory = false)
    (hrespects : ∀ moment ∈ moments, Respects service moment.before moment.event.op)
    (hsplit : moments = earlier ++ moment :: later) (hwithdraws : moment.Withdraws service)
    (hanew : ∀ next ∈ later, ¬next.before.Registers service next.event.op) :
    Withdrawn service fabric.state := by
  have honward := hrun.onward (P := fun between fabric =>
      (∀ next ∈ between, Respects service next.before next.event.op) →
      (∀ next ∈ between, ¬next.before.Registers service next.event.op) →
      Withdrawn service fabric.state) hsplit (fun fabric' _ hstep _ _ => hwithdraws.withdrawn hstep)
    fun {between fabric event fabric'} hrun hstep ih hrespects hanew => by
      have hbefore := ih (fun next hnext => hrespects next (List.mem_append_left _ hnext))
        fun next hnext => hanew next (List.mem_append_left _ hnext)
      have hlast := hrespects { before := fabric, event } (by simp)
      have hregisters := hanew { before := fabric, event } (by simp)
      cases hstep with
      | crash op dir _ =>
        intro runtime hfind
        cases hfind
      | call op =>
        by_cases hopen : op = .openFabric ∧ fabric.opened = false
        · obtain ⟨rfl, hclosed⟩ := hopen
          exact withdrawn_of_openMemory (hrun.configured ▸ hstore) hclosed
        · refine hbefore.call (remarkable_withdrawn service) hrun.sound
            (fun _ _ => hlast.entered.steady hregisters) fun heq => ?_
          by_contra hclosed
          exact hopen ⟨heq, by simpa using hclosed⟩
  refine honward (fun next hnext => hrespects next ?_) hanew
  rw [hsplit]
  exact List.mem_append_right _ (List.mem_cons_of_mem _ hnext)

/-- No recovery call about a withdrawn service is accepted. -/
theorem Withdrawn.refuses (h : Withdrawn service fabric.state)
    (hsound : fabric.state.core.Sound config) (hrespects : Respects service fabric op)
    (haccepts : fabric.Accepts op decision) : op.moved ≠ some service := by
  intro hmoved
  have hmoves : op.moves = true := by
    cases op with
    | resolveAmbiguity resolution =>
      simp only [Fabric.Op.moved] at hmoved
      split at hmoved
      · assumption
      · cases hmoved
    | establishPlacement | requestFailover | resumeRecovery | requestFailback => rfl
    | _ => cases hmoved
  obtain ⟨-, commits, hrelocates⟩ := haccepts.relocates hmoves
  cases hrelocates with
  | @intro actor op' name check runtime qualified promotions commit _ hacts hop hfind hok _ =>
    have hname : name = service := by
      cases hacts with
      | direct =>
        cases op with
        | establishPlacement | requestFailover | resumeRecovery | requestFailback =>
          cases hop
          exact Option.some.inj hmoved
        | _ => cases hop
      | @confirmed resolution _ _ hconfirm =>
        cases hop
        have hresolution : resolution.service = service := by
          simpa [Fabric.Op.moved, hconfirm] using hmoved
        exact hresolution
    subst hname
    have hentered : Withdrawn name fabric.entered.state := h
    have hregisters : ¬fabric.entered.Registers name op := by
      rintro ⟨_, _, _, rfl, -⟩
      cases hmoves
    have hactor : Withdrawn name actor.state :=
      hentered.acts (remarkable_withdrawn name) hsound
        (hrespects.entered.steady hregisters (.direct op) hentered) hacts
    exact (hrespects.entered.acting hacts hactor).not_qualified hop hfind (hactor _ hfind) hok

/-- In every run that respects the withdrawal of a service it is terminal: until the service is
registered anew it stays withdrawn, and no recovery call about it is accepted. -/
theorem withdrawal_terminal (hrun : Fabric.Run config moments fabric)
    (hrespects : ∀ moment ∈ moments, Respects service moment.before moment.event.op)
    (hsplit : moments = earlier ++ moment :: later) (hwithdraws : moment.Withdraws service)
    (hanew : ∀ next ∈ later, ¬next.before.Registers service next.event.op) :
    (∀ runtime, fabric.state.services.find? service = some runtime →
      runtime.lifecycle = .withdrawn) ∧
    ∀ next ∈ later, ∀ op decision, next.Accepts op decision → op.moved ≠ some service := by
  have hwithdrawn {moments later : List Moment} {fabric : Fabric}
      (hrun : Fabric.Run config moments fabric)
      (hrespects : ∀ moment ∈ moments, Respects service moment.before moment.event.op)
      (hsplit : moments = earlier ++ moment :: later)
      (hanew : ∀ next ∈ later, ¬next.before.Registers service next.event.op) :
      Withdrawn service fabric.state := by
    by_cases hstore : config.storeDirectory = true
    · exact hrun.withdrawn_stored hstore hrespects hsplit hwithdraws
    · exact hrun.withdrawn_storeless (eq_false_of_ne_true hstore) hrespects hsplit hwithdraws hanew
  refine ⟨hwithdrawn hrun hrespects hsplit hanew, fun next hnext op decision haccepts => ?_⟩
  obtain ⟨between, rest, rfl⟩ := List.append_of_mem hnext
  have hfront : moments = (earlier ++ moment :: between) ++ next :: rest := by
    rw [hsplit, List.append_assoc, List.cons_append]
  have hmem : next ∈ moments := by simp [hfront]
  have hrespects' := hrespects next hmem
  obtain ⟨hbefore, -⟩ := hrun.front hfront
  have hstate := hwithdrawn hbefore (fun other hother => hrespects other (by
      rw [hfront]
      exact List.mem_append_left _ hother)) rfl
    fun other hother => hanew other (List.mem_append_left _ hother)
  rw [show next.event.op = op by rw [haccepts.1]; rfl] at hrespects'
  exact hstate.refuses hbefore.sound hrespects' (hrun.accepts hmem haccepts).2

/-! ### A service that was withdrawn -/

def Fleet.withdraw : Op := .withdrawService Fleet.service operator

/-- The service is known, and so is a target for it. -/
def Fleet.prepared : List Op :=
  opening ++ adopt primary 1

/-- An open of an empty directory finds no service. -/
theorem respects_open (service : ServiceName) (hdisk : fabric.disk = {}) :
    Respects service fabric .openFabric where
  harmless _ :=
    { suspicion := fun _ hop => by cases hop
      denial := fun _ _ _ hop => by cases hop
      acknowledgement := fun _ _ _ hop => by cases hop
      effect := fun _ _ hop => by cases hop
      failback := fun _ _ _ hop => by cases hop }
  replays _ := Fabric.replaysAll_empty hdisk
  rests _ found base state runtime hopen hload hreplay hfind := by
    obtain ⟨hrecords, hbase⟩ := Fabric.found_empty hdisk hopen
    rw [hrecords, hbase _ hload] at hreplay
    obtain ⟨rfl, -⟩ := Prod.mk.inj hreplay
    cases hfind

/-- Calls that do not open, and that a withdrawn service is not sensitive to. -/
def Fabric.Op.mild : Op → Bool
  | .openFabric | .ingestFailure _ | .resolveAmbiguity _ | .acknowledgeIntent _ | .reportEffect _
  | .requestFailback _ => false
  | _ => true

theorem respects_mild (service : ServiceName) (fabric : Fabric) (hmild : op.mild = true) :
    Respects service fabric op where
  harmless _ :=
    { suspicion := fun _ hop => by rw [hop] at hmild; cases hmild
      denial := fun _ _ _ hop => by rw [hop] at hmild; cases hmild
      acknowledgement := fun _ _ _ hop => by rw [hop] at hmild; cases hmild
      effect := fun _ _ hop => by rw [hop] at hmild; cases hmild
      failback := fun _ _ _ hop => by rw [hop] at hmild; cases hmild }
  replays hop := by rw [hop] at hmild; cases hmild
  rests hop := by rw [hop] at hmild; cases hmild

/-- A service that is withdrawn and then left alone is withdrawn for good. -/
theorem withdrawal_terminal_prepared :
    (∀ runtime, (Fleet.running (Fleet.prepared ++ Fleet.withdraw ::
        [Fleet.place 1 Fleet.primary])).state.services.find? Fleet.service = some runtime →
      runtime.lifecycle = .withdrawn) ∧
    ∀ decision, ¬((Fleet.running Fleet.prepared).call Fleet.withdraw).2.Accepts
      (Fleet.place 1 Fleet.primary) decision := by
  have hexplains : (Fleet.running Fleet.prepared).explains Fleet.withdraw =
      some .acceptServiceWithdrawn := by
    simp only [Fleet.running, Fabric.after_eq_drafted, Fabric.explains, Fabric.call_eq_drafted]
    decide +kernel
  obtain ⟨explanation, hreply⟩ := Fabric.exists_explained_of_explains hexplains
  have hwithdraws : Moment.Withdraws
      { before := Fleet.running Fleet.prepared
        event := .call Fleet.withdraw ((Fleet.running Fleet.prepared).call Fleet.withdraw).1 }
      Fleet.service :=
    ⟨Fleet.operator, explanation, congrArg _ hreply⟩
  have hmild : ∀ op ∈ (Fleet.prepared ++ Fleet.withdraw ::
      [Fleet.place 1 Fleet.primary]).tail, op.mild = true := by
    intro op hop
    simp only [Fleet.prepared, Fleet.opening, Fleet.adopt, List.cons_append, List.nil_append,
      List.tail_cons, List.mem_cons, List.not_mem_nil, or_false] at hop
    rcases hop with rfl | rfl | rfl | rfl | rfl | rfl | rfl <;> rfl
  have hrespects : ∀ moment ∈ (Fabric.create {} {}).momentsOf
      (Fleet.prepared ++ Fleet.withdraw :: [Fleet.place 1 Fleet.primary]),
      Respects Fleet.service moment.before moment.event.op := by
    intro moment hmoment
    rcases List.mem_cons.mp hmoment with rfl | hmoment
    · exact respects_open Fleet.service rfl
    · exact Fabric.forall_momentsOf (fun op hop fabric => respects_mild _ _ (hmild op hop)) moment
        hmoment
  obtain ⟨hlifecycle, hrefused⟩ := withdrawal_terminal (Fleet.run_running _) hrespects
    (Fabric.momentsOf_split _ Fleet.prepared Fleet.withdraw [Fleet.place 1 Fleet.primary])
    hwithdraws (by
      intro next hnext
      obtain rfl := List.mem_singleton.mp hnext
      rintro ⟨descriptor, registrar, proposal, hop, -⟩
      cases hop)
  exact ⟨hlifecycle, fun decision haccepts =>
    hrefused _ List.mem_cons_self _ decision haccepts.asMoment rfl⟩

/-- The service is withdrawn while its placement is under way, and the executor turns that
down. -/
theorem not_withdrawal_terminal : ∃ (earlier later : List Moment) (moment : Moment)
    (fabric : Fabric) (runtime : ServiceRuntime),
    Fabric.Run {} (earlier ++ moment :: later) fabric ∧ moment.Withdraws Fleet.service ∧
    (∀ next ∈ later, ¬next.before.Registers Fleet.service next.event.op) ∧
    fabric.state.services.find? Fleet.service = some runtime ∧
    runtime.lifecycle ≠ .withdrawn := by
  have hexplains : (Fleet.running Fleet.placed).explains Fleet.withdraw =
      some .acceptServiceWithdrawn := by
    simp only [Fleet.running, Fabric.after_eq_drafted, Fabric.explains, Fabric.call_eq_drafted]
    decide +kernel
  have hlifecycle : ((Fleet.running (Fleet.placed ++ Fleet.withdraw ::
      [Fleet.turnDown 1])).state.services.find? Fleet.service).map ServiceRuntime.lifecycle =
        some .failed := by
    simp only [Fleet.running, Fabric.after_eq_drafted]
    decide +kernel
  obtain ⟨explanation, hreply⟩ := Fabric.exists_explained_of_explains hexplains
  obtain ⟨runtime, hfind, hfailed⟩ := Option.map_eq_some_iff.mp hlifecycle
  have hrun := Fleet.run_running (Fleet.placed ++ Fleet.withdraw :: [Fleet.turnDown 1])
  rw [Fabric.momentsOf_split] at hrun
  refine ⟨_, _, _, _, runtime, hrun, ⟨Fleet.operator, explanation, congrArg _ hreply⟩, ?_, hfind,
    by rw [hfailed]; decide⟩
  intro next hnext
  obtain rfl := List.mem_singleton.mp hnext
  rintro ⟨descriptor, registrar, proposal, hop, -⟩
  cases hop

end Runs

end OffloadFabric
