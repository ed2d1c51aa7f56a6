import OffloadFabric.Aftermath
import OffloadFabric.Ceilings
import OffloadFabric.FailedAttempts
import OffloadFabric.Placement

/-!
Resumptions. A resumption issues the last attempt of its service once more, under the numbers
that it has, and its phase says that a restart put it back. A first placement leaves the same
phase, and attempts after a restart take identifiers that were given before. Apart from these,
a resumption leaves the service as it was, and its intent is the one that the attempt had.
-/
namespace OffloadFabric

open Fabric (Op Moment)

/-- How many records of the history are about the current attempt. -/
def ServiceRuntime.issues (runtime : ServiceRuntime) : Nat :=
  runtime.history.countP fun record => record.id = runtime.currentAttempt

/-- No move of the service was accepted since the last open that succeeded. -/
def Restarted (moments : List Moment) (service : ServiceName) : Prop :=
  ∃ later, Fabric.SinceOpen moments later ∧ ∀ moment ∈ later, ¬moment.Relocates service

/-- The service has the numbers, the places and the record of its attempt that it had. -/
structure Reissued (before after : ServiceRuntime) : Prop where
  attempt : after.currentAttempt = before.currentAttempt
  generation : after.generation = before.generation
  fence : after.fence = before.fence
  term : after.lease.map LeaseRecord.term = before.lease.map LeaseRecord.term
  active : after.active = before.active
  fallback : after.fallback = before.fallback
  failover : after.failoverRecorded = before.failoverRecorded
  origin : after.preFailoverTarget = before.preFailoverTarget
  capability : after.preFailoverCapability = before.preFailoverCapability
  topology : after.preFailoverTopology = before.preFailoverTopology
  policy : after.preFailoverPolicy = before.preFailoverPolicy
  issues : after.issues = 1

/-- The intent of a call that issued an attempt anew, and was accepted whenever it returned;
no process started over with nothing since. -/
def Originated (config : FabricConfig) (moments : List Moment) (original : FailoverIntent) :
    Prop :=
  ∃ earlier moment later decision, moments = earlier ++ moment :: later ∧
    (∀ next ∈ moment :: later, ¬next.before.Forgets config next.event) ∧
    moment.event.op.resumes = false ∧ moment.before.Accepts moment.event.op decision ∧
    decision.intent = some original

/-- The intents differ in epoch, policy, topology and tick only, and in that this one repeats. -/
def FailoverIntent.Repeats (intent original : FailoverIntent) : Prop :=
  intent =
    { original with
      epoch := intent.epoch, policyGeneration := intent.policyGeneration
      topologyGeneration := intent.topologyGeneration, issued := intent.issued
      reissueAfterRestart := true }

/-! ### What a resumption leaves -/

section Leaves

variable {fabric fabric' : Fabric} {decision : RecoveryDecision} {closing : Closing} {move : Move}
  {service : ServiceName} {key : RequestKey} {check : ServiceRuntime → Check Qualified}

theorem State.services_of_registries {state state' : State}
    (h : state'.registries = state.registries) : state'.services = state.services := by
  have hservices := congrArg State.services h
  exact hservices

/-- A commit that is not refused registers the runtime that the move grants. -/
theorem commitRecovery_leaves {result : CommitResult} (hopened : fabric.opened)
    (h : commitRecovery fabric move = (result, fabric')) (hcode : result.code = .ok) :
    ∃ grant, prepare fabric move = .ok grant ∧
      result.intent = some (move.intent grant fabric.state) ∧
      fabric'.state.services.find? move.service =
        some (move.nextRuntime grant fabric.config fabric.state) := by
  unfold commitRecovery at h
  cases hprepare : prepare fabric move with
  | error refused =>
    simp only [hprepare] at h
    cases h
    exact absurd hcode (CommitCheck.Explained.prepare fabric move refused hprepare)
  | ok grant =>
    simp only [hprepare] at h
    rcases htransact : fabric.transact (move.change grant fabric.config fabric.state)
      (move.update grant fabric.config fabric.state fabric.intents.accepts) with
      ⟨progress, durable⟩
    rw [htransact] at h
    rcases Fabric.transact_evolves hopened htransact with ⟨code, hrefused, rfl, -⟩ | ⟨hdone, -⟩
    · cases h
      exact absurd hcode hrefused
    · obtain ⟨before, -, hafter⟩ := Fabric.transact_registries htransact hdone
      have hservices : durable.state.services.find? move.service =
          some (move.nextRuntime grant fabric.config fabric.state) := by
        rw [State.services_of_registries hafter, Move.update, State.services_remember,
          State.services_bump, State.services_bumpAll, State.services_bump]
        exact OrderedMap.find?_insert_self _ _ _
      cases progress with
      | refused code => exact absurd rfl (hdone code)
      | uncompacted code =>
        cases h
        exact ⟨grant, rfl, rfl, hservices⟩
      | done =>
        cases h
        exact ⟨grant, rfl, rfl, hservices⟩

/-- The numbers of the move were minted in the registries before, its intent is the answer, and
the runtime that it grants is the one that the service has, after the last remark. -/
inductive Concludes (fabric : Fabric) (move : Move) (settle : Remark)
    (decision : RecoveryDecision) (fabric' : Fabric) : Prop where
  | intro {prior : Fabric} {grant : Grant} :
      prior.config = fabric.config → prior.state.registries = fabric.state.registries →
      prepare prior move = .ok grant → decision.intent = some (move.intent grant prior.state) →
      fabric'.state.services.find? move.service =
        some (settle.apply (move.nextRuntime grant prior.config prior.state)) →
      Concludes fabric move settle decision fabric'

theorem concludeCommit_concludes {explanation : Explanation} {qualified : Qualified}
    (hopened : fabric.opened)
    (h : fabric.concludeCommit explanation qualified closing = (decision, fabric'))
    (haccepted : decision.accepted = true) :
    Concludes fabric qualified.move closing.settle decision fabric' := by
  unfold Fabric.concludeCommit at h
  rcases hcommit : commitRecovery { fabric with state := fabric.state.bumpAll qualified.counters }
    qualified.move with ⟨result, durable⟩
  simp only [hcommit] at h
  by_cases hcode : result.code = .ok
  · obtain ⟨grant, hprepare, hintent, hservices⟩ :=
      commitRecovery_leaves (by exact hopened) hcommit hcode
    rw [if_neg (not_not.mpr hcode)] at h
    cases h
    refine .intro (by exact rfl) ?_ hprepare hintent ?_
    · exact @State.registries_bumpAll fabric.state qualified.counters
    · show ((durable.state.modifyService _ _).bumpAll _).services.find? _ = _
      rw [State.services_bumpAll, State.find?_modifyService, if_pos rfl, hservices]
      rfl
  · rw [if_pos hcode] at h
    split at h <;> cases h <;> cases haccepted

theorem decideMove_concludes
    (h : fabric.decideMove service key check closing = (decision, fabric'))
    (haccepted : decision.accepted = true) (hfresh : decision.duplicate = false) :
    fabric.opened ∧ ∃ runtime qualified, fabric.state.services.find? service = some runtime ∧
      check runtime = .ok qualified ∧
      Concludes fabric qualified.move closing.settle decision fabric' := by
  rcases Fabric.decided_cases h with ⟨hduplicate, -⟩ | ⟨hopened, h⟩
  · exact absurd (hduplicate haccepted) (by simp [hfresh])
  refine ⟨hopened, ?_⟩
  split at h
  · cases h
    cases haccepted
  rename_i runtime hfind
  split at h
  · cases h
    cases haccepted
  · rename_i qualified hcheck
    exact ⟨runtime, qualified, hfind, hcheck, concludeCommit_concludes hopened h haccepted⟩

/-- A keyed request that is decided anew leaves the memory of its decision. -/
theorem keyed_decided {decide : Fabric → RecoveryDecision × Fabric}
    (h : fabric.keyed service key decide = (decision, fabric'))
    (haccepted : decision.accepted = true) (hfresh : decision.duplicate = false) :
    ∃ cancels decided, decide { fabric with cancels } = (decision, decided) ∧
      fabric'.state = decided.state := by
  unfold Fabric.keyed at h
  split at h
  · cases h
    cases hfresh
  split at h
  rename_i registered cancels hbegin
  by_cases hregistered : registered = .ok
  · simp only [hregistered, ne_eq, not_true_eq_false, if_false] at h
    rcases hdecide : decide { fabric with cancels } with ⟨decision', decided⟩
    rw [hdecide] at h
    cases h
    exact ⟨cancels, decided, hdecide, rfl⟩
  · simp only [ne_eq, hregistered, not_false_eq_true, if_true] at h
    cases h
    cases haccepted

/-- What is behind an accepted resumption, and what its call leaves. -/
theorem Fabric.Accepts.concludes {request : FailoverRequest}
    (h : fabric.Accepts (.resumeRecovery request) decision) :
    fabric.opened = true ∧ ∃ runtime qualified,
      fabric.state.services.find? request.service = some runtime ∧
      fabric.checkResume request runtime = .ok qualified ∧
      Concludes fabric qualified.move .nothing decision
        (fabric.call (.resumeRecovery request)).2 := by
  obtain ⟨hreply, haccepted, hfresh⟩ := h
  rcases hkeyed : fabric.entered.keyed request.service request.key
    (·.doRequestFailover request true) with ⟨decided, final⟩
  have hcall : fabric.call (.resumeRecovery request) = (.decided decided, final) := by
    simp only [Fabric.call, Fabric.dispatch, hkeyed, Fabric.replyDecided]
  rw [hcall] at hreply ⊢
  obtain rfl : decided = decision := by
    cases hreply
    rfl
  obtain ⟨cancels, middle, hdecide, hstate⟩ := keyed_decided hkeyed haccepted hfresh
  obtain ⟨hopened, runtime, qualified, hfind, hcheck, hconcludes⟩ :=
    decideMove_concludes hdecide haccepted hfresh
  refine ⟨hopened, runtime, qualified, hfind, hcheck, ?_⟩
  cases hconcludes with
  | intro hconfig hprior hprepare hintent hservice =>
    rw [← hstate] at hservice
    exact .intro hconfig hprior hprepare hintent hservice

end Leaves

/-! ### Where a failover led from -/

/-- A service that was never placed has no attempts, and a failover on record that has no target
to return to left none. -/
structure Sourced (runtime : ServiceRuntime) : Prop where
  unplaced : runtime.authority.active = none → runtime.authority.history = []
  left : runtime.failoverRecorded = true → runtime.preFailoverTarget = none →
    ∀ last ∈ runtime.authority.history.getLast?, last.fromTarget.valid = false

section Sourced

variable {config : FabricConfig} {fabric : Fabric} {op : Op} {service : ServiceName}
  {found next runtime : ServiceRuntime} {move : Move} {grant : Grant} {state : State}

/-- Every move but a first placement records a failover. -/
theorem failoverRecorded_nextRuntime (move : Move) (grant : Grant) (config : FabricConfig)
    (state : State) : (move.nextRuntime grant config state).failoverRecorded =
      decide (move.mode ≠ .initialPlacement) := by
  by_cases hmode : move.mode = .initialPlacement
  · simp [Move.nextRuntime, Move.settled, hmode]
  · rw [Move.nextRuntime, Move.settled, if_neg hmode, Move.departed]
    split <;> simp [hmode]

/-- What a failback needs to know is written once, by the first move that leaves a target. -/
theorem departed_nextRuntime (grant : Grant) (config : FabricConfig) (state : State)
    (hmode : move.mode ≠ .initialPlacement)
    (hstays : move.runtime.preFailoverTarget = none → move.source.valid = false) :
    (move.nextRuntime grant config state).preFailoverTarget = move.runtime.preFailoverTarget ∧
      (move.nextRuntime grant config state).preFailoverCapability =
        move.runtime.preFailoverCapability ∧
      (move.nextRuntime grant config state).preFailoverTopology =
        move.runtime.preFailoverTopology ∧
      (move.nextRuntime grant config state).preFailoverPolicy = move.runtime.preFailoverPolicy := by
  have hstays (runtime : ServiceRuntime) : move.departed state runtime = runtime := by
    refine if_neg fun hleft => ?_
    rw [hstays hleft.1] at hleft
    exact Bool.false_ne_true hleft.2
  rw [Move.nextRuntime, Move.settled, if_neg hmode, hstays]
  exact ⟨rfl, rfl, rfl, rfl⟩

theorem stays_of_departed (hmode : move.mode ≠ .initialPlacement)
    (hnone : (move.nextRuntime grant config state).preFailoverTarget = none) :
    move.source.valid = false := by
  by_contra hvalid
  have hvalid : move.source.valid = true := Bool.eq_true_of_not_eq_false hvalid
  rw [Move.nextRuntime, Move.settled, if_neg hmode, Move.departed] at hnone
  split at hnone
  · cases hnone
  · rename_i hstays
    exact hstays ⟨hnone, hvalid⟩

theorem Sourced.of_authority (h : Sourced found) (hauthority : next.authority = found.authority)
    (hrecorded : next.failoverRecorded = found.failoverRecorded)
    (htarget : next.preFailoverTarget = found.preFailoverTarget) : Sourced next where
  unplaced hactive := by
    rw [hauthority] at hactive ⊢
    exact h.unplaced hactive
  left hfailover hnone := by
    rw [hauthority]
    exact h.left (hrecorded ▸ hfailover) (htarget ▸ hnone)

theorem remarkable_sourced (service : ServiceName) : Remarkable service Sourced := by
  intro state runtime remark _ _ h
  cases remark with
  | returned => exact ⟨h.unplaced, fun hrecorded => absurd hrecorded Bool.false_ne_true⟩
  | _ => exact ⟨h.unplaced, h.left⟩

/-- The last attempt that a resumption keeps led from where it leads from. -/
theorem last_of_resumed {previous : AttemptRecord} {last : AttemptAuthority}
    (hprevious : move.runtime.history.getLast? = some previous)
    (hsource : move.source = previous.fromTarget)
    (hlast : (move.nextRuntime grant config state).authority.history.getLast? = some last) :
    last.fromTarget = move.source := by
  rw [Move.authority_nextRuntime, List.getLast?_drop] at hlast
  split at hlast
  · cases hlast
  rw [Move.extendedHistory] at hlast
  split at hlast
  · rw [authority_modifyFirst (by exact fun _ => rfl), List.getLast?_map, hprevious] at hlast
    rw [hsource, ← Option.some.inj hlast]
    rfl
  · rw [List.map_append, List.getLast?_append] at hlast
    rw [← Option.some.inj hlast]
    rfl

/-- The newest record of the current attempt is the last one of a service in sound registries. -/
theorem Sourced.last {previous : AttemptRecord} (h : Sourced runtime)
    (hfind : state.services.find? service = some runtime) (hsound : state.core.Sound config)
    (hprevious : runtime.currentAttemptRecord = some previous) :
    runtime.history.getLast? = some previous := by
  have hcore : state.core.services.find? service = some runtime.hard := by
    rw [State.core_service, hfind]
    rfl
  have hcoherent := hsound.coherent service _ hcore
  rw [authority_hard] at hcoherent
  cases hfence : state.core.fences.find? service with
  | some held =>
    rw [hfence] at hcoherent
    exact last_of_currentAttemptRecord hcoherent hprevious
  | none =>
    rw [hfence] at hcoherent
    have hempty := h.unplaced (Unplaced.active hcoherent)
    obtain ⟨hmem, -⟩ := mem_of_currentAttemptRecord hprevious
    rw [List.map_eq_nil_iff.mp hempty] at hmem
    cases hmem

/-- Every move says where it leads from. -/
theorem Fabric.Turns.sourced (h : fabric.Turns service op found next)
    (hfind : fabric.state.services.find? service = some found)
    (hsound : fabric.state.core.Sound config) (hfound : Sourced found) : Sourced next := by
  cases h with
  | @moved _ check _ qualified grant config' state hop hok hruntime =>
    constructor
    · intro hactive
      rw [Move.authority_nextRuntime] at hactive
      cases hactive
    · intro hrecorded hnone last hlast
      rw [failoverRecorded_nextRuntime, decide_eq_true_eq] at hrecorded
      have hinvalid := stays_of_departed hrecorded hnone
      by_cases hmode : qualified.move.mode = .resume
      · have hresumes := (mode_of_moving hop hok).mp hmode
        cases op with
        | resumeRecovery request =>
          cases hop
          obtain ⟨-, -, -, previous, target, hprevious, -, -, -, hmove⟩ :=
            Fabric.checkResume_ok hok
          have hkept := hfound.last hfind hsound hprevious
          rw [last_of_resumed (by rw [hruntime]; exact hkept) (by rw [hmove]) hlast]
          exact hinvalid
        | _ => cases hresumes
      · rw [last_of_granted hmode hlast]
        exact hinvalid
  | denied => exact ⟨hfound.unplaced, hfound.left⟩
  | @acknowledged ack _ stamp =>
    refine hfound.of_authority (authority_acknowledgedRuntime found ack stamp) ?_ ?_ <;>
    · unfold Fabric.acknowledgedRuntime
      dsimp only
      split <;> rfl
  | reported _ _ _ hcheck =>
    obtain ⟨-, -, happly⟩ := Fabric.checkEffect_ok hcheck
    cases Fabric.applyEffect_ok happly <;> exact ⟨hfound.unplaced, hfound.left⟩

theorem preserved_sourced (config : FabricConfig) (allowed : Fabric → Op → Prop)
    (service : ServiceName) :
    Preserved config allowed fun _ state => state.Each service Sourced := by
  refine preserved_each (remarkable_sourced service)
    (fun caller actor op op' _ _ hsound _ => ⟨fun _ _ _ => ?_, fun found next hfind hturns hfound =>
      hturns.sourced hfind hsound hfound, fun found next halters hfound => ?_⟩)
    (fun descriptor => ?_) (fun runtime h => ⟨h.unplaced, h.left⟩) fun runtime h => ?_
  · exact ⟨fun _ => rfl, fun hrecorded => absurd hrecorded Bool.false_ne_true⟩
  · cases halters <;> exact ⟨hfound.unplaced, hfound.left⟩
  · exact ⟨fun _ => rfl, fun hrecorded => absurd hrecorded Bool.false_ne_true⟩
  · obtain ⟨-, htarget, hrecorded⟩ := departed_downgradedRuntime runtime
    refine h.of_authority ?_ hrecorded htarget
    rw [← authority_hard, hard_downgradedRuntime, authority_hard]

end Sourced

/-! ### What a resumption keeps -/

section Keeps

variable {config : FabricConfig} {moments : List Moment} {fabric : Fabric} {state : State}
  {history : List Change} {change : Change} {service : ServiceName} {runtime : ServiceRuntime}
  {move : Move} {grant : Grant}

/-- No service keeps more attempts than the coordinator is configured to keep. -/
def Core.Brief (config : FabricConfig) (core : Core) : Prop :=
  ∀ service runtime, core.services.find? service = some runtime →
    runtime.history.length ≤ config.maxAttemptHistory

theorem length_history_of_authority {runtime next : ServiceRuntime}
    (h : next.authority = runtime.authority) : next.history.length = runtime.history.length := by
  have hlength := congrArg (fun authority => authority.history.length) h
  simpa only [ServiceRuntime.authority, List.length_map] using hlength

theorem Legit.brief (h : Legit config state.core change) (hbrief : state.core.Brief config) :
    (Change.apply state change).core.Brief config := by
  intro service runtime hfind
  cases h with
  | @serviceRegistered descriptor hnew =>
    simp only [Change.apply, State.core, OrderedMap.mapValues_insert, OrderedMap.find?_insert]
      at hfind
    split at hfind
    · rw [← Option.some.inj hfind]
      exact Nat.zero_le _
    · exact hbrief _ _ hfind
  | targetUpserted | topologyGenerationSet | policySet | capabilityIngested | failureIngested
  | dependencyIngested | targetRetired | sourceRegistered | epochAdvanced =>
    exact hbrief _ _ hfind
  | serviceWithdrawn name =>
    rw [Change.core_serviceWithdrawn] at hfind
    exact hbrief _ _ hfind
  | @rewritten kind name next old hold hauthority =>
    rw [find?_services_runtimeChanged] at hfind
    split at hfind
    · rw [← Option.some.inj hfind, length_history_hard, length_history_of_authority hauthority]
      exact hbrief _ _ hold
    · exact hbrief _ _ hfind
  | granted | renewed =>
    rw [Move.change, find?_services_runtimeChanged] at hfind
    split at hfind
    · rw [← Option.some.inj hfind, length_history_hard]
      exact Move.length_history_nextRuntime _ _ _
    · exact hbrief _ _ hfind

theorem brief_replayed (hlawful : Along config (Legit config) history) :
    (replayed config history).core.Brief config := by
  induction history using List.reverseRecOn with
  | nil => exact fun service runtime hfind => by cases hfind
  | append_singleton past change ih =>
    rw [replayed_snoc]
    exact hlawful.last.brief (ih (hlawful.of_front (List.prefix_append past [change])))

/-- Every service in the memory of a run knows where its failover led from, and keeps no more
attempts than it may. -/
theorem Fabric.Run.sourced (hrun : Fabric.Run config moments fabric)
    (hopened : fabric.opened = true)
    (hfind : fabric.state.services.find? service = some runtime) :
    Sourced runtime ∧ runtime.history.length ≤ config.maxAttemptHistory := by
  obtain ⟨history, memory, -, hchronicled⟩ :=
    hrun.chronicled (preserved_sourced config (fun _ _ => True) service).stable fun _ _ => trivial
  obtain ⟨-, hgrounded, hsourced⟩ := hchronicled.running hopened
  refine ⟨hsourced runtime hfind, ?_⟩
  have hbrief := brief_replayed hgrounded.lawful service runtime.hard
  rw [← hgrounded.explains.core, State.core_service, hfind, length_history_hard] at hbrief
  exact hbrief rfl

/-- A resumption that has room for the history keeps every record of it. -/
theorem history_of_resumed {previous : AttemptRecord} (hmode : move.mode = .resume)
    (hmem : previous ∈ move.runtime.history) (hid : previous.id = grant.attempt)
    (hlength : move.runtime.history.length ≤ config.maxAttemptHistory) :
    (move.nextRuntime grant config state).history.map AttemptRecord.id =
      move.runtime.history.map AttemptRecord.id := by
  have hextended : (move.extendedHistory grant state).map AttemptRecord.authority =
      move.runtime.history.map AttemptRecord.authority :=
    authority_extendedHistory hmode hmem hid
  have hsame := congrArg List.length hextended
  rw [List.length_map, List.length_map] at hsame
  have hexcess : move.excess grant config state = 0 := by
    rw [Move.excess_eq, hsame]
    omega
  have hauthority :=
    congrArg RuntimeAuthority.history (move.authority_nextRuntime grant config state)
  dsimp only at hauthority
  rw [hexcess, List.drop_zero, hextended] at hauthority
  have hids := congrArg (List.map AttemptAuthority.id) hauthority
  rw [ServiceRuntime.authority, List.map_map, List.map_map] at hids
  exact hids

theorem issues_eq (runtime : ServiceRuntime) : runtime.issues =
    (runtime.history.map AttemptRecord.id).countP fun id => id = runtime.currentAttempt := by
  rw [ServiceRuntime.issues, List.countP_map]
  rfl

/-- The move issues the last attempt of its service again, where the service is and under the
numbers that it has. -/
structure Renewing (config : FabricConfig) (service : ServiceName) (runtime : ServiceRuntime)
    (move : Move) (grant : Grant) (previous : AttemptRecord) (held : FenceRecord) : Prop where
  mode : move.mode = .resume
  named : move.service = service
  found : move.runtime = runtime
  source : move.source = previous.fromTarget
  destination : move.destination = held.holder
  placed : Placed config runtime.authority held
  last : runtime.history.getLast? = some previous
  attempt : grant.attempt = runtime.currentAttempt
  generation : grant.generation = runtime.generation
  fence : grant.fence = runtime.fence
  term : ∀ lease ∈ runtime.lease, grant.term = lease.term

/-- A resumption that passes its check renews the attempt that the service has. -/
theorem renewing_of_checkResume {request : FailoverRequest} {qualified : Qualified}
    (hsound : fabric.state.core.Sound config)
    (hfind : fabric.state.services.find? request.service = some runtime)
    (hcheck : fabric.checkResume request runtime = .ok qualified)
    (hminted : Minted state qualified.move grant) (hsourced : Sourced runtime) :
    ∃ previous held,
      Renewing config request.service runtime qualified.move grant previous held := by
  obtain ⟨-, -, -, previous, target, hprevious, htarget, hincarnation, -, hmove⟩ :=
    Fabric.checkResume_ok hcheck
  have hlast := hsourced.last hfind hsound hprevious
  generalize qualified.move = move at hminted hmove ⊢
  have hmode : move.mode = .resume := by rw [hmove]
  have hruntime : move.runtime = runtime := by rw [hmove]
  have hgoal : move.target = target := by rw [hmove]
  have hcore : fabric.state.core.services.find? request.service = some runtime.hard := by
    rw [State.core_service, hfind]
    rfl
  have hcoherent := hsound.coherent _ _ hcore
  obtain ⟨hname, -⟩ := hsound.targets _ _ htarget
  obtain ⟨hgeneration, hfence, hattempt, hterm⟩ := hminted.resumed hmode
  rw [authority_hard, ← hruntime] at hcoherent
  rw [← hruntime] at hprevious
  obtain ⟨held, hheld, hdestination, -, -, -, -⟩ :=
    placed_of_renewed hcoherent hminted hmode hprevious (by rw [hgoal, hname])
      (by rw [hgoal, hincarnation])
  rw [hheld] at hcoherent
  rw [hruntime] at hcoherent hgeneration hfence hattempt hterm
  exact ⟨previous, held,
    { mode := hmode, named := by rw [hmove], found := hruntime, source := by rw [hmove]
      destination := hdestination, placed := hcoherent, last := hlast, attempt := hattempt
      generation := hgeneration, fence := hfence, term := hterm }⟩

/-- The last attempt of the service is the one that it has. -/
theorem Renewing.id {previous : AttemptRecord} {held : FenceRecord}
    (h : Renewing config service runtime move grant previous held) :
    previous.authority.id = runtime.currentAttempt ∧ previous.toTarget = held.holder ∧
      previous.fence = held.token ∧ previous.generation = runtime.generation := by
  refine h.placed.last previous.authority ?_
  rw [ServiceRuntime.authority, List.getLast?_map, h.last]
  rfl

/-- A resumption leaves the service as it was exactly if it had failed over, and its attempt has
no other record. -/
theorem Renewing.reissued_iff {previous : AttemptRecord} {held : FenceRecord}
    (h : Renewing config service runtime move grant previous held) (hsourced : Sourced runtime)
    (hlength : runtime.history.length ≤ config.maxAttemptHistory) :
    Reissued runtime (move.nextRuntime grant config state) ↔
      runtime.failoverRecorded = true ∧ runtime.issues = 1 := by
  have hfirst : move.mode ≠ .initialPlacement := by
    rw [h.mode]
    exact nofun
  have hauthority := move.authority_nextRuntime grant config state
  have hcurrent : (move.nextRuntime grant config state).currentAttempt = runtime.currentAttempt :=
    (congrArg RuntimeAuthority.currentAttempt hauthority).trans h.attempt
  have hmem : previous ∈ move.runtime.history := by
    rw [h.found]
    exact List.mem_of_getLast? h.last
  have hids := @history_of_resumed config state move grant previous h.mode hmem
    (h.id.1.trans h.attempt.symm) (h.found ▸ hlength)
  rw [h.found] at hids
  have hissues : (move.nextRuntime grant config state).issues = runtime.issues := by
    rw [issues_eq, issues_eq, hids, hcurrent]
  have hrecorded : (move.nextRuntime grant config state).failoverRecorded = true := by
    rw [failoverRecorded_nextRuntime, decide_eq_true hfirst]
  constructor
  · exact fun h => ⟨h.failover.symm.trans hrecorded, hissues.symm.trans h.issues⟩
  · rintro ⟨hfailover, honce⟩
    have hstays : move.runtime.preFailoverTarget = none → move.source.valid = false := by
      intro hnone
      rw [h.found] at hnone
      rw [h.source]
      refine hsourced.left hfailover hnone previous.authority ?_
      rw [ServiceRuntime.authority, List.getLast?_map, h.last]
      rfl
    obtain ⟨htarget, hcapability, htopology, hpolicy⟩ :=
      departed_nextRuntime grant config state hfirst hstays
    rw [h.found] at htarget hcapability htopology hpolicy
    obtain ⟨lease, hlease, -, -⟩ := h.placed.lease
    have hlease : runtime.lease = some lease := hlease
    have hactive : runtime.active = some held.holder := h.placed.active
    have hfallback : runtime.fallback = some held.holder := h.placed.fallback
    have hnext : (move.nextRuntime grant config state).lease = some (move.lease grant state) :=
      congrArg RuntimeAuthority.lease hauthority
    exact
      { attempt := hcurrent
        generation := (congrArg RuntimeAuthority.generation hauthority).trans h.generation
        fence := (congrArg RuntimeAuthority.fence hauthority).trans h.fence
        term := by
          rw [hnext, hlease, Option.map_some, Option.map_some, Move.lease, h.term lease hlease]
        active := by
          rw [hactive, ← h.destination]
          exact congrArg RuntimeAuthority.active hauthority
        fallback := by
          rw [hfallback, ← h.destination]
          exact congrArg RuntimeAuthority.fallback hauthority
        failover := hrecorded.trans hfailover.symm
        origin := htarget
        capability := hcapability
        topology := htopology
        policy := hpolicy
        issues := hissues.trans honce }

end Keeps

/-! ### Restarts -/

/-- The phase of the service is not that of a failover that a restart put back. -/
def Unsuspended (runtime : ServiceRuntime) : Prop :=
  runtime.recovery = .intentRecorded → runtime.failoverRecorded = false

section Restarts

variable {config : FabricConfig} {moments : List Moment} {fabric : Fabric} {op : Op}
  {decision : RecoveryDecision} {service : ServiceName} {found next : ServiceRuntime}

theorem remarkable_unsuspended (service : ServiceName) : Remarkable service Unsuspended := by
  intro state runtime remark _ _ h
  cases remark with
  | returned => exact fun _ => rfl
  | suspension evidence => exact nofun
  | _ => exact h

/-- Every move authorizes a recovery, unless it is a first placement. -/
theorem unsuspended_nextRuntime (move : Move) (grant : Grant) (config : FabricConfig)
    (state : State) : Unsuspended (move.nextRuntime grant config state) := by
  intro hrecovery
  rw [failoverRecorded_nextRuntime, decide_eq_false_iff_not, not_not]
  by_contra hmode
  rw [Move.nextRuntime, Move.settled, if_neg hmode, Move.departed] at hrecovery
  split at hrecovery <;> cases hrecovery

theorem Fabric.Turns.unsuspended (h : fabric.Turns service op found next)
    (hfound : Unsuspended found) : Unsuspended next := by
  cases h with
  | moved grant config state => exact unsuspended_nextRuntime _ grant config state
  | denied => exact nofun
  | acknowledged =>
    intro hrecovery
    unfold Fabric.acknowledgedRuntime at hrecovery
    dsimp only at hrecovery
    split at hrecovery
    · split at hrecovery
      · cases hrecovery
      · rename_i hreported
        rw [hrecovery] at hreported
        exact absurd ⟨nofun, nofun⟩ hreported
    · cases hrecovery
  | reported _ _ _ hcheck =>
    obtain ⟨-, -, happly⟩ := Fabric.checkEffect_ok hcheck
    cases Fabric.applyEffect_ok happly with
    | transferred => exact hfound
    | _ => exact nofun

theorem steady_unsuspended (fabric : Fabric) (op : Op) (service : ServiceName) :
    fabric.Steady service Unsuspended op where
  registered _ _ _ := nofun
  turned _ _ _ hturns hfound := hturns.unsuspended hfound
  altered _ _ halters hfound := by
    cases halters with
    | withdrawn | suspected => exact nofun
    | confirmed => exact hfound

/-- What an accepted move of a service leaves was not put back by a restart. -/
theorem Fabric.Accepts.unsuspended (h : fabric.Accepts op decision)
    (hrelocates : op.relocates = some service) :
    (fabric.call op).2.state.Each service Unsuspended := by
  have hmoves : op.moves = true := by
    cases op with
    | resolveAmbiguity resolution =>
      by_contra hconfirm
      rw [Fabric.Op.relocates, if_neg (by exact hconfirm)] at hrelocates
      cases hrelocates
    | establishPlacement | requestFailover | resumeRecovery | requestFailback => rfl
    | _ => cases hrelocates
  have hclose : op ≠ .closeFabric := by
    rintro rfl
    cases hmoves
  have hopened : fabric.opened = true := (h.relocates hmoves).1
  obtain ⟨-, -, commits, hpasses, -, hanswers⟩ := Fabric.call_passes hopened hclose
  obtain ⟨-, hmoved⟩ := h.relocated hmoves hanswers
  cases hmoved with
  | @intro actor op' other check runtime qualified promotions commit _ hacts hop _ hok hmoves =>
    obtain rfl := Option.some.inj (hrelocates.symm.trans (hacts.relocates hop))
    obtain ⟨hservice, -⟩ := Fabric.moving_move hop hok
    obtain ⟨-, hkeeps⟩ := hpasses.last
    refine State.Each.keeps ?_ (remarkable_unsuspended service) hkeeps
    cases hmoves with
    | intro =>
      intro runtime hfind
      rw [Move.update, State.services_remember, State.services_bump, State.services_bumpAll,
        State.services_bump, hservice] at hfind
      obtain rfl := Option.some.inj ((OrderedMap.find?_insert_self _ _ _).symm.trans hfind)
      exact unsuspended_nextRuntime _ _ _ _

/-- The run lemma: a service whose failover waits to be resumed was not moved in this boot. -/
theorem Fabric.Run.restarted_or (hrun : Fabric.Run config moments fabric)
    (hopened : fabric.opened = true) (service : ServiceName) :
    Restarted moments service ∨ fabric.state.Each service Unsuspended := by
  suffices h : ∃ later, Fabric.SinceOpen moments later ∧
      ((∀ moment ∈ later, ¬Moment.Relocates moment service) ∨
        fabric.state.Each service Unsuspended) by
    obtain ⟨later, hsince, hlater⟩ := h
    exact hlater.imp_left fun hlater => ⟨later, hsince, hlater⟩
  refine hrun.boot_invariant
    (P := fun later fabric => (∀ moment ∈ later, ¬Moment.Relocates moment service) ∨
      fabric.state.Each service Unsuspended) hopened
    (fun _ _ _ => Or.inl fun moment hmoment => by cases hmoment) ?_
  intro earlier later fabric op hrun hconfig hopened hclose hlater
  by_cases hmoved : ∃ decision, fabric.Accepts op decision ∧ op.relocates = some service
  · obtain ⟨decision, haccepts, hrelocates⟩ := hmoved
    exact Or.inr (haccepts.unsuspended hrelocates)
  rcases hlater with hlater | hunsuspended
  · refine Or.inl fun moment hmoment => ?_
    rcases List.mem_append.mp hmoment with hmoment | hmoment
    · exact hlater moment hmoment
    · obtain rfl := List.mem_singleton.mp hmoment
      rintro ⟨op', decision, ⟨hevent, haccepted, hfresh⟩, hrelocates⟩
      obtain ⟨rfl, hreply⟩ := Fabric.Event.call.inj hevent
      exact hmoved ⟨decision, ⟨hreply, haccepted, hfresh⟩, hrelocates⟩
  · right
    refine hunsuspended.unmoved (remarkable_unsuspended service) hopened hrun.sound
      (fun decision haccepts hrelocates => hmoved ⟨decision, haccepts, hrelocates⟩)
      fun actor op' _ _ => steady_unsuspended actor op' service

end Restarts

/-! ### Intents -/

/-- The intent is one for the attempt. -/
structure FailoverIntent.Announces (intent : FailoverIntent) (service : ServiceName)
    (record : AttemptAuthority) : Prop where
  service : intent.service = service
  attempt : intent.attempt = record.id
  generation : intent.generation = record.generation
  fence : intent.fence = record.fence
  leaseTerm : intent.leaseTerm.value = record.fence.value
  fromTarget : intent.fromTarget = record.fromTarget
  toTarget : intent.toTarget = record.toTarget

section Intents

variable {config config' : FabricConfig} {moments : List Moment} {fabric : Fabric}
  {state found : State} {past : List Change} {service : ServiceName} {record : AttemptAuthority}
  {intent original : FailoverIntent} {move : Move} {grant : Grant} {runtime : ServiceRuntime}

/-- Two intents for the same attempt tell the executor the same. -/
theorem FailoverIntent.Announces.repeats (h : intent.Announces service record)
    (horiginal : original.Announces service record) (hreissue : intent.reissueAfterRestart = true) :
    intent.Repeats original := by
  have hterm := h.leaseTerm.trans horiginal.leaseTerm.symm
  exact FailoverIntent.ext (h.attempt.trans horiginal.attempt.symm)
    (h.service.trans horiginal.service.symm) (h.generation.trans horiginal.generation.symm)
    (h.fence.trans horiginal.fence.symm) (Gen.ext hterm)
    (h.fromTarget.trans horiginal.fromTarget.symm) (h.toTarget.trans horiginal.toTarget.symm)
    rfl rfl rfl rfl hreissue

/-- The intent of a move that is no resumption is one for the attempt that it leaves. -/
theorem announces_of_granted (hmode : move.mode ≠ .resume)
    (hsound : (Change.apply state (move.change grant config' found)).core.Sound config)
    (hlast : lastAttempt (Change.apply state (move.change grant config' found)).core move.service =
      some record) : (move.intent grant found).Announces move.service record := by
  have hfind := find?_services_move move grant config' found state
  have hcoherent := hsound.coherent _ _ hfind
  rw [authority_hard, find?_fences_move] at hcoherent
  have hplaced : Placed config (move.nextRuntime grant config' found).authority
    (move.fenceRecord grant found) := hcoherent
  obtain ⟨lease, hlease, -, hterm⟩ := hplaced.lease
  have hnext : (move.nextRuntime grant config' found).lease = some (move.lease grant found) :=
    congrArg RuntimeAuthority.lease (move.authority_nextRuntime grant config' found)
  obtain rfl := Option.some.inj (hnext.symm.trans hlease)
  rw [lastAttempt, hfind, Option.bind_some, authority_hard] at hlast
  obtain rfl := last_of_granted hmode hlast
  exact ⟨rfl, rfl, rfl, rfl, hterm, rfl, rfl⟩

/-- The last attempt of a service has the intent of the call that issued it. -/
theorem Fabric.Run.announced (hrun : Fabric.Run config moments fabric)
    (hopened : fabric.opened = true)
    (hlast : lastAttempt fabric.state.core service = some record) :
    ∃ original, Originated config moments original ∧ original.Announces service record := by
  have hstable := (preserved_true config fun _ _ => True).stable
  obtain ⟨history, memory, -, hchronicled, horigins⟩ := hrun.originates hstable fun _ _ => trivial
  obtain ⟨-, hgrounded, -⟩ := hchronicled.running hopened
  rw [hgrounded.explains.core] at hlast
  obtain ⟨past, change, hfront, ⟨hanew, ⟨held, hholding, -⟩, -⟩, hissued⟩ :=
    exists_issuing hgrounded.lawful hlast
  obtain ⟨earlier, moment, later, hsplit, hkept, horigin⟩ := horigins past change hfront
  obtain ⟨op, decision, move, hundertakes, haccepts, -⟩ :=
    horigin.undertakes hstable trivial hholding
  have hresumes := hundertakes.resumes
  rw [hanew] at hresumes
  have hsound := soundReplayed (hgrounded.lawful.of_front hfront)
  rw [replayed_snoc] at hissued hsound
  cases hundertakes with
  | @intro actor _ op' check runtime qualified _ commit _ hevent _ hacts hmoving _ _ hok hmoves
      hchange =>
    obtain ⟨hservice, -⟩ := Fabric.moving_move hmoving hok
    have hmode : qualified.move.mode ≠ .resume := by
      intro hmode
      have hagain := (mode_of_moving hmoving hok).mp hmode
      rw [hacts.resumes, ← hresumes] at hagain
      cases hagain
    cases hmoves with
    | @intro prior grant pushed before _ _ _ _ _ _ hintent =>
      obtain rfl := hchange
      rw [← hservice] at hissued
      refine ⟨_, ⟨earlier, moment, later, decision, hsplit, hkept, ?_, ?_, hintent⟩, ?_⟩
      · rw [hevent]
        exact hresumes.symm
      · rw [hevent]
        exact haccepts
      · rw [← hservice]
        exact announces_of_granted hmode hsound hissued

/-- The intent of a resumption is one for the attempt that the service has. -/
theorem Renewing.announces {previous : AttemptRecord} {held : FenceRecord}
    (h : Renewing config service runtime move grant previous held) :
    (move.intent grant state).Announces service previous.authority := by
  obtain ⟨hid, htarget, hfence, hgeneration⟩ := h.id
  obtain ⟨lease, hlease, -, hterm⟩ := h.placed.lease
  have hheld : runtime.fence = held.token := h.placed.fence
  refine ⟨h.named, h.attempt.trans hid.symm, h.generation.trans hgeneration.symm, ?_, ?_,
    h.source, h.destination.trans htarget.symm⟩
  · exact (h.fence.trans hheld).trans hfence.symm
  · show grant.term.value = previous.fence.value
    rw [h.term lease hlease, hterm, hfence]

end Intents

/-! ### Runs -/

section Runs

variable {config : FabricConfig} {moments : List Moment} {fabric : Fabric}
  {request : FailoverRequest} {decision : RecoveryDecision}

/-- An accepted resumption comes after a restart, leaves the service as it was but for its
epoch and phase, and repeats the intent of its attempt, exactly if the service had failed over
and its attempt has no other record. -/
theorem resumption_reissues_iff (hrun : Fabric.Run config moments fabric)
    (haccepts : fabric.Accepts (.resumeRecovery request) decision) :
    ∃ before after, fabric.state.services.find? request.service = some before ∧
      (fabric.call (.resumeRecovery request)).2.state.services.find? request.service =
        some after ∧
      ((Restarted moments request.service ∧ Reissued before after ∧
          ∃ intent original, decision.intent = some intent ∧
            Originated config moments original ∧ intent.Repeats original) ↔
        before.failoverRecorded = true ∧ before.issues = 1) := by
  obtain ⟨hopened, before, qualified, hfind, hcheck, hconcludes⟩ := haccepts.concludes
  obtain ⟨hsourced, hlength⟩ := hrun.sourced hopened hfind
  obtain ⟨-, hrecovery, -⟩ := Fabric.checkResume_ok hcheck
  cases hconcludes with
  | @intro prior grant hconfig hprior hprepare hintent hservice =>
    obtain ⟨hminted, -⟩ := prepare_ok hprepare
    obtain ⟨previous, held, hrenewing⟩ :=
      renewing_of_checkResume hrun.sound hfind hcheck hminted hsourced
    rw [hconfig, hrun.configured, hrenewing.named] at hservice
    refine ⟨before, _, hfind, hservice, ?_, fun hcondition => ?_⟩
    · rintro ⟨-, hreissued, -⟩
      exact (hrenewing.reissued_iff hsourced hlength).mp hreissued
    · have hlast : lastAttempt fabric.state.core request.service = some previous.authority := by
        rw [lastAttempt, State.core_service, hfind, Option.map_some, Option.bind_some,
          authority_hard, ServiceRuntime.authority, List.getLast?_map, hrenewing.last]
        rfl
      obtain ⟨original, horiginated, hannounces⟩ := hrun.announced hopened hlast
      refine ⟨?_, (hrenewing.reissued_iff hsourced hlength).mpr hcondition, _, original, hintent,
        horiginated, hrenewing.announces.repeats hannounces (decide_eq_true hrenewing.mode)⟩
      rcases hrun.restarted_or hopened request.service with hrestarted | hunsuspended
      · exact hrestarted
      · have hrecorded := hunsuspended before hfind hrecovery
        rw [hcondition.1] at hrecorded
        cases hrecorded

end Runs

/-! ### Resumptions of the small fleet -/

namespace Fleet

set_option maxRecDepth 100000 in
theorem waits_interrupted :
    ((keeping interrupted).accepted (resume 3),
      ((keeping interrupted).state.services.find? service).map fun runtime =>
        (runtime.failoverRecorded, runtime.issues)) = (true, some (true, 1)) := by
  have hreopens : ((keeping (placed ++ [moveOn 2])).reopening.map fun fabric =>
      let vouched := fabric.after [support (booted secondary 1) 2]
      (vouched.accepted (resume 3), (vouched.state.services.find? service).map fun runtime =>
        (runtime.failoverRecorded, runtime.issues))) = some (true, some (true, 1)) := by
    simp only [Fleet.keeping, Fabric.after_eq_drafted, Fabric.accepted, Fabric.call_eq_drafted]
    decide +kernel
  obtain ⟨fabric, hfabric, hfacts⟩ := Option.map_eq_some_iff.mp hreopens
  rw [← hfacts, show interrupted = placed ++ [moveOn 2] ++ [.closeFabric, .openFabric] ++
    [support (booted secondary 1) 2] by simp [interrupted], keeping_reopening hfabric]

/-- The service was moved on after a restart, and its new target is vouched for after another. -/
def recounted : List Op :=
  placed ++ [.closeFabric, .openFabric] ++
    [support (booted primary 1) 2, support (booted secondary 1) 2, moveOn 2] ++
    [.closeFabric, .openFabric] ++ [support (booted secondary 1) 3]

set_option maxRecDepth 100000 in
theorem recounts_recounted :
    ((keeping recounted).accepted (resume 3),
      (((keeping recounted).call (resume 3)).2.state.services.find? service).map
        ServiceRuntime.issues) = (true, some 2) := by
  have hreopens : ((keeping placed).reopening.bind fun fabric =>
      (fabric.after
        [support (booted primary 1) 2, support (booted secondary 1) 2, moveOn 2]).reopening.map
      fun fabric =>
        let vouched := fabric.after [support (booted secondary 1) 3]
        (vouched.accepted (resume 3),
          ((vouched.call (resume 3)).2.state.services.find? service).map
            ServiceRuntime.issues)) = some (true, some 2) := by
    simp only [Fleet.keeping, Fabric.after_eq_drafted, Fabric.accepted, Fabric.call_eq_drafted]
    decide +kernel
  obtain ⟨first, hfirst, hreopens⟩ := Option.bind_eq_some_iff.mp hreopens
  obtain ⟨second, hsecond, hfacts⟩ := Option.map_eq_some_iff.mp hreopens
  rw [← keeping_reopening hfirst] at hsecond
  rw [← hfacts, recounted, keeping_reopening hsecond]

end Fleet

/-- The resumption of a failover after a restart. -/
theorem resumption_reissues_iff_interrupted : ∃ decision before after,
    (Fleet.keeping Fleet.interrupted).Accepts (Fleet.resume 3) decision ∧
    (Fleet.keeping Fleet.interrupted).state.services.find? Fleet.service = some before ∧
    ((Fleet.keeping Fleet.interrupted).call (Fleet.resume 3)).2.state.services.find?
      Fleet.service = some after ∧ Reissued before after := by
  obtain ⟨haccepted, hfound⟩ := Prod.mk.inj Fleet.waits_interrupted
  obtain ⟨decision, haccepts⟩ := Fabric.exists_accepts_of_accepted haccepted
  obtain ⟨runtime, hfind, hfacts⟩ := Option.map_eq_some_iff.mp hfound
  obtain ⟨hrecorded, honce⟩ := Prod.mk.inj hfacts
  have hrun := Fleet.run_keeping Fleet.interrupted
  generalize Fleet.keeping Fleet.interrupted = start at haccepts hfind hrun ⊢
  obtain ⟨before, after, hbefore, hafter, hiff⟩ := resumption_reissues_iff hrun haccepts
  obtain rfl := Option.some.inj (hfind.symm.trans hbefore)
  obtain ⟨-, hreissued, -⟩ := hiff.mpr ⟨hrecorded, honce⟩
  exact ⟨decision, runtime, after, haccepts, hbefore, hafter, hreissued⟩

/-- A service that moved last was not moved before the last open. -/
theorem not_restarted {moments : List Moment} {moment : Moment} {service : ServiceName}
    (hmoved : moment.Relocates service) : ¬Restarted (moments ++ [moment]) service := by
  rintro ⟨later, ⟨earlier, before, -, hsplit, -⟩, hlater⟩
  rcases List.eq_nil_or_concat later with rfl | ⟨front, last, rfl⟩
  · obtain ⟨-, hlast⟩ := List.append_inj' hsplit rfl
    obtain ⟨op, decision, ⟨hevent, -⟩, hrelocates⟩ := hmoved
    rw [List.singleton_inj.mp hlast] at hevent
    obtain ⟨rfl, -⟩ := Fabric.Event.call.inj hevent
    cases hrelocates
  · rw [List.concat_eq_append, ← List.cons_append, ← List.append_assoc] at hsplit
    obtain ⟨-, hlast⟩ := List.append_inj' hsplit rfl
    rw [List.singleton_inj.mp hlast] at hmoved
    exact hlater last (by simp) hmoved

/-- A first placement is resumed without a restart, which turns it into a failover; and after a
restart a failover gets the identifier of the placement, so that two records have it. -/
theorem not_resumption_reissues :
    (∃ decision before after, (Fleet.running Fleet.placed).Accepts (Fleet.resume 2) decision ∧
      ¬Restarted ((Fabric.create {} {}).momentsOf Fleet.placed) Fleet.service ∧
      (Fleet.running Fleet.placed).state.services.find? Fleet.service = some before ∧
      ((Fleet.running Fleet.placed).call (Fleet.resume 2)).2.state.services.find?
        Fleet.service = some after ∧ after.failoverRecorded ≠ before.failoverRecorded) ∧
    ∃ decision after, (Fleet.keeping Fleet.recounted).Accepts (Fleet.resume 3) decision ∧
      ((Fleet.keeping Fleet.recounted).call (Fleet.resume 3)).2.state.services.find?
        Fleet.service = some after ∧ after.issues ≠ 1 := by
  constructor
  · have hplaces : (Fleet.running (Fleet.opening ++ Fleet.adopt Fleet.primary 1 ++
        Fleet.adopt Fleet.secondary 1)).accepted (Fleet.place 1 Fleet.primary) = true := by
      simp only [Fleet.running, Fabric.after_eq_drafted, Fabric.accepted, Fabric.call_eq_drafted]
      decide +kernel
    have haccepted : (Fleet.running Fleet.placed).accepted (Fleet.resume 2) = true := by
      simp only [Fleet.running, Fabric.after_eq_drafted, Fabric.accepted, Fabric.call_eq_drafted]
      decide +kernel
    have hbefore : ((Fleet.running Fleet.placed).state.services.find? Fleet.service).map
        ServiceRuntime.failoverRecorded = some false := by
      simp only [Fleet.running, Fabric.after_eq_drafted]
      decide +kernel
    have hafter : (((Fleet.running Fleet.placed).call (Fleet.resume 2)).2.state.services.find?
        Fleet.service).map ServiceRuntime.failoverRecorded = some true := by
      simp only [Fleet.running, Fabric.after_eq_drafted, Fabric.call_eq_drafted]
      decide +kernel
    obtain ⟨placement, hplacement⟩ := Fabric.exists_accepts_of_accepted hplaces
    obtain ⟨decision, haccepts⟩ := Fabric.exists_accepts_of_accepted haccepted
    obtain ⟨before, hfind, hunrecorded⟩ := Option.map_eq_some_iff.mp hbefore
    obtain ⟨after, hfind', hrecorded⟩ := Option.map_eq_some_iff.mp hafter
    refine ⟨decision, before, after, haccepts, ?_, hfind, hfind', ?_⟩
    · rw [Fleet.placed, Fabric.momentsOf_split]
      exact not_restarted ⟨_, placement, hplacement.asMoment, rfl⟩
    · rw [hunrecorded, hrecorded]
      decide
  · obtain ⟨haccepted, hfound⟩ := Prod.mk.inj Fleet.recounts_recounted
    obtain ⟨decision, haccepts⟩ := Fabric.exists_accepts_of_accepted haccepted
    obtain ⟨after, hfind, hissues⟩ := Option.map_eq_some_iff.mp hfound
    refine ⟨decision, after, haccepts, hfind, ?_⟩
    rw [hissues]
    decide

end OffloadFabric
