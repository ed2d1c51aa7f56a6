import OffloadFabric.Authority

/-!
Whatever the coordinator commits is legitimate, and legitimate changes keep its
registries sound. Both hold from an empty state on, so they hold along every history.
-/
namespace OffloadFabric

/-! ### Legitimate changes keep the registries sound -/

section Sound

variable {config : FabricConfig} {state : State}

theorem soundInitial (config : FabricConfig) : (initialState config).core.Sound config where
  targets _ _ h := by cases h
  services _ _ h := by cases h
  fences _ _ h := by cases h
  coherent _ _ h := by cases h

/-- What a record about one runtime leaves of its service's fence. -/
def RuntimeChange.fenceAfter (change : RuntimeChange) (old : Option FenceRecord) :
    Option FenceRecord :=
  match change.fence with
  | some fence => some fence
  | none => old

theorem find?_services_runtimeChanged (state : State) (kind : RuntimeRecordKind)
    (change : RuntimeChange) (name : ServiceName) :
    (Change.apply state (.runtimeChanged kind change)).core.services.find? name =
      if name = change.service then some change.runtime.hard
      else state.core.services.find? name := by
  simp only [Change.apply, State.core, OrderedMap.mapValues_insert, OrderedMap.find?_insert]

theorem find?_fences_runtimeChanged (state : State) (kind : RuntimeRecordKind)
    (change : RuntimeChange) (name : ServiceName) :
    (Change.apply state (.runtimeChanged kind change)).core.fences.find? name =
      if name = change.service then change.fenceAfter (state.core.fences.find? name)
      else state.core.fences.find? name := by
  simp only [Change.apply, State.core, RuntimeChange.fenceAfter]
  cases change.fence with
  | none => simp
  | some fence => simp only [OrderedMap.find?_insert]

/-- A runtime may be replaced by one that is coherent with the fence it comes with. -/
theorem Core.Sound.runtimeChanged (hsound : state.core.Sound config) (kind : RuntimeRecordKind)
    {change : RuntimeChange} (hname : change.runtime.descriptor.name = change.service)
    (hfence : ∀ fence ∈ change.fence, fence.service = change.service)
    (hcoherent : Coherent config change.runtime.authority
      (change.fenceAfter (state.core.fences.find? change.service))) :
    (Change.apply state (.runtimeChanged kind change)).core.Sound config := by
  refine ⟨hsound.targets, fun name runtime hfind => ?_, fun name fence hfind => ?_,
    fun name runtime hfind => ?_⟩
  · rw [find?_services_runtimeChanged] at hfind
    split at hfind
    · rename_i heq
      rw [← Option.some.inj hfind, heq]
      exact hname
    · exact hsound.services name runtime hfind
  · rw [find?_fences_runtimeChanged] at hfind
    rw [find?_services_runtimeChanged]
    split at hfind
    · rename_i heq
      rw [if_pos heq]
      refine ⟨?_, _, rfl⟩
      unfold RuntimeChange.fenceAfter at hfind
      split at hfind
      · rename_i written hwritten
        obtain rfl := Option.some.inj hfind
        exact (hfence written hwritten).trans heq.symm
      · exact (hsound.fences name fence hfind).1
    · rename_i hne
      rw [if_neg hne]
      exact hsound.fences name fence hfind
  · rw [find?_services_runtimeChanged] at hfind
    rw [find?_fences_runtimeChanged]
    split at hfind
    · rename_i heq
      rw [if_pos heq, ← Option.some.inj hfind, authority_hard, heq]
      exact hcoherent
    · rename_i hne
      rw [if_neg hne]
      exact hsound.coherent name runtime hfind

/-- The shape of a service before a move, from the registries. -/
theorem Core.Sound.moved (hsound : state.core.Sound config) {move : Move}
    (hfind : state.core.services.find? move.service = some move.runtime.hard) :
    move.runtime.descriptor.name = move.service ∧
      Coherent config move.runtime.authority (state.fences.find? move.service) := by
  have hname := hsound.services _ _ hfind
  have hcoherent := hsound.coherent _ _ hfind
  rw [authority_hard] at hcoherent
  exact ⟨hname, hcoherent⟩

theorem descriptor_nextRuntime (move : Move) (grant : Grant) (config : FabricConfig)
    (state : State) :
    (move.nextRuntime grant config state).descriptor = move.runtime.descriptor :=
  congrArg RuntimeAuthority.descriptor (move.authority_nextRuntime grant config state)

theorem Core.Sound.apply {change : Change} (hsound : state.core.Sound config)
    (h : Legit config state.core change) : (Change.apply state change).core.Sound config := by
  cases h with
  | @serviceRegistered descriptor hnew =>
    have hservices (name : ServiceName) :
        (Change.apply state (.serviceRegistered descriptor)).core.services.find? name =
          if name = descriptor.name then
            some (ServiceRuntime.hard { descriptor, lifecycle := .registered })
          else state.core.services.find? name := by
      simp only [Change.apply, State.core, OrderedMap.mapValues_insert, OrderedMap.find?_insert]
    refine ⟨hsound.targets, fun name runtime hfind => ?_, fun name fence hfind => ?_,
      fun name runtime hfind => ?_⟩
    · rw [hservices] at hfind
      split at hfind
      · rename_i heq
        rw [← Option.some.inj hfind, heq]
        rfl
      · exact hsound.services name runtime hfind
    · obtain ⟨hservice, runtime, hruntime⟩ := hsound.fences name fence hfind
      refine ⟨hservice, ?_⟩
      rw [hservices]
      split
      · exact ⟨_, rfl⟩
      · exact ⟨runtime, hruntime⟩
    · rw [hservices] at hfind
      split at hfind
      · rename_i heq
        have hnone : state.core.fences.find? name = none := by
          cases hfence : state.core.fences.find? name with
          | none => rfl
          | some fence =>
            obtain ⟨-, runtime, hruntime⟩ := hsound.fences name fence hfence
            rw [heq, hnew] at hruntime
            cases hruntime
        rw [show (Change.apply state (.serviceRegistered descriptor)).core.fences.find? name =
          none from hnone, ← Option.some.inj hfind]
        exact ⟨rfl, rfl, rfl, rfl, rfl⟩
      · exact hsound.coherent name runtime hfind
  | @targetUpserted target hname =>
    refine ⟨fun name record hfind => ?_, hsound.services, hsound.fences, hsound.coherent⟩
    have hfind : (state.targets.insert target.name target).find? name = some record := hfind
    rw [OrderedMap.find?_insert] at hfind
    split at hfind
    · rename_i heq
      rw [← Option.some.inj hfind, heq]
      exact ⟨rfl, hname⟩
    · exact hsound.targets name record hfind
  | topologyGenerationSet generation =>
    exact ⟨hsound.targets, hsound.services, hsound.fences, hsound.coherent⟩
  | policySet policy => exact ⟨hsound.targets, hsound.services, hsound.fences, hsound.coherent⟩
  | capabilityIngested evidence =>
    exact ⟨hsound.targets, hsound.services, hsound.fences, hsound.coherent⟩
  | failureIngested _ => exact ⟨hsound.targets, hsound.services, hsound.fences, hsound.coherent⟩
  | dependencyIngested observation =>
    exact ⟨hsound.targets, hsound.services, hsound.fences, hsound.coherent⟩
  | targetRetired target =>
    refine ⟨fun name record hfind => ?_, hsound.services, hsound.fences, hsound.coherent⟩
    have hfind : (state.targets.erase target).find? name = some record := hfind
    rw [OrderedMap.find?_erase] at hfind
    split at hfind
    · cases hfind
    · exact hsound.targets name record hfind
  | serviceWithdrawn service =>
    rw [Change.core_serviceWithdrawn]
    exact hsound
  | sourceRegistered source role =>
    exact ⟨hsound.targets, hsound.services, hsound.fences, hsound.coherent⟩
  | epochAdvanced epoch boot =>
    exact ⟨hsound.targets, hsound.services, hsound.fences, hsound.coherent⟩
  | @rewritten kind service next old hfind hauthority =>
    have hdescriptor := congrArg RuntimeAuthority.descriptor hauthority
    refine hsound.runtimeChanged kind ?_ (fun _ h => by cases h) ?_
    · exact (congrArg ServiceDescriptor.name hdescriptor).trans (hsound.services _ _ hfind)
    · exact hauthority ▸ hsound.coherent _ _ hfind
  | @granted found move grant name hcore hfind hminted hmode hsource htarget =>
    obtain ⟨hname, hcoherent⟩ := hsound.moved hfind
    have hfences : state.fences = found.fences := congrArg Core.fences hcore.symm
    refine hsound.runtimeChanged _ ?_ ?_ ?_
    · rw [descriptor_nextRuntime]
      exact hname
    · intro fence hfence
      obtain rfl := Option.some.inj hfence
      rfl
    · have hvalid : move.destination.valid = true := by
        obtain ⟨hrecord, hempty⟩ := hsound.targets _ _ htarget
        unfold TargetRef.valid Move.destination
        dsimp only
        rw [hrecord, hempty]
        rfl
      exact placed_of_granted (hfences ▸ hcoherent) rfl hminted hmode hvalid
  | @renewed found move grant previous hcore hfind hminted hmode hprevious hsource htarget
      hincarnation =>
    obtain ⟨hname, hcoherent⟩ := hsound.moved hfind
    refine hsound.runtimeChanged _ ?_ ?_ ?_
    · rw [descriptor_nextRuntime]
      exact hname
    · intro fence hfence
      obtain rfl := Option.some.inj hfence
      rfl
    · obtain ⟨hrecord, -⟩ := hsound.targets _ _ htarget
      obtain ⟨held, -, -, -, -, -, hplaced⟩ :=
        placed_of_renewed hcoherent hminted hmode hprevious hrecord hincarnation
      exact hplaced

end Sound

/-! ### Commits are legitimate -/

section Commits

variable {fabric : Fabric} {op : Op} {commit : Commit}

theorem Fabric.Keeps.core {fabric' : Fabric} (h : fabric.Keeps fabric') :
    fabric'.state.core = fabric.state.core := h.state.core

theorem Fabric.Writes.core {change : Change} {update : State → State}
    (h : fabric.Writes change update commit) : commit.before.core = fabric.state.core :=
  h.before.core

theorem Fabric.Moves.core {move : Move} {decision : RecoveryDecision}
    (h : fabric.Moves move decision commit) : commit.before.core = fabric.state.core := by
  cases h with
  | intro hprior _ hbefore _ _ _ _ => exact hbefore.core.trans hprior.core

theorem core_find?_service {service : ServiceName} {runtime : ServiceRuntime}
    (h : fabric.state.services.find? service = some runtime) :
    fabric.state.core.services.find? service = some runtime.hard := by
  rw [State.core_service, h]
  rfl

/-- A rewritten runtime that keeps its authority is legitimate. -/
theorem Fabric.Writes.legit_rewritten {kind : RuntimeRecordKind} {service : ServiceName}
    {runtime next : ServiceRuntime} {update : State → State}
    (h : fabric.Writes (.runtimeChanged kind { service, runtime := next }) update commit)
    (hfind : fabric.state.services.find? service = some runtime)
    (hauthority : next.authority = runtime.authority) :
    Legit fabric.config commit.before.core commit.change := by
  rw [h.change]
  have hold : commit.before.core.services.find? service = some runtime.hard := by
    rw [h.core]
    exact core_find?_service hfind
  exact .rewritten hold (hauthority.trans (authority_hard runtime).symm)

theorem Fabric.Moves.legit_granted {move : Move} {decision : RecoveryDecision} {name : TargetName}
    (h : fabric.Moves move decision commit)
    (hfind : fabric.state.services.find? move.service = some move.runtime)
    (hmode : move.mode ≠ .resume) (hsource : move.source = move.runtime.active.getD {})
    (htarget : fabric.state.targets.find? name = some move.target) :
    Legit fabric.config commit.before.core commit.change := by
  have hcore := h.core
  cases h with
  | @intro prior grant pushed before hprior hprepare hbefore _ _ _ _ =>
    rw [hprior.config]
    have hregistered : before.core.targets.find? name = some move.target := by
      rw [hcore]
      exact htarget
    refine .granted hbefore.core.symm ?_ (prepare_ok hprepare).1 hmode hsource hregistered
    rw [hcore]
    exact core_find?_service hfind

theorem Fabric.Moves.legit_renewed {move : Move} {decision : RecoveryDecision}
    {previous : AttemptRecord} (h : fabric.Moves move decision commit)
    (hfind : fabric.state.services.find? move.service = some move.runtime)
    (hmode : move.mode = .resume) (hprevious : move.runtime.currentAttemptRecord = some previous)
    (hsource : move.source = previous.fromTarget)
    (htarget : fabric.state.targets.find? previous.toTarget.target = some move.target)
    (hincarnation : move.target.incarnation = previous.toTarget.incarnation) :
    Legit fabric.config commit.before.core commit.change := by
  have hcore := h.core
  cases h with
  | @intro prior grant pushed before hprior hprepare hbefore _ _ _ _ =>
    rw [hprior.config]
    refine .renewed hbefore.core.symm ?_ (prepare_ok hprepare).1 hmode hprevious hsource ?_
      hincarnation
    · rw [hcore]
      exact core_find?_service hfind
    · rw [hcore]
      exact htarget

theorem Fabric.legit_failover {service : ServiceName} {request : FailoverRequest}
    {runtime : ServiceRuntime} {qualified : Qualified} {decision : RecoveryDecision}
    (hservice : request.service = service)
    (hfind : fabric.state.services.find? service = some runtime)
    (hcheck : fabric.checkFailover request runtime = .ok qualified)
    (h : fabric.Moves qualified.move decision commit) :
    Legit fabric.config commit.before.core commit.change := by
  obtain ⟨-, -, -, -, -, -, evidence, target, -, hchosen, hmove⟩ := checkFailover_ok hcheck
  obtain ⟨-, name, htarget, -, -⟩ := selectFallback_ok hchosen
  subst hservice
  have htarget : fabric.state.targets.find? name = some qualified.move.target := by
    rw [hmove]
    exact htarget
  refine h.legit_granted ?_ ?_ ?_ htarget <;> rw [hmove]
  · exact hfind
  · exact fun hmode => by cases hmode

theorem Fabric.Decides.legit {service : ServiceName} {check : ServiceRuntime → Check Qualified}
    {runtime : ServiceRuntime} {qualified : Qualified} {decision : RecoveryDecision}
    (hop : fabric.moving op = some (service, check))
    (hfind : fabric.state.services.find? service = some runtime)
    (hcheck : check runtime = .ok qualified) (h : fabric.Moves qualified.move decision commit) :
    Legit fabric.config commit.before.core commit.change := by
  cases op with
  | establishPlacement request =>
    cases hop
    obtain ⟨-, -, hactive, target, htarget, -, -, hmove⟩ := checkPlacement_ok hcheck
    have htarget : fabric.state.targets.find? request.target = some qualified.move.target := by
      rw [hmove]
      exact htarget
    refine h.legit_granted ?_ ?_ ?_ htarget <;> rw [hmove]
    · exact hfind
    · exact fun hmode => by cases hmode
    · rw [hactive]
      rfl
  | requestFailover request =>
    cases hop
    exact legit_failover rfl hfind hcheck h
  | resumeRecovery request =>
    cases hop
    obtain ⟨-, -, -, previous, target, hprevious, htarget, hincarnation, -, hmove⟩ :=
      checkResume_ok hcheck
    have hprevious' : qualified.move.runtime.currentAttemptRecord = some previous := by
      rw [hmove]
      exact hprevious
    refine h.legit_renewed ?_ ?_ hprevious' ?_ ?_ ?_ <;> rw [hmove]
    · exact hfind
    · exact htarget
    · exact hincarnation
  | requestFailback request =>
    cases hop
    obtain ⟨-, -, -, -, original, record, slot, -, hrecord, -, -, -, -, -, -, hmove⟩ :=
      checkFailback_ok hcheck
    have htarget : fabric.state.targets.find? original.target = some qualified.move.target := by
      rw [hmove]
      exact hrecord
    refine h.legit_granted ?_ ?_ ?_ htarget <;> rw [hmove]
    · exact hfind
    · exact fun hmode => by cases hmode
  | _ => cases hop

theorem Fabric.Ingested.legit {change : Change} {update : State → State}
    (hingested : fabric.Ingested op change update) (h : fabric.Writes change update commit) :
    Legit fabric.config commit.before.core commit.change := by
  rw [h.change, h.core]
  cases hingested with
  | enrolled => exact .sourceRegistered _ _
  | serviceRegistered _ hnew =>
    refine .serviceRegistered ?_
    rw [State.core_service, hnew]
    rfl
  | targetRegistered _ hname => exact .targetUpserted hname
  | topologySet => exact .topologyGenerationSet _
  | policySet => exact .policySet _
  | withdrawn => exact .serviceWithdrawn _
  | retired => exact .targetRetired _
  | capability => exact .capabilityIngested _
  | failure _ _ hid => exact .failureIngested (assignEvidenceId_ok hid).1
  | suspicion _ _ hid => exact .failureIngested (assignEvidenceId_ok hid).1
  | dependency => exact .dependencyIngested _

theorem authority_acknowledgedRuntime (runtime : ServiceRuntime) (ack : IntentAck)
    (stamp : LogicalTick) :
    (Fabric.acknowledgedRuntime runtime ack stamp).authority = runtime.authority := by
  have hhistory : (ServiceRuntime.modifyNewest ack.attempt (Fabric.acknowledgedRecord ack.accepted)
      runtime.history).map AttemptRecord.authority =
        runtime.history.map AttemptRecord.authority :=
    authority_modifyNewest (fun record => by unfold Fabric.acknowledgedRecord; split <;> rfl) _
  unfold Fabric.acknowledgedRuntime
  dsimp only
  split <;>
    simp only [ServiceRuntime.authority, ServiceRuntime.invalidateVerification, hhistory]

theorem authority_applyEffect {report : EffectReport} {runtime next : ServiceRuntime}
    {stamp : LogicalTick} {outcome : Reason}
    (h : fabric.applyEffect report runtime stamp = .ok (next, outcome)) :
    next.authority = runtime.authority := by
  unfold Fabric.applyEffect at h
  dsimp only at h
  split at h
  · obtain ⟨rfl, -⟩ := Prod.mk.inj (check_pure_ok.mp h)
    rfl
  · obtain ⟨rfl, -⟩ := Prod.mk.inj (check_pure_ok.mp h)
    rfl
  · obtain ⟨rfl, -⟩ := Prod.mk.inj (check_pure_ok.mp h)
    rfl
  · obtain ⟨rfl, -⟩ := Prod.mk.inj (check_pure_ok.mp (require_bind_ok.mp h).2)
    rfl
  · obtain ⟨rfl, -⟩ := Prod.mk.inj (check_pure_ok.mp (require_bind_ok.mp h).2)
    rfl

theorem find?_serviceOfAttempt {state : State} {attempt : AttemptId}
    {entry : ServiceName × ServiceRuntime}
    (h : Fabric.serviceOfAttempt state attempt = some entry) :
    state.services.find? entry.1 = some entry.2 ∧ entry.2.currentAttempt = attempt := by
  unfold Fabric.serviceOfAttempt at h
  refine ⟨(state.services.find?_eq_some_iff _ _).mpr (List.mem_of_find?_eq_some h), ?_⟩
  simpa using List.find?_some h

/-- Whatever a call commits is legitimate in the memory it is committed in. -/
theorem Fabric.Caused.legit (h : fabric.Caused op commit)
    (hsound : fabric.state.core.Sound fabric.config)
    (hids : ∀ key evidence, fabric.state.failures.find? key = some evidence →
      evidence.id.isNil = false) :
    Legit fabric.config commit.before.core commit.change := by
  cases h with
  | ingested hop hok hwrites => exact (ingested_of_ok hop hok).legit hwrites
  | moved hop hfind hcheck hmoves => exact Decides.legit hop hfind hcheck hmoves
  | denied hfind _ _ hwrites => exact hwrites.legit_rewritten hfind rfl
  | confirmed _ hcheck _ hwrites =>
    have hid := hids _ _ (checkResolution_ok hcheck).2.2.2.1
    rw [hwrites.change]
    exact .failureIngested hid
  | acknowledged hentry _ hwrites =>
    obtain ⟨hfind, -⟩ := find?_serviceOfAttempt hentry
    have hname := hsound.services _ _ (core_find?_service hfind)
    refine hwrites.legit_rewritten ?_ (authority_acknowledgedRuntime _ _ _)
    exact (congrArg _ hname).trans hfind
  | reported hfind _ _ heffect hwrites =>
    exact hwrites.legit_rewritten hfind (authority_applyEffect (checkEffect_ok heffect).2.2)

end Commits

end OffloadFabric
