import OffloadFabric.Operations

/-!
The commits of a public call. Every operation but opening and closing evolves the
runtime by commits, and each of them has one cause: an ingestion, a move, an ambiguity
that is denied or confirmed, an acknowledgement, or the report of an effect. Only a
confirmed ambiguity makes two commits: its promotion, then the failover it asks for.
-/
namespace OffloadFabric

namespace Fabric

/-! ### Causes -/

/-- The check of an operation that ingests one change. -/
def ingestion (fabric : Fabric) : Op → Option (Check Proposal)
  | .enrollSource source role => some (fabric.checkEnrollSource source role)
  | .registerService descriptor registrar =>
    some (fabric.checkRegisterService descriptor registrar)
  | .registerTarget target registrar => some (fabric.checkRegisterTarget target registrar)
  | .setTopologyGeneration generation reporter =>
    some (fabric.checkSetTopologyGeneration generation reporter)
  | .setPolicy policy => some (fabric.checkSetPolicy policy)
  | .withdrawService service requester => some (fabric.checkWithdrawService service requester)
  | .retireTarget target requester => some (fabric.checkRetireTarget target requester)
  | .ingestCapability evidence => some (fabric.checkIngestCapability evidence)
  | .ingestFailure evidence => some (fabric.checkIngestFailure evidence)
  | .ingestDependency observation => some (fabric.checkIngestDependency observation)
  | _ => none

/-- The service and the check of an operation that decides one move. -/
def moving (fabric : Fabric) : Op → Option (ServiceName × (ServiceRuntime → Check Qualified))
  | .establishPlacement request => some (request.service, fabric.checkPlacement request)
  | .requestFailover request => some (request.service, fabric.checkFailover request)
  | .resumeRecovery request => some (request.service, fabric.checkResume request)
  | .requestFailback request => some (request.service, fabric.checkFailback request)
  | _ => none

/-- What each ingestion commits: its change and its update of the memory, with what its
check has found. -/
inductive Ingested (fabric : Fabric) : Op → Change → (State → State) → Prop where
  | enrolled {source : SourceName} {role : SourceRole} {stamp : LogicalTick} :
      fabric.state.tick.successor = some stamp → fabric.state.sources.find? source = none →
      fabric.state.sources.size < fabric.config.maxSources →
      Ingested fabric (.enrollSource source role) (.sourceRegistered source role) fun state =>
        { state with tick := stamp, sources := state.sources.insert source role }.bump
          .sourcesEnrolled
  | serviceRegistered {descriptor : ServiceDescriptor} {registrar : SourceName}
      {stamp : LogicalTick} :
      fabric.state.tick.successor = some stamp →
      fabric.state.services.find? descriptor.name = none →
      fabric.state.services.size < fabric.config.maxServices →
      Ingested fabric (.registerService descriptor registrar) (.serviceRegistered descriptor)
        fun state =>
          { state with
            tick := stamp
            services := state.services.insert descriptor.name
              { descriptor, lifecycle := .registered, lastChange := stamp
                lastReason := .ok } }.bump .servicesRegistered
  | targetRegistered {target : TargetRecord} {registrar : SourceName} {stamp : LogicalTick} :
      fabric.state.tick.successor = some stamp → target.name.isEmpty = false →
      fabric.checkAdoption target = .ok () →
      Ingested fabric (.registerTarget target registrar)
        (.targetUpserted { target with topologyGeneration := fabric.state.topologyGeneration })
        fun state =>
          { state with
            tick := stamp
            targets := state.targets.insert target.name
              { target with topologyGeneration := fabric.state.topologyGeneration } }.bump
            .targetsRegistered
  | topologySet {generation : TopologyGeneration} {reporter : SourceName} {stamp : LogicalTick} :
      fabric.state.tick.successor = some stamp → fabric.state.topologyGeneration < generation →
      Ingested fabric (.setTopologyGeneration generation reporter)
        (.topologyGenerationSet generation) fun state =>
          { state with tick := stamp, topologyGeneration := generation }
  | policySet {policy : PolicyDescriptor} {stamp : LogicalTick} :
      fabric.state.tick.successor = some stamp → validPolicy policy →
      fabric.state.policyGeneration < policy.generation →
      Ingested fabric (.setPolicy policy) (.policySet policy) fun state =>
        { state with tick := stamp, policy, policyGeneration := policy.generation }
  | withdrawn {service : ServiceName} {requester : SourceName} {runtime : ServiceRuntime}
      {stamp : LogicalTick} :
      fabric.state.tick.successor = some stamp →
      fabric.state.services.find? service = some runtime → runtime.lifecycle ≠ .withdrawn →
      Ingested fabric (.withdrawService service requester) (.serviceWithdrawn service) fun state =>
        ({ state with tick := stamp }.modifyService service
          fun runtime => runtime.withdraw stamp).bump .withdrawnServices
  | retired {target : TargetName} {requester : SourceName} {stamp : LogicalTick} :
      fabric.state.tick.successor = some stamp →
      Ingested fabric (.retireTarget target requester) (.targetRetired target) fun state =>
        { state with
          tick := stamp, targets := state.targets.erase target
          capabilities := state.capabilities.erase target }
  | capability {evidence record : CapabilityEvidence} {stamp : LogicalTick} :
      fabric.state.tick.successor = some stamp →
      record = { evidence with
        contentDigest := capabilityFingerprint evidence, tick := stamp } →
      Ingested fabric (.ingestCapability evidence) (.capabilityIngested record) fun state =>
        { state with
          tick := stamp
          capabilities := state.capabilities.insert evidence.target
            { evidence := record, requiresReconfirmation := false } }.bump .capabilitiesIngested
  | failure {evidence : FailureEvidence} {id : EvidenceId} {stamp : LogicalTick} :
      fabric.state.tick.successor = some stamp → fabric.Credible evidence →
      assignEvidenceId fabric.state evidence = .ok id → evidence.ambiguity = .unambiguous →
      Ingested fabric (.ingestFailure evidence)
        (.failureIngested (retainedEvidence evidence id stamp))
        (retainFailure fabric.config (retainedEvidence evidence id stamp) stamp)
  | suspicion {evidence : FailureEvidence} {id : EvidenceId} {stamp : LogicalTick} :
      fabric.state.tick.successor = some stamp → fabric.Credible evidence →
      assignEvidenceId fabric.state evidence = .ok id → evidence.ambiguity ≠ .unambiguous →
      Ingested fabric (.ingestFailure evidence)
        (.failureIngested (retainedEvidence evidence id stamp)) fun state =>
          ((retainFailure fabric.config (retainedEvidence evidence id stamp) stamp
            state).modifyService evidence.service
            fun runtime => { runtime.suspend id with lastChange := stamp }).bump .ambiguityPending
  | dependency {observation : DependencyObservation} {stamp : LogicalTick}
      {update : State → State} :
      fabric.state.tick.successor = some stamp →
      (∀ state, ∃ stats, update state =
        { Change.apply state (.dependencyIngested (retainedObservation observation stamp)) with
          tick := stamp, stats }) →
      Ingested fabric (.ingestDependency observation)
        (.dependencyIngested (retainedObservation observation stamp)) update

theorem ingested_of_ok {fabric : Fabric} {op : Op} {checked : Check Proposal} {proposal : Proposal}
    (hop : fabric.ingestion op = some checked) (hok : checked = .ok proposal) :
    fabric.Ingested op proposal.change proposal.update := by
  cases op with
  | enrollSource source role =>
    obtain rfl := Option.some.inj hop
    obtain ⟨hnew, hroom, stamp, hstamp, hchange, hupdate⟩ := checkEnrollSource_ok hok
    rw [hchange, hupdate]
    exact .enrolled hstamp hnew hroom
  | registerService descriptor registrar =>
    obtain rfl := Option.some.inj hop
    obtain ⟨-, hnew, hroom, stamp, hstamp, hchange, hupdate⟩ := checkRegisterService_ok hok
    rw [hchange, hupdate]
    exact .serviceRegistered hstamp hnew hroom
  | registerTarget target registrar =>
    obtain rfl := Option.some.inj hop
    obtain ⟨hname, hadoption, stamp, hstamp, hchange, hupdate⟩ := checkRegisterTarget_ok hok
    rw [hchange, hupdate]
    exact .targetRegistered hstamp hname hadoption
  | setTopologyGeneration generation reporter =>
    obtain rfl := Option.some.inj hop
    obtain ⟨hnewer, stamp, hstamp, hchange, hupdate⟩ := checkSetTopologyGeneration_ok hok
    rw [hchange, hupdate]
    exact .topologySet hstamp hnewer
  | setPolicy policy =>
    obtain rfl := Option.some.inj hop
    obtain ⟨hvalid, hnewer, stamp, hstamp, hchange, hupdate⟩ := checkSetPolicy_ok hok
    rw [hchange, hupdate]
    exact .policySet hstamp hvalid hnewer
  | withdrawService service requester =>
    obtain rfl := Option.some.inj hop
    obtain ⟨-, runtime, stamp, hfind, hlifecycle, hstamp, hchange, hupdate⟩ :=
      checkWithdrawService_ok hok
    rw [hchange, hupdate]
    exact .withdrawn hstamp hfind hlifecycle
  | retireTarget target requester =>
    obtain rfl := Option.some.inj hop
    obtain ⟨stamp, hstamp, hchange, hupdate⟩ := checkRetireTarget_ok hok
    rw [hchange, hupdate]
    exact .retired hstamp
  | ingestCapability evidence =>
    obtain rfl := Option.some.inj hop
    obtain ⟨-, -, stamp, record, hstamp, hrecord, hchange, hupdate⟩ := checkIngestCapability_ok hok
    rw [hchange, hupdate]
    exact .capability hstamp hrecord
  | ingestFailure evidence =>
    obtain rfl := Option.some.inj hop
    obtain ⟨hcredible, stamp, id, hstamp, hid, hchange, hupdate⟩ := checkIngestFailure_ok hok
    rw [hchange, hupdate]
    by_cases hambiguity : evidence.ambiguity = .unambiguous
    · rw [if_pos hambiguity]
      exact .failure hstamp hcredible hid hambiguity
    · rw [if_neg hambiguity]
      exact .suspicion hstamp hcredible hid hambiguity
  | ingestDependency observation =>
    obtain rfl := Option.some.inj hop
    obtain ⟨-, stamp, hstamp, hchange, hupdate⟩ := checkIngestDependency_ok hok
    rw [hchange]
    exact .dependency hstamp hupdate
  | _ => cases hop

/-- Why a call commits what it commits. -/
inductive Caused (fabric : Fabric) : Op → Commit → Prop where
  | ingested {op : Op} {checked : Check Proposal} {proposal : Proposal} {commit : Commit} :
      fabric.ingestion op = some checked → checked = .ok proposal →
      fabric.Writes proposal.change proposal.update commit → Caused fabric op commit
  | moved {op : Op} {service : ServiceName} {check : ServiceRuntime → Check Qualified}
      {runtime : ServiceRuntime} {qualified : Qualified} {decision : RecoveryDecision}
      {commit : Commit} :
      fabric.moving op = some (service, check) →
      fabric.state.services.find? service = some runtime → check runtime = .ok qualified →
      fabric.Moves qualified.move decision commit → Caused fabric op commit
  | denied {resolution : AmbiguityResolution} {runtime : ServiceRuntime}
      {evidence : FailureEvidence} {stamp : LogicalTick} {commit : Commit} :
      fabric.state.services.find? resolution.service = some runtime →
      fabric.checkResolution resolution runtime = .ok (evidence, stamp) →
      resolution.confirmFailure = false →
      fabric.Writes
        (.runtimeChanged .ambiguityResolved
          { service := resolution.service, runtime := deniedRuntime runtime stamp })
        (fun state => (rewritten resolution.service (deniedRuntime runtime stamp) stamp state).bump
          .ambiguityResolved) commit →
      Caused fabric (.resolveAmbiguity resolution) commit
  | confirmed {resolution : AmbiguityResolution} {runtime : ServiceRuntime}
      {evidence : FailureEvidence} {stamp : LogicalTick} {commit : Commit} :
      fabric.state.services.find? resolution.service = some runtime →
      fabric.checkResolution resolution runtime = .ok (evidence, stamp) →
      resolution.confirmFailure = true →
      fabric.Writes (.failureIngested (promoted evidence))
        (promotedState resolution.service (promoted evidence) stamp) commit →
      Caused fabric (.resolveAmbiguity resolution) commit
  | acknowledged {ack : IntentAck} {entry : ServiceName × ServiceRuntime} {stamp : LogicalTick}
      {commit : Commit} :
      serviceOfAttempt fabric.state ack.attempt = some entry →
      fabric.checkAcknowledgement ack entry.2 = .ok stamp →
      fabric.Writes
        (.runtimeChanged .attemptAcknowledged
          { service := entry.2.descriptor.name
            runtime := acknowledgedRuntime entry.2 ack stamp })
        (rewritten entry.2.descriptor.name (acknowledgedRuntime entry.2 ack stamp) stamp) commit →
      Caused fabric (.acknowledgeIntent ack) commit
  | reported {report : EffectReport} {runtime next : ServiceRuntime} {outcome : Reason}
      {stamp : LogicalTick} {commit : Commit} :
      fabric.state.services.find? report.service = some runtime →
      fabric.checkReport report runtime = .ok () → alreadySeen report runtime = false →
      fabric.checkEffect report runtime = .ok (next, outcome, stamp) →
      fabric.Writes (.runtimeChanged .effectRecorded { service := report.service, runtime := next })
        (fun state => (rewritten report.service next stamp state).bumpAll
          (effectCounters report next)) commit →
      Caused fabric (.reportEffect report) commit

/-- Who decides what within a call: the runtime the call found, or, once an ambiguity was
confirmed, the runtime that its promotion left, which decides the failover. -/
inductive Acts (fabric : Fabric) : Op → Fabric → Op → Prop where
  | direct (op : Op) : Acts fabric op fabric op
  | confirmed {resolution : AmbiguityResolution} {commit : Commit} {middle : Fabric} :
      resolution.confirmFailure = true → fabric.Caused (.resolveAmbiguity resolution) commit →
      middle.config = fabric.config → middle.opened → middle.state = commit.after →
      Acts fabric (.resolveAmbiguity resolution) middle
        (.requestFailover (resolutionRequest resolution))

/-- The commits of a call, in order. -/
inductive Performs (fabric : Fabric) (op : Op) : List Commit → Prop where
  | nothing : Performs fabric op []
  | once {commit : Commit} : fabric.Caused op commit → Performs fabric op [commit]
  | twice {resolution : AmbiguityResolution} {first second : Commit} {middle : Fabric} :
      op = .resolveAmbiguity resolution → resolution.confirmFailure = true →
      fabric.Caused op first → middle.config = fabric.config → middle.opened →
      middle.state = first.after →
      middle.Caused (.requestFailover (resolutionRequest resolution)) second →
      Performs fabric op [first, second]

section Causes

variable {fabric fabric' : Fabric} {op : Op}

theorem opened_of_checkFailureEvidence {evidence : FailureEvidence}
    (hok : fabric.checkFailureEvidence evidence = .ok ()) : fabric.opened := by
  unfold checkFailureEvidence at hok
  dsimp only at hok
  rw [require_bind_ok] at hok
  exact hok.1

/-- Every ingestion is checked on an open runtime. -/
theorem opened_of_ingestion {checked : Check Proposal} {proposal : Proposal}
    (hop : fabric.ingestion op = some checked) (hok : checked = .ok proposal) :
    fabric.opened := by
  cases op with
  | enrollSource source role =>
    obtain rfl := Option.some.inj hop
    unfold checkEnrollSource at hok
    exact (require_bind_ok.mp hok).1
  | registerService descriptor registrar =>
    obtain rfl := Option.some.inj hop
    unfold checkRegisterService at hok
    exact (require_bind_ok.mp hok).1
  | registerTarget target registrar =>
    obtain rfl := Option.some.inj hop
    unfold checkRegisterTarget at hok
    exact (require_bind_ok.mp hok).1
  | setTopologyGeneration generation reporter =>
    obtain rfl := Option.some.inj hop
    unfold checkSetTopologyGeneration at hok
    exact (require_bind_ok.mp hok).1
  | setPolicy policy =>
    obtain rfl := Option.some.inj hop
    unfold checkSetPolicy at hok
    exact (require_bind_ok.mp hok).1
  | withdrawService service requester =>
    obtain rfl := Option.some.inj hop
    unfold checkWithdrawService at hok
    exact (require_bind_ok.mp hok).1
  | retireTarget target requester =>
    obtain rfl := Option.some.inj hop
    unfold checkRetireTarget at hok
    exact (require_bind_ok.mp hok).1
  | ingestCapability evidence =>
    obtain rfl := Option.some.inj hop
    unfold checkIngestCapability at hok
    exact (require_bind_ok.mp hok).1
  | ingestDependency observation =>
    obtain rfl := Option.some.inj hop
    unfold checkIngestDependency at hok
    exact (require_bind_ok.mp hok).1
  | ingestFailure evidence =>
    obtain rfl := Option.some.inj hop
    unfold checkIngestFailure at hok
    obtain ⟨_, hevidence, -⟩ := check_bind_ok.mp hok
    exact (opened_of_checkFailureEvidence hevidence)
  | _ => cases hop

theorem Ingests.performs {checked : Check Proposal} {code : Reason} {commits : List Commit}
    (hop : fabric.ingestion op = some checked) (h : fabric.Ingests checked code commits) :
    fabric.Performs op commits := by
  cases h with
  | turnedDown => exact .nothing
  | unwritten => exact .nothing
  | written hok hwrites => exact .once (.ingested hop hok hwrites)

/-- Every ingestion is carried out and answered in the same way. -/
theorem dispatch_ingestion {checked : Check Proposal} (hop : fabric.ingestion op = some checked) :
    ∃ service subject,
      fabric.dispatch op = replyExplained (fabric.ingest service subject checked) := by
  cases op with
  | enrollSource | registerService | registerTarget | setTopologyGeneration | setPolicy
  | withdrawService | retireTarget | ingestCapability | ingestFailure | ingestDependency =>
    obtain rfl := Option.some.inj hop
    exact ⟨_, _, rfl⟩
  | _ => cases hop

/-- An ingestion ends as its reply says. -/
theorem dispatch_ingests {checked : Check Proposal} (hop : fabric.ingestion op = some checked) :
    ∃ code explanation commits, (fabric.dispatch op).1 = .explained code explanation ∧
      fabric.Ingests checked code commits ∧ fabric.Evolves commits (fabric.dispatch op).2 := by
  obtain ⟨service, subject, hdispatch⟩ := dispatch_ingestion hop
  obtain ⟨commits, hevolves, hingests⟩ := ingest_evolves fabric service subject
    fun _ hok => opened_of_ingestion hop hok
  rw [hdispatch]
  exact ⟨_, _, commits, rfl, hingests, hevolves⟩

theorem Keeps.moves {move : Move} {decision : RecoveryDecision} {commit : Commit}
    (hkeeps : fabric.Keeps fabric') (h : fabric'.Moves move decision commit) :
    fabric.Moves move decision commit := by
  cases h with
  | intro hprior hprepare hbefore haccepted hduplicate hplan hintent =>
    exact .intro (hkeeps.trans hprior) hprepare hbefore haccepted hduplicate hplan hintent

theorem Keeps.writes {change : Change} {update : State → State} {commit : Commit}
    (hkeeps : fabric.Keeps fabric') (h : fabric'.Writes change update commit) :
    fabric.Writes change update commit :=
  ⟨hkeeps.state.trans (hkeeps.config ▸ h.before), h.change, h.after⟩

/-- Only the cancellations differ. -/
theorem keeps_cancels (fabric : Fabric) (cancels : CancelRegistry) :
    fabric.Keeps { fabric with cancels } :=
  ⟨⟨rfl, rfl, rfl, rfl, rfl⟩, .refl _ _⟩

/-- A keyed decision about a move, seen from the runtime that the request found. -/
theorem keyed_decides (fabric : Fabric) (service : ServiceName) (key : RequestKey)
    (check : Fabric → ServiceRuntime → Check Qualified)
    (decide : Fabric → RecoveryDecision × Fabric)
    (hcheck : ∀ cancels, check { fabric with cancels } = check fabric)
    (hdecide : ∀ {found : Fabric} {decision : RecoveryDecision} {fabric' : Fabric},
      decide found = (decision, fabric') → ∃ commits,
        found.Decides service (check found) decision commits ∧ found.Evolves commits fabric') :
    ∃ commits, fabric.Decides service (check fabric) (fabric.keyed service key decide).1 commits ∧
      fabric.Evolves commits (fabric.keyed service key decide).2 := by
  rcases hkeyed : fabric.keyed service key decide with ⟨decision, fabric'⟩
  rcases keyed_cases hkeyed with ⟨hdecision, hkeeps⟩ | ⟨cancels, decided, hrun, hkeeps⟩
  · exact ⟨[], .turnedDown hdecision, .keeps hkeeps⟩
  · obtain ⟨commits, hdecides, hevolves⟩ := hdecide hrun
    have hcancels := fabric.keeps_cancels cancels
    refine ⟨commits, ?_, (Evolves.after_keeps hcancels hevolves).then_keeps hkeeps⟩
    rw [hcheck] at hdecides
    cases hdecides with
    | turnedDown hdecision => exact .turnedDown hdecision
    | moved hopened hfind hok hmoves => exact .moved hopened hfind hok (hcancels.moves hmoves)

/-- A call that decides a move ends as its decision says. -/
theorem moving_decides {service : ServiceName} {check : ServiceRuntime → Check Qualified}
    (hop : fabric.moving op = some (service, check)) :
    ∃ decision commits, (fabric.dispatch op).1 = .decided decision ∧
      fabric.Decides service check decision commits ∧
      fabric.Evolves commits (fabric.dispatch op).2 := by
  cases op with
  | establishPlacement request =>
    cases hop
    obtain ⟨commits, hdecides, hevolves⟩ := fabric.keyed_decides request.service request.key
      (fun found => found.checkPlacement request) (fun found => found.doEstablishPlacement request)
      (fun _ => rfl) fun h =>
        decideMove_evolves (by exact fun _ _ => trivial) (fun _ _ => admits_checkPlacement _ _) h
    exact ⟨_, commits, rfl, hdecides, hevolves⟩
  | requestFailover request =>
    cases hop
    obtain ⟨commits, hdecides, hevolves⟩ := fabric.keyed_decides request.service request.key
      (fun found => found.checkFailover request)
      (fun found => found.doRequestFailover request false) (fun _ => rfl) doRequestFailover_evolves
    exact ⟨_, commits, rfl, hdecides, hevolves⟩
  | resumeRecovery request =>
    cases hop
    obtain ⟨commits, hdecides, hevolves⟩ := fabric.keyed_decides request.service request.key
      (fun found => found.checkResume request)
      (fun found => found.doRequestFailover request true) (fun _ => rfl) fun h =>
        decideMove_evolves (by exact fun _ _ => trivial) (fun _ _ => admits_checkResume _ _) h
    exact ⟨_, commits, rfl, hdecides, hevolves⟩
  | requestFailback request =>
    cases hop
    obtain ⟨commits, hdecides, hevolves⟩ := fabric.keyed_decides request.service request.key
      (fun found => found.checkFailback request) (fun found => found.doRequestFailback request)
      (fun _ => rfl) fun h =>
        decideMove_evolves (by exact fun _ _ => trivial) (fun _ _ => admits_checkFailback _ _) h
    exact ⟨_, commits, rfl, hdecides, hevolves⟩
  | _ => cases hop

/-- A resolution ends as its decision says. -/
theorem dispatch_resolves (fabric : Fabric) (resolution : AmbiguityResolution) :
    ∃ decision commits, (fabric.dispatch (.resolveAmbiguity resolution)).1 = .decided decision ∧
      fabric.Resolves resolution decision commits ∧
      fabric.Evolves commits (fabric.dispatch (.resolveAmbiguity resolution)).2 := by
  rcases hkeyed : fabric.keyed resolution.service resolution.key
    (·.doResolveAmbiguity resolution) with ⟨decision, fabric'⟩
  have hdispatch : fabric.dispatch (.resolveAmbiguity resolution) =
      (.decided decision, fabric') := by
    simp only [dispatch, hkeyed, replyDecided]
  rw [hdispatch]
  rcases keyed_cases hkeyed with ⟨hdecision, hkeeps⟩ | ⟨cancels, decided, hrun, hkeeps⟩
  · exact ⟨decision, [], rfl, .turnedDown hdecision, .keeps hkeeps⟩
  · obtain ⟨commits, hresolves, hevolves⟩ := doResolveAmbiguity_evolves hrun
    have hcancels := fabric.keeps_cancels cancels
    refine ⟨decision, commits, rfl, ?_, (Evolves.after_keeps hcancels hevolves).then_keeps hkeeps⟩
    cases hresolves with
    | turnedDown hdecision => exact .turnedDown hdecision
    | denied hopened hfind hcheck hconfirm hwrites =>
      exact .denied hopened hfind hcheck hconfirm (hcancels.writes hwrites)
    | confirmed hopened hfind hcheck hconfirm hwrites hconfig hmiddle hdecides =>
      exact .confirmed hopened hfind hcheck hconfirm (hcancels.writes hwrites) hconfig hmiddle
        hdecides

theorem Decides.performs {service : ServiceName} {check : ServiceRuntime → Check Qualified}
    {decision : RecoveryDecision} {commits : List Commit}
    (hop : fabric.moving op = some (service, check))
    (h : fabric.Decides service check decision commits) : fabric.Performs op commits := by
  cases h with
  | turnedDown _ => exact .nothing
  | moved _ hfind hok hmoves => exact .once (.moved hop hfind hok hmoves)

theorem Resolves.performs {resolution : AmbiguityResolution} {decision : RecoveryDecision}
    {commits : List Commit} (h : fabric.Resolves resolution decision commits) :
    fabric.Performs (.resolveAmbiguity resolution) commits := by
  cases h with
  | turnedDown _ => exact .nothing
  | denied _ hfind hcheck hconfirm hwrites => exact .once (.denied hfind hcheck hconfirm hwrites)
  | confirmed _ hfind hcheck hconfirm hwrites hconfig hmiddle hdecides =>
    have hfirst := Caused.confirmed hfind hcheck hconfirm hwrites
    cases hdecides with
    | turnedDown _ => exact .once hfirst
    | moved hopened hfind' hok hmoves =>
      exact .twice rfl hconfirm hfirst hconfig hopened hmiddle (.moved rfl hfind' hok hmoves)

theorem keeps_cancel (fabric : Fabric) (key : RequestKey) : fabric.Keeps (fabric.cancel key).2 := by
  unfold cancel
  refine Keeps.trans ?_ (keeps_recordExplanation _ _)
  split
  · exact (fabric.keeps_cancels _).trans (keeps_of_state _ (State.keeps_bump _ _ _))
  split
  · exact (fabric.keeps_cancels _).trans (keeps_of_state _ (State.keeps_bump _ _ _))
  · exact fabric.keeps_cancels _

theorem keeps_takeIntent (fabric : Fabric) : fabric.Keeps fabric.takeIntent.2 := by
  unfold takeIntent
  split
  · exact Keeps.refl fabric
  · exact ⟨⟨rfl, rfl, rfl, rfl, rfl⟩, State.keeps_bump _ _ _⟩

theorem keeps_waitForIntent (fabric : Fabric) : fabric.Keeps fabric.waitForIntent.2 := by
  unfold waitForIntent
  split
  · exact Keeps.refl fabric
  · exact ⟨⟨rfl, rfl, rfl, rfl, rfl⟩, .refl _ _⟩

/-- The reply of a call goes with its commits: an ingestion, a move and a resolution end as
their replies say. -/
structure Answers (fabric : Fabric) (op : Op) (commits : List Commit) : Prop where
  ingests : ∀ checked, fabric.ingestion op = some checked → ∃ code explanation,
    (fabric.dispatch op).1 = .explained code explanation ∧ fabric.Ingests checked code commits
  moves : ∀ service check, fabric.moving op = some (service, check) → ∃ decision,
    (fabric.dispatch op).1 = .decided decision ∧ fabric.Decides service check decision commits
  resolves : ∀ resolution, op = .resolveAmbiguity resolution → ∃ decision,
    (fabric.dispatch op).1 = .decided decision ∧ fabric.Resolves resolution decision commits

/-- A call that is no ingestion, move or resolution answers for no commit. -/
theorem Answers.of_other {commits : List Commit} (hingestion : fabric.ingestion op = none)
    (hmoving : fabric.moving op = none)
    (hresolve : ∀ resolution, op ≠ .resolveAmbiguity resolution) : fabric.Answers op commits where
  ingests checked hop := by
    rw [hingestion] at hop
    cases hop
  moves service check hop := by
    rw [hmoving] at hop
    cases hop
  resolves resolution hop := absurd hop (hresolve resolution)

theorem ingestion_evolves {checked : Check Proposal} (hop : fabric.ingestion op = some checked)
    (hmoving : fabric.moving op = none)
    (hresolve : ∀ resolution, op ≠ .resolveAmbiguity resolution) :
    ∃ commits, fabric.Evolves commits (fabric.dispatch op).2 ∧ fabric.Performs op commits ∧
      fabric.Answers op commits := by
  obtain ⟨code, explanation, commits, hreply, hingests, hevolves⟩ := dispatch_ingests hop
  refine ⟨commits, hevolves, hingests.performs hop, fun checked hchecked => ?_, ?_, ?_⟩
  · obtain rfl := Option.some.inj (hop.symm.trans hchecked)
    exact ⟨code, explanation, hreply, hingests⟩
  · intro service check hcheck
    rw [hmoving] at hcheck
    cases hcheck
  · exact fun resolution heq => absurd heq (hresolve resolution)

theorem moving_evolves {service : ServiceName} {check : ServiceRuntime → Check Qualified}
    (hop : fabric.moving op = some (service, check)) (hingestion : fabric.ingestion op = none)
    (hresolve : ∀ resolution, op ≠ .resolveAmbiguity resolution) :
    ∃ commits, fabric.Evolves commits (fabric.dispatch op).2 ∧ fabric.Performs op commits ∧
      fabric.Answers op commits := by
  obtain ⟨decision, commits, hreply, hdecides, hevolves⟩ := moving_decides hop
  refine ⟨commits, hevolves, hdecides.performs hop, ?_, fun service check hcheck => ?_, ?_⟩
  · intro checked hchecked
    rw [hingestion] at hchecked
    cases hchecked
  · obtain ⟨rfl, rfl⟩ := Prod.mk.inj (Option.some.inj (hop.symm.trans hcheck))
    exact ⟨decision, hreply, hdecides⟩
  · exact fun resolution heq => absurd heq (hresolve resolution)

/-- A call that neither opens nor closes evolves the runtime by commits it causes. -/
theorem dispatch_evolves (hopen : op ≠ .openFabric) (hclose : op ≠ .closeFabric) :
    ∃ commits, fabric.Evolves commits (fabric.dispatch op).2 ∧ fabric.Performs op commits ∧
      fabric.Answers op commits := by
  cases op with
  | openFabric => exact absurd rfl hopen
  | closeFabric => exact absurd rfl hclose
  | enrollSource | registerService | registerTarget | setTopologyGeneration | setPolicy
  | withdrawService | retireTarget | ingestCapability | ingestFailure | ingestDependency =>
    exact ingestion_evolves rfl rfl fun _ heq => by cases heq
  | establishPlacement | requestFailover | resumeRecovery | requestFailback =>
    exact moving_evolves rfl rfl fun _ heq => by cases heq
  | resolveAmbiguity resolution =>
    obtain ⟨decision, commits, hreply, hresolves, hevolves⟩ := fabric.dispatch_resolves resolution
    refine ⟨commits, hevolves, hresolves.performs, ?_, ?_, ?_⟩
    · intro checked hop
      cases hop
    · intro service check hop
      cases hop
    · intro other hother
      cases hother
      exact ⟨decision, hreply, hresolves⟩
  | acknowledgeIntent ack =>
    have hanswers (commits : List Commit) : fabric.Answers (.acknowledgeIntent ack) commits :=
      .of_other rfl rfl fun _ heq => by cases heq
    rcases hack : fabric.doAcknowledgeIntent ack with ⟨decision, fabric'⟩
    simp only [dispatch, hack, replyDecided]
    rcases doAcknowledgeIntent_evolves hack with
      ⟨-, hkeeps⟩ | ⟨entry, stamp, commit, -, hentry, hcheck, hwrites, hevolves, -⟩
    · exact ⟨[], .keeps hkeeps, .nothing, hanswers _⟩
    · exact ⟨[commit], hevolves, .once (.acknowledged hentry hcheck hwrites), hanswers _⟩
  | reportEffect report =>
    have hanswers (commits : List Commit) : fabric.Answers (.reportEffect report) commits :=
      .of_other rfl rfl fun _ heq => by cases heq
    rcases hreport : fabric.doReportEffect report with ⟨decision, fabric'⟩
    simp only [dispatch, hreport, replyDecided]
    rcases doReportEffect_evolves hreport with
      ⟨-, hkeeps⟩ | ⟨runtime, next, outcome, stamp, commit, -, hfind, hok, hseen, hcheck, hwrites,
        hevolves⟩
    · exact ⟨[], .keeps hkeeps, .nothing, hanswers _⟩
    · exact ⟨[commit], hevolves, .once (.reported hfind hok hseen hcheck hwrites), hanswers _⟩
  | cancel key =>
    exact ⟨[], .keeps (fabric.keeps_cancel key), .nothing, .of_other rfl rfl fun _ heq => by
      cases heq⟩
  | takeIntent =>
    exact ⟨[], .keeps fabric.keeps_takeIntent, .nothing, .of_other rfl rfl fun _ heq => by
      cases heq⟩
  | waitForIntent =>
    exact ⟨[], .keeps fabric.keeps_waitForIntent, .nothing, .of_other rfl rfl fun _ heq => by
      cases heq⟩

end Causes

end Fabric

end OffloadFabric
