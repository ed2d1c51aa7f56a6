import OffloadFabric.Aftermath
import OffloadFabric.Dependencies
import OffloadFabric.Placement
import OffloadFabric.Selection

/-!
What a dependency must provide for a target to be acceptable. The requirement of a dependency is
registered, encoded and read back, but nothing that moves a service looks at it. So an accepted
move honours the requirements of its service if and only if the target that the request heads
for happened to meet them before.
-/
namespace OffloadFabric

open Fabric (Op)

/-! ### Services that depend on others -/

/-- No service depends on itself. -/
def State.Independent (state : State) : Prop :=
  ∀ name runtime, state.core.services.find? name = some runtime →
    ∀ spec ∈ runtime.descriptor.dependencies, spec.service ≠ name

section Independent

variable {config : FabricConfig} {fabric : Fabric} {op : Op} {commit : Commit} {state : State}
  {service : ServiceName} {found next : ServiceRuntime}

theorem State.Independent.of_services {state' : State} (h : state.Independent)
    (hsame : state'.core.services = state.core.services) : state'.Independent := by
  unfold State.Independent
  rw [hsame]
  exact h

theorem validateDependencies_ok {name : ServiceName} {seen : List ServiceName}
    {specs : List DependencySpec} (h : validateDependencies name seen specs = .ok) :
    ∀ spec ∈ specs, spec.service ≠ name := by
  induction specs generalizing seen with
  | nil => simp
  | cons first rest ih =>
    unfold validateDependencies at h
    split_ifs at h with hempty hself hseen
    intro spec hspec
    rcases List.mem_cons.mp hspec with rfl | hspec
    · exact hself
    · exact ih h spec hspec

theorem Fabric.checkRegisterService_independent {descriptor : ServiceDescriptor}
    {registrar : SourceName} {proposal : Proposal}
    (h : fabric.checkRegisterService descriptor registrar = .ok proposal) :
    ∀ spec ∈ descriptor.dependencies, spec.service ≠ descriptor.name := by
  have hvalid : validateDescriptor fabric.config descriptor = .ok := by
    unfold Fabric.checkRegisterService at h
    simp only [require_bind_ok] at h
    exact h.2.2.1
  unfold validateDescriptor at hvalid
  split_ifs at hvalid
  exact validateDependencies_ok hvalid

theorem Fabric.Turns.descriptor (h : fabric.Turns service op found next) :
    next.descriptor = found.descriptor := by
  cases h with
  | moved grant config state _ _ hruntime => rw [descriptor_nextRuntime, hruntime]
  | denied => rfl
  | acknowledged =>
    unfold Fabric.acknowledgedRuntime
    dsimp only
    split <;> rfl
  | reported _ _ _ hcheck =>
    obtain ⟨-, -, happly⟩ := Fabric.checkEffect_ok hcheck
    cases Fabric.applyEffect_ok happly <;> rfl

/-- A commit registers no service that depends on itself. -/
theorem State.Independent.apply (h : state.Independent) (hactor : fabric.state.Independent)
    (hcaused : fabric.Caused op commit) (hnamed : fabric.state.Named) :
    (Change.apply state commit.change).Independent := by
  intro name runtime hfind
  rw [State.core_service] at hfind
  obtain ⟨next, hnext, rfl⟩ := Option.map_eq_some_iff.mp hfind
  have hkeeps (found : ServiceRuntime) (hfound : state.services.find? name = some found) :
      ∀ spec ∈ found.descriptor.dependencies, spec.service ≠ name :=
    h name found.hard (by rw [State.core_service, hfound]; rfl)
  have hreplays := hcaused.replays hnamed state name
  rw [hnext] at hreplays
  generalize hbefore : state.services.find? name = before at hreplays
  generalize hafter : some next = after at hreplays
  cases hreplays with
  | same =>
    rw [← hafter] at hbefore
    exact hkeeps next hbefore
  | registered hregisters _ =>
    obtain ⟨descriptor, registrar, proposal, rfl, rfl, hcheck⟩ := hregisters
    cases hcaused with
    | ingested hop hok hwrites =>
      obtain rfl := Option.some.inj hop
      obtain ⟨-, -, -, stamp, -, hchange, -⟩ := Fabric.checkRegisterService_ok hok
      rw [hwrites.change, hchange] at hnext
      have hinsert : (state.services.insert descriptor.name
          { descriptor, lifecycle := .registered }).find? descriptor.name = some next := hnext
      rw [OrderedMap.find?_insert_self] at hinsert
      obtain rfl := Option.some.inj hinsert
      exact Fabric.checkRegisterService_independent hcheck
    | moved hop => cases hop
  | withdrawn _ hfound =>
    cases hafter
    have hsame := hkeeps _ (hbefore.trans hfound)
    exact hsame
  | turned hfound hturns =>
    cases hafter
    have hdescriptor := hturns.descriptor
    intro spec hspec
    refine hactor name _ (by rw [State.core_service, hfound]; rfl) spec ?_
    exact hdescriptor ▸ hspec

theorem core_services_epochAdvanced (state : State) (epoch : CoordinatorEpoch) (boot : BootId) :
    (Change.apply state (.epochAdvanced epoch boot)).core.services = state.core.services := rfl

theorem preserved_independent (config : FabricConfig) (allowed : Fabric → Op → Prop) :
    Preserved config allowed fun _ state => state.Independent where
  initial := by
    intro name runtime hfind
    cases hfind
  keeps _ h hkeeps := h.of_services (congrArg Core.services hkeeps.core)
  commit _ _ hacts _ hactor hcaused hbefore := by
    have happly := hbefore.2.apply hactor.2 hcaused (.of_sound hactor.1.sound)
    exact happly.of_services (congrArg Core.services hcaused.takesOver.core)
  snapshot _ h := h.of_services rfl
  restart {history state} _ hgrounded h := by
    have hrestart := congrArg Core.services hgrounded.restart.explains.core
    rw [replayed_snoc, core_services_epochAdvanced, ← hgrounded.explains.core] at hrestart
    exact h.of_services hrestart
  replay _ h hwarrant := by
    cases hwarrant with
    | made _ _ _ _ hactor hcaused _ => exact h.apply hactor.2 hcaused (.of_sound hactor.1.sound)
    | restarted => exact h.of_services (core_services_epochAdvanced _ _ _)

theorem Fabric.Run.independent {moments : List Fabric.Moment}
    (hrun : Fabric.Run config moments fabric) (hopened : fabric.opened = true) :
    fabric.state.Independent := by
  obtain ⟨_, _, -, hchronicled⟩ :=
    hrun.chronicled (preserved_independent config fun _ _ => True).stable fun _ _ => trivial
  exact (hchronicled.running hopened).2.2

end Independent

/-! ### Where a request heads -/

/-- What the requirements of the hard dependencies ask of the target of a service. -/
structure State.Compatible (state : State) (descriptor : ServiceDescriptor) (target : TargetName) :
    Prop where
  distinct : ∀ spec ∈ descriptor.dependencies, spec.kind = .hard →
    spec.requirement = .distinctTarget → ∀ dependency held,
    state.services.find? spec.service = some dependency → dependency.active = some held →
      held.target ≠ target
  sameScope : ∀ spec ∈ descriptor.dependencies, spec.kind = .hard →
    spec.requirement = .sameScope → ∃ dependency held record,
    state.services.find? spec.service = some dependency ∧ dependency.active = some held ∧
      state.targets.find? held.target = some record ∧ record.scope = descriptor.scope

/-- Where a request of a service heads: the target it names, the one that the current attempt
was for, the one that the first failover left, or the first of the targets in the running that
may take over. The latter is where a confirmed resolution heads, too. -/
inductive Fabric.Heads (fabric : Fabric) (runtime : ServiceRuntime) : Op → TargetName → Prop where
  | placement (request : PlacementRequest) :
      Heads fabric runtime (.establishPlacement request) request.target
  | resume (request : FailoverRequest) {previous : AttemptRecord} :
      runtime.currentAttemptRecord = some previous →
      Heads fabric runtime (.resumeRecovery request) previous.toTarget.target
  | failback (request : FailbackRequest) {original : TargetRef} :
      runtime.preFailoverTarget = some original →
      Heads fabric runtime (.requestFailback request) original.target
  | failover (request : FailoverRequest) {contenders : List TargetRecord} {record : TargetRecord} :
      fabric.state.Contenders runtime (runtime.active.getD {}) contenders →
      fabric.state.Selects runtime
        (contenders.take (fallbackCeiling fabric.config fabric.state.policy)) (.ok record) →
      Heads fabric runtime (.requestFailover request) record.name
  | resolution (resolution : AmbiguityResolution) {contenders : List TargetRecord}
      {record : TargetRecord} :
      resolution.confirmFailure = true →
      fabric.state.Contenders runtime (runtime.active.getD {}) contenders →
      fabric.state.Selects runtime
        (contenders.take (fallbackCeiling fabric.config fabric.state.policy)) (.ok record) →
      Heads fabric runtime (.resolveAmbiguity resolution) record.name

section Heads

variable {config : FabricConfig} {fabric : Fabric} {op : Op} {decision : RecoveryDecision}
  {service : ServiceName} {check : ServiceRuntime → Check Qualified} {state : State}
  {runtime : ServiceRuntime} {qualified : Qualified} {target : TargetName}

theorem State.Selects.unique {considered : List TargetRecord} {record other : TargetRecord}
    (h : state.Selects runtime considered (.ok record))
    (h' : state.Selects runtime considered (.ok other)) : other = record := by
  have hfind {found : TargetRecord} (hselects : state.Selects runtime considered (.ok found)) :
      considered.find? (fun record => evaluateCandidate state runtime record = .ok) =
        some found := by
    obtain ⟨hok, earlier, later, hsplit, hearlier⟩ := hselects
    refine List.find?_eq_some_iff_append.mpr ⟨by simpa using hok, earlier, later, hsplit, ?_⟩
    intro candidate hcandidate
    simpa using hearlier candidate hcandidate
  exact Option.some.inj ((hfind h').symm.trans (hfind h))

/-- A request heads for the target of its move. -/
theorem Fabric.heads_of_moving (hkeyed : fabric.state.WellKeyed)
    (hop : fabric.moving op = some (service, check)) (hok : check runtime = .ok qualified) :
    fabric.Heads runtime op qualified.move.target.name ∧
      ∀ target, fabric.Heads runtime op target → target = qualified.move.target.name := by
  have hname {name : TargetName} {record : TargetRecord}
      (hfind : fabric.state.targets.find? name = some record) : record.name = name :=
    (hkeyed.targets _ ((fabric.state.targets.find?_eq_some_iff _ _).mp hfind)).1
  cases op with
  | establishPlacement request =>
    obtain ⟨rfl, rfl⟩ := Prod.mk.inj (Option.some.inj hop)
    obtain ⟨-, -, -, record, hrecord, -, -, hmove⟩ := Fabric.checkPlacement_ok hok
    rw [hmove]
    dsimp only
    rw [hname hrecord]
    refine ⟨.placement request, fun target hheads => ?_⟩
    cases hheads
    rfl
  | requestFailover request =>
    obtain ⟨rfl, rfl⟩ := Prod.mk.inj (Option.some.inj hop)
    obtain ⟨-, -, -, -, -, -, evidence, record, -, hchosen, hmove⟩ := Fabric.checkFailover_ok hok
    rw [hmove]
    dsimp only
    have hselects := selectFallback_selects fabric.config fabric.state runtime
      (runtime.active.getD {})
    rw [hchosen] at hselects
    refine ⟨.failover request hkeyed.contenders hselects, fun target hheads => ?_⟩
    cases hheads with
    | failover _ hcontenders hother =>
      obtain rfl := hkeyed.contenders_unique hcontenders hkeyed.contenders
      rw [hselects.unique hother]
  | resumeRecovery request =>
    obtain ⟨rfl, rfl⟩ := Prod.mk.inj (Option.some.inj hop)
    obtain ⟨-, -, -, previous, record, hprevious, hrecord, -, -, hmove⟩ :=
      Fabric.checkResume_ok hok
    rw [hmove]
    dsimp only
    rw [hname hrecord]
    refine ⟨.resume request hprevious, fun target hheads => ?_⟩
    cases hheads with
    | resume _ hother => rw [Option.some.inj (hother.symm.trans hprevious)]
  | requestFailback request =>
    obtain ⟨rfl, rfl⟩ := Prod.mk.inj (Option.some.inj hop)
    obtain ⟨-, -, -, -, original, record, slot, horiginal, hrecord, -, -, -, -, -, -, hmove⟩ :=
      Fabric.checkFailback_ok hok
    rw [hmove]
    dsimp only
    rw [hname hrecord]
    refine ⟨.failback request horiginal, fun target hheads => ?_⟩
    cases hheads with
    | failback _ hother => rw [Option.some.inj (hother.symm.trans horiginal)]
  | _ => cases hop

theorem State.Compatible.congr {state' : State} {descriptor : ServiceDescriptor}
    (h : state.Compatible descriptor target) (htargets : state'.targets = state.targets)
    (hservices : ∀ spec ∈ descriptor.dependencies,
      state'.core.services.find? spec.service = state.core.services.find? spec.service) :
    state'.Compatible descriptor target where
  distinct spec hspec hhard hdistinct dependency held hfind hactive := by
    have hsame := hservices spec hspec
    rw [State.core_service, State.core_service, hfind] at hsame
    obtain ⟨earlier, hearlier, hhards⟩ := Option.map_eq_some_iff.mp hsame.symm
    refine h.distinct spec hspec hhard hdistinct earlier held hearlier ?_
    rw [active_of_hard hhards, hactive]
  sameScope spec hspec hhard hscope := by
    obtain ⟨earlier, held, record, hearlier, hactive, hrecord⟩ :=
      h.sameScope spec hspec hhard hscope
    have hsame := hservices spec hspec
    rw [State.core_service, State.core_service, hearlier] at hsame
    obtain ⟨dependency, hfind, hhards⟩ := Option.map_eq_some_iff.mp hsame
    refine ⟨dependency, held, record, hfind, ?_, ?_⟩
    · rw [active_of_hard hhards, hactive]
    · rw [htargets]
      exact hrecord

/-! ### Promoted evidence -/

theorem State.Contenders.congr {state' : State} {found : ServiceRuntime} {failed : TargetRef}
    {records : List TargetRecord} (h : state.Contenders runtime failed records)
    (htargets : state'.targets = state.targets) (hactive : found.active = runtime.active) :
    state'.Contenders found failed records where
  members record := by
    rw [htargets, hactive]
    exact h.members record
  ordered := by
    refine h.ordered.imp fun {left right} hprefers => ?_
    unfold State.Prefers State.Beside at hprefers ⊢
    rw [htargets]
    exact hprefers

/-- The evaluation of a candidate looks at the authority, at the capabilities and at where the
latest failure was. -/
theorem evaluateCandidate_congr {state' : State} {found : ServiceRuntime}
    (hcore : state'.core = state.core) (hcapabilities : state'.capabilities = state.capabilities)
    (hdescriptor : found.descriptor = runtime.descriptor)
    (hlatest : (state'.latestFailureOf runtime.descriptor.name).map FailureEvidence.target =
      (state.latestFailureOf runtime.descriptor.name).map FailureEvidence.target)
    (record : TargetRecord) :
    evaluateCandidate state' found record = evaluateCandidate state runtime record := by
  have hwitnesses : state'.witnesses = state.witnesses := congrArg Core.witnesses hcore
  have htopology : state'.topologyGeneration = state.topologyGeneration :=
    congrArg Core.topologyGeneration hcore
  have hfailed : (∃ failure ∈ state'.latestFailureOf runtime.descriptor.name,
        failure.target.target = record.name) ↔
      ∃ failure ∈ state.latestFailureOf runtime.descriptor.name,
        failure.target.target = record.name := by
    have hsome (latest : Option FailureEvidence) :
        (∃ failure ∈ latest, failure.target.target = record.name) ↔
          ∃ target ∈ latest.map FailureEvidence.target, target.target = record.name := by
      simp
    rw [hsome, hlatest, ← hsome]
  unfold evaluateCandidate State.witnessOf
  simp only [hwitnesses, hcapabilities, htopology, hdescriptor, hfailed]

theorem State.Selects.congr {state' : State} {found : ServiceRuntime}
    {considered : List TargetRecord} {record : TargetRecord}
    (h : state.Selects runtime considered (.ok record))
    (hsame : ∀ record,
      evaluateCandidate state' found record = evaluateCandidate state runtime record) :
    state'.Selects found considered (.ok record) := by
  obtain ⟨hok, earlier, later, hsplit, hearlier⟩ := h
  refine ⟨(hsame record).trans hok, earlier, later, hsplit, fun other hother => ?_⟩
  rw [hsame]
  exact hearlier other hother

/-- Whoever acts finds the evidence that the call found, at most one piece of it promoted. -/
theorem Fabric.Acts.evidence {actor : Fabric} {op' : Op} (hacts : fabric.Acts op actor op')
    (hkeyed : fabric.state.WellKeyed) :
    actor.state.latestFailure = fabric.state.latestFailure ∧
      (actor.state.failures = fabric.state.failures ∨
        ∃ evidence, fabric.state.failures.find? evidence.id = some evidence ∧
          actor.state.failures = fabric.state.failures.insert evidence.id (promoted evidence)) := by
  cases hacts with
  | direct => exact ⟨rfl, Or.inl rfl⟩
  | @confirmed resolution commit _ hconfirm hcaused _ _ hstate =>
    obtain ⟨found, evidence, stamp, -, hcheck, hwrites⟩ := hcaused.promotion hconfirm
    have hevidence := (Fabric.checkResolution_ok hcheck).2.2.2.1
    have hid : evidence.id = resolution.evidence :=
      (hkeyed.failures _ ((fabric.state.failures.find?_eq_some_iff _ _).mp hevidence)).1
    rw [← hid] at hevidence
    obtain ⟨hlatest, hfailures⟩ : actor.state.latestFailure = fabric.state.latestFailure ∧
        actor.state.failures = fabric.state.failures.insert evidence.id (promoted evidence) := by
      rw [hstate, hwrites.after, hwrites.before.sameRecords]
      unfold promotedState State.modifyService
      split <;> exact ⟨rfl, rfl⟩
    exact ⟨hlatest, Or.inr ⟨evidence, hevidence, hfailures⟩⟩

theorem Fabric.Acts.wellKeyed {actor : Fabric} {op' : Op} (hacts : fabric.Acts op actor op')
    (hsound : fabric.state.core.Sound config) (hkeyed : fabric.state.WellKeyed) :
    actor.state.WellKeyed := by
  have hnamed (key : EvidenceId) (evidence : FailureEvidence)
      (hfind : fabric.state.failures.find? key = some evidence) :
      key = evidence.id ∧ evidence.id.isNil = false := by
    obtain ⟨hid, hnil⟩ :=
      hkeyed.failures _ ((fabric.state.failures.find?_eq_some_iff _ _).mp hfind)
    exact ⟨hid.symm, by rw [show evidence.id = key from hid]; exact hnil⟩
  refine .of_sound (hacts.same.1.symm ▸ hsound) fun key evidence hfind => ?_
  rcases (hacts.evidence hkeyed).2 with hfailures | ⟨found, hfound, hfailures⟩
  · rw [hfailures] at hfind
    exact hnamed key evidence hfind
  · rw [hfailures, OrderedMap.find?_insert] at hfind
    split at hfind
    · rename_i hkey
      obtain rfl := Option.some.inj hfind
      exact ⟨hkey, (hnamed _ _ hfound).2⟩
    · exact hnamed key evidence hfind

/-- Promoted evidence stays about the target that it was about. -/
theorem Fabric.Acts.latest {actor : Fabric} {op' : Op} (hacts : fabric.Acts op actor op')
    (hkeyed : fabric.state.WellKeyed) (name : ServiceName) :
    (actor.state.latestFailureOf name).map FailureEvidence.target =
      (fabric.state.latestFailureOf name).map FailureEvidence.target := by
  obtain ⟨hlatest, hevidence⟩ := hacts.evidence hkeyed
  unfold State.latestFailureOf
  rw [hlatest]
  cases fabric.state.latestFailure.find? name with
  | none => rfl
  | some id =>
    dsimp only
    by_cases hnil : id.isNil = true
    · rw [if_pos hnil, if_pos hnil]
    · rw [if_neg hnil, if_neg hnil]
      rcases hevidence with hfailures | ⟨found, hfound, hfailures⟩
      · rw [hfailures]
      · rw [hfailures, OrderedMap.find?_insert]
        split
        · rename_i hsame
          rw [hsame, hfound]
          rfl
        · rfl

theorem Fabric.heads_entered :
    fabric.entered.Heads runtime op target ↔ fabric.Heads runtime op target := by
  have hheads (start : Fabric) {last : Fabric} (hconfig : last.config = start.config)
      (hstate : last.state = start.state) (h : start.Heads runtime op target) :
      last.Heads runtime op target := by
    cases h with
    | placement request => exact .placement request
    | resume request hprevious => exact .resume request hprevious
    | failback request horiginal => exact .failback request horiginal
    | failover request hcontenders hselects =>
      rw [← hstate] at hcontenders hselects
      rw [← hconfig] at hselects
      exact .failover request hcontenders hselects
    | resolution resolution hconfirm hcontenders hselects =>
      rw [← hstate] at hcontenders hselects
      rw [← hconfig] at hselects
      exact .resolution resolution hconfirm hcontenders hselects
  exact ⟨hheads fabric.entered rfl rfl, hheads fabric rfl rfl⟩

/-- A confirmed resolution heads where the failover does that is decided in it. -/
theorem Fabric.Acts.heads_iff {actor : Fabric} {op' : Op} {found : ServiceRuntime}
    (hacts : fabric.Acts op actor op') (hkeyed : fabric.state.WellKeyed)
    (hmoving : actor.moving op' = some (service, check))
    (hfind : actor.state.services.find? service = some runtime)
    (hfound : fabric.state.services.find? service = some found)
    (hhard : found.hard = runtime.hard) :
    actor.Heads runtime op' target ↔ fabric.Heads found op target := by
  have hlatest := hacts.latest hkeyed
  obtain ⟨hcore, hcapabilities⟩ := hacts.same
  have hconfig : actor.config = fabric.config := acts_config hacts rfl
  cases hacts with
  | direct =>
    obtain rfl := Option.some.inj (hfind.symm.trans hfound)
    exact Iff.rfl
  | @confirmed resolution _ _ hconfirm =>
    have htargets : actor.state.targets = fabric.state.targets := congrArg Core.targets hcore
    have hpolicy : actor.state.policy = fabric.state.policy := congrArg Core.policy hcore
    have hactive : found.active = runtime.active := active_of_hard hhard
    have hdescriptor := descriptor_of_hard hhard
    constructor
    · intro hheads
      cases hheads with
      | failover _ hcontenders hselects =>
        rw [hconfig, hpolicy] at hselects
        refine .resolution resolution hconfirm ?_ (hselects.congr fun record => ?_)
        · rw [hactive]
          exact hcontenders.congr htargets.symm hactive
        · exact evaluateCandidate_congr hcore.symm hcapabilities.symm hdescriptor
            (hlatest _).symm record
    · intro hheads
      cases hheads with
      | resolution _ _ hcontenders hselects =>
        rw [← hconfig, ← hpolicy] at hselects
        refine .failover _ ?_ (hselects.congr fun record => ?_)
        · rw [← hactive]
          exact hcontenders.congr htargets hactive.symm
        · exact evaluateCandidate_congr hcore hcapabilities hdescriptor.symm (hlatest _) record

/-- An accepted placement, failover, resumption or failback leaves its service where the
requirements of its dependencies are met if and only if the target that the request headed for
met them before. The failover that a confirmed resolution commits is no exception. -/
theorem requirements_honoured_iff (hreachable : Fabric.Reachable config fabric)
    (h : fabric.Accepts op decision) (hop : op.relocates = some service) :
    (∃ runtime placed, (fabric.call op).2.state.services.find? service = some runtime ∧
      runtime.active = some placed ∧
      (fabric.call op).2.state.Compatible runtime.descriptor placed.target) ↔
    ∃ runtime target, fabric.state.services.find? service = some runtime ∧
      fabric.Heads runtime op target ∧ fabric.state.Compatible runtime.descriptor target := by
  obtain ⟨moments, hrun⟩ := hreachable
  obtain ⟨hopened, actor, op', move, grant, prior, hcarries⟩ := h.carries hop
  have hindependent := hrun.independent hopened
  obtain ⟨-, runtime, hfind, hhard⟩ := hcarries.move_eq
  have hheads : fabric.Heads runtime op move.target.name ∧
      ∀ target, fabric.Heads runtime op target → target = move.target.name := by
    cases hcarries with
    | intro hacts hmoving hfound hok =>
      obtain ⟨-, hruntime⟩ := Fabric.moving_move hmoving hok
      have hiff (target : TargetName) :
          actor.Heads _ op' target ↔ fabric.Heads runtime op target :=
        (hacts.heads_iff hrun.wellKeyed hmoving hfound hfind
          (hhard.trans (congrArg _ hruntime))).trans Fabric.heads_entered
      obtain ⟨hheads, hunique⟩ :=
        Fabric.heads_of_moving (hacts.wellKeyed hrun.sound hrun.wellKeyed) hmoving hok
      exact ⟨(hiff _).mp hheads, fun target htarget => hunique target ((hiff target).mpr htarget)⟩
  have htargets := hcarries.targets
  have hservice := hcarries.core_services service
  rw [if_pos rfl, State.core_service] at hservice
  obtain ⟨next, hnext, hhards⟩ := Option.map_eq_some_iff.mp hservice
  have hactive : next.active = some move.destination :=
    (active_of_hard hhards).trans
      (congrArg RuntimeAuthority.active (move.authority_nextRuntime grant fabric.config prior))
  have hdescriptor : next.descriptor = runtime.descriptor := by
    rw [descriptor_of_hard hhards, descriptor_nextRuntime, descriptor_of_hard hhard]
  have hothers : ∀ spec ∈ runtime.descriptor.dependencies,
      (fabric.call op).2.state.core.services.find? spec.service =
        fabric.state.core.services.find? spec.service := by
    intro spec hspec
    have hne : spec.service ≠ service :=
      hindependent service runtime.hard (by rw [State.core_service, hfind]; rfl) spec hspec
    rw [hcarries.core_services, if_neg hne]
  constructor
  · rintro ⟨other, placed, hother, hplaced, hcompatible⟩
    obtain rfl := Option.some.inj (hnext.symm.trans hother)
    obtain rfl := Option.some.inj (hactive.symm.trans hplaced)
    rw [hdescriptor] at hcompatible
    exact ⟨runtime, move.target.name, hfind, hheads.1,
      hcompatible.congr htargets.symm fun spec hspec => (hothers spec hspec).symm⟩
  · rintro ⟨other, target, hother, htarget, hcompatible⟩
    obtain rfl := Option.some.inj (hfind.symm.trans hother)
    obtain rfl := hheads.2 target htarget
    refine ⟨next, move.destination, hnext, hactive, ?_⟩
    rw [hdescriptor]
    exact hcompatible.congr htargets hothers

end Heads

namespace Fleet

/-- The service may not share its target with one other, and has to share its scope with the
target of another. -/
def unlike : List DependencySpec :=
  [{ service := left, requirement := .distinctTarget },
   { service := right, requirement := .sameScope }]

/-- Both dependencies were placed on the last target, and the service on the first, which is
now suspected. -/
def sideBySide : List Op :=
  [.openFabric, .enrollSource operator .operator, .setTopologyGeneration ⟨1⟩ operator,
   rely left [], rely right [],
   .registerService { name := service, scope, dependencies := unlike } operator] ++
    adopt primary 1 ++ adopt secondary 1 ++ adopt tertiary 1 ++
    [.establishPlacement
       { key := ⟨1⟩, service := left, target := tertiary, requester := operator },
     .establishPlacement
       { key := ⟨2⟩, service := right, target := tertiary, requester := operator },
     vouch 1 service left, vouch 2 service right, place 3 primary, reportFailure 3 .ambiguous]

/-- The operator confirms that the first target failed. -/
def condemn : Op :=
  .resolveAmbiguity
    { key := ⟨4⟩, service, evidence := ⟨1⟩, confirmFailure := true, resolvedBy := operator }

end Fleet

/-- The confirmed suspicion moves the service where both of its dependencies are provided for. -/
theorem requirements_honoured_condemned : ∃ decision runtime target,
    (Fleet.running Fleet.sideBySide).Accepts Fleet.condemn decision ∧
    (Fleet.running Fleet.sideBySide).state.services.find? Fleet.service = some runtime ∧
    runtime.descriptor.dependencies = Fleet.unlike ∧
    (Fleet.running Fleet.sideBySide).Heads runtime Fleet.condemn target ∧
    (Fleet.running Fleet.sideBySide).state.Compatible runtime.descriptor target := by
  have hbefore : ((Fleet.running Fleet.sideBySide).accepted Fleet.condemn,
      ((Fleet.running Fleet.sideBySide).state.services.find? Fleet.service).map
        fun runtime => runtime.descriptor.dependencies) = (true, some Fleet.unlike) := by
    simp only [Fleet.running, Fabric.after_eq_drafted, Fabric.accepted, Fabric.call_eq_drafted]
    decide +kernel
  have hafter : ((((Fleet.running Fleet.sideBySide).call Fleet.condemn).2.state.services.find?
        Fleet.service).map fun runtime =>
          (runtime.active, runtime.descriptor.dependencies, runtime.descriptor.scope),
      [Fleet.left, Fleet.right].map fun name =>
        (((Fleet.running Fleet.sideBySide).call Fleet.condemn).2.state.services.find? name).map
          ServiceRuntime.active,
      (((Fleet.running Fleet.sideBySide).call Fleet.condemn).2.state.targets.find?
        Fleet.tertiary).map TargetRecord.scope) =
      (some (some (Fleet.booted Fleet.secondary 1), Fleet.unlike, Fleet.scope),
        [some (some (Fleet.booted Fleet.tertiary 1)), some (some (Fleet.booted Fleet.tertiary 1))],
        some Fleet.scope) := by
    simp only [Fleet.running, Fabric.after_eq_drafted, Fabric.call_eq_drafted]
    decide +kernel
  simp only [Prod.mk.injEq, Option.map_eq_some_iff, List.map_cons, List.map_nil, List.cons.injEq,
    and_true] at hbefore hafter
  obtain ⟨haccepted, runtime, hfind, hdependencies⟩ := hbefore
  obtain ⟨⟨next, hnext, hactive, hkept, hscope⟩, ⟨⟨left, hleft, hleftHeld⟩, right, hright,
    hrightHeld⟩, record, hrecord, hrecordScope⟩ := hafter
  obtain ⟨decision, haccepts⟩ := Fabric.exists_accepts_of_accepted haccepted
  have hcompatible : ((Fleet.running Fleet.sideBySide).call Fleet.condemn).2.state.Compatible
      next.descriptor Fleet.secondary := by
    constructor
    · intro spec hspec _ hdistinct dependency held hdependency hheld
      rw [hkept] at hspec
      simp only [Fleet.unlike, List.mem_cons, List.not_mem_nil, or_false] at hspec
      rcases hspec with rfl | rfl
      · obtain rfl := Option.some.inj (hleft.symm.trans hdependency)
        obtain rfl := Option.some.inj (hleftHeld.symm.trans hheld)
        decide
      · cases hdistinct
    · intro spec hspec _ hsame
      rw [hkept] at hspec
      simp only [Fleet.unlike, List.mem_cons, List.not_mem_nil, or_false] at hspec
      rcases hspec with rfl | rfl
      · cases hsame
      · exact ⟨right, _, record, hright, hrightHeld, hrecord, hrecordScope.trans hscope.symm⟩
  obtain ⟨found, target, hfound, hheads, hmet⟩ :=
    (requirements_honoured_iff (Fleet.reachable_running Fleet.sideBySide) haccepts rfl).mp
      ⟨next, _, hnext, hactive, hcompatible⟩
  obtain rfl := Option.some.inj (hfind.symm.trans hfound)
  exact ⟨decision, runtime, target, haccepts, hfind, hdependencies, hheads, hmet⟩

namespace Fleet

/-- A service may not share its target with another, which was placed on the first target. -/
def apart : List Op :=
  [.openFabric, .enrollSource operator .operator, .setTopologyGeneration ⟨1⟩ operator,
   rely left [],
   .registerService
     { name := service, scope
       dependencies := [{ service := left, requirement := .distinctTarget }] } operator] ++
    adopt primary 1 ++
    [.establishPlacement { key := ⟨1⟩, service := left, target := primary, requester := operator },
     vouch 1 service left]

end Fleet

/-- The service is placed on the very target that it may not share. -/
theorem not_requirements_honoured : ∃ decision,
    (Fleet.running Fleet.apart).Accepts (Fleet.place 2 Fleet.primary) decision ∧
    Fabric.Reachable {} (Fleet.running Fleet.apart) ∧
    ¬∃ runtime placed,
      ((Fleet.running Fleet.apart).call (Fleet.place 2 Fleet.primary)).2.state.services.find?
        Fleet.service = some runtime ∧ runtime.active = some placed ∧
      ((Fleet.running Fleet.apart).call (Fleet.place 2 Fleet.primary)).2.state.Compatible
        runtime.descriptor placed.target := by
  have haccepted : (Fleet.running Fleet.apart).accepted (Fleet.place 2 Fleet.primary) = true := by
    simp only [Fleet.running, Fabric.after_eq_drafted, Fabric.accepted, Fabric.call_eq_drafted]
    decide +kernel
  have hservice : (((Fleet.running Fleet.apart).call
      (Fleet.place 2 Fleet.primary)).2.state.services.find? Fleet.service).map
        (fun runtime => (runtime.active, runtime.descriptor.dependencies)) =
      some (some (Fleet.booted Fleet.primary 1),
        [{ service := Fleet.left, requirement := .distinctTarget }]) := by
    simp only [Fleet.running, Fabric.after_eq_drafted, Fabric.call_eq_drafted]
    decide +kernel
  have hleft : (((Fleet.running Fleet.apart).call
      (Fleet.place 2 Fleet.primary)).2.state.services.find? Fleet.left).map ServiceRuntime.active =
      some (some (Fleet.booted Fleet.primary 1)) := by
    simp only [Fleet.running, Fabric.after_eq_drafted, Fabric.call_eq_drafted]
    decide +kernel
  obtain ⟨decision, haccepts⟩ := Fabric.exists_accepts_of_accepted haccepted
  refine ⟨decision, haccepts, Fleet.reachable_running _, ?_⟩
  rintro ⟨runtime, placed, hfind, hactive, hcompatible⟩
  rw [hfind] at hservice
  obtain ⟨hplaced, hdependencies⟩ := Prod.mk.inj (Option.some.inj hservice)
  obtain rfl := Option.some.inj (hactive.symm.trans hplaced)
  obtain ⟨dependency, hdependency, hheld⟩ := Option.map_eq_some_iff.mp hleft
  refine hcompatible.distinct { service := Fleet.left, requirement := .distinctTarget } ?_ rfl rfl
    dependency (Fleet.booted Fleet.primary 1) hdependency hheld rfl
  rw [hdependencies]
  exact List.mem_cons_self

end OffloadFabric
