import OffloadFabric.Eligibility
import OffloadFabric.Succession
import OffloadFabric.Tenure

/-!
The fence of a service as a tenure. Every durable change leaves the tenure of a service
alone, grants it to a new destination or renews it. All checks but that of the failback let
a grant go in front of every barrier only, so in runs whose failbacks do the same the holder
is never fenced out, and whatever was left behind stays behind.
-/
namespace OffloadFabric

open Fabric (Op Moment)

/-! ### The tenure of a service -/

abbrev ServiceTenure := Tenure TargetName TargetIncarnation

def TargetRef.seat (target : TargetRef) : Seat TargetName TargetIncarnation :=
  { place := target.target, incarnation := target.incarnation }

/-- The seat that a move leaves, if it leaves any. -/
def TargetRef.leaves (target : TargetRef) : Option (Seat TargetName TargetIncarnation) :=
  if target.valid then some target.seat else none

/-- The registries say about the service what the tenure does. -/
structure Tenured (core : Core) (service : ServiceName) (tenure : ServiceTenure) : Prop where
  holder : tenure.holder = (core.fences.find? service).map fun held => held.holder.seat
  barrier : ∀ place, tenure.barrier place =
    (core.witnesses.find? { service, target := place }).map FenceWitness.incarnation
  origin : ∀ runtime record, core.services.find? service = some runtime →
    runtime.history.getLast? = some record → tenure.origin = record.fromTarget.leaves

/-- The change moves the service in front of its barriers, unless it resumes a move. -/
def Fronting (core : Core) : Change → Prop
  | .runtimeChanged kind change => kind ≠ .recoveryResumed → ∀ fence ∈ change.fence,
    (∀ witness, core.witnesses.find? { service := change.service, target := fence.holder.target } =
      some witness → witness.incarnation < fence.holder.incarnation) ∧
    ∀ held, core.fences.find? change.service = some held →
      held.holder.target = fence.holder.target →
        held.holder.incarnation < fence.holder.incarnation
  | _ => True

section Tenured

variable {config : FabricConfig} {state : State} {change : Change} {service : ServiceName}
  {tenure : ServiceTenure}

theorem Tenured.initial (config : FabricConfig) (service : ServiceName) :
    Tenured (initialState config).core service {} where
  holder := rfl
  barrier _ := rfl
  origin _ _ hfind := by cases hfind

/-- A change that writes no runtime leaves every tenure alone. -/
theorem Tenured.congr {core core' : Core} (h : Tenured core service tenure)
    (hfences : core'.fences = core.fences) (hwitnesses : core'.witnesses = core.witnesses)
    (hservices : ∀ runtime record, core'.services.find? service = some runtime →
      runtime.history.getLast? = some record → ∃ earlier before,
        core.services.find? service = some earlier ∧ earlier.history.getLast? = some before ∧
        before.fromTarget = record.fromTarget) : Tenured core' service tenure where
  holder := by rw [hfences]; exact h.holder
  barrier place := by rw [hwitnesses]; exact h.barrier place
  origin runtime record hfind hlast := by
    obtain ⟨earlier, before, hearlier, hbefore, hsame⟩ := hservices runtime record hfind hlast
    rw [← hsame]
    exact h.origin earlier before hearlier hbefore

/-- The witnesses of the service after a move of it. -/
theorem find?_witnesses_move (move : Move) (grant : Grant) (config : FabricConfig)
    (found state : State) (place : TargetName) :
    ((Change.apply state (move.change grant config found)).witnesses.find?
        { service := move.service, target := place }).map FenceWitness.incarnation =
      Tenure.bar (fun place => (state.witnesses.find?
        { service := move.service, target := place }).map FenceWitness.incarnation)
        move.source.leaves place := by
  simp only [Move.change, Change.apply, Move.witnessUpdates, TargetRef.leaves]
  split
  · simp only [List.foldl_cons, List.foldl_nil, OrderedMap.find?_insert, Tenure.bar,
      WitnessKey.mk.injEq, true_and, TargetRef.seat]
    by_cases hplace : place = move.source.target
    · simp only [hplace, if_true, Option.map_some]
    · simp only [hplace, if_false]
  · rfl

/-- A move of another service is not seen. -/
theorem find?_witnesses_other {move : Move} (grant : Grant) (config : FabricConfig)
    (found state : State) (hother : move.service ≠ service) (place : TargetName) :
    (Change.apply state (move.change grant config found)).witnesses.find?
        { service, target := place } = state.witnesses.find? { service, target := place } := by
  simp only [Move.change, Change.apply, Move.witnessUpdates]
  split
  · simp only [List.foldl_cons, List.foldl_nil, OrderedMap.find?_insert, WitnessKey.mk.injEq]
    rw [if_neg fun heq => hother heq.1.symm]
  · rfl

/-- The seat that a service leaves is the one it holds. -/
theorem leaves_active {runtime : RuntimeAuthority} {fence : Option FenceRecord}
    (h : Coherent config runtime fence) :
    (runtime.active.getD {}).leaves = fence.map fun held => held.holder.seat := by
  cases fence with
  | none =>
    have hactive : runtime.active = none := Unplaced.active h
    rw [hactive]
    rfl
  | some held =>
    have hplaced : Placed config runtime held := h
    rw [hplaced.active, Option.getD_some, TargetRef.leaves, if_pos hplaced.valid]
    rfl

theorem last_of_granted {move : Move} {grant : Grant} (hmode : move.mode ≠ .resume)
    {record : AttemptAuthority}
    (hlast : (move.nextRuntime grant config state).authority.history.getLast? = some record) :
    record = (move.attemptRecord grant state).authority := by
  have hexcess := Move.excess_eq move grant config state
  rw [Move.authority_nextRuntime, Move.extendedHistory_of_granted move grant state hmode] at hlast
  rw [Move.extendedHistory_of_granted move grant state hmode, List.length_append,
    List.length_singleton] at hexcess
  dsimp only at hlast
  rw [List.map_append, List.map_singleton, List.getLast?_drop, List.getLast?_append] at hlast
  split at hlast
  · cases hlast
  · exact (Option.some.inj hlast).symm

/-- The fields of the last attempt, from the registries. -/
theorem origin_of_authority {core : Core} {runtime : ServiceRuntime}
    (hfind : core.services.find? service = some runtime.hard)
    {seat : Option (Seat TargetName TargetIncarnation)}
    (hlast : ∀ record, runtime.authority.history.getLast? = some record →
      seat = record.fromTarget.leaves) (runtime' : ServiceRuntime) (record : AttemptRecord)
    (hfind' : core.services.find? service = some runtime')
    (hlast' : runtime'.history.getLast? = some record) : seat = record.fromTarget.leaves := by
  obtain rfl := Option.some.inj (hfind.symm.trans hfind')
  refine hlast record.authority ?_
  rw [← authority_hard]
  simp only [ServiceRuntime.authority, List.getLast?_map, hlast', Option.map_some]

theorem last_hard {runtime : ServiceRuntime} {record : AttemptRecord}
    (h : runtime.history.getLast? = some record) : ∃ hard : AttemptRecord,
      runtime.hard.history.getLast? = some hard ∧ hard.fromTarget = record.fromTarget := by
  refine ⟨record.hard, ?_, rfl⟩
  simp only [ServiceRuntime.hard, List.getLast?_map, h, Option.map_some]

theorem find?_services_move (move : Move) (grant : Grant) (config : FabricConfig)
    (found state : State) :
    (Change.apply state (move.change grant config found)).core.services.find? move.service =
      some (move.nextRuntime grant config found).hard := by
  rw [Move.change, find?_services_runtimeChanged, if_pos rfl]

theorem find?_fences_move (move : Move) (grant : Grant) (config : FabricConfig)
    (found state : State) :
    (Change.apply state (move.change grant config found)).core.fences.find? move.service =
      some (move.fenceRecord grant found) := by
  rw [Move.change, find?_fences_runtimeChanged, if_pos rfl]
  rfl

theorem Tenured.leaves_granted {move : Move} (h : Tenured state.core move.service tenure)
    (hsound : state.core.Sound config)
    (hfind : state.core.services.find? move.service = some move.runtime.hard)
    (hsource : move.source = move.runtime.active.getD {}) : move.source.leaves = tenure.holder := by
  rw [hsource, h.holder]
  exact leaves_active (hsound.moved hfind).2

/-- A grant of the service grants its tenure. -/
theorem Tenured.granted {found : State} {move : Move} {grant : Grant}
    (h : Tenured state.core move.service tenure) (hsound : state.core.Sound config)
    (hfind : state.core.services.find? move.service = some move.runtime.hard)
    (hmode : move.mode ≠ .resume) (hsource : move.source = move.runtime.active.getD {}) :
    Tenured (Change.apply state (move.change grant config found)).core move.service
      (tenure.grant move.destination.seat) := by
  have hleaves := h.leaves_granted hsound hfind hsource
  refine ⟨?_, fun place => ?_, ?_⟩
  · rw [find?_fences_move]
    rfl
  · refine Eq.trans ?_ (find?_witnesses_move move grant config found state place).symm
    rw [hleaves, Tenure.grant]
    have hbarrier : tenure.barrier = fun place => (state.witnesses.find?
        { service := move.service, target := place }).map FenceWitness.incarnation :=
      funext h.barrier
    rw [hbarrier]
  · refine origin_of_authority (find?_services_move move grant config found state)
      fun record hlast => ?_
    rw [last_of_granted hmode hlast]
    exact hleaves.symm

/-- A renewal leaves what the last move left, for where that move led. -/
theorem Tenured.leaves_renewed {found : State} {move : Move} {grant : Grant}
    {previous : AttemptRecord} (h : Tenured state.core move.service tenure)
    (hsound : state.core.Sound config)
    (hfind : state.core.services.find? move.service = some move.runtime.hard)
    (hminted : Minted found move grant) (hmode : move.mode = .resume)
    (hprevious : move.runtime.currentAttemptRecord = some previous)
    (hsource : move.source = previous.fromTarget)
    (htarget : state.core.targets.find? previous.toTarget.target = some move.target)
    (hincarnation : move.target.incarnation = previous.toTarget.incarnation) :
    move.source.leaves = tenure.origin ∧ tenure.holder = some move.destination.seat ∧
      move.runtime.history.getLast? = some previous ∧
      (move.nextRuntime grant config found).authority.history =
        move.runtime.authority.history.drop (move.excess grant config found) := by
  obtain ⟨hrecord, -⟩ := hsound.targets _ _ htarget
  obtain ⟨held, hheld, hdestination, -, hlast, hhistory, -⟩ :=
    placed_of_renewed (hsound.moved hfind).2 hminted hmode hprevious hrecord hincarnation
  obtain ⟨hard, hhard, hsame⟩ := last_hard hlast
  refine ⟨?_, ?_, hlast, hhistory⟩
  · rw [hsource, ← hsame]
    exact (h.origin _ _ hfind hhard).symm
  · rw [h.holder, show state.core.fences.find? move.service = some held from hheld, hdestination]
    rfl

/-- A renewal of the service renews its tenure. -/
theorem Tenured.renewed {found : State} {move : Move} {grant : Grant} {previous : AttemptRecord}
    (h : Tenured state.core move.service tenure) (hsound : state.core.Sound config)
    (hfind : state.core.services.find? move.service = some move.runtime.hard)
    (hminted : Minted found move grant) (hmode : move.mode = .resume)
    (hprevious : move.runtime.currentAttemptRecord = some previous)
    (hsource : move.source = previous.fromTarget)
    (htarget : state.core.targets.find? previous.toTarget.target = some move.target)
    (hincarnation : move.target.incarnation = previous.toTarget.incarnation) :
    Tenured (Change.apply state (move.change grant config found)).core move.service
      tenure.renew := by
  obtain ⟨hleaves, hholder, hlast, hhistory⟩ :=
    h.leaves_renewed hsound hfind hminted hmode hprevious hsource htarget hincarnation
  refine ⟨?_, fun place => ?_, ?_⟩
  · rw [find?_fences_move]
    exact hholder
  · refine Eq.trans ?_ (find?_witnesses_move move grant config found state place).symm
    have hbarrier : tenure.barrier = fun place => (state.witnesses.find?
        { service := move.service, target := place }).map FenceWitness.incarnation :=
      funext h.barrier
    rw [hleaves, Tenure.renew, hbarrier]
  · refine origin_of_authority (find?_services_move move grant config found state)
      fun record hnext => ?_
    rw [hhistory, List.getLast?_drop] at hnext
    split at hnext
    · cases hnext
    · simp only [ServiceRuntime.authority, List.getLast?_map, hlast, Option.map_some] at hnext
      rw [← Option.some.inj hnext]
      exact hleaves.symm.trans (congrArg TargetRef.leaves hsource)

theorem Tenured.respects {found : State} {move : Move} {grant : Grant}
    (h : Tenured state.core move.service tenure) (hmode : move.mode ≠ .resume)
    (hfronting : Fronting state.core (move.change grant config found)) :
    tenure.Respects move.destination.seat := by
  rw [Move.change, if_neg hmode] at hfronting
  obtain ⟨hwitness, hholder⟩ := hfronting (by decide) _ rfl
  constructor
  · intro barred hbarred
    rw [h.barrier] at hbarred
    obtain ⟨witness, hfind, rfl⟩ := Option.map_eq_some_iff.mp hbarred
    exact hwitness witness hfind
  · intro seat hseat hplace
    rw [h.holder] at hseat
    obtain ⟨held, hheld, rfl⟩ := Option.map_eq_some_iff.mp hseat
    exact hholder held hheld hplace

/-- A legitimate change leaves a tenure alone, grants it in front of its barriers, or renews
it. -/
theorem Tenured.step (h : Tenured state.core service tenure) (hsound : state.core.Sound config)
    (hlegit : Legit config state.core change) (hfronting : Fronting state.core change) :
    ∃ next, (next = tenure ∨ tenure.Step next) ∧
      Tenured (Change.apply state change).core service next := by
  have hsame {core : Core} (hfences : core.fences = state.core.fences)
      (hwitnesses : core.witnesses = state.core.witnesses)
      (hservices : core.services = state.core.services) :
      ∃ next, (next = tenure ∨ tenure.Step next) ∧ Tenured core service next := by
    refine ⟨tenure, Or.inl rfl, h.congr hfences hwitnesses fun runtime record hfind hlast => ?_⟩
    rw [hservices] at hfind
    exact ⟨runtime, record, hfind, hlast, rfl⟩
  have hother {move : Move} {grant : Grant} {found : State} (hservice : move.service ≠ service) :
      ∃ next, (next = tenure ∨ tenure.Step next) ∧
        Tenured (Change.apply state (move.change grant config found)).core service next := by
    refine ⟨tenure, Or.inl rfl, ?_, fun place => ?_, fun runtime record hfind hlast => ?_⟩
    · rw [Move.change, find?_fences_runtimeChanged, if_neg (Ne.symm hservice)]
      exact h.holder
    · refine (h.barrier place).trans (congrArg _ ?_)
      exact (find?_witnesses_other grant config found state hservice place).symm
    · rw [Move.change, find?_services_runtimeChanged, if_neg (Ne.symm hservice)] at hfind
      exact h.origin runtime record hfind hlast
  cases hlegit with
  | @serviceRegistered descriptor hnew =>
    refine ⟨tenure, Or.inl rfl, h.congr rfl rfl fun runtime record hfind hlast => ?_⟩
    simp only [Change.apply, State.core, OrderedMap.mapValues_insert, OrderedMap.find?_insert]
      at hfind
    split at hfind
    · obtain rfl := Option.some.inj hfind
      cases hlast
    · exact ⟨runtime, record, hfind, hlast, rfl⟩
  | targetUpserted | topologyGenerationSet | policySet | capabilityIngested | failureIngested
  | dependencyIngested | targetRetired | sourceRegistered | epochAdvanced => exact hsame rfl rfl rfl
  | serviceWithdrawn name =>
    rw [Change.core_serviceWithdrawn]
    exact hsame rfl rfl rfl
  | @rewritten kind name next old hfind hauthority =>
    refine ⟨tenure, Or.inl rfl, h.congr rfl rfl fun runtime record hfind' hlast => ?_⟩
    rw [find?_services_runtimeChanged] at hfind'
    split at hfind'
    · rename_i heq
      obtain rfl := Option.some.inj hfind'
      subst heq
      refine ⟨old, ?_⟩
      have hauthority' : next.hard.authority = old.authority :=
        (authority_hard next).trans hauthority
      have hlast' := congrArg (fun authority => authority.history.getLast?) hauthority'
      simp only [ServiceRuntime.authority, List.getLast?_map, hlast, Option.map_some] at hlast'
      obtain ⟨before, hbefore, hsame⟩ := Option.map_eq_some_iff.mp hlast'.symm
      exact ⟨before, hfind, hbefore, congrArg AttemptAuthority.fromTarget hsame⟩
    · exact ⟨runtime, record, hfind', hlast, rfl⟩
  | @granted found move grant name hcore hfind hminted hmode hsource htarget =>
    by_cases hservice : move.service = service
    · subst hservice
      exact ⟨_, Or.inr (.grant _ (h.respects hmode hfronting)),
        h.granted hsound hfind hmode hsource⟩
    · exact hother hservice
  | @renewed found move grant previous hcore hfind hminted hmode hprevious hsource htarget
      hincarnation =>
    by_cases hservice : move.service = service
    · subst hservice
      exact ⟨_, Or.inr .renew,
        h.renewed hsound hfind hminted hmode hprevious hsource htarget hincarnation⟩
    · exact hother hservice

/-- Two records of moves that are equal agree on where the move led from and to. -/
theorem source_of_change {move move' : Move} {grant grant' : Grant} {found found' : State}
    (h : move.change grant config found = move'.change grant' config found')
    (hvalid : move.source.valid = true) :
    move'.service = move.service ∧ move'.source = move.source ∧
      move'.destination = move.destination := by
  obtain ⟨-, hchange⟩ := Change.runtimeChanged.inj h
  have hservice := congrArg RuntimeChange.service hchange
  have hfence := Option.some.inj (congrArg RuntimeChange.fence hchange)
  have hwitnesses := congrArg RuntimeChange.witnesses hchange
  refine ⟨hservice.symm, ?_, (congrArg FenceRecord.holder hfence).symm⟩
  simp only [Move.witnessUpdates, hvalid, if_true] at hwitnesses
  split at hwitnesses
  · obtain ⟨htarget, hwitness⟩ := Prod.mk.inj (List.singleton_inj.mp hwitnesses)
    exact TargetRef.ext htarget.symm (congrArg FenceWitness.incarnation hwitness).symm
  · cases hwitnesses

/-- A move to another place leaves the one it came from barred. -/
theorem Tenured.barred {move : Move} {grant : Grant} {found : State}
    (h : Tenured state.core move.service tenure) (hsound : state.core.Sound config)
    (hlegit : Legit config state.core (move.change grant config found))
    (hvalid : move.source.valid = true)
    (hmoved : move.destination.target ≠ move.source.target) :
    ∃ next, Tenured (Change.apply state (move.change grant config found)).core move.service next ∧
      next.Barred move.source.target move.source.incarnation := by
  generalize hchange : move.change grant config found = change at hlegit
  cases hlegit with
  | @granted found' move' grant' name hcore hfind hminted hmode hsource htarget =>
    obtain ⟨hservice, hsame, hdestination⟩ := source_of_change hchange hvalid
    rw [← hservice] at h ⊢
    have hleaves := h.leaves_granted hsound hfind hsource
    rw [hsame, TargetRef.leaves, if_pos hvalid] at hleaves
    exact ⟨_, h.granted hsound hfind hmode hsource,
      Tenure.Barred.of_grant hleaves.symm (hdestination ▸ hmoved)⟩
  | @renewed found' move' grant' previous hcore hfind hminted hmode hprevious hsource htarget
      hincarnation =>
    obtain ⟨hservice, hsame, hdestination⟩ := source_of_change hchange hvalid
    rw [← hservice] at h ⊢
    obtain ⟨hleaves, hholder, -⟩ :=
      h.leaves_renewed hsound hfind hminted hmode hprevious hsource htarget hincarnation
    rw [hsame, TargetRef.leaves, if_pos hvalid] at hleaves
    refine ⟨_, h.renewed hsound hfind hminted hmode hprevious hsource htarget hincarnation,
      Tenure.Barred.of_renew hleaves.symm fun held hheld => ?_⟩
    rw [hholder, hdestination] at hheld
    obtain rfl := Option.some.inj hheld
    exact hmoved
  | rewritten => cases congrArg RuntimeChange.fence (Change.runtimeChanged.inj hchange).2
  | _ => cases hchange

end Tenured

/-! ### Which commits go in front of the barriers -/

/-- The target that a failback returns to is in front of its witness, and of where the
service is. Nothing in a failback checks this. -/
def Forward (state : State) (request : FailbackRequest) : Prop :=
  ∀ runtime original record, state.services.find? request.service = some runtime →
    runtime.preFailoverTarget = some original →
    state.targets.find? original.target = some record →
    (∀ witness ∈ state.witnessOf request.service original.target,
      witness.incarnation < record.incarnation) ∧
    ∀ active ∈ runtime.active, active.target = original.target →
      active.incarnation < record.incarnation

/-- A failback that would pass the checks of the coordinator goes forward. -/
def Orderly (fabric : Fabric) (op : Op) : Prop :=
  ∀ request runtime qualified, op = .requestFailback request →
    fabric.state.services.find? request.service = some runtime →
    fabric.checkFailback request runtime = .ok qualified → Forward fabric.state request

section Fronting

variable {config : FabricConfig} {fabric : Fabric} {op : Op} {commit : Commit}
  {history past : List Change} {change : Change} {state : State} {service : ServiceName}

/-- A move is in front of the barriers when its target is. -/
theorem Fabric.Moves.fronting {move : Move} {decision : RecoveryDecision}
    (h : fabric.Moves move decision commit)
    (hwitness : ∀ witness ∈ fabric.state.witnessOf move.service move.target.name,
      witness.incarnation < move.target.incarnation)
    (hholder : ∀ held, fabric.state.fences.find? move.service = some held →
      held.holder.target = move.target.name → held.holder.incarnation < move.target.incarnation) :
    Fronting commit.before.core commit.change := by
  rw [h.core]
  cases h with
  | intro =>
    rintro - fence hfence
    obtain rfl := Option.some.inj hfence
    exact ⟨hwitness, hholder⟩

theorem unfenced_of_eligible (hsound : fabric.state.core.Sound config) {runtime : ServiceRuntime}
    {record : TargetRecord} (hfind : fabric.state.services.find? service = some runtime)
    (heligible : Eligible fabric.state runtime record) :
    ∀ witness ∈ fabric.state.witnessOf service record.name,
      witness.incarnation < record.incarnation := by
  have hname : runtime.descriptor.name = service := hsound.service_name hfind
  have hunfenced := heligible.unfenced
  rw [hname] at hunfenced
  exact hunfenced

/-- Where a service is, by its runtime and by its fence. -/
theorem active_of_held (hsound : fabric.state.core.Sound config) {runtime : ServiceRuntime}
    {held : FenceRecord} (hfind : fabric.state.services.find? service = some runtime)
    (hheld : fabric.state.fences.find? service = some held) :
    runtime.active = some held.holder := by
  have hcoherent := hsound.coherent _ _ (core_find?_service hfind)
  rw [show fabric.state.core.fences.find? service = some held from hheld, authority_hard]
    at hcoherent
  exact Placed.active hcoherent

theorem Fabric.Ingested.fronting {update : State → State} {core : Core}
    (h : fabric.Ingested op change update) : Fronting core change := by
  cases h <;> trivial

/-- What a call commits goes in front of the barriers, the failback by assumption. -/
theorem Fabric.Caused.fronting (h : fabric.Caused op commit)
    (hsound : fabric.state.core.Sound config) (horderly : Orderly fabric op) :
    Fronting commit.before.core commit.change := by
  cases h with
  | ingested hop hok hwrites =>
    rw [hwrites.change]
    exact (ingested_of_ok hop hok).fronting
  | @moved _ name check runtime qualified decision _ hop hfind hok hmoves =>
    cases op with
    | establishPlacement request =>
      cases hop
      obtain ⟨-, -, hactive, target, -, heligible, -, hmove⟩ := checkPlacement_ok hok
      refine hmoves.fronting ?_ ?_ <;> rw [hmove]
      · exact unfenced_of_eligible hsound hfind (eligible_of_evaluateCandidate heligible)
      · intro held hheld
        have hheld := active_of_held hsound hfind hheld
        rw [hactive] at hheld
        cases hheld
    | requestFailover request =>
      cases hop
      obtain ⟨-, -, -, -, -, -, evidence, target, -, hchosen, hmove⟩ := checkFailover_ok hok
      obtain ⟨heligible, other, htarget, -, helsewhere⟩ := selectFallback_ok hchosen
      refine hmoves.fronting ?_ ?_ <;> rw [hmove]
      · exact unfenced_of_eligible hsound hfind (eligible_of_evaluateCandidate heligible)
      · intro held hheld hplace
        have hname : target.name = other := (hsound.targets _ _ htarget).1
        have hactive := active_of_held hsound hfind hheld
        exact absurd (hname.symm.trans hplace.symm) (helsewhere _ hactive)
    | resumeRecovery request =>
      cases hop
      obtain ⟨-, -, -, previous, target, -, -, -, -, hmove⟩ := checkResume_ok hok
      cases hmoves with
      | intro =>
        intro hkind
        rw [hmove] at hkind
        exact absurd (if_pos rfl) hkind
    | requestFailback request =>
      cases hop
      have hforward := horderly request runtime qualified rfl hfind hok
      obtain ⟨-, -, -, -, original, record, slot, horiginal, hrecord, -, -, -, -, -, -, hmove⟩ :=
        checkFailback_ok hok
      obtain ⟨hwitness, hactive⟩ := hforward runtime original record hfind horiginal hrecord
      have hname : record.name = original.target := (hsound.targets _ _ hrecord).1
      refine hmoves.fronting ?_ ?_ <;> rw [hmove]
      · rw [hname]
        exact hwitness
      · intro held hheld hplace
        exact hactive _ (active_of_held hsound hfind hheld) (hplace.trans hname)
    | _ => cases hop
  | denied _ _ _ hwrites | acknowledged _ _ hwrites | reported _ _ _ _ hwrites =>
    rw [hwrites.change]
    exact fun _ _ hfence => by cases hfence
  | confirmed _ _ _ hwrites =>
    rw [hwrites.change]
    trivial

/-- Whoever acts in an orderly call is orderly. -/
theorem Orderly.acts {actor : Fabric} {op' : Op} (h : Orderly fabric op)
    (hacts : fabric.Acts op actor op') : Orderly actor op' := by
  cases hacts with
  | direct => exact h
  | confirmed => exact fun _ _ _ heq => by cases heq

/-- A history whose calls were orderly goes forward all along. -/
theorem Trail.fronting {Q : Invariant} {allowed : Fabric → Op → Prop}
    (hground : ∀ {past state}, Q past state → Grounded config past state)
    (horderly : ∀ fabric op, allowed fabric op → Orderly fabric op)
    (h : Trail config allowed Q history) : Along config Fronting history := by
  refine h.along fun past change _ _ hwarrant => ?_
  cases hwarrant with
  | made hallowed hconfig hacts _ hactor hcaused hbefore =>
    rw [← (hground hbefore).explains.core]
    exact hcaused.fronting (hground hactor).sound ((horderly _ _ hallowed).acts hacts)
  | restarted => trivial

/-- Along such a history the holder of a service stays in front of what bars it. -/
theorem exists_clear (hlawful : Along config (Legit config) history)
    (hfronting : Along config Fronting history) (service : ServiceName) :
    ∃ tenure, Tenured (replayed config history).core service tenure ∧ tenure.Clear := by
  refine hlawful.preserves (P := fun state =>
    ∃ tenure, Tenured state.core service tenure ∧ tenure.Clear) List.nil_prefix ?_ ?_
  · exact ⟨{}, .initial config service, nofun, nofun⟩
  · rintro earlier next - hnext ⟨tenure, htenured, hclear⟩ hlegit
    have hsound := soundReplayed (hlawful.of_front ((List.prefix_append _ _).trans hnext))
    obtain ⟨tenure', hstep, htenured'⟩ :=
      htenured.step hsound hlegit (hfronting earlier next hnext)
    refine ⟨tenure', htenured', ?_⟩
    rcases hstep with rfl | hstep
    · exact hclear
    · exact hclear.step hstep

/-- What such a history leaves by a move stays barred to its end. -/
theorem exists_barred {move : Move} {grant : Grant} {found : State}
    (hlawful : Along config (Legit config) history) (hfronting : Along config Fronting history)
    (hchange : past ++ [move.change grant config found] <+: history)
    (hvalid : move.source.valid = true)
    (hmoved : move.destination.target ≠ move.source.target) :
    ∃ tenure, Tenured (replayed config history).core move.service tenure ∧
      tenure.Barred move.source.target move.source.incarnation := by
  have hpast := (List.prefix_append past _).trans hchange
  obtain ⟨tenure, htenured, -⟩ :=
    exists_clear (hlawful.of_front hpast) (hfronting.of_front hpast) move.service
  have hbarred := htenured.barred (soundReplayed (hlawful.of_front hpast))
    (hlawful _ _ hchange) hvalid hmoved
  refine hlawful.preserves (P := fun state => ∃ tenure, Tenured state.core move.service tenure ∧
    tenure.Barred move.source.target move.source.incarnation) hchange ?_ ?_
  · rw [replayed_snoc]
    exact hbarred
  · rintro earlier next - hnext ⟨tenure, htenured, hbarred⟩ hlegit
    have hsound := soundReplayed (hlawful.of_front ((List.prefix_append _ _).trans hnext))
    obtain ⟨tenure', hstep, htenured'⟩ :=
      htenured.step hsound hlegit (hfronting earlier next hnext)
    refine ⟨tenure', htenured', ?_⟩
    rcases hstep with rfl | hstep
    · exact hbarred
    · exact hbarred.step hstep

end Fronting

/-! ### Fences of a run -/

section Runs

variable {config : FabricConfig} {moments earlier later : List Moment} {fabric : Fabric}
  {moment : Moment} {op : Op} {decision : RecoveryDecision} {intent : FailoverIntent}

/-- In every run whose failbacks go forward, whoever holds a service is authorized. -/
theorem holder_authorized (hrun : Fabric.Run config moments fabric)
    (horderly : ∀ moment ∈ moments, Orderly moment.before moment.event.op)
    (service : ServiceName) (held : FenceRecord)
    (hheld : fabric.state.fences.find? service = some held) :
    fabric.Verifies service held.holder held.token := by
  obtain ⟨history, memory, -, hchronicled⟩ :=
    hrun.chronicled (preserved_true config Orderly).stable horderly
  refine Fabric.verifies_iff.mpr ⟨held, hheld, rfl, rfl, ?_⟩
  rcases hchronicled.remembered with ⟨-, hblank⟩ | ⟨hgrounded, -⟩
  · have hfences : fabric.state.fences = .empty := congrArg Core.fences hblank.core
    rw [hfences] at hheld
    cases hheld
  · have hfronting := hchronicled.memoryTrail.fronting (fun hpast => hpast.1) fun _ _ h => h
    obtain ⟨tenure, htenured, hclear⟩ := exists_clear hgrounded.lawful hfronting service
    rw [← hgrounded.explains.core] at htenured
    have hholder : tenure.holder = some held.holder.seat := by
      rw [htenured.holder, show fabric.state.core.fences.find? service = some held from hheld]
      rfl
    intro witness hwitness
    refine hclear.barrier _ hholder witness.incarnation ?_
    rw [htenured.barrier]
    exact Option.map_eq_some_iff.mpr ⟨witness, hwitness, rfl⟩

/-- The change of an accepted move stays in the history, unless a process starts over. -/
theorem Staged.moves {allowed : Fabric → Op → Prop} {Q : Invariant}
    {history past memory : List Change}
    (h : Staged config allowed Q history earlier moment later past memory)
    (hmoment : moment.Accepts op decision) (haccepts : moment.before.Accepts op decision)
    (hop : op.moves = true)
    (hkept : ∀ next ∈ moment :: later, ¬next.before.Forgets config next.event) :
    ∃ front found move grant, decision.intent = some (Move.intent move grant found) ∧
      (past ++ front) ++ [move.change grant config found] <+: history := by
  obtain ⟨added, hrecords, hfront⟩ := h.kept hkept
  rw [hmoment.1] at hrecords
  obtain ⟨_, ⟨-, hacts, -, -, -, hmoves⟩, rfl⟩ := haccepts.adds hop hrecords
  have hconfig := acts_config hacts h.chronicled.configured
  cases hmoves with
  | intro hprior _ _ _ _ _ hintent =>
    rw [List.map_append, List.map_singleton, ← List.append_assoc, hprior.config, hconfig] at hfront
    exact ⟨_, _, _, _, hintent, hfront⟩

/-- In every run whose failbacks go forward, whose opens can apply all they find, and in
which no process without a store starts over, what a service moved off is never authorized
again, nor any incarnation below. -/
theorem left_behind (hrun : Fabric.Run config moments fabric)
    (horderly : ∀ moment ∈ moments, Orderly moment.before moment.event.op)
    (hthorough : ∀ moment ∈ moments, moment.event.op = .openFabric → moment.before.ReplaysAll)
    (hsplit : moments = earlier ++ moment :: later)
    (hkept : ∀ next ∈ moment :: later, ¬next.before.Forgets config next.event)
    (haccepts : moment.Accepts op decision) (hop : op.moves = true)
    (hintent : decision.intent = some intent)
    (hmoved : intent.toTarget.target ≠ intent.fromTarget.target) (below : TargetIncarnation)
    (hbelow : below ≤ intent.fromTarget.incarnation) (token : FenceToken) :
    ¬fabric.Verifies intent.service
      { target := intent.fromTarget.target, incarnation := below } token := by
  intro hverifies
  obtain ⟨held, hheld, hholder, -, -⟩ := Fabric.verifies_iff.mp hverifies
  obtain ⟨history, memory, -, hchronicled, hstaged⟩ := hrun.staged
    (preserved_true config fun caller op =>
      Orderly caller op ∧ (op = .openFabric → caller.ReplaysAll)).stable
    fun moment hmoment => ⟨horderly moment hmoment, hthorough moment hmoment⟩
  -- The memory has all of the history, for otherwise nobody would hold the service.
  have hmemory : Grounded config memory fabric.state ∧ history <+: memory := by
    have hnobody (hfences : fabric.state.fences = .empty) :
        Grounded config memory fabric.state ∧ history <+: memory := by
      rw [hfences] at hheld
      cases hheld
    rcases hchronicled.remembered with ⟨-, hblank⟩ | ⟨hgrounded, -⟩
    · exact hnobody (congrArg Core.fences hblank.core)
    rcases hchronicled.agree with (rfl | hfront) | ⟨hnot, -⟩
    · exact hnobody (congrArg Core.fences hgrounded.explains.core)
    · exact ⟨hgrounded, hfront⟩
    · exact absurd (fun _ _ hallowed => hallowed.2 rfl) hnot
  obtain ⟨hgrounded, hfront⟩ := hmemory
  have hfronting : Along config Fronting memory :=
    hchronicled.memoryTrail.fronting (fun hpast => hpast.1) fun _ _ h => h.1
  obtain ⟨past, memory', hpast⟩ := hstaged earlier moment later hsplit
  obtain ⟨front, found, move, grant, hmove, hchange⟩ :=
    hpast.moves haccepts (hrun.accepts (by simp [hsplit]) haccepts).2 hop hkept
  obtain rfl := Option.some.inj (hintent.symm.trans hmove)
  have hheld' : fabric.state.core.fences.find? move.service = some held := hheld
  by_cases hvalid : held.holder.valid = true
  · obtain ⟨tenure, htenured, hbarred⟩ := exists_barred hgrounded.lawful hfronting
      (hchange.trans hfront) (by rw [hholder] at hvalid; exact hvalid) hmoved
    rw [← hgrounded.explains.core] at htenured
    have hseat : tenure.holder = some ⟨move.source.target, below⟩ := by
      rw [htenured.holder, hheld', Option.map_some, hholder]
      rfl
    exact absurd hbelow (not_le.mpr (hbarred.holder _ hseat rfl))
  · obtain ⟨-, runtime, hfind⟩ := hgrounded.sound.fences _ _ hheld'
    have hcoherent := hgrounded.sound.coherent _ _ hfind
    rw [hheld'] at hcoherent
    exact hvalid (Placed.valid hcoherent)

end Runs

/-! ### A failback behind its barrier -/

/-- A coordinator that keeps one attempt for each service. -/
def Fleet.frugal : FabricConfig := { maxAttemptHistory := 1 }

/-- The service returned to its first target by failover, after it was booted again. -/
def Fleet.returned : List Op :=
  failedOver ++ adopt primary 2 ++ [moveOn 3, turnDown 3]

/-- The calls go forward when no failback is among them. -/
theorem orderly_momentsOf {fabric : Fabric} {ops : List Op}
    (h : ∀ op ∈ ops, ∀ request, op ≠ .requestFailback request) :
    ∀ moment ∈ fabric.momentsOf ops, Orderly moment.before moment.event.op :=
  Fabric.forall_momentsOf fun op hop _ request _ _ heq => absurd heq (h op hop request)

/-- The run of some calls of a frugal coordinator. -/
theorem run_frugal (ops : List Op) :
    Fabric.Run Fleet.frugal ((Fabric.create Fleet.frugal {}).momentsOf ops)
      ((Fabric.create Fleet.frugal {}).after ops) :=
  .of_calls Fleet.frugal ops

theorem holder_authorized_failedOver : ∃ held,
    (Fleet.running Fleet.failedOver).state.fences.find? Fleet.service = some held ∧
    (Fleet.running Fleet.failedOver).Verifies Fleet.service held.holder held.token := by
  have hheld : ((Fleet.running Fleet.failedOver).state.fences.find?
      Fleet.service).isSome = true := by
    simp only [Fleet.running, Fabric.after_eq_drafted]
    decide +kernel
  obtain ⟨held, hheld⟩ := Option.isSome_iff_exists.mp hheld
  refine ⟨held, hheld, holder_authorized (Fleet.run_running _) ?_ _ _ hheld⟩
  refine orderly_momentsOf fun op hop request heq => ?_
  subst heq
  simp [Fleet.failedOver, Fleet.opening, Fleet.adopt, Fleet.register, Fleet.support,
    Fleet.place, Fleet.moveOn, Fleet.turnDown] at hop

/-- A failback goes to where the service is already, and fences it out. -/
theorem not_holder_authorized : ∃ moments fabric held, Fabric.Run Fleet.frugal moments fabric ∧
    fabric.state.fences.find? Fleet.service = some held ∧
    ¬fabric.Verifies Fleet.service held.holder held.token := by
  have hheld : (((Fabric.create Fleet.frugal {}).after (Fleet.returned ++
      [Fleet.goBack 4 Fleet.primary Fleet.operator])).state.fences.find? Fleet.service).any
        (fun held => !(((Fabric.create Fleet.frugal {}).after (Fleet.returned ++
          [Fleet.goBack 4 Fleet.primary Fleet.operator])).verifyFence
            { service := Fleet.service, holder := held.holder
              presented := held.token }).authorized) = true := by
    simp only [Fabric.after_eq_drafted]
    decide +kernel
  obtain ⟨held, hheld, hverdict⟩ := (Option.any_eq_true _ _).mp hheld
  refine ⟨_, _, held, run_frugal _, hheld, fun hverifies => ?_⟩
  rw [Bool.not_eq_true'] at hverdict
  exact absurd (hverdict.symm.trans hverifies) (by decide)

/-- More attempts are allowed than by default. -/
def Fleet.generous : Op := .setPolicy { generation := ⟨1⟩, maxAttemptsPerGeneration := 8 }

def Fleet.goBackGenerously (key : UInt64) : Op :=
  .requestFailback
    { key := ⟨key⟩, service, preferredTarget := primary, observedTopologyGeneration := ⟨1⟩
      observedPolicyGeneration := ⟨1⟩, requester := operator }

/-- The service is about to leave its first target at the third boot of that. -/
def Fleet.leaving : List Op :=
  failedOver ++ generous :: adopt primary 3 ++ [moveOn 3, turnDown 3] ++ adopt secondary 2

/-- It comes back by a failback to the second boot, which lowers the barrier, leaves once
more, and comes back to the third boot by failover. -/
def Fleet.comingBack : List Op :=
  [turnDown 4, .retireTarget primary operator] ++ adopt primary 2 ++
    [goBackGenerously 5, turnDown 5] ++ adopt secondary 3 ++ [moveOn 6, turnDown 6] ++
    adopt primary 3 ++ [moveOn 7]

/-- After a failover the first target is left behind. -/
theorem left_behind_placed : ∃ (moment : Moment) (decision : RecoveryDecision)
    (intent : FailoverIntent), moment.Accepts (Fleet.moveOn 2) decision ∧
    decision.intent = some intent ∧ ∀ token,
      ¬(Fleet.running (Fleet.placed ++ [Fleet.moveOn 2])).Verifies intent.service
        intent.fromTarget token := by
  have hemits : ((Fleet.running Fleet.placed).emits (Fleet.moveOn 2)).map
        (fun intent => (intent.fromTarget, intent.toTarget)) =
      some (Fleet.booted Fleet.primary 1, Fleet.booted Fleet.secondary 1) := by
    simp only [Fleet.running, Fabric.after_eq_drafted, Fabric.emits, Fabric.call_eq_drafted]
    decide +kernel
  obtain ⟨decision, intent, haccepts, hintent, hpair⟩ := Fabric.exists_accepts_of_emits hemits
  obtain ⟨hfrom, hto⟩ := Prod.mk.inj hpair
  refine ⟨_, decision, intent, haccepts.asMoment, hintent, fun token => ?_⟩
  refine left_behind (Fleet.run_running _) ?_ ?_
    (Fabric.momentsOf_split _ Fleet.placed (Fleet.moveOn 2) []) ?_ haccepts.asMoment rfl hintent ?_
    _ le_rfl token
  · refine orderly_momentsOf fun op hop request heq => ?_
    subst heq
    simp [Fleet.placed, Fleet.opening, Fleet.adopt, Fleet.register, Fleet.support,
      Fleet.place, Fleet.moveOn] at hop
  · refine Fabric.thorough_momentsOf fun op hop heq => ?_
    subst heq
    simp [Fleet.adopt, Fleet.register, Fleet.support, Fleet.place, Fleet.moveOn] at hop
  · intro next hnext hforgets
    obtain rfl := List.mem_singleton.mp hnext
    cases hforgets.2.1
  · rw [hfrom, hto]
    decide

/-- What a service moved off is authorized again. -/
theorem not_left_behind : ∃ (earlier later : List Moment) (moment : Moment) (fabric : Fabric)
    (decision : RecoveryDecision) (intent : FailoverIntent) (token : FenceToken),
    Fabric.Run Fleet.frugal (earlier ++ moment :: later) fabric ∧
    moment.Accepts (Fleet.moveOn 4) decision ∧ decision.intent = some intent ∧
    intent.toTarget.target ≠ intent.fromTarget.target ∧
    fabric.Verifies intent.service intent.fromTarget token := by
  have hemits : (((Fabric.create Fleet.frugal {}).after Fleet.leaving).emits
      (Fleet.moveOn 4)).map (fun intent => (intent.service, intent.fromTarget, intent.toTarget)) =
      some (Fleet.service, Fleet.booted Fleet.primary 3, Fleet.booted Fleet.secondary 2) := by
    simp only [Fabric.after_eq_drafted, Fabric.emits, Fabric.call_eq_drafted]
    decide +kernel
  have hverifies : ((Fabric.create Fleet.frugal {}).after
      (Fleet.leaving ++ Fleet.moveOn 4 :: Fleet.comingBack)).Verifies Fleet.service
        (Fleet.booted Fleet.primary 3) ⟨7⟩ := by
    unfold Fabric.Verifies
    simp only [Fabric.after_eq_drafted]
    decide +kernel
  obtain ⟨decision, intent, haccepts, hintent, htriple⟩ := Fabric.exists_accepts_of_emits hemits
  obtain ⟨hservice, hpair⟩ := Prod.mk.inj htriple
  obtain ⟨hfrom, hto⟩ := Prod.mk.inj hpair
  have hrun := run_frugal (Fleet.leaving ++ Fleet.moveOn 4 :: Fleet.comingBack)
  rw [Fabric.momentsOf_split] at hrun
  refine ⟨_, _, _, _, decision, intent, ⟨7⟩, hrun, haccepts.asMoment, hintent, ?_, ?_⟩
  · rw [hfrom, hto]
    decide
  · rw [hservice, hfrom]
    exact hverifies

end OffloadFabric
