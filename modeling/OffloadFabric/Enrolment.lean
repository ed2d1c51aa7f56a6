import OffloadFabric.Boots
import OffloadFabric.Refusals

/-!
What a source that is not enrolled can reach. Every operation of a reporter looks up the role
of its source before it commits anything; only the acknowledgement of an intent does not, and
so anybody may acknowledge the attempt of a service.
-/
namespace OffloadFabric

open Fabric (Op)

/-- The source on whose behalf a report or a registration is made. -/
def Fabric.Op.acting : Op → Option SourceName
  | .registerService _ registrar | .registerTarget _ registrar => some registrar
  | .setTopologyGeneration _ reporter => some reporter
  | .withdrawService _ requester | .retireTarget _ requester => some requester
  | .ingestCapability evidence => some evidence.source
  | .ingestFailure evidence => some evidence.provenance.source
  | .ingestDependency observation => some observation.provenance.source
  | .acknowledgeIntent ack => some ack.executor
  | .reportEffect report => some report.provenance.source
  | _ => none

/-- The registries that only enrolled sources may change. -/
structure Undisturbed (state state' : State) : Prop where
  services : state'.services = state.services
  fences : state'.fences = state.fences
  witnesses : state'.witnesses = state.witnesses
  targets : state'.targets = state.targets
  capabilities : state'.capabilities = state.capabilities
  dependencies : state'.dependencies = state.dependencies
  failures : state'.failures = state.failures
  watermarks : state'.watermarks = state.watermarks

namespace Fabric

/-- The record that an acknowledgement commits. -/
def acknowledgement (runtime : ServiceRuntime) (ack : IntentAck) (stamp : LogicalTick) : Change :=
  .runtimeChanged .attemptAcknowledged
    { service := runtime.descriptor.name, runtime := acknowledgedRuntime runtime ack stamp }

/-- An open coordinator is asked to acknowledge the attempt of a service, the numbers of the
acknowledgement are those of the attempt, and the store has room for its record. -/
def Overlooks (fabric : Fabric) (op : Op) : Prop :=
  fabric.opened ∧ ∃ ack service runtime stamp, op = .acknowledgeIntent ack ∧
    serviceOfAttempt fabric.state ack.attempt = some (service, runtime) ∧
    fabric.checkAcknowledgement ack runtime = .ok stamp ∧
    ∀ store ∈ fabric.store,
      store.refuseTransaction [(acknowledgement runtime ack stamp).record] = none

end Fabric

section Enrolment

variable {fabric : Fabric} {op : Op} {source : SourceName}

theorem Undisturbed.of_registries {state state' : State}
    (h : state'.registries = state.registries) : Undisturbed state state' := by
  have hfield {α : Type} (field : State → α) : field state'.registries = field state.registries :=
    congrArg field h
  exact
    { services := hfield State.services, fences := hfield State.fences
      witnesses := hfield State.witnesses, targets := hfield State.targets
      capabilities := hfield State.capabilities, dependencies := hfield State.dependencies
      failures := hfield State.failures, watermarks := hfield State.watermarks }

/-- Every ingestion that passes its check has an enrolled source. -/
theorem Fabric.enrolled_of_ingestion {checked : Check Proposal} {proposal : Proposal}
    (hop : fabric.ingestion op = some checked) (hok : checked = .ok proposal)
    (hacting : op.acting = some source) : ∃ role, fabric.state.roleSatisfies source role := by
  cases op with
  | registerService descriptor registrar =>
    cases hop
    cases hacting
    exact ⟨_, (checkRegisterService_ok hok).1⟩
  | registerTarget target registrar =>
    cases hop
    cases hacting
    simp only [checkRegisterTarget, require_bind_ok] at hok
    exact ⟨_, hok.2.1⟩
  | setTopologyGeneration generation reporter =>
    cases hop
    cases hacting
    simp only [checkSetTopologyGeneration, require_bind_ok] at hok
    exact ⟨_, hok.2.1⟩
  | withdrawService service requester =>
    cases hop
    cases hacting
    exact ⟨_, (checkWithdrawService_ok hok).1⟩
  | retireTarget target requester =>
    cases hop
    cases hacting
    simp only [checkRetireTarget, require_bind_ok] at hok
    exact ⟨_, hok.2.1⟩
  | ingestCapability evidence =>
    cases hop
    cases hacting
    simp only [checkIngestCapability, require_bind_ok] at hok
    exact ⟨_, hok.2.1⟩
  | ingestFailure evidence =>
    cases hop
    cases hacting
    exact ⟨_, (checkIngestFailure_ok hok).1.role⟩
  | ingestDependency observation =>
    cases hop
    cases hacting
    simp only [checkIngestDependency, require_bind_ok] at hok
    exact ⟨_, hok.2.1⟩
  | enrollSource => cases hacting
  | setPolicy => cases hacting
  | _ => cases hop

theorem State.not_roleSatisfies {state : State} (hstranger : state.sources.find? source = none)
    (role : SourceRole) : state.roleSatisfies source role = false := by
  unfold roleSatisfies
  rw [hstranger]

/-- A persist succeeds unless there is a store that refuses the transaction. -/
theorem Fabric.persist_ok_iff {records : List Record} :
    (fabric.persist records).1 = .ok ↔
      ∀ store ∈ fabric.store, store.refuseTransaction records = none := by
  unfold persist
  cases hstore : fabric.store with
  | none => simp
  | some store =>
    dsimp only
    cases hrefuse : store.refuseTransaction records with
    | none =>
      have hcode : (store.commitTransaction records).1 = .ok := by
        simp only [Store.commitTransaction, hrefuse]
      rw [if_neg (not_not.mpr hcode)]
      simpa using hrefuse
    | some reason =>
      have hcode : (store.commitTransaction records).1 = reason := by
        simp only [Store.commitTransaction, hrefuse]
      have hreason : reason ≠ .ok := fun hok => Store.refuseTransaction_ne_ok (hok ▸ hrefuse)
      rw [hcode, if_pos hreason]
      simp [hrefuse, hreason]

/-- A transaction is refused exactly when its record is. -/
theorem Fabric.transact_refused_iff {change : Change} {update : State → State} :
    (∃ code, (fabric.transact change update).1 = .refused code) ↔
      (fabric.persist [change.record]).1 ≠ .ok := by
  unfold transact
  rcases fabric.persist [change.record] with ⟨code, durable⟩
  by_cases hcode : code = .ok
  · simp only [hcode, ne_eq, not_true_eq_false, if_false, iff_false]
    split <;> simp
  · simp [hcode]

theorem ServiceRuntime.find?_modifyFirst {id : AttemptId} {f : AttemptRecord → AttemptRecord}
    (hf : ∀ record, (f record).id = record.id) (history : List AttemptRecord) :
    (ServiceRuntime.modifyFirst id f history).find? (fun record => record.id = id) =
      (history.find? fun record => record.id = id).map f := by
  induction history with
  | nil => rfl
  | cons record rest ih =>
    unfold ServiceRuntime.modifyFirst
    by_cases hid : record.id = id
    · rw [if_pos hid]
      simp [hf, hid]
    · rw [if_neg hid]
      simpa [hid] using ih

/-- The record that was to be acknowledged is acknowledged afterwards. -/
theorem Fabric.currentAttemptRecord_acknowledgedRuntime {runtime : ServiceRuntime}
    {ack : IntentAck} (hattempt : runtime.currentAttempt = ack.attempt) (stamp : LogicalTick) :
    (acknowledgedRuntime runtime ack stamp).currentAttemptRecord =
      runtime.currentAttemptRecord.map (acknowledgedRecord ack.accepted) := by
  have hid (record : AttemptRecord) :
      (acknowledgedRecord ack.accepted record).id = record.id := by
    unfold acknowledgedRecord
    split <;> rfl
  have hcurrent : (acknowledgedRuntime runtime ack stamp).currentAttempt = ack.attempt := by
    rw [← hattempt]
    unfold acknowledgedRuntime
    split <;> rfl
  have hhistory : (acknowledgedRuntime runtime ack stamp).history =
      ServiceRuntime.modifyNewest ack.attempt (acknowledgedRecord ack.accepted)
        runtime.history := by
    unfold acknowledgedRuntime
    split <;> rfl
  unfold ServiceRuntime.currentAttemptRecord
  rw [hcurrent, hhistory, hattempt, ServiceRuntime.modifyNewest, List.reverse_reverse]
  exact ServiceRuntime.find?_modifyFirst hid _

theorem Fabric.acknowledgedRuntime_ne {runtime : ServiceRuntime} {ack : IntentAck}
    {stamp : LogicalTick} (hattempt : runtime.currentAttempt = ack.attempt)
    (hcheck : fabric.checkAcknowledgement ack runtime = .ok stamp) :
    acknowledgedRuntime runtime ack stamp ≠ runtime := by
  intro hsame
  obtain ⟨-, -, ⟨record, hrecord, hfresh⟩, -⟩ := checkAcknowledgement_ok hcheck
  have hnext := currentAttemptRecord_acknowledgedRuntime hattempt stamp
  rw [hsame, hrecord, Option.map_some] at hnext
  have hacknowledged : record.acknowledged = true := by
    rw [Option.some.inj hnext]
    unfold acknowledgedRecord
    split <;> rfl
  rw [hfresh] at hacknowledged
  cases hacknowledged

theorem Fabric.transact_acknowledgement_refused {runtime : ServiceRuntime} {ack : IntentAck}
    {stamp : LogicalTick} (update : State → State) :
    (∃ code, (fabric.transact (acknowledgement runtime ack stamp) update).1 = .refused code) ↔
      ¬∀ store ∈ fabric.store,
        store.refuseTransaction [(acknowledgement runtime ack stamp).record] = none := by
  rw [transact_refused_iff, ne_eq, persist_ok_iff]

/-- An acknowledgement leaves the registries alone unless it is overlooked. -/
theorem Fabric.acknowledge_undisturbed {ack : IntentAck}
    (hoverlooks : ¬fabric.Overlooks (.acknowledgeIntent ack)) :
    fabric.Spares (fabric.doAcknowledgeIntent ack).2 := by
  unfold doAcknowledgeIntent
  dsimp only
  split
  · exact spares_refusal _ _ _ _ _ _
  rename_i hopened
  split
  · exact spares_refusal _ _ _ _ _ _
  rename_i service runtime hfind
  split
  · rename_i refused hrefused
    exact spares_refuse _ _ (nothing_checkAcknowledgement ack refused hrefused)
  rename_i stamp hcheck
  obtain ⟨code, hcode⟩ := (transact_acknowledgement_refused (rewritten
    runtime.descriptor.name (acknowledgedRuntime runtime ack stamp) stamp)).mpr fun hroom =>
      hoverlooks ⟨by simpa using hopened, ack, service, runtime, stamp, rfl, hfind, hcheck, hroom⟩
  unfold acknowledgement at hcode
  split
  all_goals
    rename_i htransact
    rw [htransact] at hcode
    cases hcode
  exact (transact_spares htransact).trans (spares_refusal _ _ _ _ _ _)

/-- An overlooked acknowledgement rewrites its service. -/
theorem Fabric.acknowledge_rewrites {ack : IntentAck} {service : ServiceName}
    {runtime : ServiceRuntime} {stamp : LogicalTick} (hopened : fabric.opened)
    (hfind : serviceOfAttempt fabric.state ack.attempt = some (service, runtime))
    (hcheck : fabric.checkAcknowledgement ack runtime = .ok stamp)
    (hroom : ∀ store ∈ fabric.store,
      store.refuseTransaction [(acknowledgement runtime ack stamp).record] = none) :
    (fabric.doAcknowledgeIntent ack).2.state.services.find? runtime.descriptor.name =
      some (acknowledgedRuntime runtime ack stamp) := by
  have hwritten {progress : Progress} {durable last : Fabric}
      (htransact : fabric.transact (acknowledgement runtime ack stamp)
        (rewritten runtime.descriptor.name (acknowledgedRuntime runtime ack stamp) stamp) =
          (progress, durable))
      (hdone : ∀ code, progress ≠ .refused code) (hlast : durable.Spares last) :
      last.state.services.find? runtime.descriptor.name =
        some (acknowledgedRuntime runtime ack stamp) := by
    obtain ⟨before, -, hafter⟩ := transact_registries htransact hdone
    have hservices := (Undisturbed.of_registries (hlast.registries.trans hafter)).services
    rw [hservices]
    exact OrderedMap.find?_insert_self _ _ _
  have hnot : ¬∃ code, (fabric.transact (acknowledgement runtime ack stamp) (rewritten
      runtime.descriptor.name (acknowledgedRuntime runtime ack stamp) stamp)).1 = .refused code :=
    fun hrefused => (transact_acknowledgement_refused _).mp hrefused hroom
  unfold doAcknowledgeIntent
  simp only [hopened, Bool.not_true, Bool.false_eq_true, if_false, hfind, hcheck]
  split
  · rename_i htransact
    exact absurd ⟨_, congrArg Prod.fst htransact⟩ hnot
  · rename_i htransact
    exact hwritten htransact (fun _ hcode => by cases hcode) (spares_refusal _ _ _ _ _ _)
  · rename_i htransact
    exact hwritten htransact (fun _ hcode => by cases hcode) (spares_recordExplanation _ _)

/-- A report of a source that is not enrolled leaves the registries alone, as long as the
coordinator asks for an enrolled reporter. -/
theorem Fabric.report_undisturbed {report : EffectReport}
    (hrequires : fabric.config.requireEnrolledEffectReporter = true)
    (hstranger : fabric.state.sources.find? report.provenance.source = none) :
    fabric.Spares (fabric.doReportEffect report).2 := by
  have hrefused (runtime : ServiceRuntime) : fabric.checkReport report runtime ≠ .ok () := by
    intro hok
    simp only [checkReport, require_bind_ok] at hok
    have hrole := hok.1 hrequires
    rw [State.not_roleSatisfies hstranger] at hrole
    cases hrole
  unfold doReportEffect
  dsimp only
  split
  · exact spares_refusal _ _ _ _ _ _
  split
  · exact spares_refusal _ _ _ _ _ _
  split
  · rename_i refused hcheck
    exact spares_refuse _ _ (nothing_checkReport report refused hcheck)
  · rename_i hcheck
    exact absurd hcheck (hrefused _)

/-- The call of a source that is not enrolled spares the registries, unless it is an
acknowledgement that is overlooked. -/
theorem Fabric.dispatch_undisturbed
    (hrequires : fabric.config.requireEnrolledEffectReporter = true)
    (hacting : op.acting = some source) (hstranger : fabric.state.sources.find? source = none)
    (hoverlooks : ¬fabric.Overlooks op) : fabric.Spares (fabric.dispatch op).2 := by
  have hingest {service : ServiceName} {subject : Bytes} {checked : Check Proposal}
      (hop : fabric.ingestion op = some checked)
      (hdispatch : fabric.dispatch op = replyExplained (fabric.ingest service subject checked)) :
      fabric.Spares (fabric.dispatch op).2 := by
    rw [hdispatch]
    cases hchecked : checked with
    | error refused => exact ingest_spares_of_error rfl
    | ok proposal =>
      obtain ⟨role, hrole⟩ := enrolled_of_ingestion hop hchecked hacting
      rw [State.not_roleSatisfies hstranger] at hrole
      cases hrole
  cases op with
  | registerService | registerTarget | setTopologyGeneration | withdrawService | retireTarget
  | ingestCapability | ingestFailure | ingestDependency => exact hingest rfl rfl
  | acknowledgeIntent ack => exact acknowledge_undisturbed hoverlooks
  | reportEffect report =>
    cases hacting
    exact report_undisturbed hrequires hstranger
  | _ => cases hacting

/-- A source that is not enrolled disturbs nothing, exactly when its call is not the
acknowledgement of an attempt that the coordinator carries out. -/
theorem unenrolled_undisturbed_iff {config : FabricConfig}
    (hreachable : Fabric.Reachable config fabric)
    (hrequires : config.requireEnrolledEffectReporter = true)
    (hacting : op.acting = some source) (hstranger : fabric.state.sources.find? source = none) :
    Undisturbed fabric.state (fabric.call op).2.state ↔ ¬fabric.Overlooks op := by
  obtain ⟨moments, hrun⟩ := hreachable
  constructor
  · rintro hundisturbed ⟨hopened, ack, service, runtime, stamp, rfl, hfind, hcheck, hroom⟩
    have hopened' : fabric.entered.opened = true := hopened
    have hwritten : (fabric.call (.acknowledgeIntent ack)).2.state.services.find?
        runtime.descriptor.name = some (Fabric.acknowledgedRuntime runtime ack stamp) :=
      Fabric.acknowledge_rewrites hopened' hfind hcheck hroom
    obtain ⟨hservice, hattempt⟩ := find?_serviceOfAttempt hfind
    rw [hundisturbed.services, hrun.sound.service_name hservice, hservice] at hwritten
    exact Fabric.acknowledgedRuntime_ne hattempt hcheck (Option.some.inj hwritten).symm
  · intro hoverlooks
    have hconfig : fabric.entered.config = config := hrun.configured
    have hspares : fabric.entered.Spares (fabric.entered.dispatch op).2 :=
      Fabric.dispatch_undisturbed (hconfig.symm ▸ hrequires) hacting hstranger hoverlooks
    exact .of_registries hspares.registries

end Enrolment

/-- The executor of an intent takes it. -/
def Fleet.takeUp (attempt : UInt64) (executor : SourceName) : Op :=
  .acknowledgeIntent
    { attempt := ⟨attempt⟩, fence := ⟨attempt⟩, generation := ⟨attempt⟩, accepted := true
      executor }

theorem Fleet.unknown_stranger : (running placed).state.sources.find? stranger = none := by
  simp only [running, Fabric.after_eq_drafted]
  decide +kernel

/-- A stranger acknowledges an attempt that is long over. -/
theorem unenrolled_undisturbed_iff_placed :
    Undisturbed (Fleet.running Fleet.placed).state
      ((Fleet.running Fleet.placed).call (Fleet.takeUp 7 Fleet.stranger)).2.state ↔
      ¬(Fleet.running Fleet.placed).Overlooks (Fleet.takeUp 7 Fleet.stranger) :=
  unenrolled_undisturbed_iff (Fleet.reachable_running Fleet.placed) rfl rfl Fleet.unknown_stranger

/-- A stranger acknowledges the attempt of the service, whose recovery goes on. -/
theorem unenrolled_disturbs :
    Fabric.Reachable {} (Fleet.running Fleet.placed) ∧
    ({} : FabricConfig).requireEnrolledEffectReporter = true ∧
    (Fleet.takeUp 1 Fleet.stranger).acting = some Fleet.stranger ∧
    (Fleet.running Fleet.placed).state.sources.find? Fleet.stranger = none ∧
    ¬Undisturbed (Fleet.running Fleet.placed).state
      ((Fleet.running Fleet.placed).call (Fleet.takeUp 1 Fleet.stranger)).2.state := by
  refine ⟨Fleet.reachable_running _, rfl, rfl, Fleet.unknown_stranger, fun hundisturbed => ?_⟩
  have hrecovery := congrArg (fun services : OrderedMap ServiceName ServiceRuntime =>
    (services.find? Fleet.service).map ServiceRuntime.recovery) hundisturbed.services
  revert hrecovery
  simp only [Fleet.running, Fabric.after_eq_drafted, Fabric.call_eq_drafted]
  decide +kernel

end OffloadFabric
