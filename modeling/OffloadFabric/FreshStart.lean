import OffloadFabric.Cancellations
import OffloadFabric.Deliveries
import OffloadFabric.Drafts
import OffloadFabric.Dormancy
import OffloadFabric.Narration
import OffloadFabric.Reopening

/-!
A coordinator that is closed and opened again in the same process, beside one that was newly
constructed. The open starts over everything but the cancellation registry and the queue of
pending intents; the capacity that the registry was last used with makes no difference, since
every request sets it before the registry is looked at.
-/
namespace OffloadFabric

namespace Fabric

/-! ### The capacity of the registry -/

/-- The same process, with another capacity of its registry. -/
def resized (fabric : Fabric) (capacity : Nat) : Fabric :=
  { fabric with cancels := { fabric.cancels with capacity } }

/-- The same answer, of a process with another capacity of its registry. -/
def resize {α : Type} (capacity : Nat) (answer : α × Fabric) : α × Fabric :=
  (answer.1, answer.2.resized capacity)

section Resized

theorem resize_mk {α : Type} (capacity : Nat) (reply : α) (fabric : Fabric) :
    resize capacity (reply, fabric) = (reply, fabric.resized capacity) := rfl

theorem markCommitted_resized (registry : CancelRegistry) (capacity : Nat) (key : RequestKey) :
    CancelRegistry.markCommitted { registry with capacity } key =
      { registry.markCommitted key with capacity } := by
  unfold CancelRegistry.markCommitted
  dsimp only
  by_cases hknown : registry.requests.contains key = true
  · rw [if_pos hknown, if_pos hknown]
  · rw [if_neg hknown, if_neg hknown]

variable (fabric : Fabric) (capacity : Nat)

@[simp] theorem resized_config : (fabric.resized capacity).config = fabric.config := rfl
@[simp] theorem resized_state : (fabric.resized capacity).state = fabric.state := rfl
@[simp] theorem resized_store : (fabric.resized capacity).store = fabric.store := rfl
@[simp] theorem resized_opened : (fabric.resized capacity).opened = fabric.opened := rfl
@[simp] theorem resized_disk : (fabric.resized capacity).disk = fabric.disk := rfl
@[simp] theorem resized_intents : (fabric.resized capacity).intents = fabric.intents := rfl

theorem releaseIfActive_resized (registry : CancelRegistry) (capacity : Nat) (key : RequestKey) :
    CancelRegistry.releaseIfActive { registry with capacity } key =
      { registry.releaseIfActive key with capacity } := by
  unfold CancelRegistry.releaseIfActive
  dsimp only
  by_cases hactive : registry.requests.find? key = some .active
  · rw [if_pos hactive, if_pos hactive]
  · rw [if_neg hactive, if_neg hactive]

theorem persist_resized (records : List Record) :
    (fabric.resized capacity).persist records = resize capacity (fabric.persist records) := by
  unfold persist
  rw [resized_store]
  cases fabric.store with
  | none => rfl
  | some store =>
    dsimp only
    split <;> rfl

theorem rotateIfDue_resized :
    (fabric.resized capacity).rotateIfDue = resize capacity fabric.rotateIfDue := by
  unfold rotateIfDue maybeCompact
  rw [resized_store, resized_state]
  cases fabric.store with
  | none => rfl
  | some store =>
    dsimp only
    split
    · split
      · rfl
      · unfold resize
        split <;> rfl
    · rfl

theorem transact_resized (change : Change) (update : State → State) :
    (fabric.resized capacity).transact change update =
      resize capacity (fabric.transact change update) := by
  unfold transact
  rw [persist_resized]
  generalize fabric.persist [change.record] = result
  obtain ⟨code, durable⟩ := result
  have hrotate : rotateIfDue { durable.resized capacity with
      state := update (durable.resized capacity).state } =
        resize capacity (rotateIfDue { durable with state := update durable.state }) :=
    rotateIfDue_resized { durable with state := update durable.state } capacity
  dsimp only [resize] at hrotate ⊢
  rw [hrotate]
  generalize rotateIfDue { durable with state := update durable.state } = result
  obtain ⟨rotation, rotated⟩ := result
  dsimp only
  by_cases hcode : code = .ok
  · rw [if_neg (not_not.mpr hcode), if_neg (not_not.mpr hcode)]
    split <;> rfl
  · rw [if_pos hcode, if_pos hcode]

theorem refusal_resized (explanation : Explanation) (code : Reason) (subject : Bytes)
    (detail : String) (value : UInt64) :
    (fabric.resized capacity).refusal explanation code subject detail value =
      resize capacity (fabric.refusal explanation code subject detail value) := by
  unfold refusal
  dsimp only
  split <;> rfl

theorem refuse_resized (explanation : Explanation) (service : ServiceName) (refused : Refusal) :
    (fabric.resized capacity).refuse explanation service refused =
      resize capacity (fabric.refuse explanation service refused) :=
  refusal_resized { fabric with state := _ } capacity _ _ _ _ _

theorem ingest_resized (service : ServiceName) (subject : Bytes) (checked : Check Proposal) :
    (fabric.resized capacity).ingest service subject checked =
      resize capacity (fabric.ingest service subject checked) := by
  unfold ingest
  cases checked with
  | error refused => rfl
  | ok proposal =>
    dsimp only
    rw [transact_resized]
    generalize fabric.transact proposal.change proposal.update = result
    obtain ⟨progress, durable⟩ := result
    cases progress <;> rfl

theorem decided_resized (service : ServiceName) (key : RequestKey)
    {decide decide' : Explanation → RecoveryDecision × Fabric}
    (hdecide : ∀ explanation, decide' explanation = resize capacity (decide explanation)) :
    (fabric.resized capacity).decided service key decide' =
      resize capacity (fabric.decided service key decide) := by
  unfold decided
  rw [resized_opened, resized_state]
  split
  · exact refusal_resized _ _ _ _ _ _ _
  · split
    · rfl
    · exact hdecide _

theorem commitRecovery_resized (move : Move) :
    commitRecovery (fabric.resized capacity) move =
      resize capacity (commitRecovery fabric move) := by
  have hprepare : prepare (fabric.resized capacity) move = prepare fabric move := rfl
  unfold commitRecovery
  rw [hprepare, resized_state, resized_config, resized_intents]
  cases prepare fabric move with
  | error refused => rfl
  | ok grant =>
    dsimp only
    rw [transact_resized]
    generalize fabric.transact _ _ = result
    obtain ⟨progress, durable⟩ := result
    have hmark : (durable.resized capacity).cancels.markCommitted move.key =
        { durable.cancels.markCommitted move.key with capacity } :=
      markCommitted_resized durable.cancels capacity move.key
    cases progress with
    | refused code => rfl
    | uncompacted code =>
      dsimp only [resize]
      rw [hmark]
      by_cases hnil : move.key.isNil = true
      · rw [if_pos hnil, if_pos hnil]
        rfl
      · rw [if_neg hnil, if_neg hnil]
        rfl
    | done =>
      dsimp only [resize]
      rw [hmark]
      by_cases hnil : move.key.isNil = true
      · rw [if_pos hnil, if_pos hnil]
        rfl
      · rw [if_neg hnil, if_neg hnil]
        rfl

theorem concludeCommit_resized (explanation : Explanation) (qualified : Qualified)
    (closing : Closing) :
    (fabric.resized capacity).concludeCommit explanation qualified closing =
      resize capacity (fabric.concludeCommit explanation qualified closing) := by
  have hcommit : commitRecovery { fabric.resized capacity with
      state := (fabric.resized capacity).state.bumpAll qualified.counters } qualified.move =
        resize capacity (commitRecovery
          { fabric with state := fabric.state.bumpAll qualified.counters } qualified.move) :=
    commitRecovery_resized { fabric with state := fabric.state.bumpAll qualified.counters } _ _
  unfold concludeCommit
  dsimp only
  rw [hcommit]
  generalize commitRecovery _ _ = result
  obtain ⟨result, durable⟩ := result
  rw [resize_mk]
  dsimp only
  by_cases hcode : result.code = .ok
  · rw [if_neg (not_not.mpr hcode), if_neg (not_not.mpr hcode)]
    rfl
  · rw [if_pos hcode, if_pos hcode, refuse_resized]
    rfl

theorem decideMove_resized (service : ServiceName) (key : RequestKey)
    (check : ServiceRuntime → Check Qualified) (closing : Closing) :
    (fabric.resized capacity).decideMove service key check closing =
      resize capacity (fabric.decideMove service key check closing) := by
  refine decided_resized _ _ _ _ fun explanation => ?_
  rw [resized_state]
  split
  · exact refusal_resized _ _ _ _ _ _ _
  · split
    · exact refuse_resized _ _ _ _ _
    · exact concludeCommit_resized _ _ _ _ _

theorem doRequestFailover_resized (request : FailoverRequest) (resume : Bool) :
    (fabric.resized capacity).doRequestFailover request resume =
      resize capacity (fabric.doRequestFailover request resume) := by
  unfold doRequestFailover
  split <;> exact decideMove_resized _ _ _ _ _ _

theorem doResolveAmbiguity_resized (resolution : AmbiguityResolution) :
    (fabric.resized capacity).doResolveAmbiguity resolution =
      resize capacity (fabric.doResolveAmbiguity resolution) := by
  refine decided_resized _ _ _ _ fun explanation => ?_
  have hcheck (runtime : ServiceRuntime) :
      (fabric.resized capacity).checkResolution resolution runtime =
        fabric.checkResolution resolution runtime := rfl
  rw [resized_state]
  split
  · exact refusal_resized _ _ _ _ _ _ _
  · rw [hcheck]
    split
    · exact refuse_resized _ _ _ _ _
    · split
      · unfold confirmAmbiguity
        dsimp only
        rw [persist_resized]
        generalize fabric.persist _ = result
        obtain ⟨code, durable⟩ := result
        cases code with
        | ok => exact doRequestFailover_resized { durable with state := _ } capacity _ _
        | _ => exact refusal_resized _ _ _ _ _ _ _
      · unfold denyAmbiguity
        dsimp only
        rw [transact_resized]
        generalize fabric.transact _ _ = result
        obtain ⟨progress, durable⟩ := result
        cases progress with
        | refused code => exact refusal_resized _ _ _ _ _ _ _
        | uncompacted code => exact refusal_resized _ _ _ _ _ _ _
        | done => rfl

theorem doAcknowledgeIntent_resized (ack : IntentAck) :
    (fabric.resized capacity).doAcknowledgeIntent ack =
      resize capacity (fabric.doAcknowledgeIntent ack) := by
  have hcheck (runtime : ServiceRuntime) :
      (fabric.resized capacity).checkAcknowledgement ack runtime =
        fabric.checkAcknowledgement ack runtime := rfl
  have hbegin : (fabric.resized capacity).beginExplanation .nil ack.key =
      fabric.beginExplanation .nil ack.key := rfl
  unfold doAcknowledgeIntent
  rw [resized_opened, resized_state, hbegin]
  dsimp only
  split
  · exact refusal_resized _ _ _ _ _ _ _
  · split
    · exact refusal_resized _ _ _ _ _ _ _
    · rw [hcheck]
      split
      · exact refuse_resized _ _ _ _ _
      · rw [transact_resized]
        generalize fabric.transact _ _ = result
        obtain ⟨progress, durable⟩ := result
        cases progress with
        | refused code => exact refusal_resized _ _ _ _ _ _ _
        | uncompacted code => exact refusal_resized _ _ _ _ _ _ _
        | done => rfl

theorem recordEffect_resized (explanation : Explanation) (report : EffectReport)
    (next : ServiceRuntime) (outcome : Reason) (stamp : LogicalTick) :
    (fabric.resized capacity).recordEffect explanation report next outcome stamp =
      resize capacity (fabric.recordEffect explanation report next outcome stamp) := by
  unfold recordEffect
  dsimp only
  rw [transact_resized]
  generalize fabric.transact _ _ = result
  obtain ⟨progress, durable⟩ := result
  cases progress with
  | refused code => exact refuse_resized _ _ _ _ _
  | uncompacted code => exact refuse_resized _ _ _ _ _
  | done => rfl

theorem doReportEffect_resized (report : EffectReport) :
    (fabric.resized capacity).doReportEffect report =
      resize capacity (fabric.doReportEffect report) := by
  have hreport (runtime : ServiceRuntime) :
      (fabric.resized capacity).checkReport report runtime =
        fabric.checkReport report runtime := rfl
  have heffect (runtime : ServiceRuntime) :
      (fabric.resized capacity).checkEffect report runtime =
        fabric.checkEffect report runtime := rfl
  have hbegin : (fabric.resized capacity).beginExplanation report.service {} =
      fabric.beginExplanation report.service {} := rfl
  unfold doReportEffect
  dsimp only
  rw [resized_opened, resized_state, hbegin]
  split
  · exact refusal_resized _ _ _ _ _ _ _
  · split
    · exact refusal_resized _ _ _ _ _ _ _
    · rw [hreport]
      split
      · exact refuse_resized _ _ _ _ _
      · split
        · rfl
        · rw [heffect]
          split
          · exact refuse_resized _ _ _ _ _
          · exact recordEffect_resized _ _ _ _ _ _ _

theorem cancel_resized (key : RequestKey) :
    (fabric.resized capacity).cancel key = resize capacity (fabric.cancel key) := by
  have hcancel : (fabric.resized capacity).cancels.cancel key =
      ((fabric.cancels.cancel key).1, { (fabric.cancels.cancel key).2 with capacity }) := by
    unfold CancelRegistry.cancel resized
    dsimp only
    cases fabric.cancels.requests.find? key with
    | none => rfl
    | some phase => cases phase <;> rfl
  have hbegin : (fabric.resized capacity).beginExplanation .nil key =
      fabric.beginExplanation .nil key := rfl
  unfold cancel
  rw [hcancel, hbegin]
  generalize fabric.cancels.cancel key = result
  obtain ⟨code, cancels⟩ := result
  dsimp only
  split
  · rfl
  · split <;> rfl

theorem takeIntent_resized :
    (fabric.resized capacity).takeIntent = resize capacity fabric.takeIntent := by
  unfold takeIntent
  rw [resized_intents]
  split <;> rfl

theorem waitForIntent_resized :
    (fabric.resized capacity).waitForIntent = resize capacity fabric.waitForIntent := by
  unfold waitForIntent
  rw [resized_intents]
  split <;> rfl

theorem recover_resized (found : Store.Opened) :
    (fabric.resized capacity).recover found = resize capacity (fabric.recover found) := by
  unfold recover
  rw [resized_config]
  dsimp only
  split
  · rfl
  · rename_i base hload
    split
    · rfl
    · split
      · rfl
      · split
        · rfl
        · generalize hreplayed : replay fabric.config base found.records = replayed
          obtain ⟨state, complete⟩ := replayed
          dsimp only
          have htransact :
              Fabric.transact { fabric.resized capacity with
                state := restartedState state
                restart := restartSummary (fabric.resized capacity).restart.store state }
                (.epochAdvanced (restartedState state).epoch (restartedState state).boot) id =
              resize capacity (Fabric.transact { fabric with
                state := restartedState state
                restart := restartSummary fabric.restart.store state }
                (.epochAdvanced (restartedState state).epoch (restartedState state).boot) id) :=
            transact_resized { fabric with
              state := restartedState state
              restart := restartSummary fabric.restart.store state } capacity _ _
          dsimp only [resized_config] at htransact
          rw [htransact]
          generalize Fabric.transact _ _ _ = result
          obtain ⟨progress, durable⟩ := result
          cases progress <;> rfl

theorem open_resized :
    (fabric.resized capacity).open = resize capacity fabric.open := by
  unfold «open»
  rw [resized_opened, resized_config, resized_disk]
  split
  · rfl
  · split
    · rfl
    · split
      · rfl
      · rename_i found hopen
        exact recover_resized (fabric.cleared.attach found) capacity found

theorem close_resized :
    (fabric.resized capacity).close = resize capacity fabric.close := by
  unfold close
  rw [resized_opened]
  split <;> rfl

/-- Between a request and the same request of a process whose registry has another capacity,
nothing differs but, perhaps, that capacity. -/
theorem keyed_resized (service : ServiceName) (key : RequestKey)
    {decide : Fabric → RecoveryDecision × Fabric}
    (hdecide : ∀ fabric : Fabric, decide (fabric.resized capacity) =
      resize capacity (decide fabric)) :
    ∃ capacity', (fabric.resized capacity).keyed service key decide =
      resize capacity' (fabric.keyed service key decide) := by
  have hself (answer : RecoveryDecision × Fabric) :
      resize answer.2.cancels.capacity answer = answer := rfl
  unfold keyed
  rw [resized_state, resized_config]
  split
  · exact ⟨capacity, rfl⟩
  · by_cases hnil : key.isNil = true
    · refine ⟨capacity, ?_⟩
      have hbegin : (fabric.resized capacity).cancels.begin key fabric.config.maxRequestCache =
          (.ok, { fabric.cancels with capacity }) := if_pos hnil
      have hbegin' : fabric.cancels.begin key fabric.config.maxRequestCache =
          (.ok, fabric.cancels) := if_pos hnil
      rw [hbegin, hbegin']
      dsimp only
      rw [if_neg (not_not.mpr rfl), if_neg (not_not.mpr rfl)]
      change ((decide (fabric.resized capacity)).1,
          { (decide (fabric.resized capacity)).2 with
            cancels := (decide (fabric.resized capacity)).2.cancels.releaseIfActive key }) = _
      rw [hdecide]
      dsimp only [resize]
      rw [show ((decide fabric).2.resized capacity).cancels.releaseIfActive key =
        { (decide fabric).2.cancels.releaseIfActive key with capacity } from
          releaseIfActive_resized _ _ _]
      rfl
    · have hbegin : (fabric.resized capacity).cancels.begin key fabric.config.maxRequestCache =
          fabric.cancels.begin key fabric.config.maxRequestCache := by
        unfold CancelRegistry.begin
        rw [if_neg hnil, if_neg hnil]
        rfl
      rw [hbegin]
      exact ⟨_, (hself _).symm⟩

theorem call_resized (op : Op) :
    ∃ capacity', (fabric.resized capacity).call op = resize capacity' (fabric.call op) := by
  have hingest {service : ServiceName} {subject : Bytes} {checked : Check Proposal} :=
    congrArg replyExplained (ingest_resized fabric.entered capacity service subject checked)
  have hkeyed {service : ServiceName} {key : RequestKey}
      {decide : Fabric → RecoveryDecision × Fabric}
      (hdecide : ∀ fabric : Fabric, decide (fabric.resized capacity) =
        resize capacity (decide fabric)) :
      ∃ capacity', replyDecided ((fabric.entered.resized capacity).keyed service key decide) =
        resize capacity' (replyDecided (fabric.entered.keyed service key decide)) := by
    obtain ⟨capacity', hsame⟩ := keyed_resized fabric.entered capacity service key hdecide
    exact ⟨capacity', congrArg replyDecided hsame⟩
  cases op with
  | openFabric => exact ⟨capacity, congrArg replyCode (open_resized fabric.entered capacity)⟩
  | closeFabric => exact ⟨capacity, congrArg replyCode (close_resized fabric.entered capacity)⟩
  | enrollSource | registerService | registerTarget | setTopologyGeneration | setPolicy
  | withdrawService | retireTarget | ingestCapability | ingestFailure | ingestDependency =>
    exact ⟨capacity, hingest⟩
  | establishPlacement request =>
    exact hkeyed fun fabric => decideMove_resized fabric capacity _ _ _ _
  | requestFailover request =>
    exact hkeyed fun fabric => doRequestFailover_resized fabric capacity request false
  | resumeRecovery request =>
    exact hkeyed fun fabric => doRequestFailover_resized fabric capacity request true
  | resolveAmbiguity resolution =>
    exact hkeyed fun fabric => doResolveAmbiguity_resized fabric capacity resolution
  | requestFailback request =>
    exact hkeyed fun fabric => decideMove_resized fabric capacity _ _ _ _
  | acknowledgeIntent ack =>
    exact ⟨capacity, congrArg replyDecided (doAcknowledgeIntent_resized fabric.entered _ ack)⟩
  | reportEffect report =>
    exact ⟨capacity, congrArg replyDecided (doReportEffect_resized fabric.entered _ report)⟩
  | cancel key =>
    exact ⟨capacity, congrArg replyExplained (cancel_resized fabric.entered capacity key)⟩
  | takeIntent =>
    exact ⟨capacity, congrArg replyIntent (takeIntent_resized fabric.entered capacity)⟩
  | waitForIntent =>
    exact ⟨capacity, congrArg replyIntent (waitForIntent_resized fabric.entered capacity)⟩

end Resized

/-- What a process answers to some calls in turn. -/
def replies (fabric : Fabric) : List Op → List Reply
  | [] => []
  | op :: ops => (fabric.call op).1 :: (fabric.call op).2.replies ops

theorem replies_resized (ops : List Op) (fabric : Fabric) (capacity : Nat) :
    (fabric.resized capacity).replies ops = fabric.replies ops := by
  induction ops generalizing fabric capacity with
  | nil => rfl
  | cons op ops ih =>
    obtain ⟨capacity', hcall⟩ := call_resized fabric capacity op
    rw [replies, replies, hcall]
    exact congrArg _ (ih _ _)

/-! ### The capacity of the queue -/

section Capacity

variable {config : FabricConfig} {moments : List Moment} {fabric : Fabric} {op : Op}

theorem capacity_tryPop {intents rest : IntentQueue} {intent : FailoverIntent}
    (h : intents.tryPop = some (intent, rest)) : rest.capacity = intents.capacity := by
  unfold IntentQueue.tryPop at h
  split at h
  · cases h
  · cases h
    rfl

theorem capacity_step (outbox : Outbox) (act : Outbox.Act) :
    (outbox.step act).intents.capacity = outbox.intents.capacity := by
  cases act with
  | rest => rfl
  | post intent =>
    show (outbox.intents.push intent).capacity = _
    unfold IntentQueue.push
    split <;> rfl
  | take | wait =>
    unfold Outbox.step
    dsimp only
    split
    · rfl
    · rename_i hpop
      exact capacity_tryPop hpop

/-- No call changes the capacity of the queue. -/
theorem capacity_call (fabric : Fabric) (op : Op) :
    (fabric.call op).2.intents.capacity = fabric.intents.capacity := by
  have hsame {intents : IntentQueue} (h : intents = fabric.entered.intents) :
      intents.capacity = fabric.intents.capacity := congrArg IntentQueue.capacity h
  by_cases hclose : op = .closeFabric
  · subst hclose
    show fabric.entered.close.2.intents.capacity = _
    unfold close
    split <;> rfl
  by_cases hopened : fabric.opened = true
  · have hstep := congrArg (fun outbox : Outbox => outbox.intents.capacity)
      (outbox_call hopened hclose)
    exact hstep.trans (capacity_step _ _)
  · have hclosed : fabric.entered.opened = false := eq_false_of_ne_true hopened
    cases op with
    | openFabric =>
      show fabric.entered.open.2.intents.capacity = _
      unfold «open»
      rw [if_neg (by simp [hclosed])]
      split
      · rfl
      · split
        · rfl
        · rw [intents_recover]
          rfl
    | closeFabric => exact absurd rfl hclose
    | enrollSource | registerService | registerTarget | setTopologyGeneration | setPolicy
    | withdrawService | retireTarget | ingestCapability | ingestFailure | ingestDependency =>
      exact hsame (intents_ingestion rfl hclosed)
    | establishPlacement | resolveAmbiguity | requestFailback =>
      exact hsame (intents_keyed fun _ => intents_decided hclosed)
    | requestFailover | resumeRecovery =>
      exact hsame (intents_keyed fun _ => intents_failover hclosed)
    | acknowledgeIntent ack =>
      refine hsame ?_
      simp [call, dispatch, replyDecided, doAcknowledgeIntent, hclosed]
    | reportEffect report =>
      refine hsame ?_
      simp [call, dispatch, replyDecided, doReportEffect, hclosed]
    | cancel key => exact hsame (intents_cancel _ _)
    | takeIntent =>
      show fabric.entered.takeIntent.2.intents.capacity = _
      unfold takeIntent
      split
      · rfl
      · rename_i hpop
        exact capacity_tryPop hpop
    | waitForIntent =>
      show fabric.entered.waitForIntent.2.intents.capacity = _
      unfold waitForIntent
      split
      · rfl
      · rename_i hpop
        exact capacity_tryPop hpop

theorem Run.capacity (h : Run config moments fabric) :
    fabric.intents.capacity = (IntentQueue.ofCapacity config.maxIntentQueue).capacity := by
  induction h with
  | start => rfl
  | @step moments fabric fabric' event hrun hstep ih =>
    cases hstep with
    | call op => exact (capacity_call fabric op).trans ih
    | crash op disk _ =>
      rw [hrun.configured]
      rfl

end Capacity

/-! ### Reopening in the same process -/

section Reopened

variable {config : FabricConfig} {moments : List Moment} {fabric : Fabric}

/-- Whoever calls the processes that two calls left cannot tell them apart: not by the answer,
nor by anything they show, nor by what they answer later. -/
structure Alike (one other : Reply × Fabric) : Prop where
  reply : one.1 = other.1
  state : one.2.state = other.2.state
  pending : one.2.intents.queue = other.2.intents.queue
  explanations : one.2.explanations = other.2.explanations
  restart : one.2.restart = other.2.restart
  opened : one.2.opened = other.2.opened
  later : ∀ ops, one.2.replies ops = other.2.replies ops

theorem Alike.resize (answer : Reply × Fabric) (capacity : Nat) :
    Alike (resize capacity answer) answer :=
  ⟨rfl, rfl, rfl, rfl, rfl, rfl, fun ops => replies_resized ops _ _⟩

/-- An open looks at nothing that it starts over. -/
theorem open_congr {other : Fabric} (hopened : fabric.opened = false)
    (hopened' : other.opened = false) (hcleared : fabric.cleared = other.cleared) :
    fabric.open = other.open := by
  have hconfig : fabric.cleared.config = other.cleared.config := congrArg Fabric.config hcleared
  have hdisk : fabric.cleared.disk = other.cleared.disk := congrArg Fabric.disk hcleared
  change fabric.config = other.config at hconfig
  change fabric.disk = other.disk at hdisk
  unfold «open»
  rw [hopened, hopened', hconfig, hdisk, hcleared, if_neg Bool.false_ne_true,
    if_neg Bool.false_ne_true]

/-- The process that a close leaves. -/
def shut (fabric : Fabric) : Fabric :=
  { fabric with
    opened := false, intents := { fabric.intents with closed := true }, store := none, log := [] }

theorem call_close_eq (hopened : fabric.opened = true) :
    (fabric.call .closeFabric).2 = fabric.shut := by
  have hopened' : fabric.entered.opened = true := hopened
  simp only [call, dispatch, replyCode, close, hopened', Bool.not_true, Bool.false_eq_true,
    if_false]
  rfl

/-- The open leaves the registry and the pending intents of the process that was closed. -/
theorem reopened_keeps (hopened : fabric.opened = true) :
    ((fabric.call .closeFabric).2.call .openFabric).2.cancels = fabric.cancels ∧
      ((fabric.call .closeFabric).2.call .openFabric).2.intents.queue = fabric.intents.queue := by
  rw [call_close_eq hopened]
  exact ⟨cancels_open fabric.shut, queue_open fabric.shut⟩

theorem fresh_keeps (config : FabricConfig) (disk : Directory) :
    ((create config disk).call .openFabric).2.cancels = {} ∧
      ((create config disk).call .openFabric).2.intents.queue = [] :=
  ⟨cancels_open (create config disk), queue_open (create config disk)⟩

/-- The answer to a cancellation shows what the registry knows of the key. -/
theorem cancel_of_replies {other : Fabric} {key : RequestKey}
    (h : fabric.replies [.cancel key] = other.replies [.cancel key]) :
    (fabric.cancels.cancel key).1 = (other.cancels.cancel key).1 :=
  (Reply.explained.inj (List.cons.inj h).1).1

/-- With nothing registered and nothing pending, an open after a close starts over as in a new
process. -/
theorem cleared_shut (hrun : Run config moments fabric)
    (hrequests : fabric.cancels.requests = .empty) (hpending : fabric.intents.queue = []) :
    fabric.shut.cleared =
      ((create config fabric.disk).resized fabric.cancels.capacity).cleared := by
  have hlisted := hrun.settled.1.listed
  have horder : fabric.cancels.order = [] := by
    refine List.eq_nil_iff_forall_not_mem.mpr fun key hkey => ?_
    rw [hlisted.mem_iff, hrequests] at hkey
    cases hkey
  have hcancels : fabric.cancels = { capacity := fabric.cancels.capacity } := by
    cases hregistry : fabric.cancels with
    | mk requests order capacity =>
      rw [hregistry] at hrequests horder
      obtain rfl : requests = .empty := hrequests
      obtain rfl : order = [] := horder
      rfl
  have hintents : ({ fabric.intents with closed := false } : IntentQueue) =
      { IntentQueue.ofCapacity config.maxIntentQueue with closed := false } := by
    dsimp only
    rw [hpending, hrun.capacity]
    rfl
  have hexplanations : fabric.explanations.clear =
      ({ capacity := config.maxExplanations } : ExplanationLog).clear := by
    unfold ExplanationLog.clear
    rw [hrun.narrates.capacity]
  unfold cleared resized create shut
  dsimp only at hintents ⊢
  rw [hrun.configured, hexplanations, hintents]
  exact congrArg (fun cancels => Fabric.mk config _ _ _ cancels _ _ _ _ _) hcancels

/-- A close and an open leave a process that cannot be told from a new one on the directory
exactly if no request was registered and no intent was pending. -/
theorem reopened_fresh_iff (hrun : Run config moments fabric) (hopened : fabric.opened = true) :
    Alike ((fabric.call .closeFabric).2.call .openFabric)
        ((create config fabric.disk).call .openFabric) ↔
      fabric.cancels.requests = .empty ∧ fabric.intents.queue = [] := by
  constructor
  · intro halike
    obtain ⟨hcancels, hqueue⟩ := reopened_keeps hopened
    obtain ⟨hcancels', hqueue'⟩ := fresh_keeps config fabric.disk
    refine ⟨OrderedMap.ext fun key => ?_, ?_⟩
    · have hcode := cancel_of_replies (halike.later [.cancel key])
      rw [hcancels, hcancels'] at hcode
      unfold CancelRegistry.cancel at hcode
      cases hfind : fabric.cancels.requests.find? key with
      | none => rfl
      | some phase =>
        obtain rfl := hrun.settled.1.committed key phase hfind
        rw [hfind] at hcode
        cases hcode
    · rw [← hqueue, halike.pending, hqueue']
  · intro ⟨hrequests, hpending⟩
    have hcleared := cleared_shut hrun hrequests hpending
    have hopen : fabric.shut.open =
        resize fabric.cancels.capacity (create config fabric.disk).open :=
      (open_congr rfl rfl hcleared).trans (open_resized _ _)
    have hcall : (fabric.call .closeFabric).2.call .openFabric =
        resize fabric.cancels.capacity ((create config fabric.disk).call .openFabric) :=
      (congrArg (·.call .openFabric) (call_close_eq hopened)).trans (congrArg replyCode hopen)
    rw [hcall]
    exact Alike.resize _ _

end Reopened

end Fabric

/-! ### A coordinator with nothing to forget, and one with something -/

/-- The targets of a service are known, and a failback of it is refused. -/
def Fleet.unsettled : List Fabric.Op :=
  opening ++ adopt primary 1 ++ adopt secondary 1 ++ [goBack 1 primary operator]

open Fabric in
/-- A refused request leaves nothing behind: the coordinator reopens like a new one. -/
theorem reopened_fresh_unsettled :
    (Fleet.keeping Fleet.unsettled).opened = true ∧
      Alike (((Fleet.keeping Fleet.unsettled).call .closeFabric).2.call .openFabric)
        ((create { storeDirectory := true } (Fleet.keeping Fleet.unsettled).disk).call
          .openFabric) := by
  have hfacts : ((Fleet.keeping Fleet.unsettled).opened,
      (Fleet.keeping Fleet.unsettled).cancels.requests,
      (Fleet.keeping Fleet.unsettled).intents.queue) = (true, .empty, []) := by
    simp only [Fleet.keeping, Fabric.after_eq_drafted]
    decide +kernel
  simp only [Prod.mk.injEq] at hfacts
  obtain ⟨hopened, hrequests, hpending⟩ := hfacts
  exact ⟨hopened, (reopened_fresh_iff (Fleet.run_keeping _) hopened).mpr ⟨hrequests, hpending⟩⟩

open Fabric in
/-- A service was placed: its intent outlives the coordinator that issued it, and its key is
still known to a cancellation. -/
theorem not_reopened_fresh : ∃ (moments : List Moment) (fabric : Fabric) (key : RequestKey),
    Run { storeDirectory := true } moments fabric ∧ fabric.opened = true ∧
      ((fabric.call .closeFabric).2.call .openFabric).2.intents.queue ≠
        ((create { storeDirectory := true } fabric.disk).call .openFabric).2.intents.queue ∧
      ((fabric.call .closeFabric).2.call .openFabric).2.replies [.cancel key] ≠
        ((create { storeDirectory := true } fabric.disk).call .openFabric).2.replies
          [.cancel key] := by
  have hfacts : ((Fleet.keeping Fleet.placed).opened,
      ((Fleet.keeping Fleet.placed).cancels.cancel ⟨1⟩).1,
      (Fleet.keeping Fleet.placed).intents.queue.length) = (true, .cancelTooLate, 1) := by
    simp only [Fleet.keeping, Fabric.after_eq_drafted]
    decide +kernel
  simp only [Prod.mk.injEq] at hfacts
  obtain ⟨hopened, hcode, hlength⟩ := hfacts
  obtain ⟨hcancels, hqueue⟩ := reopened_keeps hopened
  obtain ⟨hcancels', hqueue'⟩ := fresh_keeps { storeDirectory := true }
    (Fleet.keeping Fleet.placed).disk
  refine ⟨_, _, ⟨1⟩, Fleet.run_keeping _, hopened, fun hsame => ?_, fun hsame => ?_⟩
  · rw [hqueue, hqueue'] at hsame
    rw [hsame] at hlength
    cases hlength
  · have hsame := cancel_of_replies hsame
    rw [hcancels, hcancels', hcode] at hsame
    cases hsame

end OffloadFabric
