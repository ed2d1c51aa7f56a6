import OffloadFabric.Cancellations
import OffloadFabric.Dormancy

/-!
The intents that wait to be taken, with the counters that are kept of them. Every call of an
open coordinator is one step of this outbox: an accepted move posts its intent, the two ways of
asking for an intent take the oldest one, and nothing else touches either the queue or the
counters. The blocking way does not count what it takes.
-/
namespace OffloadFabric

open Fabric (Op Reply Event Moment)

/-! ### The outbox -/

/-- What is counted of intents. -/
structure Tallies where
  emitted : UInt64
  dropped : UInt64
  consumed : UInt64

/-- A commit is counted as one that emits its intent or as one that drops it. -/
def Tallies.post (tallies : Tallies) (accepted : Bool) : Tallies :=
  if accepted then { tallies with emitted := saturatingInc tallies.emitted }
  else { tallies with dropped := saturatingInc tallies.dropped }

/-- The pending intents and what was counted of them. -/
structure Outbox where
  intents : IntentQueue
  tallies : Tallies

namespace Outbox

/-- What a call does with intents. -/
inductive Act where
  | rest
  | post (intent : FailoverIntent)
  | take
  | wait

variable (outbox : Outbox) (act : Act)

/-- The intent that a step brings. -/
def posted : Act → List FailoverIntent
  | .post intent => [intent]
  | _ => []

/-- The intents that a step appends to the queue: none when it is full or closed. -/
def queued : List FailoverIntent := if outbox.intents.accepts then posted act else []

/-- The intents that a step finds no room for. -/
def dropped : List FailoverIntent := if outbox.intents.accepts then [] else posted act

/-- The intents that a step hands out. -/
def handed : List FailoverIntent :=
  match act with
  | .take | .wait => outbox.intents.queue.head?.toList
  | _ => []

def step : Outbox :=
  match act with
  | .rest => outbox
  | .post intent =>
    { intents := outbox.intents.push intent
      tallies := outbox.tallies.post outbox.intents.accepts }
  | .take =>
    match outbox.intents.tryPop with
    | none => outbox
    | some (_, intents) =>
      { intents
        tallies := { outbox.tallies with consumed := saturatingInc outbox.tallies.consumed } }
  | .wait =>
    match outbox.intents.tryPop with
    | none => outbox
    | some (_, intents) => { outbox with intents }

/-- The intents that are queued while the count of emissions is full. -/
def unrecorded : List FailoverIntent :=
  if outbox.tallies.emitted = u64Max then outbox.queued act else []

/-- The intents that are handed out uncounted: to whoever waited for them, or while the count
is full. -/
def unclaimed : List FailoverIntent :=
  match act with
  | .wait => outbox.handed act
  | _ => if outbox.tallies.consumed = u64Max then outbox.handed act else []

section Steps

variable {outbox act}

/-- What was pending or is queued now is handed out now or pending afterwards, in order. -/
theorem step_queue : outbox.intents.queue ++ outbox.queued act =
    outbox.handed act ++ (outbox.step act).intents.queue := by
  cases act with
  | rest => simp [queued, posted, handed, step]
  | post intent =>
    unfold queued posted handed step IntentQueue.push
    split <;> simp
  | take | wait =>
    unfold queued posted handed step IntentQueue.tryPop
    cases hqueue : outbox.intents.queue <;> simp [hqueue]

theorem saturatingInc_toNat (value : UInt64) :
    (saturatingInc value).toNat + (if value = u64Max then 1 else 0) = value.toNat + 1 := by
  unfold saturatingInc
  by_cases hmax : value = u64Max
  · rw [if_pos hmax, if_pos hmax]
  · rw [if_neg hmax, if_neg hmax, toNat_add_one_of_ne_max hmax]

/-- Every intent that is queued is counted, except while the count is full. -/
theorem step_emitted : (outbox.step act).tallies.emitted.toNat + (outbox.unrecorded act).length =
    outbox.tallies.emitted.toNat + (outbox.queued act).length := by
  have hinc := saturatingInc_toNat outbox.tallies.emitted
  cases act with
  | rest => simp [unrecorded, queued, posted, step]
  | post intent =>
    unfold unrecorded queued posted step Tallies.post
    by_cases haccepts : outbox.intents.accepts = true
    · by_cases hmax : outbox.tallies.emitted = u64Max
      · rw [if_pos hmax] at hinc
        simp [haccepts, hmax] at hinc ⊢
        omega
      · rw [if_neg hmax] at hinc
        simp [haccepts, hmax] at hinc ⊢
        omega
    · simp [haccepts]
  | take | wait =>
    unfold unrecorded queued posted step IntentQueue.tryPop
    cases hqueue : outbox.intents.queue <;> simp

/-- Every intent that is handed out is counted, except to those who waited for it. -/
theorem step_consumed : (outbox.step act).tallies.consumed.toNat + (outbox.unclaimed act).length =
    outbox.tallies.consumed.toNat + (outbox.handed act).length := by
  have hinc := saturatingInc_toNat outbox.tallies.consumed
  cases act with
  | rest => simp [unclaimed, handed, step]
  | post intent =>
    unfold unclaimed handed step Tallies.post
    by_cases haccepts : outbox.intents.accepts = true <;> simp [haccepts]
  | take =>
    unfold unclaimed handed step IntentQueue.tryPop
    cases hqueue : outbox.intents.queue with
    | nil => simp
    | cons intent rest =>
      by_cases hmax : outbox.tallies.consumed = u64Max
      · rw [if_pos hmax] at hinc
        simp [hmax] at hinc ⊢
        omega
      · rw [if_neg hmax] at hinc
        simp [hmax] at hinc ⊢
        omega
  | wait =>
    unfold unclaimed handed step IntentQueue.tryPop
    cases hqueue : outbox.intents.queue <;> simp

/-- Every intent that finds no room is counted as dropped, as far as the count goes. -/
theorem step_dropped : (outbox.step act).tallies.dropped.toNat =
    min (outbox.tallies.dropped.toNat + (outbox.dropped act).length) u64Max.toNat := by
  have hbound : outbox.tallies.dropped.toNat ≤ u64Max.toNat := by
    have hlt := outbox.tallies.dropped.toNat_lt
    have hmax : u64Max.toNat = 2 ^ 64 - 1 := rfl
    omega
  have hinc := saturatingInc_toNat outbox.tallies.dropped
  cases act with
  | rest => simpa [dropped, posted, step] using hbound
  | post intent =>
    unfold dropped posted step Tallies.post
    by_cases haccepts : outbox.intents.accepts = true
    · simpa [haccepts] using hbound
    · by_cases hmax : outbox.tallies.dropped = u64Max
      · simp [haccepts, hmax, saturatingInc]
      · have hroom : outbox.tallies.dropped.toNat ≠ u64Max.toNat := fun hsame =>
          hmax (UInt64.toNat_inj.mp hsame)
        rw [if_neg hmax] at hinc
        simp only [haccepts, if_false, Bool.false_eq_true, List.length_singleton]
        omega
  | take | wait =>
    unfold dropped posted step IntentQueue.tryPop
    cases hqueue : outbox.intents.queue <;> simpa using hbound

end Steps

end Outbox

/-! ### The outbox of a coordinator -/

/-- The counters that are kept of intents. -/
def StatField.tallied : StatField → Bool
  | .intentsEmitted | .intentsDropped | .intentsConsumed => true
  | _ => false

def State.tallies (state : State) : Tallies :=
  { emitted := state.stats.count .intentsEmitted, dropped := state.stats.count .intentsDropped
    consumed := state.stats.count .intentsConsumed }

namespace State

variable {state : State}

theorem tallies_set (field : StatField) (value : UInt64) (h : field.tallied = false) :
    tallies { state with stats := state.stats.set field value } = state.tallies := by
  have hother (other : StatField) (hother : other.tallied = true) :
      (state.stats.set field value).count other = state.stats.count other := by
    refine if_neg fun hsame => ?_
    rw [hsame, h] at hother
    cases hother
  simp only [tallies, hother _ (show StatField.intentsEmitted.tallied = true from rfl),
    hother _ (show StatField.intentsDropped.tallied = true from rfl),
    hother _ (show StatField.intentsConsumed.tallied = true from rfl)]

theorem tallies_bump (field : StatField) (h : field.tallied = false) :
    (state.bump field).tallies = state.tallies := tallies_set _ _ h

theorem tallies_bumpAll (fields : List StatField) (h : fields.all fun field => !field.tallied) :
    (state.bumpAll fields).tallies = state.tallies := by
  unfold bumpAll
  induction fields generalizing state with
  | nil => rfl
  | cons field rest ih =>
    simp only [List.all_cons, Bool.and_eq_true, Bool.not_eq_true'] at h
    exact (ih h.2).trans (tallies_bump field h.1)

@[simp] theorem tallies_modifyService (state : State) (service : ServiceName)
    (f : ServiceRuntime → ServiceRuntime) :
    (state.modifyService service f).tallies = state.tallies := by
  unfold modifyService
  split <;> rfl

@[simp] theorem tallies_remember (state : State) (config : FabricConfig) (key : RequestKey)
    (entry : RequestCacheEntry) : (state.remember config key entry).tallies = state.tallies := by
  unfold remember
  split
  · rfl
  · split <;> rfl

theorem tallies_evictFailuresFrom (ceiling : Nat) (order : List EvidenceId) (state : State) :
    (Fabric.evictFailuresFrom ceiling order state).tallies = state.tallies := by
  induction order generalizing state with
  | nil => rfl
  | cons oldest order ih =>
    unfold Fabric.evictFailuresFrom
    split
    · refine (ih _).trans ?_
      split <;> rfl
    · rfl

theorem tallies_retainFailure (config : FabricConfig) (evidence : FailureEvidence)
    (stamp : LogicalTick) (state : State) :
    (Fabric.retainFailure config evidence stamp state).tallies = state.tallies :=
  tallies_evictFailuresFrom _ _ _

end State

theorem tallies_update (move : Move) (grant : Grant) (config : FabricConfig) (before : State)
    (pushed : Bool) (state : State) :
    (move.update grant config before pushed state).tallies = state.tallies.post pushed := by
  have hcounted (state : State) :
      (state.bump (if pushed then .intentsEmitted else .intentsDropped)).tallies =
        state.tallies.post pushed := by
    cases pushed <;> rfl
  unfold Move.update
  dsimp only
  rw [State.tallies_remember, hcounted, State.tallies_bumpAll, State.tallies_bump _ rfl]
  · rfl
  · rw [List.all_eq_true]
    intro field hfield
    rw [List.eq_of_mem_replicate hfield]
    rfl

/-- The refusal counts no intents. -/
def Refusal.Quiet (refused : Refusal) : Prop :=
  refused.counters.all fun field => !field.tallied

/-- A qualified move counts no intents before its commit. -/
def Qualified.Quiet (qualified : Qualified) : Prop :=
  qualified.counters.all fun field => !field.tallied

namespace Fabric

/-- The ingestion counts no intents. -/
def Proposal.Quiet (proposal : Proposal) : Prop :=
  ∀ state, (proposal.update state).tallies = state.tallies

/-- The pending intents of a coordinator with their counts. -/
def outbox (fabric : Fabric) : Outbox :=
  { intents := fabric.intents, tallies := fabric.state.tallies }

section Frames

variable {fabric fabric' : Fabric} {outbox : Outbox}

theorem outbox_congr (hintents : fabric'.intents = fabric.intents)
    (htallies : fabric'.state.tallies = fabric.state.tallies) :
    fabric'.outbox = fabric.outbox := by
  unfold Fabric.outbox
  rw [hintents, htallies]

theorem outbox_with {state : State} (h : state.tallies = fabric.state.tallies) :
    { fabric with state }.outbox = fabric.outbox :=
  congrArg (Outbox.mk _) h

theorem outbox_bump (fabric : Fabric) (field : StatField) (h : field.tallied = false) :
    (fabric.bump field).outbox = fabric.outbox :=
  outbox_congr rfl (State.tallies_bump field h)

@[simp] theorem outbox_recordExplanation (fabric : Fabric) (explanation : Explanation) :
    (fabric.recordExplanation explanation).outbox = fabric.outbox :=
  outbox_congr rfl <| (State.tallies_set _ _ rfl).trans (State.tallies_bump _ rfl)

@[simp] theorem outbox_accept (fabric : Fabric) (decision : RecoveryDecision) :
    (fabric.accept decision).2.outbox = fabric.outbox := outbox_recordExplanation _ _

@[simp] theorem outbox_replayCached (fabric : Fabric) (entry : RequestCacheEntry)
    (service : ServiceName) (key : RequestKey) :
    (fabric.replayCached entry service key).2.outbox = fabric.outbox :=
  (outbox_bump _ _ rfl).trans (outbox_accept _ _)

@[simp] theorem outbox_refusal (fabric : Fabric) (explanation : Explanation) (code : Reason)
    (subject : Bytes) (detail : String) (value : UInt64) :
    (fabric.refusal explanation code subject detail value).2.outbox = fabric.outbox := by
  unfold refusal
  dsimp only
  refine (outbox_recordExplanation _ _).trans ?_
  split
  · exact outbox_congr rfl (State.tallies_remember _ _ _ _)
  · rfl

theorem outbox_refuse (fabric : Fabric) (explanation : Explanation) (service : ServiceName)
    {refused : Refusal} (h : refused.Quiet) :
    (fabric.refuse explanation service refused).2.outbox = fabric.outbox := by
  unfold refuse
  refine (outbox_refusal _ _ _ _ _ _).trans (outbox_congr rfl ?_)
  exact (State.tallies_modifyService _ _ _).trans (State.tallies_bumpAll _ h)

theorem outbox_persist (fabric : Fabric) (records : List Record) :
    (fabric.persist records).2.outbox = fabric.outbox := by
  unfold persist
  split
  · rfl
  · dsimp only
    split
    · rfl
    · exact outbox_bump _ _ rfl

theorem outbox_rotateIfDue (fabric : Fabric) : fabric.rotateIfDue.2.outbox = fabric.outbox := by
  unfold rotateIfDue maybeCompact
  split
  · rfl
  split
  · split
    · rfl
    split
    · rfl
    · dsimp only
      split
      · exact outbox_bump _ _ rfl
      · rfl
  · rfl

/-- A transaction that goes through counts what its update counts. -/
theorem outbox_transact {change : Change} {update : State → State} {progress : Progress}
    (count : Tallies → Tallies) (h : fabric.transact change update = (progress, fabric'))
    (hupdate : ∀ state, (update state).tallies = count state.tallies) :
    (∃ code, code ≠ .ok ∧ progress = .refused code) ∧ fabric'.outbox = fabric.outbox ∨
      (∀ code, progress ≠ .refused code) ∧ fabric'.intents = fabric.intents ∧
        fabric'.state.tallies = count fabric.state.tallies := by
  have hpersist := outbox_persist fabric [change.record]
  rcases hresult : fabric.persist [change.record] with ⟨code, durable⟩
  rw [hresult] at hpersist
  have hrotate := outbox_rotateIfDue { durable with state := update durable.state }
  simp only [transact, hresult] at h
  split at h
  · rename_i hcode
    cases h
    exact Or.inl ⟨⟨code, hcode, rfl⟩, hpersist⟩
  split at h
  all_goals
    cases h
    refine Or.inr ⟨?_, ?_, ?_⟩
    · intro code hprogress
      cases hprogress
    · exact (congrArg Outbox.intents hrotate).trans (congrArg Outbox.intents hpersist)
    · exact (congrArg Outbox.tallies hrotate).trans <| (hupdate durable.state).trans <|
        congrArg count (congrArg Outbox.tallies hpersist)

theorem outbox_transact_quiet {change : Change} {update : State → State} {progress : Progress}
    (h : fabric.transact change update = (progress, fabric'))
    (hupdate : ∀ state, (update state).tallies = state.tallies) :
    fabric'.outbox = fabric.outbox := by
  rcases outbox_transact (fun tallies => tallies) h hupdate with
    ⟨-, hsame⟩ | ⟨-, hintents, htallies⟩
  · exact hsame
  · exact outbox_congr hintents htallies

theorem outbox_ingest (service : ServiceName) (subject : Bytes) {checked : Check Proposal}
    (hfails : checked.Fails Refusal.Quiet) (hyields : checked.Yields Proposal.Quiet) :
    (fabric.ingest service subject checked).2.outbox = fabric.outbox := by
  unfold ingest
  dsimp only
  split
  · rename_i refused
    refine (outbox_recordExplanation _ _).trans (outbox_congr rfl ?_)
    exact State.tallies_bumpAll _ (hfails refused rfl)
  · rename_i proposal
    split
    all_goals
      rename_i htransact
      exact (outbox_recordExplanation _ _).trans
        (outbox_transact_quiet htransact (hyields proposal rfl))

end Frames

/-! ### Checks -/

section Checks

variable {fabric : Fabric} {op : Op} {state : State} {runtime : ServiceRuntime}

theorem quiet_counters (walk : DependencyWalk) :
    walk.counters.all fun field => !field.tallied := by
  unfold DependencyWalk.counters
  rw [List.all_eq_true]
  intro field hfield
  rw [List.eq_of_mem_replicate hfield]
  rfl

theorem quiet_checkAdoption (target : TargetRecord) :
    (fabric.checkAdoption target).Fails Refusal.Quiet := by
  unfold checkAdoption
  dsimp only
  split
  · exact .require rfl fun _ => .require rfl fun _ => .require_last rfl
  · exact .require_last rfl

theorem quiet_checkSlot (evidence : CapabilityEvidence) (slot : Option CapabilitySlot) :
    (checkSlot evidence slot).Fails Refusal.Quiet := by
  cases slot with
  | none => exact .pure _
  | some slot => exact .require rfl fun _ => .require rfl fun _ => .require_last rfl

theorem quiet_checkWatermark (provenance : Provenance) (fingerprint : Digest)
    (texts : WatermarkTexts) (values : Bool) :
    (checkWatermark state provenance fingerprint texts values).Fails Refusal.Quiet := by
  unfold checkWatermark
  dsimp only
  split
  · exact .pure _
  · exact .require rfl fun _ => .require rfl fun _ => .require_last rfl

theorem quiet_checkAuthority (provenance : Provenance) (what : String) (values : Bool) :
    (checkAuthority state provenance what values).Fails Refusal.Quiet :=
  .require rfl fun _ => .require_last rfl

theorem quiet_checkEvidenceId (evidence : FailureEvidence) (fingerprint : Digest) :
    (checkEvidenceId state evidence fingerprint).Fails Refusal.Quiet := by
  unfold checkEvidenceId
  dsimp only
  split
  · exact .pure _
  split
  · exact .pure _
  · exact .require rfl fun _ => .throw rfl

theorem quiet_assignEvidenceId (evidence : FailureEvidence) :
    (assignEvidenceId state evidence).Fails Refusal.Quiet := by
  unfold assignEvidenceId
  split
  · exact .pure _
  · exact .require rfl fun _ => .pure _

theorem quiet_checkFailureEvidence (evidence : FailureEvidence) :
    (fabric.checkFailureEvidence evidence).Fails Refusal.Quiet :=
  .require rfl fun _ => .require rfl fun _ => .demand rfl fun _ _ => .demand rfl fun _ _ =>
  .require rfl fun _ => .bind (quiet_checkAuthority _ _ _) fun _ _ =>
  .bind (quiet_checkWatermark _ _ _ _) fun _ _ => .require rfl fun _ => .require rfl fun _ =>
  .require rfl fun _ => .require rfl fun _ => .require rfl fun _ => .require rfl fun _ =>
  quiet_checkEvidenceId _ _

/-- An ingestion counts no intents, whether it is refused or carried out. -/
theorem quiet_ingestion {checked : Check Proposal} (hop : fabric.ingestion op = some checked) :
    checked.Fails Refusal.Quiet ∧ checked.Yields Proposal.Quiet := by
  cases op with
  | enrollSource source role =>
    cases hop
    refine ⟨.require rfl fun _ => .require rfl fun _ => .require rfl fun _ => .require rfl fun _ =>
      .require rfl fun _ => .demand rfl fun _ _ => .pure _, ?_⟩
    exact .bind fun _ => .bind fun _ => .bind fun _ => .bind fun _ => .bind fun _ =>
      .bind fun _ => .pure fun _ => State.tallies_bump _ rfl
  | registerService descriptor registrar =>
    cases hop
    refine ⟨.require rfl fun _ => .require rfl fun _ => .require rfl fun _ => .require rfl fun _ =>
      .require rfl fun _ => .require rfl fun _ => .demand rfl fun _ _ => .require rfl fun _ =>
      .pure _, ?_⟩
    exact .bind fun _ => .bind fun _ => .bind fun _ => .bind fun _ => .bind fun _ =>
      .bind fun _ => .bind fun _ => .bind fun _ => .pure fun _ => State.tallies_bump _ rfl
  | registerTarget target registrar =>
    cases hop
    refine ⟨.require rfl fun _ => .require rfl fun _ => .require rfl fun _ => .require rfl fun _ =>
      .bind (quiet_checkAdoption target) fun _ _ => .demand rfl fun _ _ => .pure _, ?_⟩
    exact .bind fun _ => .bind fun _ => .bind fun _ => .bind fun _ => .bind fun _ =>
      .bind fun _ => .pure fun _ => State.tallies_bump _ rfl
  | setTopologyGeneration generation reporter =>
    cases hop
    refine ⟨.require rfl fun _ => .require rfl fun _ => .require rfl fun _ => .require rfl fun _ =>
      .demand rfl fun _ _ => .pure _, ?_⟩
    exact .bind fun _ => .bind fun _ => .bind fun _ => .bind fun _ => .bind fun _ =>
      .pure fun _ => rfl
  | setPolicy policy =>
    cases hop
    refine ⟨.require rfl fun _ => .require rfl fun _ => .require rfl fun _ => .require rfl fun _ =>
      .require rfl fun _ => .demand rfl fun _ _ => .pure _, ?_⟩
    exact .bind fun _ => .bind fun _ => .bind fun _ => .bind fun _ => .bind fun _ =>
      .bind fun _ => .pure fun _ => rfl
  | withdrawService service requester =>
    cases hop
    refine ⟨.require rfl fun _ => .require rfl fun _ => .demand rfl fun _ _ => .require rfl fun _ =>
      .demand rfl fun _ _ => .pure _, ?_⟩
    exact .bind fun _ => .bind fun _ => .bind fun _ => .bind fun _ => .bind fun _ => .pure fun _ =>
      (State.tallies_bump _ rfl).trans (State.tallies_modifyService _ _ _)
  | retireTarget target requester =>
    cases hop
    refine ⟨.require rfl fun _ => .require rfl fun _ => .demand rfl fun _ _ =>
      .demand rfl fun _ _ => .pure _, ?_⟩
    exact .bind fun _ => .bind fun _ => .bind fun _ => .bind fun _ => .pure fun _ => rfl
  | ingestCapability evidence =>
    cases hop
    refine ⟨.require rfl fun _ => .require rfl fun _ => .demand rfl fun _ _ => .require rfl fun _ =>
      .require rfl fun _ => .bind (quiet_checkSlot _ _) fun _ _ => .require rfl fun _ =>
      .demand rfl fun _ _ => .pure _, ?_⟩
    exact .bind fun _ => .bind fun _ => .bind fun _ => .bind fun _ => .bind fun _ =>
      .bind fun _ => .bind fun _ => .bind fun _ => .pure fun _ => State.tallies_bump _ rfl
  | ingestFailure evidence =>
    cases hop
    constructor
    · refine .bind (quiet_checkFailureEvidence evidence) fun _ _ => .demand rfl fun _ _ =>
        .bind (quiet_assignEvidenceId evidence) fun _ _ => ?_
      dsimp only
      split <;> exact .pure _
    · refine .bind fun _ => .bind fun _ => .bind fun _ => ?_
      dsimp only
      split
      · exact .pure (State.tallies_retainFailure _ _ _)
      · exact .pure fun _ => (State.tallies_bump _ rfl).trans <|
          (State.tallies_modifyService _ _ _).trans (State.tallies_retainFailure _ _ _ _)
  | ingestDependency observation =>
    cases hop
    refine ⟨.require rfl fun _ => .require rfl fun _ => .demand rfl fun _ _ =>
      .demand rfl fun _ _ =>
      .require rfl fun _ => .require rfl fun _ => .bind (quiet_checkAuthority _ _ _) fun _ _ =>
      .bind (quiet_checkWatermark _ _ _ _) fun _ _ => .require rfl fun _ => .require rfl fun _ =>
      .demand rfl fun _ _ => .pure _, ?_⟩
    refine .bind fun _ => .bind fun _ => .bind fun _ => .bind fun _ => .bind fun _ => .bind fun _ =>
      .bind fun _ => .bind fun _ => .bind fun _ => .bind fun _ => .bind fun _ => .pure fun _ => ?_
    refine (State.tallies_bump _ rfl).trans ?_
    dsimp only
    split
    · exact State.tallies_bump _ rfl
    · rfl
  | _ => cases hop

theorem quiet_checkPlacement (request : PlacementRequest) :
    (fabric.checkPlacement request runtime).Fails Refusal.Quiet :=
  .require rfl fun _ => .require rfl fun _ => .require rfl fun _ => .demand rfl fun _ _ =>
  .require rfl fun _ => .require (quiet_counters _) fun _ => .pure _

theorem quiet_checkEvidence (request : FailoverRequest) :
    (checkEvidence state request runtime).Fails Refusal.Quiet :=
  .require rfl fun _ => .require rfl fun _ => .demand rfl fun _ _ => .require rfl fun _ =>
  .demand rfl fun _ _ => .require rfl fun _ => .require rfl fun _ => .require rfl fun _ =>
  .require rfl fun _ => .require rfl fun _ => .require rfl fun _ => .require rfl fun _ =>
  .require rfl fun _ => .pure _

theorem quiet_checkTrigger (request : FailoverRequest) :
    (checkTrigger state request runtime).Fails Refusal.Quiet := by
  unfold checkTrigger
  split
  · exact .bind (quiet_checkEvidence request) fun _ _ => .pure _
  · exact .require rfl fun _ => .require rfl fun _ => .pure _

theorem quiet_counters_append (walk : DependencyWalk) {fields : List StatField}
    (h : fields.all fun field => !field.tallied) :
    (walk.counters ++ fields).all fun field => !field.tallied := by
  rw [List.all_append, quiet_counters walk, h]
  rfl

theorem quiet_selectFallback (config : FabricConfig) (failed : TargetRef) :
    (selectFallback config state runtime failed).counters.all fun field => !field.tallied := by
  unfold selectFallback
  dsimp only
  split <;> rfl

theorem quiet_checkFailover (request : FailoverRequest) :
    (fabric.checkFailover request runtime).Fails Refusal.Quiet := by
  refine .require rfl fun _ => .require rfl fun _ => .require rfl fun _ =>
    .bind (quiet_checkTrigger request) fun _ _ => .require rfl fun _ =>
    .require (quiet_counters _) fun _ => ?_
  dsimp only
  split
  · exact .throw (quiet_counters_append _ (quiet_selectFallback _ _))
  · exact .pure _

theorem quiet_checkResume (request : FailoverRequest) :
    (fabric.checkResume request runtime).Fails Refusal.Quiet :=
  .require rfl fun _ => .require rfl fun _ => .require rfl fun _ => .demand rfl fun _ _ =>
  .demand rfl fun _ _ => .require rfl fun _ => .require rfl fun _ => .pure _

theorem quiet_checkFailback (request : FailbackRequest) :
    (fabric.checkFailback request runtime).Fails Refusal.Quiet :=
  .require rfl fun _ => .require rfl fun _ => .require rfl fun _ => .require rfl fun _ =>
  .require rfl fun _ => .demand rfl fun _ _ => .require rfl fun _ => .demand rfl fun _ _ =>
  .require rfl fun _ => .require rfl fun _ => .require rfl fun _ => .require rfl fun _ =>
  .require (quiet_counters_append _ rfl) fun _ => .pure _

theorem quiet_moving {service : ServiceName} {check : ServiceRuntime → Check Qualified}
    (hop : fabric.moving op = some (service, check)) (runtime : ServiceRuntime) :
    (check runtime).Fails Refusal.Quiet ∧ (check runtime).Yields Qualified.Quiet := by
  cases op with
  | establishPlacement request =>
    cases hop
    exact ⟨quiet_checkPlacement request, .bind fun _ => .bind fun _ => .bind fun _ => .bind fun _ =>
      .bind fun _ => .bind fun _ => .pure (quiet_counters _)⟩
  | requestFailover request =>
    cases hop
    refine ⟨quiet_checkFailover request, .bind fun _ => .bind fun _ => .bind fun _ =>
      .bind fun _ => .bind fun _ => .bind fun _ => ?_⟩
    dsimp only
    split
    · intro qualified hthrown
      cases hthrown
    · exact .pure (quiet_counters_append _ (quiet_selectFallback _ _))
  | resumeRecovery request =>
    cases hop
    exact ⟨quiet_checkResume request, .bind fun _ => .bind fun _ => .bind fun _ => .bind fun _ =>
      .bind fun _ => .bind fun _ => .bind fun _ => .pure rfl⟩
  | requestFailback request =>
    cases hop
    exact ⟨quiet_checkFailback request, .bind fun _ => .bind fun _ => .bind fun _ => .bind fun _ =>
      .bind fun _ => .bind fun _ => .bind fun _ => .bind fun _ => .bind fun _ => .bind fun _ =>
      .bind fun _ => .bind fun _ => .bind fun _ => .pure (quiet_counters _)⟩
  | _ => cases hop

theorem quiet_checkResolution (resolution : AmbiguityResolution) :
    (fabric.checkResolution resolution runtime).Fails Refusal.Quiet :=
  .require rfl fun _ => .require rfl fun _ => .require rfl fun _ => .demand rfl fun _ _ =>
  .demand rfl fun _ _ => .pure _

theorem quiet_checkReport (report : EffectReport) :
    (fabric.checkReport report runtime).Fails Refusal.Quiet :=
  .require rfl fun _ => .require rfl fun _ => .require rfl fun _ => .require rfl fun _ =>
  .require rfl fun _ => .require rfl fun _ => .require rfl fun _ => .require rfl fun _ =>
  .require rfl fun _ => .demand rfl fun _ _ => .require rfl fun _ => .require_last rfl

theorem quiet_applyEffect (report : EffectReport) (stamp : LogicalTick) :
    (fabric.applyEffect report runtime stamp).Fails Refusal.Quiet := by
  unfold applyEffect
  split
  · exact .pure _
  · exact .pure _
  · exact .pure _
  · exact .require rfl fun _ => .pure _
  · exact .require rfl fun _ => .pure _

theorem quiet_checkEffect (report : EffectReport) :
    (fabric.checkEffect report runtime).Fails Refusal.Quiet :=
  .require rfl fun _ => .demand rfl fun _ _ => .bind (quiet_applyEffect report _) fun _ _ =>
  .require rfl fun _ => .pure _

theorem quiet_checkAcknowledgement (ack : IntentAck) :
    (fabric.checkAcknowledgement ack runtime).Fails Refusal.Quiet :=
  .require rfl fun _ => .require rfl fun _ => .require rfl fun _ => .demand rfl fun _ _ =>
  .require rfl fun _ => .demand_last rfl

theorem quiet_effectCounters (report : EffectReport) (next : ServiceRuntime) :
    (effectCounters report next).all fun field => !field.tallied := by
  unfold effectCounters
  split
  · rfl
  · split <;> rfl

/-- A refused commit counts no intents. -/
theorem quiet_prepare (fabric : Fabric) (move : Move) :
    (prepare fabric move).Fails fun refused =>
      refused.counters.all fun field => !field.tallied := by
  have hcancellation : (checkCancellation fabric move.key).Fails fun refused =>
      refused.counters.all fun field => !field.tallied := by
    intro refused herror
    unfold checkCancellation at herror
    split at herror
    · cases herror
    split at herror <;> cases herror <;> rfl
  have hmint : (mint fabric move).Fails fun refused =>
      refused.counters.all fun field => !field.tallied :=
    .bind (.obtainOr rfl) fun _ => .bind hcancellation fun _ =>
    .bind (.obtainOr rfl) fun _ => .bind (.obtainOr rfl) fun _ =>
    .bind (.obtainOr rfl) fun _ => .bind (.allow rfl) fun _ =>
    .bind (.allow rfl) fun _ => .bind (.allow rfl) fun _ => .pure _
  exact .bind hmint fun _ => .bind (.allow rfl) fun _ => .bind (.allow rfl) fun _ => .pure _

end Checks

/-! ### Decisions -/

end Fabric

/-- What a decision does with intents: an accepted move posts the one it answers with. -/
def RecoveryDecision.act (decision : RecoveryDecision) (moves : Bool) : Outbox.Act :=
  if decision.fresh && moves then
    match decision.intent with
    | some intent => .post intent
    | none => .rest
  else .rest

namespace Fabric

/-- The decision left the outbox as its answer says. -/
def Posts (outbox : Outbox) (moves : Bool) (answer : RecoveryDecision × Fabric) : Prop :=
  answer.2.outbox = outbox.step (answer.1.act moves)

section Posts

variable {fabric fabric' : Fabric} {outbox : Outbox} {service : ServiceName} {key : RequestKey}

theorem Posts.rest {answer : RecoveryDecision × Fabric} {moves : Bool}
    (hfresh : answer.1.fresh = false) (h : answer.2.outbox = outbox) :
    Posts outbox moves answer := by
  unfold Posts RecoveryDecision.act
  rw [hfresh, Bool.false_and, if_neg (by simp)]
  exact h

theorem posts_refusal (h : fabric.outbox = outbox) (moves : Bool) (explanation : Explanation)
    (code : Reason) (subject : Bytes) (detail : String) (value : UInt64) :
    Posts outbox moves (fabric.refusal explanation code subject detail value) :=
  .rest rfl ((outbox_refusal _ _ _ _ _ _).trans h)

theorem posts_refuse (h : fabric.outbox = outbox) (moves : Bool) (explanation : Explanation)
    (service : ServiceName) {refused : Refusal} (hquiet : refused.Quiet) :
    Posts outbox moves (fabric.refuse explanation service refused) :=
  .rest rfl ((outbox_refuse _ _ _ hquiet).trans h)

theorem posts_replayCached (h : fabric.outbox = outbox) (moves : Bool)
    (entry : RequestCacheEntry) (service : ServiceName) (key : RequestKey) :
    Posts outbox moves (fabric.replayCached entry service key) :=
  .rest (by simp [RecoveryDecision.fresh]) ((outbox_replayCached _ _ _ _).trans h)

theorem posts_decided {decide : Explanation → RecoveryDecision × Fabric} {moves : Bool}
    (hbefore : fabric.outbox = outbox)
    (h : ∀ explanation, Posts outbox moves (decide explanation)) :
    Posts outbox moves (fabric.decided service key decide) := by
  unfold decided
  split
  · exact posts_refusal hbefore _ _ _ _ _ _
  split
  · exact posts_replayCached hbefore _ _ _ _
  · exact h _

theorem posts_keyed {decide : Fabric → RecoveryDecision × Fabric} {moves : Bool}
    (h : ∀ actor : Fabric, actor.outbox = fabric.outbox →
      Posts fabric.outbox moves (decide actor)) :
    Posts fabric.outbox moves (fabric.keyed service key decide) := by
  unfold keyed
  split
  · exact posts_replayCached rfl _ _ _ _
  split
  rename_i registered cancels hbegin
  dsimp only
  split
  · exact posts_refusal rfl _ _ _ _ _ _
  · exact h { fabric with cancels } rfl

/-- A commit posts its intent, whatever becomes of the rotation after it. -/
theorem outbox_commitRecovery {move : Move} {result : CommitResult}
    (h : commitRecovery fabric move = (result, fabric')) :
    (result.code ≠ .ok ∧ fabric'.outbox = fabric.outbox) ∨
      result.code = .ok ∧ ∃ intent, result.intent = some intent ∧
        fabric'.outbox = fabric.outbox.step (.post intent) := by
  unfold commitRecovery at h
  split at h
  · rename_i refused hrefused
    cases h
    refine Or.inl ⟨CommitCheck.Explained.prepare fabric move refused hrefused, ?_⟩
    exact outbox_congr rfl (State.tallies_bumpAll _ (quiet_prepare fabric move refused hrefused))
  rename_i grant hgrant
  dsimp only at h
  have hupdate (state : State) : (move.update grant fabric.config fabric.state
      fabric.intents.accepts state).tallies = state.tallies.post fabric.intents.accepts :=
    tallies_update _ _ _ _ _ _
  split at h
  all_goals
    rename_i durable htransact
    rcases outbox_transact (·.post fabric.intents.accepts) htransact hupdate with
      ⟨⟨code, hcode, hprogress⟩, hsame⟩ | ⟨hdone, hintents, htallies⟩
  · cases h
    cases hprogress
    exact Or.inl ⟨hcode, hsame⟩
  · exact absurd rfl (hdone _)
  · cases hprogress
  · cases h
    refine Or.inr ⟨rfl, _, rfl, ?_⟩
    show Outbox.mk (durable.intents.push _) durable.state.tallies = _
    rw [hintents, htallies]
    rfl
  · cases hprogress
  · cases h
    refine Or.inr ⟨rfl, _, rfl, ?_⟩
    show Outbox.mk (durable.intents.push _) durable.state.tallies = _
    rw [hintents, htallies]
    rfl

theorem posts_concludeCommit (h : fabric.outbox = outbox) (explanation : Explanation)
    {qualified : Qualified} (hquiet : qualified.Quiet) {closing : Closing}
    (haccepted : closing.accepted.all fun field => !field.tallied)
    (hrefused : closing.refused.all fun field => !field.tallied) :
    Posts outbox true (fabric.concludeCommit explanation qualified closing) := by
  unfold concludeCommit
  rcases hcommit : commitRecovery { fabric with state := fabric.state.bumpAll qualified.counters }
    qualified.move with ⟨result, durable⟩
  have hcounted :
      { fabric with state := fabric.state.bumpAll qualified.counters }.outbox = outbox :=
    (outbox_with (State.tallies_bumpAll _ hquiet)).trans h
  have hposted := outbox_commitRecovery hcommit
  rw [hcounted] at hposted
  simp only [hcommit]
  rcases hposted with ⟨hcode, hsame⟩ | ⟨hcode, intent, hintent, hposted⟩
  · rw [if_pos hcode]
    split
    · exact .rest rfl ((outbox_refuse _ _ _ (by exact hrefused)).trans hsame)
    · exact posts_refuse hsame _ _ _ (by exact hrefused)
  · rw [if_neg (not_not.mpr hcode)]
    unfold Posts
    have hclosed : ((durable.state.modifyService qualified.move.service
        closing.settle.apply).bumpAll closing.accepted).tallies = durable.state.tallies :=
      (State.tallies_bumpAll _ haccepted).trans (State.tallies_modifyService _ _ _)
    refine (outbox_accept _ _).trans ?_
    refine (outbox_with hclosed).trans (hposted.trans ?_)
    simp [RecoveryDecision.act, RecoveryDecision.fresh, accept, hintent]

theorem posts_decideMove (h : fabric.outbox = outbox) {check : ServiceRuntime → Check Qualified}
    (hquiet : ∀ runtime, (check runtime).Fails Refusal.Quiet ∧
      (check runtime).Yields Qualified.Quiet) {closing : Closing}
    (haccepted : closing.accepted.all fun field => !field.tallied)
    (hrefused : closing.refused.all fun field => !field.tallied) :
    Posts outbox true (fabric.decideMove service key check closing) := by
  refine posts_decided h fun explanation => ?_
  split
  · exact posts_refusal h _ _ _ _ _ _
  rename_i runtime hfind
  obtain ⟨hfails, hyields⟩ := hquiet runtime
  split
  · rename_i refused herror
    exact posts_refuse h _ _ _ (hfails refused herror)
  · rename_i qualified hok
    exact posts_concludeCommit h _ (hyields qualified hok) haccepted hrefused

theorem posts_doRequestFailover (h : fabric.outbox = outbox) (request : FailoverRequest)
    (resume : Bool) : Posts outbox true (fabric.doRequestFailover request resume) := by
  unfold doRequestFailover
  split
  · exact posts_decideMove h (@quiet_moving fabric (.resumeRecovery request) _ _ rfl) rfl rfl
  · exact posts_decideMove h (@quiet_moving fabric (.requestFailover request) _ _ rfl) rfl rfl

theorem tallies_promotedState (service : ServiceName) (record : FailureEvidence)
    (stamp : LogicalTick) (state : State) :
    (promotedState service record stamp state).tallies = state.tallies :=
  (State.tallies_bump _ rfl).trans (State.tallies_modifyService _ _ _)

/-- A denial posts nothing, and neither does the promotion before a failover. -/
theorem posts_doResolveAmbiguity (h : fabric.outbox = outbox) (resolution : AmbiguityResolution) :
    Posts outbox resolution.confirmFailure (fabric.doResolveAmbiguity resolution) := by
  refine posts_decided h fun explanation => ?_
  split
  · exact posts_refusal h _ _ _ _ _ _
  rename_i runtime hfind
  split
  · rename_i refused herror
    exact posts_refuse h _ _ _ (quiet_checkResolution resolution refused herror)
  rename_i evidence stamp hcheck
  split
  · rename_i hconfirm
    have hpersist := outbox_persist fabric [(Change.failureIngested (promoted evidence)).record]
    rw [hconfirm]
    unfold confirmAmbiguity
    dsimp only
    split
    all_goals
      rename_i hresult
      rw [hresult] at hpersist
      have hdurable := hpersist.trans h
    · exact posts_doRequestFailover
        ((outbox_with (tallies_promotedState _ _ _ _)).trans hdurable) _ _
    · exact posts_refusal hdurable _ _ _ _ _ _
  · rename_i hconfirm
    rw [Bool.not_eq_true] at hconfirm
    rw [hconfirm]
    unfold denyAmbiguity
    dsimp only
    split
    all_goals
      rename_i htransact
      have hdurable := (outbox_transact_quiet htransact fun _ => State.tallies_bump _ rfl).trans h
    · exact posts_refusal hdurable _ _ _ _ _ _
    · exact posts_refusal hdurable _ _ _ _ _ _
    · unfold Posts RecoveryDecision.act
      rw [Bool.and_false, if_neg (by simp)]
      exact (outbox_accept _ _).trans hdurable

theorem outbox_doAcknowledgeIntent (fabric : Fabric) (ack : IntentAck) :
    (fabric.doAcknowledgeIntent ack).2.outbox = fabric.outbox := by
  unfold doAcknowledgeIntent
  dsimp only
  split
  · exact outbox_refusal _ _ _ _ _ _
  split
  · exact outbox_refusal _ _ _ _ _ _
  split
  · rename_i refused herror
    exact outbox_refuse _ _ _ (quiet_checkAcknowledgement ack refused herror)
  split
  all_goals
    rename_i htransact
    have hsame := outbox_transact_quiet htransact fun _ => rfl
  · exact (outbox_refusal _ _ _ _ _ _).trans hsame
  · exact (outbox_refusal _ _ _ _ _ _).trans hsame
  · exact (outbox_accept _ _).trans hsame

theorem outbox_doReportEffect (fabric : Fabric) (report : EffectReport) :
    (fabric.doReportEffect report).2.outbox = fabric.outbox := by
  unfold doReportEffect
  dsimp only
  split
  · exact outbox_refusal _ _ _ _ _ _
  split
  · exact outbox_refusal _ _ _ _ _ _
  split
  · rename_i refused herror
    exact outbox_refuse _ _ _ (quiet_checkReport report refused herror)
  split
  · exact (outbox_accept _ _).trans (outbox_bump _ _ rfl)
  split
  · rename_i refused herror
    exact outbox_refuse _ _ _ (quiet_checkEffect report refused herror)
  rename_i next outcome stamp hcheck
  unfold recordEffect
  dsimp only
  split
  all_goals
    rename_i htransact
    have hsame := outbox_transact_quiet htransact fun _ =>
      State.tallies_bumpAll _ (quiet_effectCounters report next)
  · exact (outbox_refuse _ _ _ (by exact rfl)).trans hsame
  · exact (outbox_refuse _ _ _ (by exact rfl)).trans hsame
  · exact (outbox_accept _ _).trans hsame

theorem outbox_cancel (fabric : Fabric) (key : RequestKey) :
    (fabric.cancel key).2.outbox = fabric.outbox := by
  unfold cancel
  dsimp only
  refine (outbox_recordExplanation _ _).trans ?_
  split
  · exact outbox_bump _ _ rfl
  · split
    · exact outbox_bump _ _ rfl
    · rfl

end Posts

/-! ### Calls -/

/-- What a call did with intents. -/
def Event.act : Event → Outbox.Act
  | .call .takeIntent _ => .take
  | .call .waitForIntent _ => .wait
  | .call op (.decided decision) => decision.act op.moves
  | _ => .rest

section Calls

variable {fabric : Fabric} {op : Op}

/-- A call of an open coordinator is a step of its outbox. -/
theorem outbox_call (hopened : fabric.opened = true) (hclose : op ≠ .closeFabric) :
    (fabric.call op).2.outbox = fabric.outbox.step (Event.call op (fabric.call op).1).act := by
  have hingest {checked : Check Proposal} (hop : fabric.entered.ingestion op = some checked)
      {service : ServiceName} {subject : Bytes}
      (hcall : fabric.call op = replyExplained (fabric.entered.ingest service subject checked)) :
      (fabric.call op).2.outbox = fabric.outbox := by
    obtain ⟨hfails, hyields⟩ := quiet_ingestion hop
    rw [hcall]
    exact outbox_ingest service subject hfails hyields
  cases op with
  | openFabric =>
    have hcall : (fabric.call .openFabric).2 = fabric.entered := by
      have hopened' : fabric.entered.opened = true := hopened
      simp [call, dispatch, replyCode, «open», hopened']
    rw [hcall]
    rfl
  | closeFabric => exact absurd rfl hclose
  | enrollSource | registerService | registerTarget | setTopologyGeneration | setPolicy
  | withdrawService | retireTarget | ingestCapability | ingestFailure | ingestDependency =>
    exact hingest rfl rfl
  | establishPlacement request =>
    exact posts_keyed fun actor hactor =>
      posts_decideMove hactor (@quiet_moving actor (.establishPlacement request) _ _ rfl) rfl rfl
  | requestFailover request =>
    exact posts_keyed fun actor hactor => posts_doRequestFailover hactor request false
  | resumeRecovery request =>
    exact posts_keyed fun actor hactor => posts_doRequestFailover hactor request true
  | resolveAmbiguity resolution =>
    exact posts_keyed fun actor hactor => posts_doResolveAmbiguity hactor resolution
  | requestFailback request =>
    exact posts_keyed fun actor hactor =>
      posts_decideMove hactor (@quiet_moving actor (.requestFailback request) _ _ rfl) rfl rfl
  | acknowledgeIntent ack =>
    refine (outbox_doAcknowledgeIntent fabric.entered ack).trans ?_
    show fabric.outbox = fabric.outbox.step (RecoveryDecision.act _ false)
    simp [RecoveryDecision.act, Outbox.step]
  | reportEffect report =>
    refine (outbox_doReportEffect fabric.entered report).trans ?_
    show fabric.outbox = fabric.outbox.step (RecoveryDecision.act _ false)
    simp [RecoveryDecision.act, Outbox.step]
  | cancel key => exact outbox_cancel fabric.entered key
  | takeIntent =>
    show fabric.entered.takeIntent.2.outbox = _
    unfold takeIntent
    show _ = fabric.entered.outbox.step .take
    unfold Outbox.step
    dsimp only [outbox]
    cases htry : fabric.entered.intents.tryPop <;> rfl
  | waitForIntent =>
    show fabric.entered.waitForIntent.2.outbox = _
    unfold waitForIntent
    show _ = fabric.entered.outbox.step .wait
    unfold Outbox.step
    dsimp only [outbox]
    cases htry : fabric.entered.intents.tryPop <;> rfl

/-- What a call hands out is what its step does. -/
theorem handed_call (fabric : Fabric) (op : Op) : (fabric.call op).1.handed =
    fabric.outbox.handed (Event.call op (fabric.call op).1).act := by
  have hdecided (decision : RecoveryDecision) :
      fabric.outbox.handed (decision.act op.moves) = [] := by
    unfold RecoveryDecision.act
    split
    · split <;> rfl
    · rfl
  cases op with
  | establishPlacement | requestFailover | resumeRecovery | resolveAmbiguity | requestFailback
  | acknowledgeIntent | reportEffect => exact (hdecided _).symm
  | takeIntent =>
    rw [(call_takeIntent fabric).1]
    rfl
  | waitForIntent =>
    rw [(call_takeIntent fabric).2]
    rfl
  | _ => rfl

end Calls

end Fabric

end OffloadFabric
