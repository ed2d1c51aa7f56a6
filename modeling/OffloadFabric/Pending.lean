import OffloadFabric.Accounts
import OffloadFabric.Ceilings
import OffloadFabric.Shadow
import OffloadFabric.Suspension

/-!
The evidence that a pending ambiguity names. A service that is held up waits for a resolution
that names its evidence, and the evidence is retained among that of all services: an eviction,
or new evidence under the same id, takes it away without a look at who waits for it. In a run in
which neither happens the evidence is there, after crashes and restarts too.
-/
namespace OffloadFabric

open Fabric (Op Moment)

/-- The service, if any, that ambiguous evidence was accepted for under an id. -/
abbrev Owner := EvidenceId → Option ServiceName

/-- The evidence goes with the owner of the id it is retained under. -/
structure Owner.Admits (owner : Owner) (key : EvidenceId) (evidence : FailureEvidence) : Prop where
  id : evidence.id = key
  claims : evidence.ambiguity ≠ .unambiguous → owner key = some evidence.service
  service : ∀ service, owner key = some service → evidence.service = service

/-- All evidence goes with its owner, and every pending ambiguity names some of it. -/
structure State.Resolvable (owner : Owner) (state : State) : Prop where
  admitted : ∀ key evidence, state.failures.find? key = some evidence → owner.Admits key evidence
  named : ∀ service runtime, state.services.find? service = some runtime →
    runtime.ambiguityPending = true → owner runtime.pendingAmbiguity = some service ∧
      (state.failures.find? runtime.pendingAmbiguity).isSome

/-- Whatever the memory retains would be read back. -/
def State.Covers (memory read : State) : Prop :=
  ∀ key, (memory.failures.find? key).isSome → (read.failures.find? key).isSome

/-- Evidence that the call accepts takes nothing from a pending ambiguity: its id belongs to no
other service, and the eviction that makes room for it does not come to evidence that a service
waits for, unless the new evidence is what the service waits for from now on. -/
structure Fabric.LeavesPending (owner : Owner) (fabric : Fabric) (op : Op) : Prop where
  owned : ∀ evidence proposal id, op = .ingestFailure evidence →
    fabric.checkIngestFailure evidence = .ok proposal →
    assignEvidenceId fabric.state evidence = .ok id →
    (evidence.ambiguity ≠ .unambiguous → owner id = some evidence.service) ∧
      ∀ service, owner id = some service → evidence.service = service
  young : ∀ evidence proposal id service runtime, op = .ingestFailure evidence →
    fabric.checkIngestFailure evidence = .ok proposal →
    assignEvidenceId fabric.state evidence = .ok id →
    fabric.state.services.find? service = some runtime → runtime.ambiguityPending = true →
    runtime.pendingAmbiguity ≠ id →
    (evidence.service = service → evidence.ambiguity = .unambiguous) →
    fabric.state.failures.asYoungAs fabric.state.failureOrder runtime.pendingAmbiguity <
      fabric.config.maxEvidenceRecords

section Steps

variable {owner : Owner} {config : FabricConfig} {fabric caller actor : Fabric} {op op' : Op}
  {commit : Commit} {state state' read : State} {change : Change} {service : ServiceName}
  {found next : ServiceRuntime}

theorem State.Resolvable.keeps (h : state.Resolvable owner)
    (hupkeep : State.Upkeep config state state') : state'.Resolvable owner := by
  have hfailures : state'.failures = state.failures := hupkeep.keeps.filed.1
  constructor
  · rw [hfailures]
    exact h.admitted
  · intro service runtime hfind hpending
    rw [hfailures]
    rcases hupkeep.runtime service with hsame | ⟨earlier, remark, hearlier, hadmitted, hnext⟩
    · exact h.named service runtime (hsame ▸ hfind) hpending
    · obtain rfl := Option.some.inj (hnext.symm.trans hfind)
      cases remark with
      | suspension id =>
        obtain ⟨_, key, evidence, -, -, hkey, rfl, rfl, hambiguous⟩ := hadmitted
        have hadmits := h.admitted key evidence hkey
        show owner evidence.id = _ ∧ (state.failures.find? evidence.id).isSome
        rw [hadmits.id]
        exact ⟨hadmits.claims hambiguous, by simp [hkey]⟩
      | nothing | reason | returned => exact h.named service earlier hearlier hpending

/-- What a call turns a runtime into has no other ambiguity pending than it had. -/
theorem Fabric.Turns.pending (h : fabric.Turns service op found next)
    (hpending : next.ambiguityPending = true) :
    found.ambiguityPending = true ∧ next.pendingAmbiguity = found.pendingAmbiguity := by
  cases h with
  | moved =>
    rw [Move.ambiguityPending_nextRuntime] at hpending
    cases hpending
  | denied => cases hpending
  | acknowledged =>
    unfold Fabric.acknowledgedRuntime at hpending ⊢
    dsimp only at hpending ⊢
    split at hpending <;> rename_i haccepted
    · rw [if_pos haccepted]
      exact ⟨hpending, rfl⟩
    · rw [if_neg haccepted]
      exact ⟨hpending, rfl⟩
  | reported _ _ _ hcheck =>
    obtain ⟨-, -, happly⟩ := Fabric.checkEffect_ok hcheck
    cases Fabric.applyEffect_ok happly <;> exact ⟨hpending, rfl⟩

/-- How failure evidence is committed. -/
theorem Fabric.Caused.accepts {evidence : FailureEvidence}
    (h : fabric.Caused (.ingestFailure evidence) commit) : ∃ proposal id stamp,
    fabric.checkIngestFailure evidence = .ok proposal ∧
      assignEvidenceId fabric.state evidence = .ok id ∧
      commit.change = .failureIngested (retainedEvidence evidence id stamp) ∧
      commit.after = (if evidence.ambiguity = .unambiguous then
          retainFailure fabric.config (retainedEvidence evidence id stamp) stamp commit.before
        else ((retainFailure fabric.config (retainedEvidence evidence id stamp) stamp
          commit.before).modifyService evidence.service
            fun runtime => { runtime.suspend id with lastChange := stamp }).bump
            .ambiguityPending) := by
  generalize hop : Op.ingestFailure evidence = op at h
  cases h with
  | ingested hingestion hok hwrites =>
    subst hop
    obtain rfl := Option.some.inj hingestion
    obtain ⟨-, stamp, id, -, hassign, hchange, hupdate⟩ := checkIngestFailure_ok hok
    refine ⟨_, id, stamp, hok, hassign, hwrites.change.trans hchange, ?_⟩
    rw [hwrites.after, hupdate]
    split <;> rfl
  | moved hmoving =>
    subst hop
    cases hmoving
  | denied | confirmed | acknowledged | reported => exact Op.noConfusion hop

/-- Nothing but the acceptance of evidence lets any go. -/
theorem Fabric.Caused.retains (h : fabric.Caused op commit)
    (hop : ∀ evidence, op ≠ .ingestFailure evidence) : commit.before.Covers commit.after := by
  have hsame (hfailures : commit.after.failures = commit.before.failures) :
      commit.before.Covers commit.after := fun key hkey => hfailures ▸ hkey
  cases h with
  | ingested hingestion hok hwrites =>
    have hingested := ingested_of_ok hingestion hok
    have hafter := hwrites.after
    generalize Fabric.Proposal.update _ = update at hingested hafter
    generalize Fabric.Proposal.change _ = change at hingested
    refine hsame ?_
    rw [hafter]
    cases hingested with
    | failure => exact absurd rfl (hop _)
    | suspicion => exact absurd rfl (hop _)
    | withdrawn => exact State.failures_modifyService _ _ _
    | dependency _ hupdate =>
      obtain ⟨stats, hafter⟩ := hupdate commit.before
      rw [hafter]
      rfl
    | _ => rfl
  | moved _ _ _ hmoves =>
    cases hmoves with
    | intro =>
      refine hsame ?_
      simp only [Move.update, State.failures_remember, State.failures_bump,
        State.failures_bumpAll]
  | denied _ _ _ hwrites =>
    refine hsame ?_
    rw [hwrites.after]
    rfl
  | confirmed _ _ _ hwrites =>
    intro key hkey
    rw [hwrites.after, promotedState, State.failures_bump, State.failures_modifyService]
    exact OrderedMap.isSome_find?_insert.mpr (.inr hkey)
  | acknowledged _ _ hwrites =>
    refine hsame ?_
    rw [hwrites.after]
    rfl
  | reported _ _ _ _ hwrites =>
    refine hsame ?_
    rw [hwrites.after]
    exact State.failures_bumpAll _ _

/-- Whatever a call files goes with its owner. -/
theorem Fabric.Caused.admits {record : FailureEvidence} (h : fabric.Caused op commit)
    (hresolvable : fabric.state.Resolvable owner) (hleaves : fabric.LeavesPending owner op)
    (hchange : commit.change = .failureIngested record) : owner.Admits record.id record := by
  by_cases hop : ∃ evidence, op = .ingestFailure evidence
  · obtain ⟨evidence, rfl⟩ := hop
    obtain ⟨proposal, id, stamp, hok, hassign, hfiled, -⟩ := h.accepts
    obtain rfl := Change.failureIngested.inj (hchange.symm.trans hfiled)
    obtain ⟨hclaims, hservice⟩ := hleaves.owned evidence proposal id rfl hok hassign
    exact ⟨rfl, hclaims, hservice⟩
  · cases h with
    | ingested hingestion hok hwrites =>
      have hingested := ingested_of_ok hingestion hok
      rw [hwrites.change] at hchange
      rw [hchange] at hingested
      generalize Fabric.Proposal.update _ = update at hingested
      cases hingested with
      | failure => exact absurd ⟨_, rfl⟩ hop
      | suspicion => exact absurd ⟨_, rfl⟩ hop
    | moved _ _ _ hmoves =>
      cases hmoves with
      | intro => cases hchange
    | confirmed _ hcheck _ hwrites =>
      rw [hwrites.change] at hchange
      obtain rfl := Change.failureIngested.inj hchange
      obtain ⟨-, -, -, hfind, -⟩ := Fabric.checkResolution_ok hcheck
      have hadmits := hresolvable.admitted _ _ hfind
      refine ⟨rfl, fun hambiguous => absurd rfl hambiguous, fun service howner => ?_⟩
      exact hadmits.service service (hadmits.id ▸ howner)
    | denied _ _ _ hwrites | acknowledged _ _ hwrites | reported _ _ _ _ hwrites =>
      rw [hwrites.change] at hchange
      cases hchange

/-- Evidence that is accepted leaves the evidence of every pending ambiguity in place. -/
theorem Fabric.named_of_accepts {evidence : FailureEvidence}
    (hcaused : fabric.Caused (.ingestFailure evidence) commit)
    (hresolvable : fabric.state.Resolvable owner)
    (hleaves : fabric.LeavesPending owner (.ingestFailure evidence))
    (hexact : fabric.Exact (.ingestFailure evidence) commit) (service : ServiceName)
    (runtime : ServiceRuntime) (hfind : commit.after.services.find? service = some runtime)
    (hpending : runtime.ambiguityPending = true) :
    owner runtime.pendingAmbiguity = some service ∧
      (commit.after.failures.find? runtime.pendingAmbiguity).isSome := by
  obtain ⟨proposal, id, stamp, hok, hassign, -, hafter⟩ := hcaused.accepts
  obtain ⟨stats, hbefore⟩ := hexact _ rfl
  obtain ⟨hclaims, -⟩ := hleaves.owned evidence proposal id rfl hok hassign
  -- What is retained: the new evidence, and whatever is young enough.
  have hledger := Fabric.ledger_retainFailure fabric.config (retainedEvidence evidence id stamp)
    stamp commit.before
  rw [Ledger.ext_iff, hbefore] at hledger
  have hretained (key : EvidenceId) (hkey : key = id ∨
      fabric.state.failures.asYoungAs fabric.state.failureOrder key <
          fabric.config.maxEvidenceRecords ∧ (fabric.state.failures.find? key).isSome) :
      (commit.after.failures.find? key).isSome := by
    have hfailures : commit.after.failures = (fabric.state.failures.evictOldest
        fabric.config.maxEvidenceRecords fabric.state.failureOrder).1.insert id
          (retainedEvidence evidence id stamp) := by
      rw [hafter, hbefore]
      split
      · exact hledger.1
      · rw [State.failures_bump, State.failures_modifyService]
        exact hledger.1
    rw [hfailures, OrderedMap.isSome_find?_insert]
    rcases hkey with heq | ⟨hyoung, hsome⟩
    · exact .inl heq
    · rw [OrderedMap.find?_evictOldest_of_young hyoung]
      exact .inr hsome
  have hkept {runtime : ServiceRuntime}
      (hfind : fabric.state.services.find? service = some runtime)
      (hpending : runtime.ambiguityPending = true)
      (hother : evidence.service = service → evidence.ambiguity = .unambiguous) :
      owner runtime.pendingAmbiguity = some service ∧
        (commit.after.failures.find? runtime.pendingAmbiguity).isSome := by
    obtain ⟨howner, hsome⟩ := hresolvable.named service runtime hfind hpending
    refine ⟨howner, hretained _ ?_⟩
    by_cases heq : runtime.pendingAmbiguity = id
    · exact .inl heq
    · exact .inr ⟨hleaves.young evidence proposal id service runtime rfl hok hassign hfind hpending
        heq hother, hsome⟩
  by_cases hambiguity : evidence.ambiguity = .unambiguous
  · rw [hafter, hbefore, if_pos hambiguity, State.services_retainFailure] at hfind
    exact hkept hfind hpending fun _ => hambiguity
  · rw [hafter, hbefore, if_neg hambiguity, State.services_bump, State.find?_modifyService,
      State.services_retainFailure] at hfind
    split at hfind
    · rename_i heq
      obtain ⟨before, -, rfl⟩ := Option.map_eq_some_iff.mp hfind
      rw [heq]
      exact ⟨hclaims hambiguity, hretained id (.inl rfl)⟩
    · rename_i hne
      exact hkept hfind hpending fun heq => absurd heq.symm hne

/-- What a commit of the call makes of a memory in which pending ambiguities can be resolved. -/
theorem Fabric.Caused.resolvable (hcaused : fabric.Caused op commit) (hnamed : fabric.state.Named)
    (hresolvable : fabric.state.Resolvable owner) (hleaves : fabric.LeavesPending owner op)
    (hexact : fabric.Exact op commit) (hbefore : commit.before.Resolvable owner) :
    commit.after.Resolvable owner := by
  constructor
  · intro key evidence hfind
    rcases hcaused.takesOver.failures key evidence hfind with hearlier | ⟨hchange, rfl⟩
    · exact hbefore.admitted key evidence hearlier
    · exact hcaused.admits hresolvable hleaves hchange
  · intro service runtime hfind hpending
    by_cases hop : ∃ evidence, op = .ingestFailure evidence
    · obtain ⟨evidence, rfl⟩ := hop
      exact Fabric.named_of_accepts hcaused hresolvable hleaves hexact service runtime hfind
        hpending
    have hretains := hcaused.retains fun evidence heq => hop ⟨evidence, heq⟩
    have hearlier {earlier : ServiceRuntime}
        (hstate : commit.before.services.find? service = some earlier)
        (hpending : earlier.ambiguityPending = true) :
        owner earlier.pendingAmbiguity = some service ∧
          (commit.after.failures.find? earlier.pendingAmbiguity).isSome := by
      obtain ⟨howner, hsome⟩ := hbefore.named service earlier hstate hpending
      exact ⟨howner, hretains _ hsome⟩
    have hfollows := hcaused.follows hnamed service
    rw [hfind] at hfollows
    generalize hsame : commit.before.services.find? service = before at hfollows
    generalize hafter : some runtime = after at hfollows
    cases hfollows with
    | same => exact hearlier (hsame.trans hafter.symm) hpending
    | registered =>
      obtain rfl := Option.some.inj hafter
      cases hpending
    | turned hfound hturns =>
      obtain rfl := Option.some.inj hafter
      obtain ⟨hpending, heq⟩ := hturns.pending hpending
      obtain ⟨howner, hsome⟩ := hresolvable.named service _ hfound hpending
      rw [heq]
      refine ⟨howner, hretains _ ?_⟩
      rw [hcaused.before_keeps.filed.1]
      exact hsome
    | altered hbefore halters =>
      obtain rfl := Option.some.inj hafter
      cases halters with
      | withdrawn =>
        have hkept := hearlier (hsame.trans hbefore)
        exact hkept hpending
      | suspected => exact absurd ⟨_, rfl⟩ hop
      | confirmed => cases hpending

theorem isSome_failures_apply (state : State) (change : Change) :
    state.Covers (Change.apply state change) := by
  intro key hkey
  cases change with
  | failureIngested evidence => exact OrderedMap.isSome_find?_insert.mpr (.inr hkey)
  | serviceWithdrawn service =>
    simp only [Change.apply]
    split <;> exact hkey
  | _ => exact hkey

/-- What the record of a commit makes of what would be read back. -/
theorem Fabric.Caused.replays_resolvable (hcaused : fabric.Caused op commit)
    (hnamed : fabric.state.Named) (hresolvable : fabric.state.Resolvable owner)
    (hleaves : fabric.LeavesPending owner op) (hread : read.Resolvable owner)
    (hcovers : commit.before.Covers read) :
    (Change.apply read commit.change).Resolvable owner ∧
      commit.after.Covers (Change.apply read commit.change) := by
  have hkept := isSome_failures_apply read commit.change
  refine ⟨⟨fun key evidence hfind => ?_, fun service runtime hfind hpending => ?_⟩, ?_⟩
  · rcases find?_failures_apply hfind with hearlier | ⟨hchange, rfl⟩
    · exact hread.admitted key evidence hearlier
    · exact hcaused.admits hresolvable hleaves hchange
  · have hreplays := hcaused.replays hnamed read service
    rw [hfind] at hreplays
    generalize hsame : read.services.find? service = before at hreplays
    generalize hafter : some runtime = after at hreplays
    have hearlier {earlier : ServiceRuntime}
        (hstate : read.services.find? service = some earlier)
        (hpending : earlier.ambiguityPending = true) :
        owner earlier.pendingAmbiguity = some service ∧
          ((Change.apply read commit.change).failures.find? earlier.pendingAmbiguity).isSome := by
      obtain ⟨howner, hsome⟩ := hread.named service earlier hstate hpending
      exact ⟨howner, hkept _ hsome⟩
    cases hreplays with
    | same => exact hearlier (hsame.trans hafter.symm) hpending
    | registered =>
      obtain rfl := Option.some.inj hafter
      cases hpending
    | withdrawn _ hbefore =>
      obtain rfl := Option.some.inj hafter
      have hkept := hearlier (hsame.trans hbefore)
      exact hkept hpending
    | turned hfound hturns =>
      obtain rfl := Option.some.inj hafter
      obtain ⟨hpending, heq⟩ := hturns.pending hpending
      obtain ⟨howner, hsome⟩ := hresolvable.named service _ hfound hpending
      rw [heq]
      refine ⟨howner, hkept _ (hcovers _ ?_)⟩
      rw [hcaused.before_keeps.filed.1]
      exact hsome
  · intro key hkey
    obtain ⟨evidence, hfind⟩ := Option.isSome_iff_exists.mp hkey
    rcases hcaused.takesOver.failures key evidence hfind with hearlier | ⟨hchange, rfl⟩
    · exact hkept key (hcovers key (hearlier ▸ rfl))
    · rw [hchange]
      exact OrderedMap.isSome_find?_insert.mpr (.inl rfl)

/-- Only the call itself can be new evidence. -/
theorem Fabric.LeavesPending.acting (h : caller.LeavesPending owner op)
    (hacts : caller.Acts op actor op') : actor.LeavesPending owner op' := by
  cases hacts with
  | direct => exact h
  | confirmed =>
    constructor
    · intro evidence proposal id hop
      cases hop
    · intro evidence proposal id service runtime hop
      cases hop

theorem resolvable_blank (owner : Owner) (hfailures : state.failures = .empty)
    (hservices : state.services = .empty) : state.Resolvable owner := by
  constructor
  · intro key evidence hfind
    rw [hfailures] at hfind
    cases hfind
  · intro service runtime hfind
    rw [hservices] at hfind
    cases hfind

/-- A restart keeps what is pending, and all evidence. -/
theorem State.Resolvable.restart (h : state.Resolvable owner) :
    (restartedState state).Resolvable owner := by
  refine ⟨h.admitted, fun service runtime hfind hpending => ?_⟩
  simp only [restartedState, OrderedMap.find?_mapValues] at hfind
  obtain ⟨before, hbefore, rfl⟩ := Option.map_eq_some_iff.mp hfind
  have hsame : (downgradedRuntime before).ambiguityPending = before.ambiguityPending ∧
      (downgradedRuntime before).pendingAmbiguity = before.pendingAmbiguity := by
    unfold downgradedRuntime
    dsimp only
    split
    · exact ⟨rfl, rfl⟩
    split <;> exact ⟨rfl, rfl⟩
  rw [hsame.1] at hpending
  rw [hsame.2]
  exact h.named service before hbefore hpending

theorem coupling_resolvable (config : FabricConfig) (owner : Owner) :
    Coupling config (fun caller op => caller.LeavesPending owner op) (State.Resolvable owner)
      State.Covers where
  blank := resolvable_blank owner rfl rfl
  initial := resolvable_blank owner rfl rfl
  refl _ _ hkey := hkey
  keeps hresolvable hupkeep := by
    refine ⟨hresolvable.keeps hupkeep, fun read hcovers key hkey => hcovers key ?_⟩
    rwa [← hupkeep.keeps.filed.1]
  commit hleaves _ hacts hsound hresolvable hcaused hexact :=
    have hleaves' := hleaves.acting hacts
    { memory := fun hbefore =>
        hcaused.resolvable (.of_sound hsound) hresolvable hleaves' hexact hbefore
      shadow := fun _ _ hread hcovers =>
        hcaused.replays_resolvable (.of_sound hsound) hresolvable hleaves' hread hcovers }
  snapshot hresolvable := ⟨⟨hresolvable.admitted, hresolvable.named⟩, fun _ hkey => hkey⟩
  restart hresolvable :=
    ⟨hresolvable.restart, ⟨hresolvable.admitted, hresolvable.named⟩, fun _ hkey => hkey⟩

end Steps

/-! ### What a resolution is refused for -/

namespace Fabric

section Resolutions

variable {fabric : Fabric} {state : State} {runtime : ServiceRuntime}

/-- Evidence that is retained is not missing to the failover that cites it. -/
theorem incidental_checkEvidence {request : FailoverRequest} {evidence : FailureEvidence}
    (hnamed : request.evidence.isNil = false)
    (hretained : state.failures.find? request.evidence = some evidence) :
    (checkEvidence state request runtime).Fails
      fun refused => refused.code.isIncidental = true := by
  refine .require rfl fun _ => .require_else (fun hnil => ?_) fun _ =>
    .demand_else (fun hnone => ?_) fun _ _ => .require rfl fun _ => .demand rfl fun _ _ =>
    .require rfl fun _ => .require rfl fun _ => .require rfl fun _ => .require rfl fun _ =>
    .require rfl fun _ => .require rfl fun _ => .require rfl fun _ => .require rfl fun _ =>
    .pure _
  · rw [hnamed] at hnil
    exact absurd nofun hnil
  · rw [hretained] at hnone
    cases hnone

theorem incidental_checkFailover {request : FailoverRequest} {evidence : FailureEvidence}
    (hnamed : request.evidence.isNil = false)
    (hretained : fabric.state.failures.find? request.evidence = some evidence) :
    (fabric.checkFailover request runtime).Fails
      fun refused => refused.code.isIncidental = true := by
  refine .require rfl fun _ => .require rfl fun _ => .require rfl fun _ => .bind ?_ fun _ _ =>
    .require rfl fun _ =>
    .require_else (incidental_qualifyDependencies _ _) fun _ => ?_
  · unfold checkTrigger
    split
    · exact .bind (incidental_checkEvidence hnamed hretained) fun _ _ => .pure _
    · exact .require rfl fun _ => .require rfl fun _ => .pure _
  · dsimp only
    split
    · rename_i hchosen
      exact .throw (isIncidental_selectFallback hchosen)
    · exact .pure _

theorem incidental_concludeCommit {closing : Closing} (hcloses : closing.outcome ≠ .evidenceMissing)
    (explanation : Explanation) (qualified : Qualified) :
    (fabric.concludeCommit explanation qualified closing).1.outcome ≠ .evidenceMissing := by
  unfold concludeCommit
  rcases hcommit : commitRecovery { fabric with state := fabric.state.bumpAll qualified.counters }
    qualified.move with ⟨result, durable⟩
  simp only [hcommit]
  split
  · rename_i hcode
    have hincidental := isIncidental_of_commitRecovery hcommit hcode
    split <;> exact Reason.ne_evidenceMissing_of_isIncidental hincidental
  · exact hcloses

/-- A failover that cites retained evidence, under a key that is not decided yet. -/
theorem outcome_doRequestFailover {request : FailoverRequest} {evidence : FailureEvidence}
    (hnew : fabric.state.cached request.key = none) (hnamed : request.evidence.isNil = false)
    (hretained : fabric.state.failures.find? request.evidence = some evidence) :
    (fabric.doRequestFailover request false).1.outcome ≠ .evidenceMissing := by
  unfold doRequestFailover decideMove decided
  rw [if_neg Bool.false_ne_true, hnew]
  split
  · intro hmissing
    cases hmissing
  dsimp only
  split
  · intro hmissing
    cases hmissing
  split
  · rename_i refused hrefused
    exact Reason.ne_evidenceMissing_of_isIncidental
      (incidental_checkFailover hnamed hretained refused hrefused)
  · exact incidental_concludeCommit (by decide) _ _

theorem failures_promotedState (service : ServiceName) (record : FailureEvidence)
    (stamp : LogicalTick) (state : State) : (promotedState service record stamp state).failures =
      state.failures.insert record.id record := by
  rw [promotedState, State.failures_bump, State.failures_modifyService]

/-- The promoted evidence is the one that the failover cites. -/
theorem outcome_confirmAmbiguity {resolution : AmbiguityResolution} {evidence : FailureEvidence}
    (hnew : fabric.state.cached resolution.key = none)
    (hnamed : resolution.evidence.isNil = false) (hid : evidence.id = resolution.evidence)
    (explanation : Explanation) (stamp : LogicalTick) :
    (fabric.confirmAmbiguity explanation resolution evidence stamp).1.outcome ≠
      .evidenceMissing := by
  have hcache := requestCache_persist fabric [(Change.failureIngested (promoted evidence)).record]
  have hincidental :=
    incidental_persist fabric [(Change.failureIngested (promoted evidence)).record]
  unfold confirmAmbiguity
  dsimp only
  split
  · rename_i durable hresult
    rw [hresult] at hcache
    refine @outcome_doRequestFailover _ _ (promoted evidence) ?_ hnamed ?_
    · unfold State.cached at hnew ⊢
      rw [requestCache_promotedState, hcache]
      exact hnew
    · rw [failures_promotedState]
      show OrderedMap.find? _ resolution.evidence = _
      rw [← hid]
      exact OrderedMap.find?_insert_self _ _ _
  · rename_i hcode hresult
    rw [hresult] at hincidental
    exact Reason.ne_evidenceMissing_of_isIncidental (hincidental hcode)

theorem outcome_denyAmbiguity (explanation : Explanation) (resolution : AmbiguityResolution)
    (runtime : ServiceRuntime) (stamp : LogicalTick) :
    (fabric.denyAmbiguity explanation resolution runtime stamp).1.outcome ≠
      .evidenceMissing := by
  unfold denyAmbiguity
  dsimp only
  split
  · rename_i htransact
    exact Reason.ne_evidenceMissing_of_isIncidental
      (isIncidental_of_transact htransact _ (Or.inl rfl))
  · rename_i htransact
    exact Reason.ne_evidenceMissing_of_isIncidental
      (isIncidental_of_transact htransact _ (Or.inr rfl))
  · intro hmissing
    cases hmissing

/-- A resolution that names retained evidence, under a key that is not decided yet. -/
theorem outcome_doResolveAmbiguity {resolution : AmbiguityResolution} {evidence : FailureEvidence}
    (hnew : fabric.state.cached resolution.key = none)
    (hnamed : resolution.evidence.isNil = false)
    (hretained : fabric.state.failures.find? resolution.evidence = some evidence)
    (hid : evidence.id = resolution.evidence) :
    (fabric.doResolveAmbiguity resolution).1.outcome ≠ .evidenceMissing := by
  unfold doResolveAmbiguity decided
  rw [hnew]
  split
  · intro hmissing
    cases hmissing
  dsimp only
  split
  · intro hmissing
    cases hmissing
  rename_i runtime hfind
  have hincidental : (fabric.checkResolution resolution runtime).Fails
      fun refused => refused.code.isIncidental = true := by
    refine .require rfl fun _ => .require rfl fun _ => .require rfl fun _ =>
      .demand_else (fun hnone => ?_) fun _ _ => .demand rfl fun _ _ => .pure _
    rw [hretained] at hnone
    cases hnone
  split
  · rename_i refused hrefused
    exact Reason.ne_evidenceMissing_of_isIncidental (hincidental refused hrefused)
  rename_i hcheck
  obtain ⟨-, -, -, hfound, -⟩ := checkResolution_ok hcheck
  obtain rfl := Option.some.inj (hretained.symm.trans hfound)
  split
  · exact outcome_confirmAmbiguity hnew hnamed hid _ _
  · exact outcome_denyAmbiguity _ _ _ _

/-- The delivery of a resolution has refusals of its own. -/
theorem outcome_resolveAmbiguity {resolution : AmbiguityResolution} {evidence : FailureEvidence}
    {decision : RecoveryDecision} (hnew : fabric.state.cached resolution.key = none)
    (hnamed : resolution.evidence.isNil = false)
    (hretained : fabric.state.failures.find? resolution.evidence = some evidence)
    (hid : evidence.id = resolution.evidence)
    (hreply : (fabric.call (.resolveAmbiguity resolution)).1 = .decided decision) :
    decision.outcome ≠ .evidenceMissing := by
  obtain rfl := Reply.decided.inj hreply
  unfold keyed
  rw [show fabric.entered.state.cached resolution.key = none from hnew]
  dsimp only
  split
  · rename_i hregistered
    exact Reason.ne_evidenceMissing_of_isIncidental (incidental_begin _ _ _ hregistered)
  · exact outcome_doResolveAmbiguity hnew hnamed hretained hid

end Resolutions

end Fabric

/-! ### Runs -/

/-- In every run that takes nothing from a pending ambiguity, through crashes and restarts, its
evidence is retained, and nobody who names it under a new key is told that it is missing. -/
theorem pending_resolvable {config : FabricConfig} {moments : List Moment} {fabric : Fabric}
    {owner : Owner} {service : ServiceName} {runtime : ServiceRuntime}
    (hrun : Fabric.Run config moments fabric)
    (hleaves : ∀ moment ∈ moments, moment.before.LeavesPending owner moment.event.op)
    (hfind : fabric.state.services.find? service = some runtime)
    (hpending : runtime.ambiguityPending = true) :
    (∃ evidence, fabric.state.failures.find? runtime.pendingAmbiguity = some evidence ∧
      evidence.id = runtime.pendingAmbiguity ∧ evidence.service = service) ∧
    ∀ resolution decision, resolution.evidence = runtime.pendingAmbiguity →
      fabric.state.cached resolution.key = none →
      (fabric.call (.resolveAmbiguity resolution)).1 = .decided decision →
      decision.outcome ≠ .evidenceMissing := by
  have hmirrored := hrun.mirrored (coupling_resolvable config owner) fun moment hmoment => by
    obtain ⟨howned, hyoung⟩ := hleaves moment hmoment
    exact ⟨howned, hyoung⟩
  obtain ⟨howner, hsome⟩ := hmirrored.memory.named service runtime hfind hpending
  obtain ⟨evidence, hretained⟩ := Option.isSome_iff_exists.mp hsome
  have hadmits := hmirrored.memory.admitted _ evidence hretained
  refine ⟨⟨evidence, hretained, hadmits.id, hadmits.service service howner⟩, ?_⟩
  intro resolution decision hnames hnew hreply
  have hnil := (hrun.wellKeyed.failures _ ((OrderedMap.find?_eq_some_iff _ _ _).mp hretained)).2
  rw [← hnames] at hretained hnil
  refine Fabric.outcome_resolveAmbiguity hnew hnil hretained ?_ hreply
  rw [hnames]
  exact hadmits.id

/-! ### Evidence of the small fleet -/

/-- The evidence of every pending ambiguity would outlive the next one. -/
def Fabric.spares (fabric : Fabric) : Bool :=
  fabric.state.services.entries.all fun entry => !entry.2.ambiguityPending ||
    fabric.state.failures.asYoungAs fabric.state.failureOrder entry.2.pendingAmbiguity <
      fabric.config.maxEvidenceRecords

/-- Calls that bring no evidence about any other service. -/
def Fabric.Op.concerns (service : ServiceName) : Op → Bool
  | .ingestFailure evidence => evidence.service = service
  | _ => true

/-- All evidence belongs to the one service. -/
theorem Fabric.LeavesPending.of_spares {fabric : Fabric} {op : Op} {service : ServiceName}
    (hspares : fabric.spares = true) (hconcerns : op.concerns service = true) :
    fabric.LeavesPending (fun _ => some service) op := by
  constructor
  · intro evidence proposal id hop _ _
    rw [hop] at hconcerns
    have hservice : evidence.service = service := of_decide_eq_true hconcerns
    refine ⟨fun _ => by rw [hservice], fun other hother => ?_⟩
    rw [hservice]
    exact Option.some.inj hother
  · intro evidence proposal id other runtime _ _ _ hfind hpending _ _
    have hentry := List.all_eq_true.mp hspares (other, runtime)
      ((OrderedMap.find?_eq_some_iff _ _ _).mp hfind)
    simpa [hpending] using hentry

namespace Fleet

/-- The first target is suspected, and then something else is found wrong with it. -/
def suspectedTwice : List Op :=
  placed ++ [reportFailure 1 .ambiguous, reportFailure 2 .unambiguous]

/-- The same reports to a coordinator that retains one. -/
def overwritten : Fabric := (Fabric.create { maxEvidenceRecords := 1 } {}).after suspectedTwice

/-- The operator confirms the suspicion. -/
def confirmation : AmbiguityResolution :=
  { key := ⟨9⟩, service, evidence := ⟨1⟩, confirmFailure := true, resolvedBy := operator }

end Fleet

theorem pending_resolvable_suspected : ∃ runtime evidence,
    (Fleet.running Fleet.suspectedTwice).state.services.find? Fleet.service = some runtime ∧
    runtime.ambiguityPending = true ∧
    (Fleet.running Fleet.suspectedTwice).state.failures.find? runtime.pendingAmbiguity =
      some evidence ∧ evidence.service = Fleet.service := by
  have hfacts :
      ((Fleet.running Fleet.suspectedTwice).state.services.find? Fleet.service).map
        ServiceRuntime.ambiguityPending = some true ∧
      (((Fabric.create {} {}).momentsOf Fleet.suspectedTwice).all
        fun moment => moment.before.spares) = true := by
    simp only [Fleet.running, Fabric.after_eq_drafted, Fabric.momentsOf_eq_drafted]
    decide +kernel
  have hconcerns : ∀ op ∈ Fleet.suspectedTwice, op.concerns Fleet.service = true := by
    decide
  have hrun := Fleet.run_running Fleet.suspectedTwice
  have hops : ∀ moment ∈ (Fabric.create {} {}).momentsOf Fleet.suspectedTwice,
      moment.event.op.concerns Fleet.service = true :=
    Fabric.forall_momentsOf (P := fun _ op => op.concerns Fleet.service = true)
      fun op hop _ => hconcerns op hop
  generalize Fleet.running Fleet.suspectedTwice = fabric at hfacts hrun ⊢
  generalize (Fabric.create {} {}).momentsOf Fleet.suspectedTwice = moments at hfacts hrun hops
  obtain ⟨hpending, hspares⟩ := hfacts
  obtain ⟨runtime, hfind, hpending⟩ := Option.map_eq_some_iff.mp hpending
  obtain ⟨⟨evidence, hretained, -, hservice⟩, -⟩ := pending_resolvable hrun
    (fun moment hmoment => .of_spares (List.all_eq_true.mp hspares moment hmoment)
      (hops moment hmoment)) hfind hpending
  exact ⟨runtime, evidence, hfind, hpending, hretained, hservice⟩

/-- The evidence that a service waits for is evicted, and its resolution is refused for want of
the evidence. -/
theorem not_pending_resolvable : ∃ moments fabric runtime resolution decision,
    Fabric.Run { maxEvidenceRecords := 1 } moments fabric ∧
    fabric.state.services.find? Fleet.service = some runtime ∧
    runtime.ambiguityPending = true ∧
    fabric.state.failures.find? runtime.pendingAmbiguity = none ∧
    resolution.service = Fleet.service ∧ resolution.evidence = runtime.pendingAmbiguity ∧
    fabric.state.roleSatisfies resolution.resolvedBy .operator ∧
    fabric.state.cached resolution.key = none ∧
    (fabric.call (.resolveAmbiguity resolution)).1 = .decided decision ∧
    decision.outcome = .evidenceMissing := by
  have hfacts :
      (Fleet.overwritten.state.services.find? Fleet.service).map
        (fun runtime => (runtime.ambiguityPending, runtime.pendingAmbiguity)) =
          some (true, ⟨1⟩) ∧
      Fleet.overwritten.state.failures.find? ⟨1⟩ = none ∧
      Fleet.overwritten.state.roleSatisfies Fleet.operator .operator ∧
      (Fleet.overwritten.state.cached ⟨9⟩).isNone = true ∧
      (Fleet.overwritten.entered.keyed Fleet.confirmation.service Fleet.confirmation.key
        (·.doResolveAmbiguity Fleet.confirmation)).1.outcome = .evidenceMissing := by
    simp only [Fleet.overwritten, Fabric.after_eq_drafted]
    decide +kernel
  obtain ⟨hruntime, hgone, hrole, hnew, houtcome⟩ := hfacts
  obtain ⟨runtime, hfind, hruntime⟩ := Option.map_eq_some_iff.mp hruntime
  obtain ⟨hpending, hid⟩ := Prod.mk.inj hruntime
  refine ⟨_, Fleet.overwritten, runtime, Fleet.confirmation, _, Fabric.Run.of_calls _ _, hfind,
    hpending, ?_, rfl, hid.symm, hrole, Option.isNone_iff_eq_none.mp hnew, rfl, houtcome⟩
  rw [hid]
  exact hgone

end OffloadFabric
