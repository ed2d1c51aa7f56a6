import OffloadFabric.Eligibility

/-!
What one commit makes of the runtime of a service. A live commit leaves it alone, registers
it, turns the runtime that its call found into the next one, or alters it in place, and each
way of doing so belongs to one public call. The replay of its record does the same, except
that a withdrawal only rewrites the lifecycle. What every way of doing so keeps, a whole call
keeps.
-/
namespace OffloadFabric

open Fabric (Op)

namespace State

variable {config : FabricConfig} {state state' : State} {service : ServiceName}

theorem find?_modifyService (state : State) (service other : ServiceName)
    (f : ServiceRuntime → ServiceRuntime) :
    (state.modifyService service f).services.find? other =
      if other = service then (state.services.find? service).map f
      else state.services.find? other := by
  unfold modifyService
  split
  · rename_i hfind
    split
    · rename_i heq
      rw [heq, hfind]
      rfl
    · rfl
  · rename_i runtime hfind
    rw [OrderedMap.find?_insert, hfind]
    rfl

@[simp] theorem services_bump (state : State) (field : StatField) :
    (state.bump field).services = state.services := rfl

@[simp] theorem services_bumpAll (state : State) (fields : List StatField) :
    (state.bumpAll fields).services = state.services := by
  unfold bumpAll
  induction fields generalizing state with
  | nil => rfl
  | cons field rest ih => exact ih (state.bump field)

@[simp] theorem services_remember (state : State) (config : FabricConfig) (key : RequestKey)
    (entry : RequestCacheEntry) :
    (state.remember config key entry).services = state.services := by
  obtain ⟨cache, order, hremember⟩ := state.exists_remember config key entry
  rw [hremember]

theorem services_evictFailuresFrom (ceiling : Nat) (order : List EvidenceId) (state : State) :
    (Fabric.evictFailuresFrom ceiling order state).services = state.services := by
  induction order generalizing state with
  | nil => rfl
  | cons oldest order ih =>
    unfold Fabric.evictFailuresFrom
    split
    · rw [ih]
      split <;> rfl
    · rfl

@[simp] theorem services_retainFailure (config : FabricConfig) (evidence : FailureEvidence)
    (stamp : LogicalTick) (state : State) :
    (Fabric.retainFailure config evidence stamp state).services = state.services :=
  services_evictFailuresFrom _ _ _

/-- Every runtime is registered under the name in its descriptor. -/
def Named (state : State) : Prop :=
  ∀ name runtime, state.services.find? name = some runtime → runtime.descriptor.name = name

theorem Named.of_sound (h : state.core.Sound config) : state.Named :=
  fun _ _ hfind => h.service_name hfind

/-- Bookkeeping leaves the runtime of a service alone, or puts a remark into it. -/
theorem Upkeep.runtime (h : Upkeep config state state') (service : ServiceName) :
    state'.services.find? service = state.services.find? service ∨
      ∃ (runtime : ServiceRuntime) (remark : Remark),
        state.services.find? service = some runtime ∧ remark.Admitted state service ∧
        state'.services.find? service = some (remark.apply runtime) := by
  cases h with
  | count stats => exact Or.inl rfl
  | remember key entry _ => exact Or.inl (by rw [services_remember])
  | annotate other remark hadmitted =>
    rw [find?_modifyService]
    by_cases heq : service = other
    · subst heq
      rw [if_pos rfl]
      cases hfind : state.services.find? service with
      | none => exact Or.inl rfl
      | some runtime => exact Or.inr ⟨runtime, remark, rfl, hadmitted, rfl⟩
    · exact Or.inl (if_neg heq)

end State

namespace Fabric

/-! ### Effects -/

/-- What a report makes of the runtime it is about, by its result and its kind. -/
inductive Effects (fabric : Fabric) (report : EffectReport) (runtime : ServiceRuntime)
    (stamp : LogicalTick) : ServiceRuntime → Prop where
  | negative : report.result = .negative → Effects fabric report runtime stamp
      { (seenRuntime fabric.config report runtime stamp).invalidateVerification with
        lastReason := .effectNegative, recovery := .effectReported, lifecycle := .failed }
  | activated : report.result = .positive → report.kind = .activationAccepted →
      Effects fabric report runtime stamp
        { seenRuntime fabric.config report runtime stamp with
          activationAccepted := true, recovery := .effectReported
          lastReason := .acceptEffectVerified }
  | deactivated : report.result = .positive → report.kind = .deactivationAcknowledged →
      Effects fabric report runtime stamp
        { seenRuntime fabric.config report runtime stamp with
          recovery := .effectReported, lastReason := .acceptEffectVerified }
  | transferred : report.result = .positive → report.kind = .stateTransferComplete →
      runtime.descriptor.lastKnownStateGeneration ≤ report.stateGeneration →
      Effects fabric report runtime stamp
        { seenRuntime fabric.config report runtime stamp with
          stateTransferVerified := true, lastReason := .acceptStateTransferVerified }
  | healthy : report.result = .positive → report.kind = .serviceHealthy →
      runtime.activationAccepted = true → Effects fabric report runtime stamp
        { seenRuntime fabric.config report runtime stamp with
          effectVerified := true, recovery := .verified, lifecycle := .fallbackActive
          attemptsSinceVerified := 0, continuity := (continuityClaim fabric.state runtime).1
          lastReason := (continuityClaim fabric.state runtime).2 }

theorem applyEffect_ok {fabric : Fabric} {report : EffectReport} {runtime next : ServiceRuntime}
    {stamp : LogicalTick} {outcome : Reason}
    (h : fabric.applyEffect report runtime stamp = .ok (next, outcome)) :
    fabric.Effects report runtime stamp next := by
  unfold applyEffect at h
  dsimp only at h
  split at h
  · rename_i hresult
    obtain ⟨rfl, -⟩ := Prod.mk.inj (check_pure_ok.mp h)
    exact .negative hresult
  · rename_i hresult hkind
    obtain ⟨rfl, -⟩ := Prod.mk.inj (check_pure_ok.mp h)
    exact .activated hresult hkind
  · rename_i hresult hkind
    obtain ⟨rfl, -⟩ := Prod.mk.inj (check_pure_ok.mp h)
    exact .deactivated hresult hkind
  · rename_i hresult hkind
    obtain ⟨hgeneration, h⟩ := require_bind_ok.mp h
    obtain ⟨rfl, -⟩ := Prod.mk.inj (check_pure_ok.mp h)
    exact .transferred hresult hkind hgeneration
  · rename_i hresult hkind
    obtain ⟨hactivated, h⟩ := require_bind_ok.mp h
    obtain ⟨rfl, -⟩ := Prod.mk.inj (check_pure_ok.mp h)
    exact .healthy hresult hkind hactivated

/-! ### Commits -/

/-- How a call turns the runtime of a service that it has found into the next one. -/
inductive Turns (fabric : Fabric) (service : ServiceName) :
    Op → ServiceRuntime → ServiceRuntime → Prop where
  | moved {op : Op} {check : ServiceRuntime → Check Qualified} {runtime : ServiceRuntime}
      {qualified : Qualified} (grant : Grant) (config : FabricConfig) (state : State) :
      fabric.moving op = some (service, check) → check runtime = .ok qualified →
      qualified.move.runtime = runtime →
      Turns fabric service op runtime (qualified.move.nextRuntime grant config state)
  | denied {resolution : AmbiguityResolution} {runtime : ServiceRuntime}
      {evidence : FailureEvidence} {stamp : LogicalTick} : resolution.service = service →
      fabric.checkResolution resolution runtime = .ok (evidence, stamp) →
      resolution.confirmFailure = false →
      Turns fabric service (.resolveAmbiguity resolution) runtime (deniedRuntime runtime stamp)
  | acknowledged {ack : IntentAck} {runtime : ServiceRuntime} {stamp : LogicalTick} :
      runtime.currentAttempt = ack.attempt →
      fabric.checkAcknowledgement ack runtime = .ok stamp →
      Turns fabric service (.acknowledgeIntent ack) runtime (acknowledgedRuntime runtime ack stamp)
  | reported {report : EffectReport} {runtime next : ServiceRuntime} {outcome : Reason}
      {stamp : LogicalTick} : report.service = service →
      fabric.checkReport report runtime = .ok () → alreadySeen report runtime = false →
      fabric.checkEffect report runtime = .ok (next, outcome, stamp) →
      Turns fabric service (.reportEffect report) runtime next

/-- How a call alters the runtime of a service in place. -/
inductive Alters (fabric : Fabric) (service : ServiceName) :
    Op → ServiceRuntime → ServiceRuntime → Prop where
  | withdrawn {requester : SourceName} {runtime : ServiceRuntime} (stamp : LogicalTick) :
      Alters fabric service (.withdrawService service requester) runtime (runtime.withdraw stamp)
  | suspected {evidence : FailureEvidence} {runtime : ServiceRuntime} (id : EvidenceId)
      (stamp : LogicalTick) : evidence.service = service → fabric.Credible evidence →
      evidence.ambiguity ≠ .unambiguous →
      Alters fabric service (.ingestFailure evidence) runtime
        { runtime.suspend id with lastChange := stamp }
  | confirmed {resolution : AmbiguityResolution} {runtime : ServiceRuntime} :
      resolution.service = service → resolution.confirmFailure = true →
      Alters fabric service (.resolveAmbiguity resolution) runtime
        { runtime with ambiguityPending := false, pendingAmbiguity := {} }

/-- The call registers the service. -/
def Registers (fabric : Fabric) (service : ServiceName) (op : Op) : Prop :=
  ∃ descriptor registrar proposal, op = .registerService descriptor registrar ∧
    descriptor.name = service ∧ fabric.checkRegisterService descriptor registrar = .ok proposal

/-- What a live commit of the call leaves of a service. -/
inductive Follows (fabric : Fabric) (op : Op) (service : ServiceName)
    (before : Option ServiceRuntime) : Option ServiceRuntime → Prop where
  | same : Follows fabric op service before before
  | registered {descriptor : ServiceDescriptor} (stamp : LogicalTick) :
      fabric.Registers service op → fabric.state.services.find? service = none →
      Follows fabric op service before
        (some { descriptor, lifecycle := .registered, lastChange := stamp, lastReason := .ok })
  | turned {found next : ServiceRuntime} : fabric.state.services.find? service = some found →
      fabric.Turns service op found next → Follows fabric op service before (some next)
  | altered {found next : ServiceRuntime} : before = some found →
      fabric.Alters service op found next → Follows fabric op service before (some next)

/-- What the replay of such a commit leaves of a service. -/
inductive Replays (fabric : Fabric) (op : Op) (service : ServiceName)
    (before : Option ServiceRuntime) : Option ServiceRuntime → Prop where
  | same : Replays fabric op service before before
  | registered {descriptor : ServiceDescriptor} :
      fabric.Registers service op → fabric.state.services.find? service = none →
      Replays fabric op service before (some { descriptor, lifecycle := .registered })
  | withdrawn {runtime : ServiceRuntime} {requester : SourceName} :
      op = .withdrawService service requester → before = some runtime →
      Replays fabric op service before (some { runtime with lifecycle := .withdrawn })
  | turned {found next : ServiceRuntime} :
      fabric.state.services.find? service = some found → fabric.Turns service op found next →
      Replays fabric op service before (some next)

section Turns

variable {fabric : Fabric} {op : Op} {commit : Commit} {service : ServiceName}

/-- The move of a check is that of the service and the runtime it was asked about. -/
theorem moving_move {check : ServiceRuntime → Check Qualified} {runtime : ServiceRuntime}
    {qualified : Qualified} (hop : fabric.moving op = some (service, check))
    (hok : check runtime = .ok qualified) :
    qualified.move.service = service ∧ qualified.move.runtime = runtime := by
  cases op with
  | establishPlacement request =>
    cases hop
    obtain ⟨-, -, -, target, -, -, -, hmove⟩ := checkPlacement_ok hok
    rw [hmove]
    exact ⟨rfl, rfl⟩
  | requestFailover request =>
    cases hop
    obtain ⟨-, -, -, -, -, -, evidence, target, -, -, hmove⟩ := checkFailover_ok hok
    rw [hmove]
    exact ⟨rfl, rfl⟩
  | resumeRecovery request =>
    cases hop
    obtain ⟨-, -, -, previous, target, -, -, -, -, hmove⟩ := checkResume_ok hok
    rw [hmove]
    exact ⟨rfl, rfl⟩
  | requestFailback request =>
    cases hop
    obtain ⟨-, -, -, -, original, record, slot, -, -, -, -, -, -, -, -, hmove⟩ :=
      checkFailback_ok hok
    rw [hmove]
    exact ⟨rfl, rfl⟩
  | _ => cases hop

/-- Replacing one runtime follows when the new one turns from what the call found. -/
theorem Follows.insert {state : State} {other : ServiceName} {found next : ServiceRuntime}
    (hfind : fabric.state.services.find? other = some found)
    (hturns : fabric.Turns other op found next) :
    fabric.Follows op service (state.services.find? service)
      ((state.services.insert other next).find? service) := by
  rw [OrderedMap.find?_insert]
  split
  · rename_i heq
    rw [heq]
    exact .turned hfind hturns
  · exact .same

/-- Changing one runtime in place follows when the call alters it so. -/
theorem Follows.modify {state middle : State} {other : ServiceName}
    {f : ServiceRuntime → ServiceRuntime} (hsame : middle.services = state.services)
    (halters : ∀ runtime, fabric.Alters other op runtime (f runtime)) :
    fabric.Follows op service (state.services.find? service)
      ((middle.modifyService other f).services.find? service) := by
  rw [State.find?_modifyService, hsame]
  split
  · rename_i heq
    rw [heq]
    cases hfind : state.services.find? other with
    | none => exact .same
    | some runtime => exact .altered rfl (halters runtime)
  · exact .same

theorem Ingested.follows {checked : Check Proposal} {proposal : Proposal} {change : Change}
    {update : State → State} (hop : fabric.ingestion op = some checked)
    (hok : checked = .ok proposal) (h : fabric.Ingested op change update) (state : State)
    (service : ServiceName) :
    fabric.Follows op service (state.services.find? service)
      ((update state).services.find? service) := by
  cases h with
  | enrolled | targetRegistered | topologySet | policySet | retired | capability => exact .same
  | @serviceRegistered descriptor registrar stamp _ hnew _ =>
    rw [State.services_bump]
    dsimp only
    rw [OrderedMap.find?_insert]
    split
    · rename_i heq
      exact .registered stamp ⟨_, _, _, rfl, heq.symm, (Option.some.inj hop).trans hok⟩ (heq ▸ hnew)
    · exact .same
  | withdrawn =>
    rw [State.services_bump]
    exact Follows.modify (by rfl) fun runtime => .withdrawn _
  | failure =>
    rw [State.services_retainFailure]
    exact .same
  | @suspicion evidence id stamp _ hcredible _ hambiguous =>
    rw [State.services_bump]
    exact Follows.modify (State.services_retainFailure _ _ _ _) fun runtime =>
      .suspected id stamp rfl hcredible hambiguous
  | dependency _ hupdate =>
    obtain ⟨stats, hafter⟩ := hupdate state
    rw [hafter]
    exact .same

/-- What a live commit leaves of a service. -/
theorem Caused.follows (h : fabric.Caused op commit) (hnamed : fabric.state.Named)
    (service : ServiceName) :
    fabric.Follows op service (commit.before.services.find? service)
      (commit.after.services.find? service) := by
  cases h with
  | ingested hop hok hwrites =>
    rw [hwrites.after]
    exact (ingested_of_ok hop hok).follows hop hok _ service
  | moved hop hfind hok hmoves =>
    obtain ⟨hservice, hruntime⟩ := moving_move hop hok
    cases hmoves with
    | intro =>
      simp only [Move.update, State.services_remember, State.services_bump,
        State.services_bumpAll]
      exact Follows.insert (hservice ▸ hfind)
        (.moved _ _ _ (hservice ▸ hop) hok hruntime)
  | denied hfind hcheck hconfirm hwrites =>
    rw [hwrites.after, State.services_bump]
    exact Follows.insert hfind (.denied rfl hcheck hconfirm)
  | confirmed _ _ hconfirm hwrites =>
    rw [hwrites.after, promotedState, State.services_bump]
    exact Follows.modify (by rfl) fun runtime => .confirmed rfl hconfirm
  | acknowledged hentry hcheck hwrites =>
    obtain ⟨hfind, hattempt⟩ := find?_serviceOfAttempt hentry
    rw [hwrites.after]
    exact Follows.insert ((congrArg _ (hnamed _ _ hfind)).trans hfind)
      (.acknowledged hattempt hcheck)
  | reported hfind hreport hseen hcheck hwrites =>
    rw [hwrites.after, State.services_bumpAll]
    exact Follows.insert hfind (.reported rfl hreport hseen hcheck)

/-- The replay of a record that rewrites a runtime. -/
theorem Replays.rewritten {state : State} {kind : RuntimeRecordKind} {change : RuntimeChange}
    {found : ServiceRuntime} (hfind : fabric.state.services.find? change.service = some found)
    (hturns : fabric.Turns change.service op found change.runtime) :
    fabric.Replays op service (state.services.find? service)
      ((Change.apply state (.runtimeChanged kind change)).services.find? service) := by
  have hservices : (Change.apply state (.runtimeChanged kind change)).services =
      state.services.insert change.service change.runtime := rfl
  rw [hservices, OrderedMap.find?_insert]
  split
  · rename_i heq
    rw [heq]
    exact .turned hfind hturns
  · exact .same

theorem Ingested.replays {checked : Check Proposal} {proposal : Proposal} {change : Change}
    {update : State → State} (hop : fabric.ingestion op = some checked)
    (hok : checked = .ok proposal) (h : fabric.Ingested op change update) (state : State)
    (service : ServiceName) :
    fabric.Replays op service (state.services.find? service)
      ((Change.apply state change).services.find? service) := by
  cases h with
  | enrolled | targetRegistered | topologySet | policySet | retired | capability | failure
  | suspicion | dependency => exact .same
  | @serviceRegistered descriptor registrar stamp _ hnew _ =>
    have hservices : (Change.apply state (.serviceRegistered descriptor)).services =
        state.services.insert descriptor.name { descriptor, lifecycle := .registered } := rfl
    rw [hservices, OrderedMap.find?_insert]
    split
    · rename_i heq
      exact .registered ⟨_, _, _, rfl, heq.symm, (Option.some.inj hop).trans hok⟩ (heq ▸ hnew)
    · exact .same
  | @withdrawn other =>
    simp only [Change.apply]
    split
    · rename_i runtime hfind
      rw [OrderedMap.find?_insert]
      split
      · rename_i heq
        rw [heq]
        exact .withdrawn rfl hfind
      · exact .same
    · exact .same

/-- What the replay of a commit leaves of a service. -/
theorem Caused.replays (h : fabric.Caused op commit) (hnamed : fabric.state.Named)
    (state : State) (service : ServiceName) :
    fabric.Replays op service (state.services.find? service)
      ((Change.apply state commit.change).services.find? service) := by
  cases h with
  | ingested hop hok hwrites =>
    rw [hwrites.change]
    exact (ingested_of_ok hop hok).replays hop hok _ service
  | moved hop hfind hok hmoves =>
    obtain ⟨hservice, hruntime⟩ := moving_move hop hok
    cases hmoves with
    | intro =>
      exact Replays.rewritten (by exact hservice ▸ hfind)
        (.moved _ _ _ (hservice ▸ hop) hok hruntime)
  | denied hfind hcheck hconfirm hwrites =>
    rw [hwrites.change]
    exact Replays.rewritten (by exact hfind) (.denied rfl hcheck hconfirm)
  | confirmed _ _ _ hwrites =>
    rw [hwrites.change]
    exact .same
  | acknowledged hentry hcheck hwrites =>
    obtain ⟨hfind, hattempt⟩ := find?_serviceOfAttempt hentry
    rw [hwrites.change]
    exact Replays.rewritten (by exact (congrArg _ (hnamed _ _ hfind)).trans hfind)
      (.acknowledged hattempt hcheck)
  | reported hfind hreport hseen hcheck hwrites =>
    rw [hwrites.change]
    exact Replays.rewritten (by exact hfind) (.reported rfl hreport hseen hcheck)

end Turns

end Fabric

/-! ### What calls keep of a service -/

/-- The property holds of the service wherever it is registered. -/
def State.Each (service : ServiceName) (P : ServiceRuntime → Prop) (state : State) : Prop :=
  ∀ runtime, state.services.find? service = some runtime → P runtime

/-- The property survives the remarks that bookkeeping makes. -/
def Remarkable (service : ServiceName) (P : ServiceRuntime → Prop) : Prop :=
  ∀ (state : State) (runtime : ServiceRuntime) (remark : Remark),
    state.services.find? service = some runtime → remark.Admitted state service →
    P runtime → P (remark.apply runtime)

/-- The property survives whatever a commit of the call does to the service. -/
structure Fabric.Steady (service : ServiceName) (P : ServiceRuntime → Prop) (fabric : Fabric)
    (op : Op) : Prop where
  registered : ∀ descriptor stamp, fabric.Registers service op →
    P { descriptor, lifecycle := .registered, lastChange := stamp, lastReason := .ok }
  turned : ∀ found next, fabric.state.services.find? service = some found →
    fabric.Turns service op found next → P found → P next
  altered : ∀ found next, fabric.Alters service op found next → P found → P next

section Each

variable {config : FabricConfig} {service : ServiceName} {P : ServiceRuntime → Prop}
  {state state' : State} {fabric caller actor : Fabric} {op op' : Op} {commits : List Commit}

theorem State.Each.keeps (h : state.Each service P) (hremarks : Remarkable service P)
    (hkeeps : State.Keeps config state state') : state'.Each service P := by
  induction hkeeps with
  | refl => exact h
  | @tail middle last _ hstep ih =>
    intro runtime hfind
    rcases hstep.runtime service with hsame | ⟨earlier, remark, hearlier, hadmitted, hnext⟩
    · exact ih runtime (hsame ▸ hfind)
    · obtain rfl := Option.some.inj (hnext.symm.trans hfind)
      exact hremarks middle earlier remark hearlier hadmitted (ih earlier hearlier)

theorem State.Each.follows {before after : Option ServiceRuntime} (h : fabric.state.Each service P)
    (hsteady : fabric.Steady service P op) (hbefore : ∀ runtime, before = some runtime → P runtime)
    (hfollows : fabric.Follows op service before after) :
    ∀ runtime, after = some runtime → P runtime := by
  rintro runtime rfl
  generalize hafter : some runtime = after at hfollows
  cases hfollows with
  | same => exact hbefore runtime hafter.symm
  | registered stamp hregisters _ =>
    cases hafter
    exact hsteady.registered _ stamp hregisters
  | turned hfind hturns =>
    cases hafter
    exact hsteady.turned _ _ hfind hturns (h _ hfind)
  | altered hsome halters =>
    cases hafter
    exact hsteady.altered _ _ halters (hbefore _ hsome)

/-- Whoever acts in a call finds what the call keeps. -/
theorem State.Each.acts (h : caller.state.Each service P) (hremarks : Remarkable service P)
    (hsound : caller.state.core.Sound config) (hsteady : caller.Steady service P op)
    (hacts : caller.Acts op actor op') : actor.state.Each service P := by
  cases hacts with
  | direct => exact h
  | confirmed _ hcaused _ _ hstate =>
    rw [hstate]
    exact h.follows hsteady (h.keeps hremarks hcaused.before_keeps)
      (hcaused.follows (.of_sound hsound) service)

/-- The commits of one call keep what each of them does. -/
theorem State.Each.performs (h : caller.state.Each service P) (hremarks : Remarkable service P)
    (hsound : caller.state.core.Sound config)
    (hsteady : ∀ actor op', caller.Acts op actor op' → actor.state.Each service P →
      actor.Steady service P op')
    (hpasses : State.Passes caller.config caller.state commits state)
    (hperforms : caller.Performs op commits) : state.Each service P := by
  have hfirst {commit : Commit} (hcaused : caller.Caused op commit)
      (hbefore : State.Keeps caller.config caller.state commit.before) :
      commit.after.Each service P :=
    h.follows (hsteady caller op (.direct op) h) (h.keeps hremarks hbefore)
      (hcaused.follows (.of_sound hsound) service)
  cases hperforms with
  | nothing =>
    cases hpasses with
    | keeps hkeeps => exact h.keeps hremarks hkeeps
  | once hcaused =>
    cases hpasses with
    | commit hbefore hrest =>
      cases hrest with
      | keeps hkeeps => exact (hfirst hcaused hbefore).keeps hremarks hkeeps
  | @twice resolution first second middle hop hconfirm hcaused hconfig hopened hmiddle hsecond =>
    subst hop
    cases hpasses with
    | commit hbefore hrest =>
      cases hrest with
      | commit hbetween hrest =>
        cases hrest with
        | keeps hkeeps =>
          have hacts := Fabric.Acts.confirmed hconfirm hcaused hconfig hopened hmiddle
          have hmiddle' := h.acts hremarks hsound (hsteady caller _ (.direct _) h) hacts
          have hafter := (hfirst hcaused hbefore).keeps hremarks hbetween
          refine State.Each.keeps ?_ hremarks hkeeps
          exact hmiddle'.follows (hsteady middle _ hacts hmiddle') hafter
            (hsecond.follows (.of_sound (hacts.same.1 ▸ hsound)) service)

/-- A call that does not open a closed process keeps what each of its commits does. -/
theorem State.Each.call (h : fabric.state.Each service P) (hremarks : Remarkable service P)
    (hsound : fabric.state.core.Sound config)
    (hsteady : ∀ actor op', fabric.entered.Acts op actor op' → actor.state.Each service P →
      actor.Steady service P op')
    (hopen : op = .openFabric → fabric.opened = true) :
    (fabric.call op).2.state.Each service P := by
  by_cases hopens : op = .openFabric
  · subst hopens
    have hopened : fabric.entered.opened = true := hopen rfl
    have hcall : (fabric.call .openFabric).2 = fabric.entered := by
      simp [Fabric.call, Fabric.dispatch, Fabric.replyCode, Fabric.open, hopened]
    rw [hcall]
    exact h
  by_cases hcloses : op = .closeFabric
  · subst hcloses
    have hcall : (fabric.call .closeFabric).2 = fabric.entered.close.2 := rfl
    rw [hcall, Fabric.close]
    split <;> exact h
  · obtain ⟨commits, hevolves, hperforms, -⟩ := fabric.entered.dispatch_evolves hopens hcloses
    have hentered : fabric.entered.state.Each service P := h
    exact hentered.performs hremarks hsound hsteady hevolves.passes hperforms

theorem State.Each.replay {after : Option ServiceRuntime}
    (h : state.Each service P) (hactor : actor.state.Each service P)
    (hsteady : actor.Steady service P op)
    (hregistered : ∀ descriptor, P { descriptor, lifecycle := .registered })
    (hwithdrawn : ∀ runtime, P runtime → P { runtime with lifecycle := .withdrawn })
    (hreplays : actor.Replays op service (state.services.find? service) after) :
    ∀ runtime, after = some runtime → P runtime := by
  rintro runtime rfl
  generalize hafter : some runtime = after at hreplays
  cases hreplays with
  | same => exact h runtime hafter.symm
  | registered =>
    cases hafter
    exact hregistered _
  | withdrawn _ hbefore =>
    cases hafter
    exact hwithdrawn _ (h _ hbefore)
  | turned hfind hturns =>
    cases hafter
    exact hsteady.turned _ _ hfind hturns (hactor _ hfind)

/-- A property of runtimes that calls, replays and restarts keep holds in every memory. -/
theorem preserved_each {allowed : Fabric → Op → Prop} (hremarks : Remarkable service P)
    (hsteady : ∀ caller actor op op', allowed caller op → caller.Acts op actor op' →
      actor.state.core.Sound config → actor.state.Each service P → actor.Steady service P op')
    (hregistered : ∀ descriptor, P { descriptor, lifecycle := .registered })
    (hwithdrawn : ∀ runtime, P runtime → P { runtime with lifecycle := .withdrawn })
    (hdowngraded : ∀ runtime, P runtime → P (downgradedRuntime runtime)) :
    Preserved config allowed fun _ state => state.Each service P where
  initial runtime hfind := by cases hfind
  keeps _ hP hupkeep := hP.keeps hremarks (.single hupkeep)
  commit hallowed _ hacts _ hactor hcaused hbefore :=
    hactor.2.follows (hsteady _ _ _ _ hallowed hacts hactor.1.sound hactor.2) hbefore.2
      (hcaused.follows (.of_sound hactor.1.sound) service)
  snapshot _ hP := hP
  restart _ _ hP runtime hfind := by
    simp only [restartedState, OrderedMap.find?_mapValues] at hfind
    obtain ⟨before, hbefore, rfl⟩ := Option.map_eq_some_iff.mp hfind
    exact hdowngraded before (hP before hbefore)
  replay _ hP hwarrant := by
    cases hwarrant with
    | restarted => exact hP
    | made hallowed _ hacts _ hactor hcaused _ =>
      exact hP.replay hactor.2 (hsteady _ _ _ _ hallowed hacts hactor.1.sound hactor.2)
        hregistered hwithdrawn (hcaused.replays (.of_sound hactor.1.sound) _ service)

end Each

/-- In a run of allowed calls, what they keep of a service holds in the end. -/
theorem Fabric.Run.each {config : FabricConfig} {service : ServiceName}
    {P : ServiceRuntime → Prop} {allowed : Fabric → Op → Prop} {moments : List Fabric.Moment}
    {fabric : Fabric} (hrun : Fabric.Run config moments fabric) (hremarks : Remarkable service P)
    (hpreserved : Preserved config allowed fun _ state => state.Each service P)
    (hallowed : ∀ moment ∈ moments, allowed moment.before.entered moment.event.op) :
    fabric.state.Each service P := by
  obtain ⟨_, _, -, hchronicled⟩ := hrun.chronicled hpreserved.stable hallowed
  rcases hchronicled.remembered with ⟨-, hkeeps⟩ | hmemory
  · have hnobody : ({} : State).Each service P := fun _ hfind => by cases hfind
    exact hnobody.keeps hremarks hkeeps
  · exact hmemory.2

/-! ### Calls that move nothing -/

/-- The service that the call moves when it is accepted. -/
def Fabric.Op.relocates : Op → Option ServiceName
  | .establishPlacement request => some request.service
  | .requestFailover request | .resumeRecovery request => some request.service
  | .requestFailback request => some request.service
  | .resolveAmbiguity resolution =>
    if resolution.confirmFailure then some resolution.service else none
  | _ => none

section Unmoved

variable {config : FabricConfig} {service other : ServiceName} {P : ServiceRuntime → Prop}
  {fabric actor : Fabric} {op op' : Op} {check : ServiceRuntime → Check Qualified}

theorem Fabric.Moves.decides {move : Move} {decision : RecoveryDecision} {commit : Commit}
    (h : fabric.Moves move decision commit) :
    decision.accepted = true ∧ decision.duplicate = false := by
  cases h with
  | intro _ _ _ haccepted hduplicate => exact ⟨haccepted, hduplicate⟩

/-- Whoever acts in a call moves the service that the call is about. -/
theorem Fabric.Acts.relocates (h : fabric.Acts op actor op')
    (hmoving : actor.moving op' = some (service, check)) : op.relocates = some service := by
  cases h with
  | direct => cases op <;> cases hmoving <;> rfl
  | confirmed hconfirm =>
    cases hmoving
    exact if_pos hconfirm

/-- A call that would move a service, but is not accepted, at most promotes evidence. -/
theorem State.Each.refused (h : fabric.state.Each service P) (hremarks : Remarkable service P)
    (hopened : fabric.opened = true) (hsound : fabric.state.core.Sound config)
    (hop : op.relocates = some other) (hrefused : ∀ decision, ¬fabric.Accepts op decision)
    (hpromoted : ∀ resolution, op = .resolveAmbiguity resolution →
      fabric.entered.Steady service P op) :
    (fabric.call op).2.state.Each service P := by
  have hclose : op ≠ .closeFabric := by
    rintro rfl
    cases hop
  obtain ⟨-, -, commits, hpasses, -, hanswers⟩ := Fabric.call_passes hopened hclose
  have hkept (hpasses : State.Passes fabric.config fabric.state [] (fabric.call op).2.state) :
      (fabric.call op).2.state.Each service P := by
    cases hpasses with
    | keeps hkeeps => exact h.keeps hremarks hkeeps
  have hdecided {actor : Fabric} {target : ServiceName} {check : ServiceRuntime → Check Qualified}
      {decision : RecoveryDecision} {commits : List Commit}
      (hreply : (fabric.call op).1 = .decided decision)
      (hdecides : actor.Decides target check decision commits) : commits = [] := by
    cases hdecides with
    | turnedDown => rfl
    | moved _ _ _ hmoves =>
      exact absurd ⟨hreply, hmoves.decides.1, hmoves.decides.2⟩ (hrefused decision)
  by_cases hresolve : ∃ resolution, op = .resolveAmbiguity resolution
  · obtain ⟨resolution, rfl⟩ := hresolve
    obtain ⟨decision, hreply, hresolves⟩ := hanswers.resolves _ rfl
    cases hresolves with
    | turnedDown => exact hkept hpasses
    | denied _ _ _ hconfirm => simp [Fabric.Op.relocates, hconfirm] at hop
    | confirmed _ hfind hcheck hconfirm hwrites _ _ hdecides =>
      obtain rfl := hdecided hreply hdecides
      have hcaused := Fabric.Caused.confirmed hfind hcheck hconfirm hwrites
      have hentered : fabric.entered.state.Each service P := h
      cases hpasses with
      | commit hbefore hrest =>
        cases hrest with
        | keeps hkeeps =>
          refine State.Each.keeps ?_ hremarks hkeeps
          exact hentered.follows (hpromoted resolution rfl) (hentered.keeps hremarks hbefore)
            (hcaused.follows (.of_sound hsound) service)
  · have hmoving : ∃ check, fabric.entered.moving op = some (other, check) := by
      cases op with
      | resolveAmbiguity resolution => exact absurd ⟨resolution, rfl⟩ hresolve
      | _ => cases hop <;> exact ⟨_, rfl⟩
    obtain ⟨check, hmoving⟩ := hmoving
    obtain ⟨decision, hreply, hdecides⟩ := hanswers.moves _ _ hmoving
    obtain rfl := hdecided hreply hdecides
    exact hkept hpasses

/-- A call in which no move of the service is accepted keeps what its other commits do. -/
theorem State.Each.unmoved (h : fabric.state.Each service P) (hremarks : Remarkable service P)
    (hopened : fabric.opened = true) (hsound : fabric.state.core.Sound config)
    (hunmoved : ∀ decision, fabric.Accepts op decision → op.relocates ≠ some service)
    (hsteady : ∀ actor op', fabric.entered.Acts op actor op' →
      (∀ check, actor.moving op' ≠ some (service, check)) → actor.Steady service P op') :
    (fabric.call op).2.state.Each service P := by
  by_cases hservice : op.relocates = some service
  · refine h.refused hremarks hopened hsound hservice
      (fun decision haccepts => hunmoved decision haccepts hservice) fun resolution hop => ?_
    refine hsteady _ _ (.direct op) fun check hmoving => ?_
    rw [hop] at hmoving
    cases hmoving
  · refine h.call hremarks hsound (fun actor op' hacts _ => ?_) fun _ => hopened
    exact hsteady actor op' hacts fun check hmoving => hservice (hacts.relocates hmoving)

end Unmoved

end OffloadFabric
