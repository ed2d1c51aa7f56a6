import OffloadFabric.Boots
import OffloadFabric.Coherence

/-!
Where a service may be moved to. Every accepted move goes to a registered target that was
vouched for in the running boot; that it lies in the scope of the service and behind no
witness is checked by every operation but the failback.
-/
namespace OffloadFabric

open Fabric (Op Moment)

/-- Capability evidence as it is retained. -/
def vouched (evidence : CapabilityEvidence) (stamp : LogicalTick) : CapabilityEvidence :=
  { evidence with contentDigest := capabilityFingerprint evidence, tick := stamp }

namespace State

@[simp] theorem capabilities_modifyService (state : State) (service : ServiceName)
    (f : ServiceRuntime → ServiceRuntime) :
    (state.modifyService service f).capabilities = state.capabilities := by
  unfold modifyService
  split <;> rfl

@[simp] theorem capabilities_bump (state : State) (field : StatField) :
    (state.bump field).capabilities = state.capabilities := rfl

@[simp] theorem capabilities_bumpAll (state : State) (fields : List StatField) :
    (state.bumpAll fields).capabilities = state.capabilities := by
  unfold bumpAll
  induction fields generalizing state with
  | nil => rfl
  | cons field rest ih => exact ih (state.bump field)

@[simp] theorem capabilities_remember (state : State) (config : FabricConfig) (key : RequestKey)
    (entry : RequestCacheEntry) :
    (state.remember config key entry).capabilities = state.capabilities := by
  obtain ⟨cache, order, hremember⟩ := state.exists_remember config key entry
  rw [hremember]

theorem Keeps.capabilities {config : FabricConfig} {state state' : State}
    (h : Keeps config state state') : state'.capabilities = state.capabilities := by
  rw [h.sameRecords]

theorem capabilities_evictFailuresFrom (ceiling : Nat) (order : List EvidenceId) (state : State) :
    (Fabric.evictFailuresFrom ceiling order state).capabilities = state.capabilities := by
  induction order generalizing state with
  | nil => rfl
  | cons oldest order ih =>
    unfold Fabric.evictFailuresFrom
    split
    · rw [ih]
      split <;> rfl
    · rfl

theorem capabilities_retainFailure (config : FabricConfig) (evidence : FailureEvidence)
    (stamp : LogicalTick) (state : State) :
    (Fabric.retainFailure config evidence stamp state).capabilities = state.capabilities :=
  capabilities_evictFailuresFrom _ _ _

end State

/-! ### Who acts in a call -/

section Acting

variable {fabric actor : Fabric} {op op' : Op} {commit : Commit}

/-- A confirmed ambiguity promotes its evidence. -/
theorem Fabric.Caused.promotion {resolution : AmbiguityResolution}
    (h : fabric.Caused (.resolveAmbiguity resolution) commit)
    (hconfirm : resolution.confirmFailure = true) : ∃ runtime evidence stamp,
      fabric.state.services.find? resolution.service = some runtime ∧
      fabric.checkResolution resolution runtime = .ok (evidence, stamp) ∧
      fabric.Writes (.failureIngested (promoted evidence))
        (promotedState resolution.service (promoted evidence) stamp) commit := by
  generalize hop : Op.resolveAmbiguity resolution = op at h
  cases h with
  | ingested hingestion => subst hop; cases hingestion
  | moved hmoving => subst hop; cases hmoving
  | denied _ _ hdenied =>
    obtain rfl := Op.resolveAmbiguity.inj hop
    rw [hconfirm] at hdenied
    cases hdenied
  | confirmed hfind hcheck _ hwrites =>
    obtain rfl := Op.resolveAmbiguity.inj hop
    exact ⟨_, _, _, hfind, hcheck, hwrites⟩
  | acknowledged => cases hop
  | reported => cases hop

/-- Promoting evidence touches neither the authority nor what targets can do. -/
theorem Fabric.Acts.same (h : fabric.Acts op actor op') :
    actor.state.core = fabric.state.core ∧
      actor.state.capabilities = fabric.state.capabilities := by
  cases h with
  | direct => exact ⟨rfl, rfl⟩
  | confirmed hconfirm hcaused _ _ hstate =>
    obtain ⟨runtime, evidence, stamp, -, -, hwrites⟩ := hcaused.promotion hconfirm
    rw [hstate, hwrites.after, promotedState]
    constructor
    · rw [State.core_bump]
      exact (State.core_modifyService _ (by exact fun _ => rfl)).trans hwrites.core
    · rw [State.capabilities_bump, State.capabilities_modifyService]
      exact hwrites.before.capabilities

end Acting

/-! ### Confirmation of a boot -/

section Confirmation

variable {config : FabricConfig} {fabric : Fabric} {op : Op} {commit : Commit}
  {moments : List Moment} {name : TargetName} {slot : CapabilitySlot}

theorem Fabric.Moves.capabilities {move : Move} {decision : RecoveryDecision}
    (h : fabric.Moves move decision commit) :
    commit.after.capabilities = commit.before.capabilities := by
  cases h with
  | intro _ _ _ _ _ _ _ =>
    simp only [Move.update, State.capabilities_remember, State.capabilities_bump,
      State.capabilities_bumpAll]

theorem Fabric.Ingested.capabilities {change : Change} {update : State → State} {state : State}
    (h : fabric.Ingested op change update)
    (hfind : (update state).capabilities.find? name = some slot) :
    state.capabilities.find? name = some slot ∨
      ∃ evidence stamp, op = .ingestCapability evidence ∧
        slot.evidence = vouched evidence stamp := by
  cases h with
  | enrolled | serviceRegistered | targetRegistered | topologySet | policySet => exact Or.inl hfind
  | withdrawn => exact Or.inl (by simpa using hfind)
  | @retired target =>
    have hfind : (state.capabilities.erase target).find? name = some slot := hfind
    rw [OrderedMap.find?_erase] at hfind
    split at hfind
    · cases hfind
    · exact Or.inl hfind
  | @capability evidence record stamp _ hrecord =>
    have hfind : (state.capabilities.insert evidence.target
        { evidence := record, requiresReconfirmation := false }).find? name = some slot := hfind
    rw [OrderedMap.find?_insert] at hfind
    split at hfind
    · obtain rfl := Option.some.inj hfind
      exact Or.inr ⟨evidence, stamp, rfl, hrecord⟩
    · exact Or.inl hfind
  | failure =>
    rw [State.capabilities_retainFailure] at hfind
    exact Or.inl hfind
  | suspicion =>
    rw [State.capabilities_bump, State.capabilities_modifyService,
      State.capabilities_retainFailure] at hfind
    exact Or.inl hfind
  | dependency _ hupdate =>
    obtain ⟨stats, hstate⟩ := hupdate state
    rw [hstate] at hfind
    exact Or.inl hfind

/-- A slot is filled by an ingestion, and by nothing else. -/
theorem Fabric.Caused.capabilities (h : fabric.Caused op commit)
    (hfind : commit.after.capabilities.find? name = some slot) :
    commit.before.capabilities.find? name = some slot ∨
      ∃ evidence stamp, op = .ingestCapability evidence ∧
        slot.evidence = vouched evidence stamp := by
  have hsame (hsame : commit.after.capabilities = commit.before.capabilities) :
      commit.before.capabilities.find? name = some slot := hsame ▸ hfind
  cases h with
  | ingested hop hok hwrites =>
    rw [hwrites.after] at hfind
    exact (ingested_of_ok hop hok).capabilities hfind
  | moved _ _ _ hmoves => exact Or.inl (hsame hmoves.capabilities)
  | denied _ _ _ hwrites => exact Or.inl (hsame (by rw [hwrites.after]; rfl))
  | confirmed _ _ _ hwrites => exact Or.inl (hsame (by rw [hwrites.after]; simp [promotedState]))
  | acknowledged _ _ hwrites => exact Or.inl (hsame (by rw [hwrites.after]; rfl))
  | reported _ _ _ _ hwrites =>
    exact Or.inl (hsame (by rw [hwrites.after, State.capabilities_bumpAll]; rfl))

/-- The slot was filled by one of the calls. -/
def Confirmed (moments : List Moment) (slot : CapabilitySlot) : Prop :=
  ∃ moment ∈ moments, ∃ evidence stamp, moment.event.op = .ingestCapability evidence ∧
    slot.evidence = vouched evidence stamp

theorem Confirmed.mono {earlier later : List Moment} (h : Confirmed earlier slot)
    (hsubset : earlier ⊆ later) : Confirmed later slot := by
  obtain ⟨moment, hmoment, hslot⟩ := h
  exact ⟨moment, hsubset hmoment, hslot⟩

/-- Slots that need no confirmation were filled by calls, or need one. -/
def Vouches (moments : List Moment) (state : State) : Prop :=
  ∀ name slot, state.capabilities.find? name = some slot → slot.requiresReconfirmation = false →
    Confirmed moments slot

theorem vouches_opens {state : State} (h : Fabric.Opens config state) : Vouches [] state := by
  intro name slot hfind hconfirmed
  cases h with
  | fresh hkeeps =>
    rw [hkeeps.capabilities] at hfind
    cases hfind
  | @restarted old _ _ hkeeps =>
    rw [hkeeps.capabilities] at hfind
    have hfind : (old.capabilities.mapValues fun slot =>
        { slot with requiresReconfirmation := true }).find? name = some slot := hfind
    rw [OrderedMap.find?_mapValues] at hfind
    obtain ⟨earlier, -, rfl⟩ := Option.map_eq_some_iff.mp hfind
    cases hconfirmed

theorem Vouches.keeps {state state' : State} (h : Vouches moments state)
    (hkeeps : State.Keeps config state state') : Vouches moments state' := by
  intro name slot hfind hconfirmed
  rw [hkeeps.capabilities] at hfind
  exact h name slot hfind hconfirmed

/-- Only an ingestion, which is a call of its own, fills a slot. -/
theorem Fabric.Performs.caused {commits : List Commit} (h : fabric.Performs op commits)
    (hcommit : commit ∈ commits) : ∃ actor op', Fabric.Caused actor op' commit ∧
      ∀ evidence, op' = .ingestCapability evidence → op = op' := by
  cases h with
  | nothing => cases hcommit
  | once hcaused =>
    obtain rfl := List.mem_singleton.mp hcommit
    exact ⟨fabric, op, hcaused, fun _ _ => rfl⟩
  | @twice resolution first second middle _ _ hfirst _ _ _ hsecond =>
    rcases List.mem_cons.mp hcommit with rfl | hcommit
    · exact ⟨fabric, op, hfirst, fun _ _ => rfl⟩
    · obtain rfl := List.mem_singleton.mp hcommit
      exact ⟨middle, _, hsecond, fun _ heq => by cases heq⟩

theorem Vouches.passes {state state' : State} {commits : List Commit} {moment : Moment}
    (h : Vouches (moments ++ [moment]) state)
    (hpasses : State.Passes config state commits state')
    (hcaused : ∀ commit ∈ commits, ∃ actor op', Fabric.Caused actor op' commit ∧
      ∀ evidence, op' = .ingestCapability evidence → moment.event.op = op') :
    Vouches (moments ++ [moment]) state' := by
  induction hpasses with
  | keeps hkeeps => exact h.keeps hkeeps
  | @commit state state' commit commits hbefore _ ih =>
    refine ih ?_ fun commit hcommit => hcaused commit (List.mem_cons_of_mem _ hcommit)
    intro name slot hfind hconfirmed
    obtain ⟨actor, op', hcaused, hop⟩ := hcaused commit List.mem_cons_self
    rcases hcaused.capabilities hfind with hfind | ⟨evidence, stamp, rfl, hslot⟩
    · exact h.keeps hbefore name slot hfind hconfirmed
    · exact ⟨moment, by simp, evidence, stamp, hop evidence rfl, hslot⟩

/-- In an open runtime, a slot that needs no confirmation was filled in this boot. -/
theorem Fabric.Run.vouches (h : Fabric.Run config moments fabric) (hopened : fabric.opened = true) :
    ∃ later, Fabric.SinceOpen moments later ∧ Vouches later fabric.state := by
  obtain ⟨later, hlater, hvouches⟩ :=
    h.boot_invariant (P := fun moments fabric => Vouches moments fabric.state) hopened
      (fun _ _ hopens => vouches_opens hopens)
      fun {_ later fabric op} _ _ hopened hclose hvouches => by
        obtain ⟨-, -, commits, hpasses, hperforms, -⟩ := Fabric.call_passes hopened hclose
        refine Vouches.passes ?_ hpasses fun commit hcommit => ?_
        · exact fun name slot hfind hconfirmed =>
            (hvouches name slot hfind hconfirmed).mono (List.subset_append_left _ _)
        · obtain ⟨actor, op', hcaused, hop⟩ := hperforms.caused hcommit
          exact ⟨actor, op', hcaused, hop⟩
  exact ⟨later, hlater, hvouches⟩

end Confirmation

/-! ### Admissible moves -/

/-- The destination may take the service over: it is registered at that incarnation, in the
scope of the service, behind no witness, and vouched for in this boot. -/
structure Admissible (moments : List Moment) (state : State) (service : ServiceName)
    (destination : TargetRef) (runtime : ServiceRuntime) (record : TargetRecord)
    (slot : CapabilitySlot) : Prop where
  registered : state.services.find? service = some runtime
  target : state.targets.find? destination.target = some record
  incarnation : record.incarnation = destination.incarnation
  scope : record.scope = runtime.descriptor.scope
  unfenced : ∀ witness ∈ state.witnessOf service destination.target,
    witness.incarnation < destination.incarnation
  supported : state.capabilities.find? destination.target = some slot
  confirmed : slot.requiresReconfirmation = false ∧
    ∃ later, Fabric.SinceOpen moments later ∧ Confirmed later slot
  current : slot.evidence.topologyGeneration = state.topologyGeneration ∧
    slot.evidence.incarnation = destination.incarnation
  covers : slot.evidence.capabilities.containsAll runtime.descriptor.requiredCapabilities

/-- The target that a failback returns to lies in the scope of the service and behind no
witness. Nothing in a failback checks this. -/
def Returnable (state : State) (request : FailbackRequest) : Prop :=
  ∀ runtime original record, state.services.find? request.service = some runtime →
    runtime.preFailoverTarget = some original →
    state.targets.find? original.target = some record →
    record.scope = runtime.descriptor.scope ∧
      ∀ witness ∈ state.witnessOf request.service original.target,
        witness.incarnation < record.incarnation

section Admissible

variable {config : FabricConfig} {moments : List Moment} {fabric actor : Fabric} {op op' : Op}
  {decision : RecoveryDecision}

/-- Where the intent of a commit leads. -/
theorem Fabric.Moves.leads {move : Move} {commit : Commit}
    (h : fabric.Moves move decision commit) : ∃ intent, decision.intent = some intent ∧
      intent.service = move.service ∧ intent.toTarget = move.destination := by
  cases h with
  | intro _ _ _ _ _ _ hintent => exact ⟨_, hintent, rfl, rfl⟩

/-- The runtime that whoever acts finds, as the call found it. -/
theorem Fabric.Acts.service (h : fabric.Acts op actor op') {service : ServiceName}
    {runtime : ServiceRuntime} (hfind : actor.state.services.find? service = some runtime) :
    ∃ found, fabric.state.services.find? service = some found ∧ found.hard = runtime.hard := by
  have hsame := congrArg (fun core => core.services.find? service) h.same.1
  simp only [State.core_service, hfind, Option.map_some] at hsame
  obtain ⟨found, hfound, hhard⟩ := Option.map_eq_some_iff.mp hsame.symm
  exact ⟨found, hfound, hhard⟩

theorem descriptor_of_hard {found runtime : ServiceRuntime} (h : found.hard = runtime.hard) :
    found.descriptor = runtime.descriptor := by
  have hdescriptor := congrArg ServiceRuntime.descriptor h
  exact hdescriptor

/-- A target that passed the evaluation is admissible. -/
theorem admissible_of_eligible (hrun : Fabric.Run config moments fabric)
    (hopened : fabric.opened = true) {service : ServiceName} {runtime found : ServiceRuntime}
    {record : TargetRecord} {name : TargetName}
    (hfind : fabric.state.services.find? service = some found)
    (hsame : found.hard = runtime.hard)
    (htarget : fabric.state.targets.find? name = some record)
    (heligible : Eligible fabric.state runtime record) :
    ∃ runtime target slot, Admissible moments fabric.state service
      { target := record.name, incarnation := record.incarnation } runtime target slot := by
  have hname : found.descriptor.name = service := hrun.sound.service_name hfind
  have hrecord : record.name = name := (hrun.sound.targets name record htarget).1
  have hdescriptor := descriptor_of_hard hsame
  obtain ⟨later, hlater, hvouches⟩ := hrun.vouches hopened
  obtain ⟨slot, hslot, hconfirmed, htopology, hincarnation, hcovers⟩ := heligible.capability
  refine ⟨found, record, slot, hfind, by rw [hrecord]; exact htarget, rfl, ?_, ?_, hslot,
    ⟨hconfirmed, later, hlater, hvouches _ slot hslot hconfirmed⟩, ⟨htopology, hincarnation⟩, ?_⟩
  · rw [hdescriptor]
    exact heligible.scope
  · rw [← hname, hdescriptor]
    exact heligible.unfenced
  · rw [hdescriptor]
    exact hcovers

theorem Eligible.congr {state state' : State} {runtime : ServiceRuntime} {record : TargetRecord}
    (h : Eligible state' runtime record) (hcore : state'.core = state.core)
    (hcapabilities : state'.capabilities = state.capabilities) :
    Eligible state runtime record := by
  have hwitnesses : state'.witnesses = state.witnesses := congrArg Core.witnesses hcore
  have htopology : state'.topologyGeneration = state.topologyGeneration :=
    congrArg Core.topologyGeneration hcore
  refine ⟨h.scope, ?_, ?_⟩
  · have hunfenced := h.unfenced
    unfold State.witnessOf at hunfenced ⊢
    rw [← hwitnesses]
    exact hunfenced
  · rw [← hcapabilities, ← htopology]
    exact h.capability

/-- Of all accepted moves only a failback may lead to a target that is not admissible, and
it does exactly when the target it returns to is out of scope or behind a witness. -/
theorem admissible_iff (hrun : Fabric.Run config moments fabric)
    (h : fabric.Accepts op decision) (hop : op.moves = true) :
    ∃ intent, decision.intent = some intent ∧
      ((∃ runtime record slot, Admissible moments fabric.state intent.service intent.toTarget
          runtime record slot) ↔
        ∀ request, op = .requestFailback request → Returnable fabric.state request) := by
  obtain ⟨hopened, _, hrelocates⟩ := h.relocates hop
  obtain @⟨actor, op', service, check, runtime, qualified, promotions, commit, -, hacts, hmoving,
    hfind, hok, hmoves⟩ := hrelocates
  obtain ⟨intent, hintent, hservice, hdestination⟩ := hmoves.leads
  refine ⟨intent, hintent, ?_⟩
  obtain ⟨hcore, hcapabilities⟩ := hacts.same
  have htargets : actor.state.targets = fabric.state.targets := congrArg Core.targets hcore
  obtain ⟨found, hfound, hhard⟩ := hacts.service hfind
  -- A candidate that was evaluated is admissible, whoever evaluated it.
  have hevaluated (name : TargetName) (hmoved : qualified.move.service = service)
      (htarget : actor.state.targets.find? name = some qualified.move.target)
      (heligible : Eligible actor.state runtime qualified.move.target) :
      ∃ runtime record slot, Admissible moments fabric.state intent.service intent.toTarget
        runtime record slot := by
    rw [hservice, hdestination, hmoved]
    rw [htargets] at htarget
    exact admissible_of_eligible hrun hopened hfound hhard htarget
      (heligible.congr hcore hcapabilities)
  have hdirect (request : FailbackRequest) (heq : op = .requestFailback request) :
      op' = .requestFailback request := by
    cases hacts with
    | direct => exact heq
    | confirmed => cases heq
  cases op' with
  | establishPlacement request =>
    cases hmoving
    obtain ⟨-, -, -, target, htarget, heligible, -, hmove⟩ := Fabric.checkPlacement_ok hok
    refine ⟨fun _ request heq => (by cases hdirect request heq), fun _ => ?_⟩
    refine hevaluated request.target ?_ ?_ ?_ <;> rw [hmove]
    · exact htarget
    · exact eligible_of_evaluateCandidate heligible
  | requestFailover request =>
    cases hmoving
    obtain ⟨-, -, -, -, -, -, evidence, target, -, hchosen, hmove⟩ := Fabric.checkFailover_ok hok
    obtain ⟨heligible, name, htarget, -, -⟩ := selectFallback_ok hchosen
    refine ⟨fun _ request heq => (by cases hdirect request heq), fun _ => ?_⟩
    refine hevaluated name ?_ ?_ ?_ <;> rw [hmove]
    · exact htarget
    · exact eligible_of_evaluateCandidate heligible
  | resumeRecovery request =>
    cases hmoving
    obtain ⟨-, -, -, previous, target, -, htarget, -, heligible, hmove⟩ := Fabric.checkResume_ok hok
    refine ⟨fun _ request heq => (by cases hdirect request heq), fun _ => ?_⟩
    refine hevaluated previous.toTarget.target ?_ ?_ ?_ <;> rw [hmove]
    · exact htarget
    · exact eligible_of_evaluateCandidate heligible
  | requestFailback request =>
    cases hmoving
    obtain ⟨-, -, -, -, original, record, slot, horiginal, hrecord, -, hslot, hconfirmed, htopology,
      hincarnation, hcovers, hmove⟩ := Fabric.checkFailback_ok hok
    cases hacts with
    | direct =>
      have hname : record.name = original.target := (hrun.sound.targets _ _ hrecord).1
      have hown : runtime.descriptor.name = request.service := hrun.sound.service_name hfind
      rw [hservice, hdestination, hmove]
      constructor
      · rintro ⟨found, target, slot', hadmissible⟩ request' heq runtime' original' record' hfind'
          horiginal' hrecord'
        cases heq
        obtain rfl := Option.some.inj (hfind.symm.trans hfind')
        obtain rfl := Option.some.inj (horiginal.symm.trans horiginal')
        obtain rfl := Option.some.inj (hrecord.symm.trans hrecord')
        obtain rfl := Option.some.inj (hfind.symm.trans hadmissible.registered)
        have htarget := hadmissible.target
        have hunfenced := hadmissible.unfenced
        rw [Move.destination, hname] at htarget hunfenced
        obtain rfl := Option.some.inj (hrecord.symm.trans htarget)
        exact ⟨hadmissible.scope, hunfenced⟩
      · intro hreturnable
        obtain ⟨hscope, hunfenced⟩ :=
          hreturnable request rfl runtime original record hfind horiginal
          hrecord
        refine admissible_of_eligible hrun hopened hfound hhard hrecord ⟨hscope, ?_, slot, ?_,
          hconfirmed, htopology, hincarnation, hcovers⟩
        · rw [hname, hown]
          exact hunfenced
        · rw [hname]
          exact hslot
  | _ => cases hmoving

/-- The call that places a service. -/
theorem admissible_iff_placed : ∃ decision,
    (Fleet.running (Fleet.opening ++ Fleet.adopt Fleet.primary 1)).Accepts
      (Fleet.place 1 Fleet.primary) decision ∧
    ∃ intent, decision.intent = some intent ∧ ∃ runtime record slot,
      Admissible ((Fabric.create {} {}).momentsOf (Fleet.opening ++ Fleet.adopt Fleet.primary 1))
        (Fleet.running (Fleet.opening ++ Fleet.adopt Fleet.primary 1)).state intent.service
        intent.toTarget runtime record slot := by
  have haccepted : (Fleet.running (Fleet.opening ++ Fleet.adopt Fleet.primary 1)).accepted
      (Fleet.place 1 Fleet.primary) = true := by
    simp only [Fleet.running, Fabric.after_eq_drafted, Fabric.accepted, Fabric.call_eq_drafted]
    decide +kernel
  obtain ⟨decision, haccepts⟩ := Fabric.exists_accepts_of_accepted haccepted
  obtain ⟨intent, hintent, hiff⟩ := admissible_iff (Fleet.run_running _) haccepts rfl
  exact ⟨decision, haccepts, intent, hintent, hiff.mpr fun _ heq => by cases heq⟩

/-- The first target is adopted anew in another scope. -/
def Fleet.abroad : Op :=
  .registerTarget
    { name := primary, host := ⟨[104], valid_host⟩, device := ⟨[100], valid_device⟩
      scope := ⟨[121], by decide⟩, incarnation := (booted primary 2).incarnation } operator

/-- The calls after which a failback leads abroad. -/
def Fleet.movedAbroad : List Op :=
  failedOver ++ [abroad, support (booted primary 2) 2]

/-- A failback is accepted although the scope of its destination is not that of the service. -/
theorem not_admissible_failback : ∃ decision intent,
    (Fleet.running Fleet.movedAbroad).Accepts (Fleet.goBack 3 Fleet.primary Fleet.operator)
      decision ∧
    decision.intent = some intent ∧ ¬∃ runtime record slot,
      Admissible ((Fabric.create {} {}).momentsOf Fleet.movedAbroad)
        (Fleet.running Fleet.movedAbroad).state intent.service intent.toTarget runtime record
        slot := by
  have hemits : ((Fleet.running Fleet.movedAbroad).emits
      (Fleet.goBack 3 Fleet.primary Fleet.operator)).map
        (fun intent => (intent.service, intent.toTarget)) =
      some (Fleet.service, Fleet.booted Fleet.primary 2) := by
    simp only [Fleet.running, Fabric.after_eq_drafted, Fabric.emits, Fabric.call_eq_drafted]
    decide +kernel
  have hscopes : ((Fleet.running Fleet.movedAbroad).state.services.find? Fleet.service).map
        (fun runtime => runtime.descriptor.scope) = some ⟨[122], by decide⟩ ∧
      ((Fleet.running Fleet.movedAbroad).state.targets.find? Fleet.primary).map
        (fun record => record.scope) = some ⟨[121], by decide⟩ := by
    simp only [Fleet.running, Fabric.after_eq_drafted]
    decide +kernel
  obtain ⟨decision, intent, haccepts, hintent, hleads⟩ := Fabric.exists_accepts_of_emits hemits
  obtain ⟨hservice, hdestination⟩ := Prod.mk.inj hleads
  refine ⟨decision, intent, haccepts, hintent, ?_⟩
  rintro ⟨runtime, record, slot, hadmissible⟩
  have hruntime := hadmissible.registered
  have hrecord := hadmissible.target
  rw [hservice] at hruntime
  rw [hdestination] at hrecord
  have hscope := hadmissible.scope
  rw [hruntime, Option.map_some] at hscopes
  have hhome := Option.some.inj hscopes.1
  have hthere : record.scope = ⟨[121], by decide⟩ := by
    have hfound := hscopes.2
    rw [show Fleet.primary = (Fleet.booted Fleet.primary 2).target from rfl, hrecord] at hfound
    exact Option.some.inj hfound
  rw [hhome, hthere] at hscope
  exact absurd hscope (by decide)

end Admissible

end OffloadFabric
