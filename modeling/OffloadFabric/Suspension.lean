import OffloadFabric.Refusals
import OffloadFabric.Transitions

/-!
What a pending ambiguity suspends. A suspicion takes back every claim of its service, and what
ends it is a resolution or a move. Acknowledgements and effect reports do not look at it: they
rewrite the phase of a service that is held up. In a run in which none of them is recorded
while the ambiguity of the service is pending, the service makes no claim until it ends.
-/
namespace OffloadFabric

open Fabric (Op Moment)

/-- The recovery waits for an operator, and nothing is claimed meanwhile. -/
structure ServiceRuntime.HeldUp (runtime : ServiceRuntime) : Prop where
  recovery : runtime.recovery = .ambiguityPending
  lifecycle : runtime.lifecycle = .recoveryPending
  unverified : runtime.effectVerified = false
  degraded : runtime.continuity ≠ .degraded
  full : runtime.continuity ≠ .full

/-- No activation is under way, and nothing is claimed. -/
structure ServiceRuntime.Silent (runtime : ServiceRuntime) : Prop where
  inactive : runtime.activationAccepted = false
  unverified : runtime.effectVerified = false
  degraded : runtime.continuity ≠ .degraded
  full : runtime.continuity ≠ .full

/-- Where a recovery that is held up can stand; a withdrawal ends it without a resolution. -/
def ServiceRuntime.Waits (runtime : ServiceRuntime) : Prop :=
  runtime.recovery = .ambiguityPending ∧ runtime.lifecycle = .recoveryPending ∨
    runtime.lifecycle = .withdrawn ∧
      (runtime.recovery = .ambiguityPending ∨ runtime.recovery = .none)

/-- A runtime whose ambiguity is pending is silent and waits. -/
def Suspended (runtime : ServiceRuntime) : Prop :=
  runtime.ambiguityPending = true → runtime.Silent ∧ runtime.Waits

/-- Nothing that is recorded in the call overrides a pending ambiguity of the service: not an
acknowledgement, and no effect but the arrival of its state. A healthy report is turned down
for want of an activation. -/
structure Fabric.Patient (fabric : Fabric) (service : ServiceName) (op : Op) : Prop where
  acknowledgement : ∀ ack runtime stamp, op = .acknowledgeIntent ack →
    fabric.state.services.find? service = some runtime → runtime.currentAttempt = ack.attempt →
    runtime.ambiguityPending = true → fabric.checkAcknowledgement ack runtime ≠ .ok stamp
  effect : ∀ report runtime, op = .reportEffect report → report.service = service →
    fabric.state.services.find? service = some runtime → runtime.ambiguityPending = true →
    fabric.checkReport report runtime = .ok () → Fabric.alreadySeen report runtime = false →
    report.result = .positive ∧
      (report.kind = .stateTransferComplete ∨ report.kind = .serviceHealthy)

section Steps

variable {config : FabricConfig} {fabric caller actor : Fabric} {op op' : Op}
  {service : ServiceName} {found next runtime : ServiceRuntime}

theorem Suspended.of_settled (h : runtime.ambiguityPending = false) : Suspended runtime := by
  intro hpending
  rw [h] at hpending
  cases hpending

theorem Suspended.heldUp (h : Suspended runtime) (hpending : runtime.ambiguityPending = true)
    (hlifecycle : runtime.lifecycle ≠ .withdrawn) : runtime.HeldUp := by
  obtain ⟨hsilent, hwaits⟩ := h hpending
  rcases hwaits with ⟨hrecovery, hwaiting⟩ | ⟨hwithdrawn, -⟩
  · exact ⟨hrecovery, hwaiting, hsilent.unverified, hsilent.degraded, hsilent.full⟩
  · exact absurd hwithdrawn hlifecycle

/-- A suspicion takes back every claim. -/
theorem suspended_suspend (runtime : ServiceRuntime) (id : EvidenceId) :
    Suspended (runtime.suspend id) :=
  fun _ => ⟨⟨rfl, rfl, nofun, nofun⟩, .inl ⟨rfl, rfl⟩⟩

theorem suspended_withdraw (h : Suspended runtime) (stamp : LogicalTick) :
    Suspended (runtime.withdraw stamp) := by
  intro hpending
  obtain ⟨hsilent, -⟩ := h hpending
  exact ⟨⟨hsilent.inactive, hsilent.unverified, nofun, nofun⟩, .inr ⟨rfl, .inr rfl⟩⟩

theorem remarkable_suspended (service : ServiceName) : Remarkable service Suspended := by
  intro state runtime remark _ _ h
  cases remark with
  | suspension id => exact suspended_suspend runtime id
  | nothing | reason | returned =>
    intro hpending
    obtain ⟨hsilent, hwaits⟩ := h hpending
    exact ⟨⟨hsilent.inactive, hsilent.unverified, hsilent.degraded, hsilent.full⟩, hwaits⟩

/-- A move leaves nothing pending. -/
theorem Move.ambiguityPending_nextRuntime (move : Move) (grant : Grant) (config : FabricConfig)
    (state : State) : (move.nextRuntime grant config state).ambiguityPending = false := by
  have hdeparted (runtime : ServiceRuntime) :
      (move.departed state runtime).ambiguityPending = runtime.ambiguityPending := by
    unfold Move.departed
    split <;> rfl
  have hsettled (runtime : ServiceRuntime) :
      (move.settled runtime).ambiguityPending = runtime.ambiguityPending := by
    unfold Move.settled
    split <;> rfl
  rw [Move.nextRuntime, hsettled, hdeparted]

/-- What an effect leaves of a service that is held up, if it may be recorded at all. -/
theorem Fabric.Effects.suspended {report : EffectReport} {stamp : LogicalTick}
    (h : fabric.Effects report found stamp next) (hfound : Suspended found)
    (hpatient : found.ambiguityPending = true → report.result = .positive ∧
      (report.kind = .stateTransferComplete ∨ report.kind = .serviceHealthy)) :
    Suspended next := by
  by_cases hpending : found.ambiguityPending = true
  · obtain ⟨hpositive, hkind⟩ := hpatient hpending
    obtain ⟨hsilent, hwaits⟩ := hfound hpending
    cases h with
    | negative hnegative =>
      rw [hpositive] at hnegative
      cases hnegative
    | activated _ hactivation => simp [hactivation] at hkind
    | deactivated _ hdeactivation => simp [hdeactivation] at hkind
    | transferred =>
      exact fun _ =>
        ⟨⟨hsilent.inactive, hsilent.unverified, hsilent.degraded, hsilent.full⟩, hwaits⟩
    | healthy _ _ hactivated =>
      rw [hsilent.inactive] at hactivated
      cases hactivated
  · have hsettled : found.ambiguityPending = false := eq_false_of_ne_true hpending
    cases h <;> exact .of_settled hsettled

theorem Fabric.Turns.suspended (h : fabric.Turns service op found next)
    (hfind : fabric.state.services.find? service = some found) (hfound : Suspended found)
    (hpatient : fabric.Patient service op) : Suspended next := by
  cases h with
  | moved => exact .of_settled (Move.ambiguityPending_nextRuntime _ _ _ _)
  | denied => exact .of_settled rfl
  | @acknowledged ack _ stamp hattempt hcheck =>
    have hsettled : found.ambiguityPending = false := by
      by_contra hpending
      exact hpatient.acknowledgement ack found stamp rfl hfind hattempt
        (eq_true_of_ne_false hpending) hcheck
    refine .of_settled ?_
    unfold Fabric.acknowledgedRuntime
    split <;> exact hsettled
  | reported hservice hreport hseen hcheck =>
    obtain ⟨-, -, happly⟩ := Fabric.checkEffect_ok hcheck
    exact (Fabric.applyEffect_ok happly).suspended hfound fun hpending =>
      hpatient.effect _ found rfl hservice hfind hpending hreport hseen

theorem Fabric.Alters.suspended (h : fabric.Alters service op found next)
    (hfound : Suspended found) : Suspended next := by
  cases h with
  | withdrawn stamp => exact suspended_withdraw hfound stamp
  | suspected id =>
    obtain ⟨⟨hinactive, hunverified, hdegraded, hfull⟩, hwaits⟩ := suspended_suspend found id rfl
    exact fun _ => ⟨⟨hinactive, hunverified, hdegraded, hfull⟩, hwaits⟩
  | confirmed => exact .of_settled rfl

/-- Only the call itself can be an acknowledgement or a report. -/
theorem Fabric.Patient.acting (h : caller.Patient service op) (hacts : caller.Acts op actor op') :
    actor.Patient service op' := by
  cases hacts with
  | direct => exact h
  | confirmed =>
    constructor
    · intro ack runtime stamp hop
      cases hop
    · intro report runtime hop
      cases hop

theorem Fabric.Patient.steady (h : fabric.Patient service op) :
    fabric.Steady service Suspended op where
  registered _ _ _ := .of_settled rfl
  turned _ _ hfind hturns hfound := hturns.suspended hfind hfound h
  altered _ _ halters hfound := halters.suspended hfound

/-- A restart leaves what is held up where it is. -/
theorem suspended_downgraded (h : Suspended runtime) : Suspended (downgradedRuntime runtime) := by
  by_cases hpending : runtime.ambiguityPending = true
  · obtain ⟨-, hwaits⟩ := h hpending
    intro _
    unfold downgradedRuntime
    dsimp only
    rcases hwaits with ⟨hrecovery, -⟩ | ⟨hwithdrawn, hrecovery | hrecovery⟩
    · rw [if_neg (by simp [hrecovery, RecoveryPhase.interrupted]), if_pos hrecovery]
      exact ⟨⟨rfl, rfl, nofun, nofun⟩, .inl ⟨hrecovery, rfl⟩⟩
    · rw [if_neg (by simp [hrecovery, RecoveryPhase.interrupted]), if_pos hrecovery]
      exact ⟨⟨rfl, rfl, nofun, nofun⟩, .inl ⟨hrecovery, rfl⟩⟩
    · rw [if_neg (by simp [hrecovery, RecoveryPhase.interrupted]), if_neg (by simp [hrecovery])]
      exact ⟨⟨rfl, rfl, nofun, nofun⟩, .inr ⟨hwithdrawn, .inr hrecovery⟩⟩
  · refine .of_settled ?_
    unfold downgradedRuntime
    dsimp only
    split
    · exact eq_false_of_ne_true hpending
    split <;> exact eq_false_of_ne_true hpending

/-- A replayed withdrawal only rewrites the lifecycle. -/
theorem suspended_withdrawn (h : Suspended runtime) :
    Suspended { runtime with lifecycle := .withdrawn } := by
  intro hpending
  obtain ⟨hsilent, hwaits⟩ := h hpending
  refine ⟨⟨hsilent.inactive, hsilent.unverified, hsilent.degraded, hsilent.full⟩, .inr ⟨rfl, ?_⟩⟩
  rcases hwaits with ⟨hrecovery, -⟩ | ⟨-, hrecovery⟩
  · exact .inl hrecovery
  · exact hrecovery

theorem preserved_suspended (config : FabricConfig) (service : ServiceName) :
    Preserved config (fun caller op => caller.Patient service op)
      fun _ state => state.Each service Suspended :=
  preserved_each (remarkable_suspended service)
    (fun _ _ _ _ hpatient hacts _ _ => (hpatient.acting hacts).steady)
    (fun _ => .of_settled rfl) (fun _ => suspended_withdrawn) fun _ => suspended_downgraded

end Steps

/-! ### Runs -/

/-- In every run that overrides no pending ambiguity of the service, the service is held up for
as long as one is pending and it is not withdrawn. -/
theorem ambiguity_suspends {config : FabricConfig} {moments : List Moment} {fabric : Fabric}
    {service : ServiceName} {runtime : ServiceRuntime} (hrun : Fabric.Run config moments fabric)
    (hpatient : ∀ moment ∈ moments, moment.before.Patient service moment.event.op)
    (hfind : fabric.state.services.find? service = some runtime)
    (hpending : runtime.ambiguityPending = true) (hlifecycle : runtime.lifecycle ≠ .withdrawn) :
    runtime.HeldUp := by
  have hsuspended := hrun.each (remarkable_suspended service)
    (preserved_suspended config service) fun moment hmoment => by
      obtain ⟨hack, heffect⟩ := hpatient moment hmoment
      exact ⟨hack, heffect⟩
  exact (hsuspended runtime hfind).heldUp hpending hlifecycle

/-! ### A suspicion of the small fleet -/

/-- Calls that never override a pending ambiguity. -/
def Fabric.Op.deferential : Op → Bool
  | .acknowledgeIntent _ => false
  | .reportEffect report => report.result = .positive ∧ report.kind = .stateTransferComplete
  | _ => true

theorem Fabric.Patient.of_deferential {op : Op} (h : op.deferential = true) (fabric : Fabric)
    (service : ServiceName) : fabric.Patient service op := by
  constructor
  · intro ack runtime stamp hop
    rw [hop] at h
    cases h
  · intro report runtime hop _ _ _ _ _
    rw [hop] at h
    obtain ⟨hpositive, hkind⟩ := of_decide_eq_true h
    exact ⟨hpositive, .inl hkind⟩

namespace Fleet

/-- The first target is suspected while the state of the service is on its way. -/
def suspectedInTransit : List Op :=
  placed ++ [reportFailure 1 .ambiguous, effect .stateTransferComplete]

/-- The suspected target is activated and found healthy before anybody settles the suspicion. -/
def provenHealthy : List Op :=
  placed ++ [reportFailure 1 .ambiguous, effect .activationAccepted, effect .serviceHealthy]

end Fleet

theorem ambiguity_suspends_in_transit : ∃ runtime,
    (Fleet.running Fleet.suspectedInTransit).state.services.find? Fleet.service = some runtime ∧
    runtime.ambiguityPending = true ∧ runtime.HeldUp := by
  have hfacts : ((Fleet.running Fleet.suspectedInTransit).state.services.find? Fleet.service).map
      (fun runtime => (runtime.ambiguityPending, runtime.lifecycle)) =
        some (true, .recoveryPending) := by
    simp only [Fleet.running, Fabric.after_eq_drafted]
    decide +kernel
  have hdeferential : ∀ op ∈ Fleet.suspectedInTransit, op.deferential = true := by
    decide
  have hrun := Fleet.run_running Fleet.suspectedInTransit
  have hpatient : ∀ moment ∈ (Fabric.create {} {}).momentsOf Fleet.suspectedInTransit,
      moment.before.Patient Fleet.service moment.event.op :=
    Fabric.forall_momentsOf (P := fun fabric op => fabric.Patient Fleet.service op)
      fun op hop fabric => .of_deferential (hdeferential op hop) fabric _
  generalize Fleet.running Fleet.suspectedInTransit = fabric at hfacts hrun ⊢
  obtain ⟨runtime, hfind, hruntime⟩ := Option.map_eq_some_iff.mp hfacts
  obtain ⟨hpending, hlifecycle⟩ := Prod.mk.inj hruntime
  refine ⟨runtime, hfind, hpending, ambiguity_suspends hrun hpatient hfind hpending ?_⟩
  rw [hlifecycle]
  decide

/-- A service is verified and fully continued while its ambiguity is still pending. -/
theorem not_ambiguity_suspends : ∃ moments fabric runtime,
    Fabric.Run {} moments fabric ∧ fabric.state.services.find? Fleet.service = some runtime ∧
    runtime.ambiguityPending = true ∧ runtime.lifecycle ≠ .withdrawn ∧ ¬runtime.HeldUp := by
  have hfacts : ((Fleet.running Fleet.provenHealthy).state.services.find? Fleet.service).map
      (fun runtime => (runtime.ambiguityPending, runtime.lifecycle, runtime.recovery,
        runtime.effectVerified, runtime.continuity)) =
        some (true, .fallbackActive, .verified, true, .full) := by
    simp only [Fleet.running, Fabric.after_eq_drafted]
    decide +kernel
  obtain ⟨runtime, hfind, hruntime⟩ := Option.map_eq_some_iff.mp hfacts
  simp only [Prod.mk.injEq] at hruntime
  obtain ⟨hpending, hlifecycle, -, -, hfull⟩ := hruntime
  refine ⟨_, _, runtime, Fleet.run_running Fleet.provenHealthy, hfind, hpending, ?_, ?_⟩
  · rw [hlifecycle]
    decide
  · intro hheld
    exact hheld.full hfull

end OffloadFabric
