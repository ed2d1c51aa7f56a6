import OffloadFabric.Deliveries
import OffloadFabric.Refusals
import OffloadFabric.Survival
import OffloadFabric.Transitions

/-!
What a claim of continuity rests on. A service claims continuity only after an activation and
then a healthy report, and the full class of a stateful service only after its state arrived
before that. All of them were recorded since the last open, from reporters that may report, for
the attempt, the generation, the fence and the target that the service has now, and nothing has
taken them back since.
-/
namespace OffloadFabric

open Fabric (Op Moment)

/-- What a report has to name to count. -/
structure Standing where
  descriptor : ServiceDescriptor
  attempt : AttemptId
  generation : FailoverGeneration
  fence : FenceToken
  active : Option TargetRef

def ServiceRuntime.standing (runtime : ServiceRuntime) : Standing :=
  { descriptor := runtime.descriptor, attempt := runtime.currentAttempt
    generation := runtime.generation, fence := runtime.fence, active := runtime.active }

namespace Fabric.Moment

/-- The call records a positive report of the kind about the service as it stands; recording is
what advances the clock. -/
structure Records (moment : Moment) (service : ServiceName) (standing : Standing)
    (kind : EffectKind) (report : EffectReport) : Prop where
  event : ∃ reply, moment.event = .call (.reportEffect report) reply
  recorded : (moment.before.call (.reportEffect report)).2.state.tick ≠ moment.before.state.tick
  service : report.service = service
  kind : report.kind = kind
  positive : report.result = .positive
  reporter : moment.before.config.requireEnrolledEffectReporter →
    moment.before.state.roleSatisfies report.provenance.source .effectReporter
  epoch : report.provenance.epoch = moment.before.state.epoch
  boot : report.provenance.boot = moment.before.state.boot
  attempt : report.attempt = standing.attempt
  generation : report.generation = standing.generation
  fence : report.fence = standing.fence
  target : standing.active = some report.target

/-- The call finds the service as it stands, and the flag set. -/
def Finds (moment : Moment) (service : ServiceName) (standing : Standing)
    (flag : ServiceRuntime → Bool) : Prop :=
  ∃ runtime, moment.before.state.services.find? service = some runtime ∧
    runtime.standing = standing ∧ flag runtime = true

end Fabric.Moment

/-- A report has set the flag of the service, and every later call found it set. -/
def Shown (service : ServiceName) (standing : Standing) (kind : EffectKind)
    (flag : ServiceRuntime → Bool) (calls : List Moment) : Prop :=
  ∃ before moment after report, calls = before ++ moment :: after ∧
    moment.Records service standing kind report ∧
    (kind = .stateTransferComplete →
      standing.descriptor.lastKnownStateGeneration ≤ report.stateGeneration) ∧
    ∀ next ∈ after, next.Finds service standing flag

/-- The service was found healthy at the moment, after everything that its claim needs. -/
structure Verified (service : ServiceName) (standing : Standing) (continuity : ContinuityClass)
    (before : List Moment) (moment : Moment) (after : List Moment) : Prop where
  healthy : ∃ report, moment.Records service standing .serviceHealthy report
  upheld : ∀ next ∈ after, next.Finds service standing ServiceRuntime.effectVerified
  activated : Shown service standing .activationAccepted ServiceRuntime.activationAccepted before
  active : ∀ next ∈ moment :: after, next.Finds service standing ServiceRuntime.activationAccepted
  full : continuity = .full → standing.descriptor.statefulness = .stateless ∨
    Shown service standing .stateTransferComplete ServiceRuntime.stateTransferVerified before ∧
    ∀ next ∈ moment :: after, next.Finds service standing ServiceRuntime.stateTransferVerified
  degraded : continuity = .degraded → moment.before.state.policy.allowDegradedContinuity = true

/-- Everything that the service says of its verification was shown in these calls. -/
structure Honest (service : ServiceName) (calls : List Moment) (runtime : ServiceRuntime) :
    Prop where
  activation : runtime.activationAccepted = true →
    Shown service runtime.standing .activationAccepted ServiceRuntime.activationAccepted calls
  transfer : runtime.stateTransferVerified = true →
    Shown service runtime.standing .stateTransferComplete ServiceRuntime.stateTransferVerified calls
  effect : runtime.effectVerified = true → runtime.activationAccepted = true ∧
    ∃ before moment after, calls = before ++ moment :: after ∧
      Verified service runtime.standing runtime.continuity before moment after
  claim : runtime.continuity = .degraded ∨ runtime.continuity = .full →
    runtime.effectVerified = true ∧ runtime.recovery = .verified ∧
      runtime.lifecycle = .fallbackActive
  full : runtime.continuity = .full → runtime.descriptor.statefulness = .stateless ∨
    runtime.stateTransferVerified = true

/-- Nothing was shown of the service, and it claims nothing. -/
structure ServiceRuntime.Blank (runtime : ServiceRuntime) : Prop where
  activation : runtime.activationAccepted = false
  transfer : runtime.stateTransferVerified = false
  effect : runtime.effectVerified = false
  degraded : runtime.continuity ≠ .degraded
  full : runtime.continuity ≠ .full

section Steps

variable {config : FabricConfig} {fabric caller actor : Fabric} {op op' : Op} {moment : Moment}
  {service : ServiceName} {standing : Standing} {kind : EffectKind} {report : EffectReport}
  {flag : ServiceRuntime → Bool} {calls : List Moment} {found next runtime : ServiceRuntime}

/-! ### What a further call leaves of it -/

theorem Shown.extend (h : Shown service standing kind flag calls)
    (hfinds : moment.Finds service standing flag) :
    Shown service standing kind flag (calls ++ [moment]) := by
  obtain ⟨before, recorder, after, report, rfl, hrecords, hgeneration, hafter⟩ := h
  exact ⟨before, recorder, after ++ [moment], report, by simp, hrecords, hgeneration,
    List.forall_mem_append.mpr ⟨hafter, List.forall_mem_singleton.mpr hfinds⟩⟩

theorem Shown.recorded (h : moment.Records service standing kind report)
    (hgeneration : kind = .stateTransferComplete →
      standing.descriptor.lastKnownStateGeneration ≤ report.stateGeneration) :
    Shown service standing kind flag (calls ++ [moment]) :=
  ⟨calls, moment, [], report, rfl, h, hgeneration, fun _ hnext => by cases hnext⟩

theorem Verified.extend {continuity : ContinuityClass} {before after : List Moment}
    {healthy : Moment} (h : Verified service standing continuity before healthy after)
    (heffect : moment.Finds service standing ServiceRuntime.effectVerified)
    (hactivation : moment.Finds service standing ServiceRuntime.activationAccepted)
    (htransfer : continuity = .full → standing.descriptor.statefulness = .stateless ∨
      moment.Finds service standing ServiceRuntime.stateTransferVerified) :
    Verified service standing continuity before healthy (after ++ [moment]) where
  healthy := h.healthy
  upheld := List.forall_mem_append.mpr ⟨h.upheld, List.forall_mem_singleton.mpr heffect⟩
  activated := h.activated
  active := by
    rw [← List.cons_append]
    exact List.forall_mem_append.mpr ⟨h.active, List.forall_mem_singleton.mpr hactivation⟩
  full := by
    intro hfull
    rcases h.full hfull with hstateless | ⟨hshown, hupheld⟩
    · exact .inl hstateless
    rcases htransfer hfull with hstateless | hfinds
    · exact .inl hstateless
    rw [← List.cons_append]
    exact .inr ⟨hshown, List.forall_mem_append.mpr ⟨hupheld, List.forall_mem_singleton.mpr hfinds⟩⟩
  degraded := h.degraded

theorem Honest.extend (h : Honest service calls runtime)
    (hfind : moment.before.state.services.find? service = some runtime) :
    Honest service (calls ++ [moment]) runtime where
  activation hactivation := (h.activation hactivation).extend ⟨runtime, hfind, rfl, hactivation⟩
  transfer htransfer := (h.transfer htransfer).extend ⟨runtime, hfind, rfl, htransfer⟩
  effect := by
    intro heffect
    obtain ⟨hactivation, before, healthy, after, rfl, hverified⟩ := h.effect heffect
    exact ⟨hactivation, before, healthy, after ++ [moment], by simp,
      hverified.extend ⟨runtime, hfind, rfl, heffect⟩ ⟨runtime, hfind, rfl, hactivation⟩
        fun hfull => (h.full hfull).imp_right fun htransfer => ⟨runtime, hfind, rfl, htransfer⟩⟩
  claim := h.claim
  full := h.full

/-! ### What a commit leaves of it -/

theorem Honest.of_blank (h : runtime.Blank) : Honest service calls runtime where
  activation hactivation := by
    rw [h.activation] at hactivation
    cases hactivation
  transfer htransfer := by
    rw [h.transfer] at htransfer
    cases htransfer
  effect heffect := by
    rw [h.effect] at heffect
    cases heffect
  claim hclaim := hclaim.elim (absurd · h.degraded) (absurd · h.full)
  full hfull := absurd hfull h.full

/-- What was shown stays shown when the claim is given up. -/
theorem Honest.unclaimed (h : Honest service calls found)
    (hstanding : next.standing = found.standing)
    (hactivation : next.activationAccepted = found.activationAccepted)
    (htransfer : next.stateTransferVerified = found.stateTransferVerified)
    (heffect : next.effectVerified = found.effectVerified) (hcontinuity : next.continuity = .none) :
    Honest service calls next where
  activation := by
    rw [hactivation, hstanding]
    exact h.activation
  transfer := by
    rw [htransfer, hstanding]
    exact h.transfer
  effect := by
    rw [heffect, hactivation, hstanding, hcontinuity]
    intro hverified
    obtain ⟨hactive, before, healthy, after, hcalls, hverified⟩ := h.effect hverified
    refine ⟨hactive, before, healthy, after, hcalls, hverified.healthy, hverified.upheld,
      hverified.activated, hverified.active, ?_, ?_⟩
    · intro hclaim
      cases hclaim
    · intro hclaim
      cases hclaim
  claim := by simp [hcontinuity]
  full := by simp [hcontinuity]

theorem blank_invalidated (runtime : ServiceRuntime) : runtime.invalidateVerification.Blank := by
  refine ⟨rfl, rfl, rfl, ?_, ?_⟩
  · intro h
    cases h
  · intro h
    cases h

/-- A move starts over. -/
theorem Move.blank_nextRuntime (move : Move) (grant : Grant) (config : FabricConfig)
    (state : State) : (move.nextRuntime grant config state).Blank := by
  have hdeparted {runtime : ServiceRuntime} (h : runtime.Blank) :
      (move.departed state runtime).Blank := by
    unfold Move.departed
    split
    · exact ⟨h.activation, h.transfer, h.effect, h.degraded, h.full⟩
    · exact h
  have hsettled {runtime : ServiceRuntime} (h : runtime.Blank) : (move.settled runtime).Blank := by
    unfold Move.settled
    split
    · exact ⟨h.activation, h.transfer, h.effect, h.degraded, h.full⟩
    · exact h
  obtain ⟨hactivation, htransfer, heffect, hdegraded, hfull⟩ := blank_invalidated move.runtime
  exact hsettled (hdeparted ⟨hactivation, htransfer, heffect, hdegraded, hfull⟩)

theorem remarkable_honest (service : ServiceName) (calls : List Moment) :
    Remarkable service (Honest service calls) := by
  intro state runtime remark _ _ h
  cases remark with
  | suspension id =>
    obtain ⟨hactivation, htransfer, heffect, hdegraded, hfull⟩ := blank_invalidated runtime
    exact .of_blank ⟨hactivation, htransfer, heffect, hdegraded, hfull⟩
  | nothing | reason | returned =>
    exact ⟨h.activation, h.transfer, h.effect, h.claim, h.full⟩

/-- Nothing but a report shows anything of a service. -/
theorem steady_honest (hop : ∀ report, op ≠ .reportEffect report) :
    fabric.Steady service (Honest service calls) op where
  registered _ _ _ := by
    refine .of_blank ⟨rfl, rfl, rfl, ?_, ?_⟩
    · intro h
      cases h
    · intro h
      cases h
  turned := by
    intro found next _ hturns hfound
    cases hturns with
    | moved => exact .of_blank (Move.blank_nextRuntime _ _ _ _)
    | denied => exact hfound.unclaimed rfl rfl rfl rfl rfl
    | acknowledged =>
      unfold Fabric.acknowledgedRuntime
      dsimp only
      split
      · refine ⟨hfound.activation, hfound.transfer, hfound.effect, ?_, hfound.full⟩
        intro hclaim
        obtain ⟨heffect, hrecovery, hlifecycle⟩ := hfound.claim hclaim
        refine ⟨heffect, ?_, hlifecycle⟩
        simp [hrecovery]
      · obtain ⟨hactivation, htransfer, heffect, hdegraded, hfull⟩ := blank_invalidated found
        exact .of_blank ⟨hactivation, htransfer, heffect, hdegraded, hfull⟩
    | reported => exact absurd rfl (hop _)
  altered := by
    intro found next halters hfound
    cases halters with
    | withdrawn => exact hfound.unclaimed rfl rfl rfl rfl rfl
    | suspected id =>
      obtain ⟨hactivation, htransfer, heffect, hdegraded, hfull⟩ := blank_invalidated found
      exact .of_blank ⟨hactivation, htransfer, heffect, hdegraded, hfull⟩
    | confirmed =>
      exact ⟨hfound.activation, hfound.transfer, hfound.effect, hfound.claim, hfound.full⟩

/-! ### What a report shows -/

/-- What a recorded report leaves of the service that it is about. -/
theorem Fabric.Effects.honest {stamp : LogicalTick} (h : fabric.Effects report found stamp next)
    (hpolicy : fabric.state.policy = moment.before.state.policy)
    (hfind : moment.before.state.services.find? service = some found)
    (hfound : Honest service calls found)
    (hverified : found.recovery = .verified → report.kind = .serviceHealthy)
    (hrecords : report.result = .positive →
      moment.Records service found.standing report.kind report) :
    Honest service (calls ++ [moment]) next := by
  have hextended := hfound.extend hfind
  have hunclaimed (hkind : report.kind ≠ .serviceHealthy) :
      ¬(found.continuity = .degraded ∨ found.continuity = .full) :=
    fun hclaim => hkind (hverified (hfound.claim hclaim).2.1)
  cases h with
  | negative =>
    obtain ⟨hactivation, htransfer, heffect, hdegraded, hfull⟩ := blank_invalidated found
    exact .of_blank ⟨hactivation, htransfer, heffect, hdegraded, hfull⟩
  | activated hpositive hkind =>
    have hnone := hunclaimed (by simp [hkind])
    refine ⟨?_, hextended.transfer, ?_, (absurd · hnone), hextended.full⟩
    · intro _
      exact .recorded (hkind ▸ hrecords hpositive) fun h => by cases h
    · intro heffect
      exact ⟨rfl, (hextended.effect heffect).2⟩
  | deactivated hpositive hkind =>
    have hnone := hunclaimed (by simp [hkind])
    exact ⟨hextended.activation, hextended.transfer, hextended.effect, (absurd · hnone),
      hextended.full⟩
  | transferred hpositive hkind hgeneration =>
    refine ⟨hextended.activation, ?_, hextended.effect, hextended.claim, fun _ => .inr rfl⟩
    intro _
    exact .recorded (hkind ▸ hrecords hpositive) fun _ => hgeneration
  | healthy hpositive hkind hactivated =>
    -- The report itself is the healthy moment; what its claim needs was shown before.
    have hfull : (Fabric.continuityClaim fabric.state found).1 = .full →
        found.descriptor.statefulness = .stateless ∨ found.stateTransferVerified = true := by
      unfold Fabric.continuityClaim
      split
      · intro _
        assumption
      · split <;> simp
    have hdegraded : (Fabric.continuityClaim fabric.state found).1 = .degraded →
        fabric.state.policy.allowDegradedContinuity = true := by
      unfold Fabric.continuityClaim
      split
      · simp
      · split
        · intro _
          assumption
        · simp
    refine ⟨hextended.activation, hextended.transfer, ?_, fun _ => ⟨rfl, rfl, rfl⟩, hfull⟩
    intro _
    refine ⟨hactivated, calls, moment, [], rfl, ⟨report, hkind ▸ hrecords hpositive⟩, ?_,
      hfound.activation hactivated, ?_, ?_, ?_⟩
    · intro next hnext
      cases hnext
    · exact List.forall_mem_singleton.mpr ⟨found, hfind, rfl, hactivated⟩
    · intro hclaim
      rcases hfull hclaim with hstateless | htransfer
      · exact .inl hstateless
      · exact .inr ⟨hfound.transfer htransfer,
          List.forall_mem_singleton.mpr ⟨found, hfind, rfl, htransfer⟩⟩
    · intro hclaim
      rw [← hpolicy]
      exact hdegraded hclaim

/-- A report that passes the first checks names the target that the service is on. -/
theorem Fabric.checkReport_active (hsound : fabric.state.core.Sound config)
    (hfind : fabric.state.services.find? report.service = some found)
    (h : fabric.checkReport report found = .ok ()) : found.active = some report.target := by
  obtain ⟨-, -, -, -, -, -, hfallback⟩ := checkReport_ok h
  have hattempt : found.currentAttempt.isNil = false := by
    simp only [checkReport, require_bind_ok] at h
    simpa using h.2.2.2.1
  rcases shape_of_sound hsound hfind with hvacant | ⟨held, hgoverned⟩
  · have hnil := hvacant.attempt
    rw [hattempt] at hnil
    cases hnil
  · rw [hgoverned.active, ← hgoverned.fallback, hfallback]

theorem honest_report (hsound : fabric.state.core.Sound config)
    (h : fabric.state.Each service (Honest service calls)) (report : EffectReport)
    (reply : Fabric.Reply) :
    (fabric.call (.reportEffect report)).2.state.Each service
      (Honest service
        (calls ++ [{ before := fabric, event := .call (.reportEffect report) reply }])) := by
  have hextended : fabric.state.Each service
      (Honest service
        (calls ++ [{ before := fabric, event := .call (.reportEffect report) reply }])) :=
    fun runtime hfind => (h runtime hfind).extend hfind
  have hremarks := remarkable_honest service
    (calls ++ [{ before := fabric, event := .call (.reportEffect report) reply }])
  have hcall : (fabric.call (.reportEffect report)).2 =
      (fabric.entered.doReportEffect report).2 := rfl
  rcases hreport : fabric.entered.doReportEffect report with ⟨decision, fabric'⟩
  rcases Fabric.doReportEffect_evolves hreport with ⟨-, hkeeps⟩ |
    ⟨found, next, outcome, stamp, commit, -, hfind, hchecked, -, hcheck, hwrites, hevolves⟩
  · rw [hcall, hreport]
    exact hextended.keeps hremarks hkeeps.state
  obtain ⟨hverified, hstamp, happly⟩ := Fabric.checkEffect_ok hcheck
  cases hevolves.passes with
  | commit hbefore hrest =>
    cases hrest with
    | keeps hkeeps =>
      have htick : (fabric.call (.reportEffect report)).2.state.tick ≠ fabric.state.tick := by
        rw [hcall, hreport, hkeeps.tick, hwrites.after, State.tick_bumpAll]
        intro hsame
        have hlater := LogicalTick.successor_toNat hstamp
        have hstamp' : stamp = fabric.state.tick := hsame
        have hentered : fabric.entered.state.tick = fabric.state.tick := rfl
        rw [hstamp', hentered] at hlater
        omega
      rw [hcall, hreport]
      refine State.Each.keeps ?_ hremarks hkeeps
      rw [hwrites.after]
      intro runtime hafter
      rw [State.services_bumpAll, Fabric.rewritten] at hafter
      dsimp only at hafter
      rw [OrderedMap.find?_insert] at hafter
      split at hafter
      · rename_i heq
        obtain rfl := Option.some.inj hafter
        obtain ⟨hreporter, hepoch, hboot, hattempt, hgeneration, hfence, -⟩ :=
          Fabric.checkReport_ok hchecked
        refine (Fabric.applyEffect_ok happly).honest rfl (heq ▸ hfind) (h found (heq ▸ hfind))
          hverified fun hpositive => ?_
        exact ⟨⟨reply, rfl⟩, htick, heq.symm, rfl, hpositive, hreporter, hepoch, hboot, hattempt,
          hgeneration, hfence, Fabric.checkReport_active hsound hfind hchecked⟩
      · exact (hextended.keeps hremarks hbefore) runtime hafter

/-- One call keeps what the service says honest. -/
theorem honest_call (hsound : fabric.state.core.Sound config) (hopened : fabric.opened = true)
    (h : fabric.state.Each service (Honest service calls)) (op : Op) :
    (fabric.call op).2.state.Each service
      (Honest service (calls ++ [{ before := fabric, event := .call op (fabric.call op).1 }])) := by
  by_cases hreport : ∃ report, op = .reportEffect report
  · obtain ⟨report, rfl⟩ := hreport
    exact honest_report hsound h report _
  have hextended : fabric.state.Each service
      (Honest service (calls ++ [{ before := fabric, event := .call op (fabric.call op).1 }])) :=
    fun runtime hfind => (h runtime hfind).extend hfind
  refine hextended.call (remarkable_honest service _) hsound ?_ fun _ => hopened
  intro actor op' hacts _
  refine steady_honest fun report hop => ?_
  cases hacts with
  | direct => exact hreport ⟨report, hop⟩
  | confirmed => cases hop

end Steps

/-! ### Runs -/

theorem Fabric.Opens.honest {config : FabricConfig} {state : State}
    (h : Fabric.Opens config state) (service : ServiceName) :
    state.Each service (Honest service []) := by
  have hdistrustful : state.Distrustful := by
    cases h with
    | fresh hkeeps => exact (State.Distrustful.initial config).keeps hkeeps
    | restarted _ hkeeps => exact (State.Distrustful.restarted _).keeps hkeeps
  intro runtime hfind
  obtain ⟨hcontinuity, hactivation, heffect, htransfer⟩ := hdistrustful.claims service runtime hfind
  exact .of_blank ⟨hactivation, htransfer, heffect, by simp [hcontinuity], by simp [hcontinuity]⟩

/-- In every run, what an open coordinator says of a service was shown since it was opened. -/
theorem continuity_shown {config : FabricConfig} {moments : List Moment} {fabric : Fabric}
    (hrun : Fabric.Run config moments fabric) (hopened : fabric.opened = true) :
    ∃ calls, Fabric.SinceOpen moments calls ∧ ∀ service runtime,
      fabric.state.services.find? service = some runtime → Honest service calls runtime := by
  refine hrun.boot_invariant
    (P := fun calls fabric => ∀ service runtime,
      fabric.state.services.find? service = some runtime → Honest service calls runtime)
    hopened ?_ ?_
  · intro _ _ hopens service
    exact hopens.honest service
  · intro _ _ _ op hrun _ hopened _ h service
    exact honest_call hrun.sound hopened (h service) op

namespace Fleet

/-- The service is placed, activated and found healthy. -/
def recovered : List Op := placed ++ [effect .activationAccepted, effect .serviceHealthy]

end Fleet

theorem continuity_shown_recovered : ∃ calls runtime,
    Fabric.SinceOpen ((Fabric.create {} {}).momentsOf Fleet.recovered) calls ∧
    (Fleet.running Fleet.recovered).state.services.find? Fleet.service = some runtime ∧
    runtime.continuity = .full ∧ Honest Fleet.service calls runtime := by
  have hopened : (Fleet.running Fleet.recovered).opened = true := by
    simp only [Fleet.running, Fabric.after_eq_drafted]
    decide +kernel
  have hfull : ((Fleet.running Fleet.recovered).state.services.find? Fleet.service).map
      ServiceRuntime.continuity = some .full := by
    simp only [Fleet.running, Fabric.after_eq_drafted]
    decide +kernel
  obtain ⟨runtime, hfind, hcontinuity⟩ := Option.map_eq_some_iff.mp hfull
  obtain ⟨calls, hsince, hhonest⟩ := continuity_shown (Fleet.run_running Fleet.recovered) hopened
  exact ⟨calls, runtime, hsince, hfind, hcontinuity, hhonest _ runtime hfind⟩

end OffloadFabric
