import OffloadFabric.Refusals
import OffloadFabric.Transitions

/-!
Attempts that failed. A negative effect or a refusal by the executor takes back whatever was
verified, and a healthy report counts only after an accepted activation. But a positive
activation report is accepted for an attempt that has failed, too. Where none is, the attempt
stays failed until the service moves or the coordinator starts again.
-/
namespace OffloadFabric

open Fabric (Op Moment)

/-- A failure of the attempt was recorded: the memory holds the runtime that a negative effect
or a refusal has made. -/
inductive Fabric.Moment.Fails (moment : Moment) (service : ServiceName) (attempt : AttemptId) :
    Prop where
  | negative {report : EffectReport} {reply : Fabric.Reply} {runtime next : ServiceRuntime}
      {outcome : Reason} {stamp : LogicalTick} :
      moment.event = .call (.reportEffect report) reply →
      report.service = service → report.attempt = attempt → report.result = .negative →
      moment.before.state.services.find? service = some runtime →
      moment.before.checkReport report runtime = .ok () →
        Fabric.alreadySeen report runtime = false →
      moment.before.checkEffect report runtime = .ok (next, outcome, stamp) →
      (moment.before.call (.reportEffect report)).2.state.services.find? service = some next →
      Fails moment service attempt
  | refused {ack : IntentAck} {reply : Fabric.Reply} {runtime : ServiceRuntime}
      {stamp : LogicalTick} :
      moment.event = .call (.acknowledgeIntent ack) reply →
      ack.attempt = attempt → ack.accepted = false →
      Fabric.serviceOfAttempt moment.before.state attempt = some (service, runtime) →
      moment.before.checkAcknowledgement ack runtime = .ok stamp →
      (moment.before.call (.acknowledgeIntent ack)).2.state.services.find? service =
        some (Fabric.acknowledgedRuntime runtime ack stamp) →
      Fails moment service attempt

/-- A new commit for the service, or a resumption of it, was accepted. -/
def Fabric.Moment.Relocates (moment : Moment) (service : ServiceName) : Prop :=
  ∃ op decision, moment.Accepts op decision ∧ op.relocates = some service

/-- The call is a positive activation report for the service that passes its checks. -/
def Fabric.Revives (fabric : Fabric) (service : ServiceName) (op : Op) : Prop :=
  ∃ report runtime effect, op = .reportEffect report ∧ report.service = service ∧
    report.result = .positive ∧ report.kind = .activationAccepted ∧
    fabric.state.services.find? service = some runtime ∧
    fabric.checkReport report runtime = .ok () ∧ Fabric.alreadySeen report runtime = false ∧
    fabric.checkEffect report runtime = .ok effect

/-- The calls of executors. -/
def Fabric.Op.reports : Op → Bool
  | .acknowledgeIntent _ | .reportEffect _ => true
  | _ => false

/-- Nothing of the attempt is verified, and no more continuity claimed than the ceiling. -/
structure Lapsed (ceiling : UInt8) (runtime : ServiceRuntime) : Prop where
  activation : runtime.activationAccepted = false
  effect : runtime.effectVerified = false
  phase : runtime.recovery ≠ .verified
  continuity : Enumerated.ordinal runtime.continuity ≤ ceiling

section Lapsed

variable {config : FabricConfig} {fabric fabric' actor : Fabric} {op op' : Op} {moment : Moment}
  {service : ServiceName} {attempt : AttemptId} {ceiling : UInt8}
  {found next runtime : ServiceRuntime}

/-- Wherever a verification is taken back and no claim is made, nothing is left of it. -/
theorem lapsed_invalidated (h : runtime.activationAccepted = false)
    (heffect : runtime.effectVerified = false) (hphase : runtime.recovery ≠ .verified)
    (hcontinuity : runtime.continuity = .unknown) : Lapsed ceiling runtime :=
  ⟨h, heffect, hphase, by rw [hcontinuity]; exact UInt8.zero_le⟩

theorem remarkable_lapsed (service : ServiceName) (ceiling : UInt8) :
    Remarkable service (Lapsed ceiling) := by
  intro state runtime remark _ _ h
  cases remark with
  | suspension => exact lapsed_invalidated rfl rfl nofun rfl
  | nothing | reason | returned => exact ⟨h.activation, h.effect, h.phase, h.continuity⟩

/-- Acknowledgements and reports other than positive activations leave the attempt failed, and
so do other turns, for a ceiling that admits no claim. -/
theorem Fabric.Turns.lapsed (h : fabric.Turns service op found next)
    (hfind : fabric.state.services.find? service = some found) (hfound : Lapsed ceiling found)
    (hunmoved : ∀ check, fabric.moving op ≠ some (service, check))
    (hquiet : ¬fabric.Revives service op) (hceiling : op.reports = true ∨ 1 ≤ ceiling) :
    Lapsed ceiling next := by
  cases h with
  | moved _ _ _ hop => exact absurd hop (hunmoved _)
  | denied =>
    have hnone : 1 ≤ ceiling := by simpa [Fabric.Op.reports] using hceiling
    exact ⟨hfound.activation, hfound.effect, nofun, hnone⟩
  | acknowledged =>
    unfold Fabric.acknowledgedRuntime
    dsimp only
    split
    · refine ⟨hfound.activation, hfound.effect, ?_, hfound.continuity⟩
      dsimp only
      split
      · exact nofun
      · exact hfound.phase
    · exact lapsed_invalidated rfl rfl nofun rfl
  | reported hservice hcheck hseen hok =>
    obtain ⟨-, -, happly⟩ := Fabric.checkEffect_ok hok
    cases Fabric.applyEffect_ok happly with
    | negative => exact lapsed_invalidated rfl rfl nofun rfl
    | activated hresult hkind =>
      exact absurd ⟨_, found, _, rfl, hservice, hresult, hkind, hfind, hcheck, hseen, hok⟩ hquiet
    | deactivated => exact ⟨hfound.activation, hfound.effect, nofun, hfound.continuity⟩
    | transferred => exact ⟨hfound.activation, hfound.effect, hfound.phase, hfound.continuity⟩
    | healthy _ _ hactivated =>
      rw [hfound.activation] at hactivated
      cases hactivated

theorem Fabric.Alters.lapsed (h : fabric.Alters service op found next)
    (hfound : Lapsed ceiling found) (hceiling : op.reports = true ∨ 1 ≤ ceiling) :
    Lapsed ceiling next := by
  cases h with
  | withdrawn =>
    have hnone : 1 ≤ ceiling := by simpa [Fabric.Op.reports] using hceiling
    exact ⟨hfound.activation, hfound.effect, nofun, hnone⟩
  | suspected => exact lapsed_invalidated rfl rfl nofun rfl
  | confirmed => exact ⟨hfound.activation, hfound.effect, hfound.phase, hfound.continuity⟩

theorem steady_lapsed (hunmoved : ∀ check, fabric.moving op ≠ some (service, check))
    (hquiet : ¬fabric.Revives service op) (hceiling : op.reports = true ∨ 1 ≤ ceiling) :
    fabric.Steady service (Lapsed ceiling) op where
  registered _ _ _ := lapsed_invalidated rfl rfl nofun rfl
  turned _ _ hfind hturns hfound := hturns.lapsed hfind hfound hunmoved hquiet hceiling
  altered _ _ halters hfound := halters.lapsed hfound hceiling

/-- The step lemma of an open coordinator. -/
theorem lapsed_call (hopened : fabric.opened = true) (hsound : fabric.state.core.Sound config)
    (hlapsed : fabric.state.Each service (Lapsed ceiling))
    (hunmoved :
      ¬Moment.Relocates { before := fabric, event := .call op (fabric.call op).1 } service)
    (hquiet : ¬fabric.Revives service op) (hceiling : op.reports = true ∨ 1 ≤ ceiling) :
    (fabric.call op).2.state.Each service (Lapsed ceiling) := by
  refine hlapsed.unmoved (remarkable_lapsed service ceiling) hopened hsound
    (fun decision haccepts hop => hunmoved ⟨op, decision, haccepts.asMoment, hop⟩)
    fun actor op' hacts hmoving => ?_
  cases hacts with
  | direct => exact steady_lapsed hmoving hquiet hceiling
  | confirmed =>
    refine steady_lapsed hmoving (fun ⟨_, _, _, hop, _⟩ => by cases hop) (Or.inr ?_)
    simpa [Fabric.Op.reports] using hceiling

/-- A recorded failure takes back whatever was verified. -/
theorem Fabric.Moment.Fails.lapsed (h : moment.Fails service attempt)
    (hstep : Fabric.Step moment.before moment.event fabric') :
    fabric'.state.Each service (Lapsed ceiling) := by
  cases h with
  | negative hevent _ _ hresult _ _ _ hok hafter =>
    rw [hevent] at hstep
    cases hstep
    intro runtime hfind
    obtain rfl := Option.some.inj (hfind.symm.trans hafter)
    obtain ⟨-, -, happly⟩ := Fabric.checkEffect_ok hok
    cases Fabric.applyEffect_ok happly with
    | negative => exact lapsed_invalidated rfl rfl nofun rfl
    | activated hpositive | deactivated hpositive | transferred hpositive | healthy hpositive =>
      rw [hresult] at hpositive
      cases hpositive
  | refused hevent _ haccepted _ _ hafter =>
    rw [hevent] at hstep
    cases hstep
    intro runtime hfind
    obtain rfl := Option.some.inj (hfind.symm.trans hafter)
    simp only [Fabric.acknowledgedRuntime, haccepted]
    exact lapsed_invalidated rfl rfl nofun rfl

end Lapsed

/-! ### Runs -/

section Runs

variable {config : FabricConfig} {moments earlier later : List Moment} {failing : Moment}
  {fabric : Fabric} {service : ServiceName} {attempt : AttemptId} {runtime : ServiceRuntime}

/-- The run lemma: since the failure nothing of the attempt was verified. -/
theorem Fabric.Run.lapsed (hrun : Fabric.Run config moments fabric)
    (hsplit : moments = earlier ++ failing :: later) (hfails : failing.Fails service attempt)
    (hboot : ∀ next ∈ later, next.before.opened = true)
    (hunmoved : ∀ next ∈ later, ¬next.Relocates service)
    (hquiet : ∀ next ∈ later, ¬next.before.Revives service next.event.op) :
    fabric.state.Each service (Lapsed 1) := by
  have honward := hrun.onward (P := fun later fabric =>
      (∀ next ∈ later, next.before.opened = true) → (∀ next ∈ later, ¬next.Relocates service) →
      (∀ next ∈ later, ¬next.before.Revives service next.event.op) →
      fabric.state.Each service (Lapsed 1)) hsplit
    (fun fabric' _ hstep _ _ _ => hfails.lapsed hstep)
    fun {between fabric event fabric'} hrun hstep ih hboot hunmoved hquiet => by
      have hlapsed := ih (fun next hnext => hboot next (List.mem_append_left _ hnext))
        (fun next hnext => hunmoved next (List.mem_append_left _ hnext))
        fun next hnext => hquiet next (List.mem_append_left _ hnext)
      have hlast : ({ before := fabric, event } : Moment) ∈
          between ++ [{ before := fabric, event }] :=
        by simp
      cases hstep with
      | crash =>
        intro runtime hfind
        cases hfind
      | call op =>
        exact lapsed_call (hboot _ hlast) hrun.sound hlapsed (hunmoved _ hlast) (hquiet _ hlast)
          (Or.inr (le_refl 1))
  exact honward hboot hunmoved hquiet

/-- After a failure of an attempt was recorded, and until the service moves again, no call of
the same boot verifies the attempt, and no acknowledgement or report raises the continuity
class, if no positive activation report passes its checks. -/
theorem failed_stays_failed (hrun : Fabric.Run config moments fabric)
    (hsplit : moments = earlier ++ failing :: later) (hfails : failing.Fails service attempt)
    (hboot : ∀ next ∈ later, next.before.opened = true)
    (hunmoved : ∀ next ∈ later, ¬next.Relocates service)
    (hquiet : ∀ next ∈ later, ¬next.before.Revives service next.event.op)
    (hfind : fabric.state.services.find? service = some runtime) :
    runtime.effectVerified = false ∧ runtime.recovery ≠ .verified ∧
      ∀ between moment found, later = between ++ [moment] → moment.event.op.reports = true →
        moment.before.state.services.find? service = some found →
        Enumerated.ordinal runtime.continuity ≤ Enumerated.ordinal found.continuity := by
  have hlapsed := hrun.lapsed hsplit hfails hboot hunmoved hquiet runtime hfind
  refine ⟨hlapsed.effect, hlapsed.phase, fun between moment found hlast hreports hfound => ?_⟩
  subst hlast hsplit
  rw [← List.cons_append, ← List.append_assoc] at hrun
  obtain ⟨hfront, hstep⟩ := hrun.last
  have hlast : moment ∈ between ++ [moment] := by simp
  -- The ceiling of the last step is what the service claimed before it.
  have hbefore : moment.before.state.Each service
      (Lapsed (Enumerated.ordinal found.continuity)) := by
    intro runtime hfind
    obtain rfl := Option.some.inj (hfind.symm.trans hfound)
    have hlapsed := hfront.lapsed rfl hfails
      (fun next hnext => hboot next (List.mem_append_left _ hnext))
      (fun next hnext => hunmoved next (List.mem_append_left _ hnext))
      (fun next hnext => hquiet next (List.mem_append_left _ hnext)) runtime hfind
    exact { hlapsed with continuity := UInt8.le_refl _ }
  obtain ⟨before, event⟩ := moment
  change Fabric.Step before event fabric at hstep
  cases hstep with
  | crash => cases hfind
  | call op =>
    exact (lapsed_call (hboot _ hlast) hfront.sound hbefore (hunmoved _ hlast) (hquiet _ hlast)
      (Or.inl hreports) runtime hfind).continuity

end Runs

/-! ### Failures of the first attempt -/

theorem not_relocates {moment : Moment} {service : ServiceName}
    (h : moment.event.op.relocates = none) :
    ¬moment.Relocates service := by
  rintro ⟨op, decision, haccepts, hop⟩
  rw [haccepts.1] at h
  rw [show op.relocates = none from h] at hop
  cases hop

theorem ok_of_toOption {ε α : Type} {result : Except ε α} {value : α}
    (h : result.toOption = some value) : result = .ok value := by
  cases result with
  | error => cases h
  | ok found => exact congrArg Except.ok (Option.some.inj h)

/-- An acknowledgement that refuses the attempt passes its checks and is recorded. -/
theorem Fabric.fails_acknowledged {fabric : Fabric} {service : ServiceName} {ack : IntentAck}
    (haccepted : ack.accepted = false)
    (h : ((Fabric.serviceOfAttempt fabric.state ack.attempt).bind fun entry =>
        (fabric.checkAcknowledgement ack entry.2).toOption.map fun stamp =>
          (entry.1, decide ((fabric.call (.acknowledgeIntent ack)).2.state.services.find? entry.1 =
            some (acknowledgedRuntime entry.2 ack stamp)))) = some (service, true)) :
    Moment.Fails
      { before := fabric
        event := .call (.acknowledgeIntent ack) (fabric.call (.acknowledgeIntent ack)).1 }
      service ack.attempt := by
  obtain ⟨⟨name, runtime⟩, hentry, h⟩ := Option.bind_eq_some_iff.mp h
  obtain ⟨stamp, hcheck, hfacts⟩ := Option.map_eq_some_iff.mp h
  obtain ⟨rfl, hafter⟩ := Prod.mk.inj hfacts
  exact .refused rfl rfl haccepted hentry (ok_of_toOption hcheck)
    (of_decide_eq_true hafter)

/-- A negative report passes its checks and is recorded. -/
theorem Fabric.fails_reported {fabric : Fabric} {report : EffectReport}
    (hresult : report.result = .negative)
    (h : ((fabric.state.services.find? report.service).bind fun runtime =>
        (fabric.checkReport report runtime).toOption.bind fun _ =>
          (fabric.checkEffect report runtime).toOption.map fun effect =>
            (alreadySeen report runtime,
              decide ((fabric.call (.reportEffect report)).2.state.services.find? report.service =
                some effect.1))) = some (false, true)) :
    Moment.Fails
      { before := fabric
        event := .call (.reportEffect report) (fabric.call (.reportEffect report)).1 }
      report.service report.attempt := by
  obtain ⟨runtime, hfind, h⟩ := Option.bind_eq_some_iff.mp h
  obtain ⟨checked, hcheck, h⟩ := Option.bind_eq_some_iff.mp h
  obtain ⟨effect, heffect, hfacts⟩ := Option.map_eq_some_iff.mp h
  obtain ⟨hseen, hafter⟩ := Prod.mk.inj hfacts
  exact .negative rfl rfl rfl hresult hfind (ok_of_toOption hcheck) hseen
    (ok_of_toOption heffect) (of_decide_eq_true hafter)

/-- The executor turned the placement down; a healthy report comes after that. -/
def Fleet.turnedDown : List Op := [turnDown 1, effect .serviceHealthy]

theorem Fleet.fails_turnDown :
    Moment.Fails
      { before := running placed
        event := .call (turnDown 1) ((running placed).call (turnDown 1)).1 } service ⟨1⟩ := by
  refine Fabric.fails_acknowledged rfl ?_
  simp only [running, Fabric.after_eq_drafted, Fabric.call_eq_drafted]
  decide +kernel

theorem failed_stays_failed_placed : ∃ runtime,
    ((Fleet.running Fleet.placed).after Fleet.turnedDown).state.services.find? Fleet.service =
      some runtime ∧
    runtime.effectVerified = false ∧ runtime.recovery ≠ .verified := by
  have hfinal : (((Fleet.running Fleet.placed).after Fleet.turnedDown).state.services.find?
      Fleet.service).isSome = true := by
    simp only [Fleet.running, Fabric.after_eq_drafted]
    decide +kernel
  have hopened : (Fleet.running Fleet.placed).opened = true := by
    simp only [Fleet.running, Fabric.after_eq_drafted]
    decide +kernel
  have hstays {moments : List Moment} {start : Fabric} {runtime : ServiceRuntime}
      (hrun : Fabric.Run {} (moments ++ start.momentsOf Fleet.turnedDown)
        (start.after Fleet.turnedDown)) (hopened : start.opened = true)
      (hfails : Moment.Fails
        { before := start, event := .call (Fleet.turnDown 1) (start.call (Fleet.turnDown 1)).1 }
        Fleet.service ⟨1⟩)
      (hfind : (start.after Fleet.turnedDown).state.services.find? Fleet.service = some runtime) :
      runtime.effectVerified = false ∧ runtime.recovery ≠ .verified := by
    have hstays := failed_stays_failed hrun rfl hfails (fun next hnext => ?_)
      (fun next hnext => ?_) (fun next hnext => ?_) hfind
    · exact ⟨hstays.1, hstays.2.1⟩
    all_goals obtain rfl := List.mem_singleton.mp hnext
    · have hclose : Fleet.turnDown 1 ≠ .closeFabric := fun hop => by cases hop
      exact (Fabric.call_passes hopened hclose).1
    · exact not_relocates rfl
    · rintro ⟨report, found, effect, hop, -, -, hkind, -⟩
      cases hop
      cases hkind
  obtain ⟨runtime, hfind⟩ := Option.isSome_iff_exists.mp hfinal
  exact ⟨runtime, hfind, hstays ((Fleet.run_running Fleet.placed).calls Fleet.turnedDown) hopened
    Fleet.fails_turnDown hfind⟩

/-- The executor reports that the first attempt had no effect. -/
def Fleet.effectFails : Op :=
  .reportEffect
    { service, attempt := ⟨1⟩, generation := ⟨1⟩, fence := ⟨1⟩, target := booted primary 1
      result := .negative, provenance := { source := operator, epoch := ⟨1⟩, boot := ⟨1⟩ } }

theorem Fleet.fails_effectFails :
    Moment.Fails
      { before := running placed
        event := .call effectFails ((running placed).call effectFails).1 } service ⟨1⟩ := by
  refine Fabric.fails_reported rfl ?_
  simp only [running, Fabric.after_eq_drafted, Fabric.call_eq_drafted, Fabric.checkEffect,
    Change.writable_eq_draftable]
  decide +kernel

/-- The attempt failed, and was activated and found healthy after that. -/
def Fleet.revived : List Op := [effectFails, effect .activationAccepted, effect .serviceHealthy]

/-- An attempt that failed is verified all the same, in the same boot and without a new commit. -/
theorem not_failed_stays_failed :
    ∃ earlier failing later fabric runtime, Fabric.Run {} (earlier ++ failing :: later) fabric ∧
      failing.Fails Fleet.service ⟨1⟩ ∧ (∀ next ∈ later, next.before.opened = true) ∧
      (∀ next ∈ later, ¬next.Relocates Fleet.service) ∧
      fabric.state.services.find? Fleet.service = some runtime ∧ runtime.effectVerified = true := by
  have hverified : (((Fleet.running Fleet.placed).after Fleet.revived).state.services.find?
      Fleet.service).map ServiceRuntime.effectVerified = some true := by
    simp only [Fleet.running, Fabric.after_eq_drafted]
    decide +kernel
  have hopened : (Fleet.running Fleet.placed).opened = true := by
    simp only [Fleet.running, Fabric.after_eq_drafted]
    decide +kernel
  have hrevives {moments : List Moment} {start : Fabric} {runtime : ServiceRuntime}
      (hrun : Fabric.Run {} (moments ++ start.momentsOf Fleet.revived)
        (start.after Fleet.revived)) (hopened : start.opened = true)
      (hfails : Moment.Fails
        { before := start, event := .call Fleet.effectFails (start.call Fleet.effectFails).1 }
        Fleet.service ⟨1⟩)
      (hfind : (start.after Fleet.revived).state.services.find? Fleet.service = some runtime)
      (heffect : runtime.effectVerified = true) :
      ∃ earlier failing later fabric runtime, Fabric.Run {} (earlier ++ failing :: later) fabric ∧
        failing.Fails Fleet.service ⟨1⟩ ∧ (∀ next ∈ later, next.before.opened = true) ∧
        (∀ next ∈ later, ¬next.Relocates Fleet.service) ∧
        fabric.state.services.find? Fleet.service = some runtime ∧
        runtime.effectVerified = true := by
    have hstays (kind : EffectKind) : Fleet.effect kind ≠ .closeFabric := fun hop => by cases hop
    have hfailed : Fleet.effectFails ≠ .closeFabric := fun hop => by cases hop
    have hafter := (Fabric.call_passes hopened hfailed).1
    refine ⟨_, _, _, _, runtime, hrun, hfails, fun next hnext => ?_, fun next hnext => ?_, hfind,
      heffect⟩
    · rcases List.mem_cons.mp hnext with rfl | hnext
      · exact hafter
      · obtain rfl := List.mem_singleton.mp hnext
        exact (Fabric.call_passes hafter (hstays .activationAccepted)).1
    · rcases List.mem_cons.mp hnext with rfl | hnext
      · exact not_relocates rfl
      · obtain rfl := List.mem_singleton.mp hnext
        exact not_relocates rfl
  obtain ⟨runtime, hfind, heffect⟩ := Option.map_eq_some_iff.mp hverified
  exact hrevives ((Fleet.run_running Fleet.placed).calls Fleet.revived) hopened
    Fleet.fails_effectFails hfind heffect

end OffloadFabric
