import OffloadFabric.Cancellations
import OffloadFabric.Deliveries
import OffloadFabric.FailedAttempts
import Mathlib.Data.List.DropRight

/-!
Reports that are delivered again. A service remembers the ids of the last effects that were
recorded for it since the open, as many as it may remember attempts, whichever attempt they
were of. A report is recognised while its id is among them and it still passes the checks
that come first; after that it is recorded once more.
-/
namespace OffloadFabric

open Fabric (Op Moment Reply)

/-- The effect that a call records for the service; recording is what advances the clock. -/
def Fabric.Moment.effect (service : ServiceName) (moment : Moment) : Option EffectId :=
  match moment.event with
  | .call (.reportEffect report) _ =>
    if report.service = service ∧
        (moment.before.call (.reportEffect report)).2.state.tick ≠ moment.before.state.tick then
      some report.id
    else none
  | _ => none

/-- The ids of the effects recorded for the service, in order. -/
def recordedEffects (service : ServiceName) (moments : List Moment) : List EffectId :=
  moments.filterMap (Moment.effect service)

/-- A report with that id about the service. -/
def Fabric.Moment.Delivers (moment : Moment) (service : ServiceName) (id : EffectId) : Prop :=
  ∃ report reply, moment.event = .call (.reportEffect report) reply ∧
    report.service = service ∧ report.id = id

/-- The report is answered as a duplicate, and its service stays as it is. -/
def Fabric.Recognises (fabric : Fabric) (report : EffectReport) : Prop :=
  (∃ decision, (fabric.call (.reportEffect report)).1 = .decided decision ∧
    decision.duplicate = true) ∧
  (fabric.call (.reportEffect report)).2.state.services.find? report.service =
    fabric.state.services.find? report.service

/-- The report is about the current attempt of a registered service, by a reporter of this
boot, and names its generation, its fence and its target. -/
def Fabric.Concerns (fabric : Fabric) (report : EffectReport) : Prop :=
  ∃ runtime, fabric.state.services.find? report.service = some runtime ∧
    fabric.checkReport report runtime = .ok ()

/-- What a service remembers of effects. -/
def State.seen (state : State) (service : ServiceName) : List EffectId :=
  ((state.services.find? service).map ServiceRuntime.effectsSeen).getD []

theorem State.seen_of_find? {state : State} {service : ServiceName} {runtime : ServiceRuntime}
    (h : state.services.find? service = some runtime) :
    state.seen service = runtime.effectsSeen := by
  rw [seen, h]
  rfl

/-- Of a window that takes one more, only its own width counts. -/
theorem rtake_window {α : Type} (l : List α) (x : α) (n : Nat) :
    (l.rtake n ++ [x]).rtake n = (l ++ [x]).rtake n := by
  cases n with
  | zero => simp
  | succ n =>
    rw [List.rtake_concat_succ, List.rtake_concat_succ]
    congr 1
    simp only [List.rtake, List.length_drop, List.drop_drop]
    congr 1
    omega

section Window

variable {config : FabricConfig} {state state' : State} {fabric middle : Fabric} {op : Op}
  {service : ServiceName} {found next : ServiceRuntime}

/-- The call reports no effect of the service. -/
def Fabric.Op.Silent (service : ServiceName) (op : Op) : Prop :=
  ∀ report, op = .reportEffect report → report.service ≠ service

theorem State.Keeps.seen (h : State.Keeps config state state') (service : ServiceName) :
    state'.seen service = state.seen service := by
  induction h with
  | refl => rfl
  | @tail middle last _ hstep ih =>
    rcases hstep.runtime service with hsame | ⟨runtime, remark, hfind, -, hnext⟩
    · rw [← ih, State.seen, hsame, State.seen]
    · rw [← ih, State.seen_of_find? hfind, State.seen_of_find? hnext]
      cases remark <;> rfl

theorem Fabric.Turns.effectsSeen (h : fabric.Turns service op found next)
    (hsilent : op.Silent service) : next.effectsSeen = found.effectsSeen := by
  cases h with
  | moved _ _ _ _ _ hruntime => rw [Move.effectsSeen_nextRuntime, hruntime]
  | denied => rfl
  | acknowledged =>
    unfold Fabric.acknowledgedRuntime
    split <;> rfl
  | reported hservice => exact absurd hservice (hsilent _ rfl)

theorem Fabric.Alters.effectsSeen (h : fabric.Alters service op found next) :
    next.effectsSeen = found.effectsSeen := by
  cases h <;> rfl

/-- A commit of another kind leaves what the service remembers of effects. -/
theorem Fabric.Caused.seen {commit : Commit} (h : fabric.Caused op commit)
    (hnamed : fabric.state.Named) (hsilent : op.Silent service)
    (hbefore : commit.before.seen service = fabric.state.seen service) :
    commit.after.seen service = fabric.state.seen service := by
  have hfollows := h.follows hnamed service
  generalize hafter : commit.after.services.find? service = after at hfollows
  cases hfollows with
  | same => rw [← hbefore, State.seen, hafter, State.seen]
  | registered _ _ hnone =>
    rw [State.seen, hafter, State.seen, hnone]
    rfl
  | turned hfind hturns =>
    rw [State.seen_of_find? hafter, State.seen_of_find? hfind, hturns.effectsSeen hsilent]
  | altered hsome halters =>
    rw [State.seen_of_find? hafter, halters.effectsSeen, ← hbefore, State.seen_of_find? hsome]

theorem Fabric.Performs.seen {commits : List Commit} (h : fabric.Performs op commits)
    (hsound : fabric.state.core.Sound config) (hsilent : op.Silent service)
    (hpasses : State.Passes fabric.config fabric.state commits state) :
    state.seen service = fabric.state.seen service := by
  have hnamed : fabric.state.Named := .of_sound hsound
  cases h with
  | nothing =>
    cases hpasses with
    | keeps hkeeps => exact hkeeps.seen service
  | once hcaused =>
    cases hpasses with
    | commit hbefore hrest =>
      cases hrest with
      | keeps hkeeps =>
        rw [hkeeps.seen service]
        exact hcaused.seen hnamed hsilent (hbefore.seen service)
  | @twice resolution first second middle hop hconfirm hcaused hconfig hopened hmiddle hsecond =>
    subst hop
    cases hpasses with
    | commit hbefore hrest =>
      cases hrest with
      | commit hbetween hrest =>
        cases hrest with
        | keeps hkeeps =>
          have hacts := Fabric.Acts.confirmed hconfirm hcaused hconfig hopened hmiddle
          have hfirst := hcaused.seen hnamed hsilent (hbefore.seen service)
          have hsame : middle.state.seen service = first.after.seen service := by rw [hmiddle]
          have hlast : second.after.seen service = middle.state.seen service :=
            hsecond.seen (.of_sound (hacts.same.1 ▸ hsound)) nofun
              ((hbetween.seen service).trans hsame.symm)
          rw [hkeeps.seen service, hlast, hsame, hfirst]

end Window

section Reports

variable {config : FabricConfig} {moments earlier calls : List Moment} {fabric start : Fabric}
  {report : EffectReport} {service : ServiceName}

theorem Fabric.Effects.effectsSeen {runtime next : ServiceRuntime} {stamp : LogicalTick}
    (h : fabric.Effects report runtime stamp next) :
    next.effectsSeen =
      (runtime.effectsSeen ++ [report.id]).rtake fabric.config.maxAttemptHistory := by
  cases h <;> rfl

/-- A report about the service advances the clock and is remembered, or does neither. -/
theorem Fabric.report_seen (report : EffectReport) :
    ((fabric.call (.reportEffect report)).2.state.tick = fabric.state.tick ∧
      (fabric.call (.reportEffect report)).2.state.seen report.service =
        fabric.state.seen report.service) ∨
    ((fabric.call (.reportEffect report)).2.state.tick ≠ fabric.state.tick ∧
      (fabric.call (.reportEffect report)).2.state.seen report.service =
        (fabric.state.seen report.service ++ [report.id]).rtake
          fabric.config.maxAttemptHistory) := by
  have hcall : (fabric.call (.reportEffect report)).2 =
      (fabric.entered.doReportEffect report).2 := rfl
  rcases hreport : fabric.entered.doReportEffect report with ⟨decision, fabric'⟩
  rw [hcall, hreport]
  rcases doReportEffect_evolves hreport with ⟨-, hkeeps⟩ |
    ⟨runtime, next, outcome, stamp, commit, -, hfind, -, -, hcheck, hwrites, hevolves⟩
  · exact Or.inl ⟨hkeeps.state.tick, hkeeps.state.seen report.service⟩
  · obtain ⟨-, hstamp, happly⟩ := checkEffect_ok hcheck
    cases hevolves.passes with
    | commit hbefore hrest =>
      cases hrest with
      | keeps hkeeps =>
        refine Or.inr ⟨?_, ?_⟩
        · rw [hkeeps.tick, hwrites.after, State.tick_bumpAll]
          intro hsame
          have hlater := LogicalTick.successor_toNat hstamp
          have hstamp' : stamp = fabric.state.tick := hsame
          rw [hstamp'] at hlater
          have hentered : fabric.entered.state.tick = fabric.state.tick := rfl
          rw [hentered] at hlater
          omega
        · have hnext : (rewritten report.service next stamp commit.before).services.find?
              report.service = some next := OrderedMap.find?_insert_self _ _ _
          rw [hkeeps.seen report.service, hwrites.after, State.seen, State.services_bumpAll,
            ← State.seen, State.seen_of_find? hnext, (applyEffect_ok happly).effectsSeen,
            ← State.seen_of_find? hfind]
          rfl

theorem Fabric.Moment.effect_report (report : EffectReport) (reply : Reply) :
    ({ before := fabric, event := .call (.reportEffect report) reply } : Moment).effect
        report.service =
      if (fabric.call (.reportEffect report)).2.state.tick ≠ fabric.state.tick then some report.id
      else none := by
  simp [Moment.effect]

theorem Fabric.Moment.effect_silent {op : Op} (hsilent : op.Silent service) (reply : Reply) :
    ({ before := fabric, event := .call op reply } : Moment).effect service = none := by
  unfold Moment.effect
  split
  · rename_i hevent
    cases hevent
    exact if_neg fun h => hsilent _ rfl h.1
  · rfl

/-- Within a boot a service remembers the last effects that were recorded for it. -/
theorem Fabric.Serves.seen (h : start.Serves calls fabric) (hrun : Fabric.Run config moments start)
    (hopened : start.opened = true) (hstart : start.state.seen service = []) :
    fabric.state.seen service =
      (recordedEffects service calls).rtake config.maxAttemptHistory := by
  induction h with
  | start => simpa [recordedEffects] using hstart
  | @call calls fabric op hserves hclose ih =>
    have hsound : fabric.entered.state.core.Sound config := (hserves.run hrun).sound
    obtain ⟨hopened', hconfig⟩ := hserves.opened hopened
    have hconfig' : fabric.config = config := hconfig.trans hrun.configured
    rw [recordedEffects, List.filterMap_append, ← recordedEffects, List.filterMap_cons,
      List.filterMap_nil]
    by_cases hsilent : op.Silent service
    · obtain ⟨-, -, commits, hpasses, hperforms, -⟩ := call_passes hopened' hclose
      rw [Moment.effect_silent hsilent, List.append_nil, ← ih]
      exact hperforms.seen hsound hsilent hpasses
    · obtain ⟨report, rfl, rfl⟩ :
        ∃ report, op = .reportEffect report ∧ report.service = service := by
        simpa [Op.Silent] using hsilent
      rw [Moment.effect_report]
      rcases fabric.report_seen report with ⟨htick, hseen⟩ | ⟨htick, hseen⟩
      · rw [hseen, if_neg (not_not.mpr htick), List.append_nil, ih]
      · rw [hseen, if_pos htick, ih, hconfig', rtake_window]

/-- A recorded effect is not answered as a duplicate. -/
theorem Fabric.recordEffect_duplicate (explanation : Explanation) (next : ServiceRuntime)
    (outcome : Reason) (stamp : LogicalTick) :
    (fabric.recordEffect explanation report next outcome stamp).1.duplicate = false := by
  unfold recordEffect
  dsimp only
  split <;> rfl

/-- A report that is seen again is answered as a duplicate, and no other one is. -/
theorem Fabric.doReportEffect_duplicate (hopened : fabric.opened = true) :
    (fabric.doReportEffect report).1.duplicate = true ↔
      ∃ runtime, fabric.state.services.find? report.service = some runtime ∧
        fabric.checkReport report runtime = .ok () ∧ alreadySeen report runtime = true := by
  unfold doReportEffect
  dsimp only
  rw [if_neg (by simp [hopened])]
  cases hfind : fabric.state.services.find? report.service with
  | none => simp [refusal]
  | some runtime =>
    dsimp only
    cases hcheck : fabric.checkReport report runtime with
    | error refused => simp [refuse, refusal, hcheck]
    | ok checked =>
      by_cases hseen : alreadySeen report runtime = true
      · simp [hseen, accept, hcheck]
      · simp only [if_neg hseen]
        refine iff_of_false ?_ (by simp [hseen])
        split
        · simp [refuse, refusal]
        · simp [recordEffect_duplicate]

theorem Fabric.doReportEffect_seen {runtime : ServiceRuntime} (hopened : fabric.opened = true)
    (hfind : fabric.state.services.find? report.service = some runtime)
    (hcheck : fabric.checkReport report runtime = .ok ())
    (hseen : alreadySeen report runtime = true) :
    (fabric.doReportEffect report).2.state.services = fabric.state.services := by
  unfold doReportEffect
  simp [hopened, hfind, hcheck, hseen, accept, recordExplanation, bump]

/-- A report is recognised when it concerns what it says and its id is remembered. -/
theorem Fabric.recognises_iff (hopened : fabric.opened = true) (hid : report.id.isNil = false) :
    fabric.Recognises report ↔
      fabric.Concerns report ∧ report.id ∈ fabric.state.seen report.service := by
  have hcall : fabric.call (.reportEffect report) =
      replyDecided (fabric.entered.doReportEffect report) := rfl
  have hentered : fabric.entered.opened = true := hopened
  constructor
  · rintro ⟨⟨decision, hreply, hduplicate⟩, -⟩
    obtain rfl : (fabric.entered.doReportEffect report).1 = decision := by
      rw [hcall] at hreply
      exact Reply.decided.inj hreply
    obtain ⟨runtime, hfind, hcheck, hseen⟩ := (doReportEffect_duplicate hentered).mp hduplicate
    refine ⟨⟨runtime, hfind, hcheck⟩, ?_⟩
    have hsame := State.seen_of_find? (show fabric.state.services.find? _ = some runtime from hfind)
    rw [hsame]
    simpa [alreadySeen, hid] using hseen
  · rintro ⟨⟨runtime, hfind, hcheck⟩, hseen⟩
    have hseen' : alreadySeen report runtime = true := by
      rw [State.seen_of_find? hfind] at hseen
      simp [alreadySeen, hid, hseen]
    refine ⟨⟨_, by rw [hcall]; rfl, ?_⟩, ?_⟩
    · exact (doReportEffect_duplicate hentered).mpr ⟨runtime, hfind, hcheck, hseen'⟩
    · rw [hcall]
      exact congrArg (OrderedMap.find? · report.service)
        (doReportEffect_seen hentered hfind hcheck hseen')

/-- An open remembers no effect. -/
theorem Fabric.Opens.seen {state : State} (h : Fabric.Opens config state) (service : ServiceName) :
    state.seen service = [] := by
  cases h with
  | fresh hkeeps =>
    rw [hkeeps.seen service]
    rfl
  | @restarted old _ _ hkeeps =>
    rw [hkeeps.seen service, State.seen, restartedState, OrderedMap.find?_mapValues]
    cases old.services.find? service <;> rfl

theorem Fabric.Boot.seen (h : Fabric.Boot config earlier calls fabric) (service : ServiceName) :
    fabric.state.seen service =
      (recordedEffects service calls).rtake config.maxAttemptHistory := by
  obtain ⟨before, hrun, hclosed, hopened, hserves⟩ := h
  obtain ⟨-, hopens⟩ := call_opens hclosed hopened
  exact hserves.seen (hrun.step (.call before .openFabric)) hopened (hopens.seen service)

/-- The part of a boot before one of its calls. -/
theorem Fabric.Boot.front {before after : List Moment} {moment : Moment}
    (h : Fabric.Boot config earlier (before ++ moment :: after) fabric) :
    Fabric.Boot config earlier before moment.before := by
  obtain ⟨closed, hrun, hclosed, hopened, hserves⟩ := h
  exact ⟨closed, hrun, hclosed, hopened, hserves.split.1⟩

theorem Fabric.Boot.opened (h : Fabric.Boot config earlier calls fabric) :
    fabric.opened = true := by
  obtain ⟨before, -, -, hopened, hserves⟩ := h
  exact (hserves.opened hopened).1

/-- Whenever a report is delivered within a boot, it is recognised exactly when it still concerns
what it says and its id is among the last effects that were recorded for the service. -/
theorem recognised_iff {before after : List Moment} {moment : Moment}
    (h : Fabric.Boot config earlier calls fabric) (hsplit : calls = before ++ moment :: after)
    (hid : report.id.isNil = false) :
    moment.before.Recognises report ↔ moment.before.Concerns report ∧
      report.id ∈ (recordedEffects report.service before).rtake config.maxAttemptHistory := by
  have hboot := (hsplit ▸ h).front
  rw [Fabric.recognises_iff hboot.opened hid, hboot.seen]

end Reports

/-- Every report that is delivered again is recognised. -/
def AppliedOnce (calls : List Moment) : Prop :=
  ∀ before moment after report reply, calls = before ++ moment :: after →
    moment.event = .call (.reportEffect report) reply → report.id.isNil = false →
    (∃ first ∈ before, first.Delivers report.service report.id) → moment.before.Recognises report

namespace Fleet

/-- Services remember one attempt, and one effect. -/
def narrow : FabricConfig := { maxAttemptHistory := 1 }

/-- The first attempt is activated. -/
def activation (id : UInt64) : EffectReport :=
  { id := ⟨id⟩, service, attempt := ⟨1⟩, generation := ⟨1⟩, fence := ⟨1⟩
    target := booted primary 1, kind := .activationAccepted
    provenance := { source := operator, epoch := ⟨1⟩, boot := ⟨1⟩ } }

/-- A coordinator that was opened with so little to remember. -/
def opened : Fabric := ((Fabric.create narrow {}).call .openFabric).2

/-- The service was placed, and its activation reported under these ids. -/
def activated (ids : List UInt64) : List Op :=
  placed.tail ++ ids.map fun id => .reportEffect (activation id)

theorem activated_concat (ids : List UInt64) (id : UInt64) :
    activated (ids ++ [id]) = activated ids ++ [.reportEffect (activation id)] := by
  simp [activated]

theorem boot_activated (ids : List UInt64) :
    Fabric.Boot narrow [] (opened.momentsOf (activated ids)) (opened.after (activated ids)) := by
  have hclose : .closeFabric ∉ activated ids := by
    simp [activated, placed, opening, adopt, register, support, place]
  exact ⟨Fabric.create narrow {}, .start, rfl, by decide +kernel, Fabric.Serves.start.onward hclose⟩

/-- The moments of some reports end with that of the last one. -/
theorem momentsOf_activated (ids : List UInt64) (id : UInt64) :
    opened.momentsOf (activated (ids ++ [id])) = opened.momentsOf (activated ids) ++
      [{ before := opened.after (activated ids)
         event := .call (.reportEffect (activation id))
           ((opened.after (activated ids)).call (.reportEffect (activation id))).1 }] := by
  rw [activated_concat]
  exact Fabric.momentsOf_split _ _ _ []

/-- A report that was made before. -/
theorem redelivered {ids : List UInt64} {id : UInt64} (h : id ∈ ids) :
    ∃ first ∈ opened.momentsOf (activated ids),
      first.Delivers (activation id).service (activation id).id := by
  obtain ⟨front, back, rfl⟩ := List.append_of_mem h
  have hsplit : activated (front ++ id :: back) = activated front ++
      .reportEffect (activation id) :: back.map fun id => .reportEffect (activation id) := by
    simp [activated]
  rw [hsplit, Fabric.momentsOf_split]
  exact ⟨_, List.mem_append_right _ List.mem_cons_self, activation id, _, rfl, rfl, rfl⟩

end Fleet

theorem recognised_activation :
    (Fleet.opened.after (Fleet.activated [1])).Recognises (Fleet.activation 1) := by
  have hfacts : (((Fleet.opened.after (Fleet.activated [1])).state.services.find? Fleet.service).map
        (fun runtime => ((Fleet.opened.after (Fleet.activated [1])).checkReport
          (Fleet.activation 1) runtime).toOption),
      recordedEffects Fleet.service (Fleet.opened.momentsOf (Fleet.activated [1]))) =
        (some (some ()), [⟨1⟩]) := by
    simp only [Fabric.after_eq_drafted, Fabric.momentsOf_eq_drafted]
    decide +kernel
  have hboot := Fleet.boot_activated ([1] ++ [1])
  have hsplit := Fleet.momentsOf_activated [1] 1
  generalize Fleet.opened.after (Fleet.activated ([1] ++ [1])) = last at hboot
  generalize Fleet.opened.after (Fleet.activated [1]) = fabric at hfacts hsplit ⊢
  generalize Fleet.opened.momentsOf (Fleet.activated [1]) = before at hfacts hsplit
  obtain ⟨hconcerns, hrecorded⟩ := Prod.mk.inj hfacts
  obtain ⟨runtime, hfind, hcheck⟩ := Option.map_eq_some_iff.mp hconcerns
  refine (recognised_iff hboot hsplit rfl).mpr ⟨⟨runtime, hfind, ok_of_toOption hcheck⟩, ?_⟩
  have hservice : (Fleet.activation 1).service = Fleet.service := rfl
  rw [hservice, hrecorded]
  decide

/-- An activation that was reported again after another one is recorded again. -/
theorem not_applied_once : ∃ calls fabric,
    Fabric.Boot Fleet.narrow [] calls fabric ∧ ¬AppliedOnce calls := by
  refine ⟨_, _, Fleet.boot_activated ([1, 2] ++ [1]), ?_⟩
  have hseen : ((Fleet.opened.after (Fleet.activated [1, 2])).opened,
      (Fleet.opened.after (Fleet.activated [1, 2])).state.seen Fleet.service) = (true, [⟨2⟩]) := by
    simp only [Fabric.after_eq_drafted]
    decide +kernel
  have hfirst := Fleet.redelivered (show (1 : UInt64) ∈ [1, 2] by decide)
  rw [Fleet.momentsOf_activated [1, 2] 1]
  generalize Fleet.opened.after (Fleet.activated [1, 2]) = fabric at hseen ⊢
  generalize Fleet.opened.momentsOf (Fleet.activated [1, 2]) = before at hfirst ⊢
  intro h
  obtain ⟨hopened, hseen⟩ := Prod.mk.inj hseen
  have hmem := ((Fabric.recognises_iff hopened rfl).mp (h _ _ _ _ _ rfl rfl rfl hfirst)).2
  have hservice : (Fleet.activation 1).service = Fleet.service := rfl
  rw [hservice, hseen] at hmem
  exact absurd hmem (by decide)

end OffloadFabric
