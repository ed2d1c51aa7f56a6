import OffloadFabric.Placement

/-!
Failbacks and the failovers they undo. A failback needs the record of a failover, which an
accepted failback clears, but only in memory: what it journals still has the record, and a
resumption writes it again. In a run in which neither brings it back, every accepted failback
comes after a failover that no failback has undone yet.
-/
namespace OffloadFabric

open Fabric (Op Moment)

/-- The runtime records a failover, and where a failback may return to. -/
def MayReturn (runtime : ServiceRuntime) : Prop :=
  runtime.failoverRecorded = true ∧ runtime.preFailoverTarget ≠ none

/-- The service that the call fails over when it is accepted. -/
def Fabric.Op.failsOver : Op → Option ServiceName
  | .requestFailover request => some request.service
  | .resolveAmbiguity resolution =>
    if resolution.confirmFailure then some resolution.service else none
  | _ => none

/-- A failover of the service was accepted; or its process died in the call, which would have
been accepted, and the failover survived in the directory that it left. -/
def Fabric.Moment.FailsOver (moment : Moment) (after : Fabric) (service : ServiceName) : Prop :=
  ∃ op attempt, moment.Issues after service op attempt ∧ op.failsOver = some service

/-- A failback of the service was accepted. -/
def Fabric.Moment.FailsBack (moment : Moment) (service : ServiceName) : Prop :=
  ∃ request decision, moment.Accepts (.requestFailback request) decision ∧
    request.service = service

/-- Since the service failed over, no failback of it was accepted, and no process started over
with nothing. -/
def Justified (config : FabricConfig) (service : ServiceName) (moments : List Moment)
    (fabric : Fabric) : Prop :=
  ∃ earlier moment later, moments = earlier ++ moment :: later ∧
    moment.FailsOver (leads later fabric) service ∧
    (∀ next ∈ moment :: later, ¬next.before.Forgets config next.event) ∧
    ∀ next ∈ later, ¬next.FailsBack service

/-- The call does not bring back the record of a failover: no open reads it from the store,
and no resumption of an attempt that left a target passes its checks. -/
structure Lasting (fabric : Fabric) (service : ServiceName) (op : Op) : Prop where
  reopened : ∀ state runtime, op = .openFabric → fabric.Rereads state →
    state.services.find? service = some runtime → ¬MayReturn runtime
  resumed : ∀ request runtime qualified previous, op = .resumeRecovery request →
    request.service = service → fabric.state.services.find? service = some runtime →
    fabric.checkResume request runtime = .ok qualified →
    runtime.currentAttemptRecord = some previous →
    previous.fromTarget.valid = false ∧ runtime.preFailoverTarget = none

/-! ### What a failback leaves -/

section Settles

variable {fabric fabric' : Fabric} {decision : RecoveryDecision} {closing : Closing}
  {service : ServiceName} {key : RequestKey} {check : ServiceRuntime → Check Qualified}
  {P : ServiceRuntime → Prop}

/-- Whatever the last remark of an accepted move brings about, the call leaves. -/
theorem concludeCommit_settles {explanation : Explanation} {qualified : Qualified}
    (hremarks : Remarkable qualified.move.service P)
    (hsettles : ∀ runtime, P (closing.settle.apply runtime))
    (h : fabric.concludeCommit explanation qualified closing = (decision, fabric'))
    (haccepted : decision.accepted = true) : fabric'.state.Each qualified.move.service P := by
  unfold Fabric.concludeCommit at h
  rcases hcommit : commitRecovery { fabric with state := fabric.state.bumpAll qualified.counters }
    qualified.move with ⟨result, durable⟩
  simp only [hcommit] at h
  by_cases hcode : result.code = .ok
  · rw [if_neg (not_not.mpr hcode)] at h
    cases h
    have hsettled : (durable.state.modifyService qualified.move.service
        closing.settle.apply).Each qualified.move.service P := by
      intro runtime hfind
      rw [State.find?_modifyService, if_pos rfl] at hfind
      obtain ⟨before, -, rfl⟩ := Option.map_eq_some_iff.mp hfind
      exact hsettles before
    have hcounted := hsettled.keeps hremarks (State.keeps_bumpAll durable.config _ closing.accepted)
    exact hcounted.keeps hremarks
      (Fabric.keeps_recordExplanation { durable with state := _ } _).state
  · rw [if_pos hcode] at h
    split at h <;> cases h <;> cases haccepted

theorem decideMove_settles (hremarks : Remarkable service P)
    (hsettles : ∀ runtime, P (closing.settle.apply runtime))
    (hservice : ∀ runtime qualified, check runtime = .ok qualified →
      qualified.move.service = service)
    (h : fabric.decideMove service key check closing = (decision, fabric'))
    (haccepted : decision.accepted = true) (hfresh : decision.duplicate = false) :
    fabric'.state.Each service P := by
  rcases Fabric.decided_cases h with ⟨hduplicate, -⟩ | ⟨-, h⟩
  · exact absurd (hduplicate haccepted) (by simp [hfresh])
  split at h
  · cases h
    cases haccepted
  split at h
  · cases h
    cases haccepted
  · rename_i qualified hcheck
    obtain rfl := hservice _ _ hcheck
    exact concludeCommit_settles hremarks hsettles h haccepted

theorem remarkable_undone (service : ServiceName) :
    Remarkable service fun runtime => ¬MayReturn runtime := by
  intro state runtime remark _ _ h
  cases remark with
  | returned => exact fun hreturn => by cases hreturn.1
  | _ => exact h

/-- An accepted failback undoes the failover that the memory records. -/
theorem Fabric.Accepts.undone {request : FailbackRequest}
    (h : fabric.Accepts (.requestFailback request) decision) :
    (fabric.call (.requestFailback request)).2.state.Each request.service
      fun runtime => ¬MayReturn runtime := by
  obtain ⟨hreply, haccepted, hfresh⟩ := h
  rcases hkeyed : fabric.entered.keyed request.service request.key (·.doRequestFailback request)
    with ⟨decided, final⟩
  have hcall : fabric.call (.requestFailback request) = (.decided decided, final) := by
    simp only [Fabric.call, Fabric.dispatch, hkeyed, Fabric.replyDecided]
  rw [hcall] at hreply ⊢
  obtain rfl : decided = decision := by
    cases hreply
    rfl
  rcases Fabric.keyed_cases hkeyed with ⟨hduplicate, -⟩ | ⟨cancels, middle, hdecide, hkeeps⟩
  · exact absurd (hduplicate haccepted) (by simp [hfresh])
  have hundone : middle.state.Each request.service fun runtime => ¬MayReturn runtime := by
    refine decideMove_settles (remarkable_undone _) (fun runtime hreturn => ?_)
      (fun runtime qualified hcheck => ?_) hdecide haccepted hfresh
    · cases hreturn.1
    · obtain ⟨-, -, -, -, original, record, slot, -, -, -, -, -, -, -, -, hmove⟩ :=
        Fabric.checkFailback_ok hcheck
      rw [hmove]
  exact hundone.keeps (remarkable_undone _) hkeeps.state

end Settles

/-! ### What brings a failover back -/

section Steps

variable {config : FabricConfig} {fabric fabric' caller actor : Fabric} {op op' : Op}
  {service : ServiceName} {decision : RecoveryDecision} {moments : List Moment}
  {found next : ServiceRuntime}

/-- A first placement records no failover, and any other move records where it led from. -/
theorem mayReturn_nextRuntime {move : Move} {grant : Grant} {state : State}
    (h : MayReturn (move.nextRuntime grant config state)) :
    move.mode ≠ .initialPlacement ∧
      (move.runtime.preFailoverTarget ≠ none ∨ move.source.valid = true) := by
  have hmode : move.mode ≠ .initialPlacement := by
    intro hmode
    have hrecorded := h.1
    simp [Move.nextRuntime, Move.settled, hmode] at hrecorded
  refine ⟨hmode, ?_⟩
  by_contra hneither
  obtain ⟨hnone, hinvalid⟩ := not_or.mp hneither
  have hstays (runtime : ServiceRuntime) : move.departed state runtime = runtime :=
    if_neg fun hleft => hinvalid hleft.2
  refine h.2 ?_
  rw [Move.nextRuntime, Move.settled, if_neg hmode, hstays]
  exact not_not.mp hnone

/-- Only a failover, or a resumption of an attempt that left a target, records a failover. -/
theorem Fabric.Turns.undone (h : fabric.Turns service op found next)
    (hfind : fabric.state.services.find? service = some found) (hfound : ¬MayReturn found)
    (hlasting : Lasting fabric service op)
    (hfailover : ∀ request, op = .requestFailover request → request.service ≠ service) :
    ¬MayReturn next := by
  cases h with
  | moved grant config state hop hok hruntime =>
    intro hreturn
    obtain ⟨hmode, hleft⟩ := mayReturn_nextRuntime hreturn
    rw [hruntime] at hleft
    cases op with
    | establishPlacement request =>
      cases hop
      obtain ⟨-, -, -, target, -, -, -, hmove⟩ := Fabric.checkPlacement_ok hok
      rw [hmove] at hmode
      exact hmode rfl
    | requestFailover request =>
      cases hop
      exact hfailover request rfl rfl
    | resumeRecovery request =>
      cases hop
      obtain ⟨-, -, -, previous, target, hprevious, -, -, -, hmove⟩ := Fabric.checkResume_ok hok
      obtain ⟨hinvalid, hnone⟩ :=
        hlasting.resumed request found _ previous rfl rfl hfind hok hprevious
      rw [hmove] at hleft
      rcases hleft with hsome | hvalid
      · exact hsome hnone
      · rw [hinvalid] at hvalid
        cases hvalid
    | requestFailback request =>
      cases hop
      obtain ⟨hrecorded, -, -, -, original, record, slot, horiginal, -⟩ :=
        Fabric.checkFailback_ok hok
      exact hfound ⟨hrecorded, by simp [horiginal]⟩
    | _ => cases hop
  | denied => exact hfound
  | acknowledged =>
    unfold Fabric.acknowledgedRuntime
    dsimp only
    split <;> exact hfound
  | reported _ _ _ hcheck =>
    obtain ⟨-, -, happly⟩ := Fabric.checkEffect_ok hcheck
    cases Fabric.applyEffect_ok happly <;> exact hfound

theorem Lasting.steady (h : Lasting fabric service op)
    (hfailover : ∀ request, op = .requestFailover request → request.service ≠ service) :
    fabric.Steady service (fun runtime => ¬MayReturn runtime) op where
  registered _ _ _ := nofun
  turned _ _ hfind hturns hfound := hturns.undone hfind hfound h hfailover
  altered _ _ halters hfound := by cases halters <;> exact hfound

/-- Any call but an open and a resumption is lasting. -/
theorem Lasting.of_other (hopen : op ≠ .openFabric)
    (hresume : ∀ request, op ≠ .resumeRecovery request) : Lasting fabric service op where
  reopened _ _ hop := absurd hop hopen
  resumed request _ _ _ hop := absurd hop (hresume request)

/-- Whoever acts in a call that does not fail the service over brings nothing back. -/
theorem Lasting.acting (h : Lasting fabric service op) (hacts : fabric.entered.Acts op actor op')
    (hother : op.failsOver ≠ some service) :
    actor.Steady service (fun runtime => ¬MayReturn runtime) op' := by
  cases hacts with
  | direct =>
    have hentered : Lasting fabric.entered service op := ⟨h.reopened, h.resumed⟩
    exact hentered.steady fun request hop hservice => hother (by rw [hop, ← hservice]; rfl)
  | @confirmed resolution _ _ hconfirm =>
    have hlasting :
        Lasting actor service (.requestFailover (Fabric.resolutionRequest resolution)) :=
      .of_other nofun nofun
    refine hlasting.steady fun request hop hservice => hother ?_
    cases hop
    rw [← hservice]
    exact if_pos hconfirm

theorem relocates_of_failsOver (hservice : op.failsOver = some service) :
    op.relocates = some service := by
  cases op with
  | requestFailover | resolveAmbiguity => exact hservice
  | _ => cases hservice

theorem Fabric.Accepts.failsOver (h : fabric.Accepts op decision)
    (hservice : op.failsOver = some service) :
    Moment.FailsOver { before := fabric, event := .call op (fabric.call op).1 } fabric'
      service := by
  have hmoves : op.moves = true := by
    cases op with
    | requestFailover => rfl
    | resolveAmbiguity resolution =>
      have hconfirms : resolution.confirmFailure = true ∧ resolution.service = service := by
        simpa [Fabric.Op.failsOver] using hservice
      exact hconfirms.1
    | _ => cases hservice
  obtain ⟨-, commits, hrelocates⟩ := h.relocates hmoves
  cases hrelocates with
  | intro _ hacts hmoving _ hok hmoved =>
    obtain ⟨intent, held, hintent, hsame, -⟩ := hmoved.departs
    have hown := (hacts.relocates hmoving).symm.trans (relocates_of_failsOver hservice)
    rw [(Fabric.moving_move hmoving hok).1, Option.some.inj hown] at hsame
    exact ⟨op, intent.attempt, .accepted h.asMoment hintent hsame rfl, hservice⟩

theorem Justified.snoc {event : Fabric.Event} (h : Justified config service moments fabric)
    (hkept : ¬fabric.Forgets config event)
    (hstays : ¬Moment.FailsBack { before := fabric, event } service) :
    Justified config service (moments ++ [{ before := fabric, event }]) fabric' := by
  obtain ⟨earlier, failover, later, rfl, hfails, hnone, hbacks⟩ := h
  refine ⟨earlier, failover, later ++ [{ before := fabric, event }], by simp, ?_,
    fun next hnext => ?_, fun next hnext => ?_⟩
  · rw [leads_snoc]
    exact hfails
  · rw [← List.cons_append] at hnext
    rcases List.mem_append.mp hnext with hnext | hnext
    · exact hnone next hnext
    · obtain rfl := List.mem_singleton.mp hnext
      exact hkept
  · rcases List.mem_append.mp hnext with hnext | hnext
    · exact hbacks next hnext
    · obtain rfl := List.mem_singleton.mp hnext
      exact hstays

/-- The service failed over and came back. -/
def Fleet.undone : List Op :=
  failedOver ++ adopt primary 2 ++ [goBack 3 primary operator]

end Steps

end OffloadFabric
