import OffloadFabric.Drafts
import OffloadFabric.Grounding

/-!
Accepted calls. A recovery call that is decided anew and accepted passed its own check, and
its commit carries out the move that the check qualified. Whoever asked for it is an
enrolled operator, except on the two paths that never look at the role.
-/
namespace OffloadFabric

namespace Fabric

/-- The call is accepted, and not merely as the repetition of an earlier answer. -/
structure Accepts (fabric : Fabric) (op : Op) (decision : RecoveryDecision) : Prop where
  reply : (fabric.call op).1 = .decided decision
  accepted : decision.accepted = true
  fresh : decision.duplicate = false

section Accepts

variable {fabric : Fabric} {op : Op} {decision : RecoveryDecision}

theorem exists_answers (fabric : Fabric) (op : Op) (hopen : op ≠ .openFabric)
    (hclose : op ≠ .closeFabric) : ∃ commits, fabric.Answers op commits := by
  obtain ⟨commits, -, -, hanswers⟩ := dispatch_evolves hopen hclose
  exact ⟨commits, hanswers⟩

/-- The check and the commit behind an accepted move. -/
theorem Accepts.commits (h : fabric.Accepts op decision) {commits : List Commit}
    (hanswers : fabric.entered.Answers op commits) {service : ServiceName}
    {check : ServiceRuntime → Check Qualified} (hop : fabric.moving op = some (service, check)) :
    fabric.opened ∧ ∃ runtime qualified commit, commits = [commit] ∧
      fabric.state.services.find? service = some runtime ∧ check runtime = .ok qualified ∧
      fabric.entered.Moves qualified.move decision commit := by
  have hentered : fabric.entered.moving op = some (service, check) := by
    rw [← hop]
    cases op <;> rfl
  obtain ⟨decided, hreply, hdecides⟩ := hanswers.moves _ _ hentered
  obtain rfl : decision = decided := by
    have hsame := h.reply.symm.trans hreply
    cases hsame
    rfl
  cases hdecides with
  | turnedDown hduplicate => exact absurd (hduplicate h.accepted) (by simp [h.fresh])
  | moved hopened hfind hok hmoves => exact ⟨hopened, _, _, _, rfl, hfind, hok, hmoves⟩

theorem Accepts.moved (h : fabric.Accepts op decision) {service : ServiceName}
    {check : ServiceRuntime → Check Qualified} (hop : fabric.moving op = some (service, check)) :
    fabric.opened ∧ ∃ runtime qualified commit,
      fabric.state.services.find? service = some runtime ∧ check runtime = .ok qualified ∧
      fabric.entered.Moves qualified.move decision commit := by
  obtain ⟨commits, hanswers⟩ := fabric.entered.exists_answers op
    (by rintro rfl; cases hop) (by rintro rfl; cases hop)
  obtain ⟨hopened, runtime, qualified, commit, -, hmoved⟩ := h.commits hanswers hop
  exact ⟨hopened, runtime, qualified, commit, hmoved⟩

/-- An accepted resolution denies the failure, or promotes the evidence and moves. -/
theorem Accepts.resolutions {resolution : AmbiguityResolution}
    (h : fabric.Accepts (.resolveAmbiguity resolution) decision) {commits : List Commit}
    (hanswers : fabric.entered.Answers (.resolveAmbiguity resolution) commits) :
    fabric.opened ∧ ∃ runtime evidence stamp,
      fabric.state.services.find? resolution.service = some runtime ∧
      fabric.checkResolution resolution runtime = .ok (evidence, stamp) ∧
      (resolution.confirmFailure = false ∨ resolution.confirmFailure = true ∧
        ∃ (middle : Fabric) (commit moved : Commit) (runtime' : ServiceRuntime)
            (qualified : Qualified), commits = [commit, moved] ∧
          fabric.entered.Writes (.failureIngested (promoted evidence))
            (promotedState resolution.service (promoted evidence) stamp) commit ∧
          middle.config = fabric.config ∧ middle.state = commit.after ∧ middle.opened ∧
          middle.state.services.find? resolution.service = some runtime' ∧
          middle.checkFailover (resolutionRequest resolution) runtime' = .ok qualified ∧
          middle.Moves qualified.move decision moved) := by
  obtain ⟨decided, hreply, hresolves⟩ := hanswers.resolves resolution rfl
  obtain rfl : decision = decided := by
    have hsame := h.reply.symm.trans hreply
    cases hsame
    rfl
  cases hresolves with
  | turnedDown hduplicate => exact absurd (hduplicate h.accepted) (by simp [h.fresh])
  | denied hopened hfind hcheck hconfirm _ =>
    exact ⟨hopened, _, _, _, hfind, hcheck, Or.inl hconfirm⟩
  | confirmed hopened hfind hcheck hconfirm hwrites hconfig hmiddle hdecides =>
    refine ⟨hopened, _, _, _, hfind, hcheck, Or.inr ⟨hconfirm, ?_⟩⟩
    cases hdecides with
    | turnedDown hduplicate => exact absurd (hduplicate h.accepted) (by simp [h.fresh])
    | moved hopened' hfind' hok hmoves =>
      exact ⟨_, _, _, _, _, rfl, hwrites, hconfig, hmiddle, hopened', hfind', hok, hmoves⟩

theorem Accepts.resolved {resolution : AmbiguityResolution}
    (h : fabric.Accepts (.resolveAmbiguity resolution) decision) :
    fabric.opened ∧ ∃ runtime evidence stamp,
      fabric.state.services.find? resolution.service = some runtime ∧
      fabric.checkResolution resolution runtime = .ok (evidence, stamp) := by
  obtain ⟨commits, hanswers⟩ := fabric.entered.exists_answers (.resolveAmbiguity resolution)
    (fun heq => by cases heq) (fun heq => by cases heq)
  obtain ⟨hopened, runtime, evidence, stamp, hfind, hcheck, -⟩ := h.resolutions hanswers
  exact ⟨hopened, runtime, evidence, stamp, hfind, hcheck⟩

end Accepts

/-- The calls that commit a move when they are accepted. -/
def Op.moves : Op → Bool
  | .establishPlacement _ | .requestFailover _ | .resumeRecovery _ | .requestFailback _ => true
  | .resolveAmbiguity resolution => resolution.confirmFailure
  | _ => false

/-- The last commit of the call is a move that the check of whoever acts in it has qualified;
at most the promotion of evidence comes before. -/
inductive Relocates (fabric : Fabric) (op : Op) (decision : RecoveryDecision) :
    List Commit → Prop where
  | intro {actor : Fabric} {op' : Op} {service : ServiceName}
      {check : ServiceRuntime → Check Qualified} {runtime : ServiceRuntime}
      {qualified : Qualified} {promotions : List Commit} {commit : Commit} :
      (∀ promotion ∈ promotions, ∃ evidence, promotion.change = .failureIngested evidence) →
      fabric.entered.Acts op actor op' → actor.moving op' = some (service, check) →
      actor.state.services.find? service = some runtime → check runtime = .ok qualified →
      actor.Moves qualified.move decision commit →
      Relocates fabric op decision (promotions ++ [commit])

section Relocates

variable {fabric : Fabric} {op : Op} {decision : RecoveryDecision}

/-- An accepted call that moves a service does so by such a commit. -/
theorem Accepts.relocated (h : fabric.Accepts op decision) (hop : op.moves = true)
    {commits : List Commit} (hanswers : fabric.entered.Answers op commits) :
    fabric.opened ∧ fabric.Relocates op decision commits := by
  have hdirect {service : ServiceName} {check : ServiceRuntime → Check Qualified}
      (hmoving : fabric.moving op = some (service, check))
      (hentered : fabric.entered.moving op = some (service, check)) :
      fabric.opened ∧ fabric.Relocates op decision commits := by
    obtain ⟨hopened, runtime, qualified, commit, rfl, hfind, hok, hmoves⟩ :=
      h.commits hanswers hmoving
    have hrelocates : fabric.Relocates op decision ([] ++ [commit]) :=
      .intro (fun _ hmem => by cases hmem) (.direct op) hentered hfind hok hmoves
    exact ⟨hopened, hrelocates⟩
  cases op with
  | establishPlacement | requestFailover | resumeRecovery | requestFailback =>
    exact hdirect rfl rfl
  | resolveAmbiguity resolution =>
    obtain ⟨hopened, runtime, evidence, stamp, hfind, hcheck, hends⟩ := h.resolutions hanswers
    rcases hends with hdenied | ⟨hconfirm, middle, commit, moved, runtime', qualified, rfl, hwrites,
      hconfig, hmiddle, hopened', hfind', hok, hmoves⟩
    · have hconfirm : resolution.confirmFailure = true := hop
      rw [hdenied] at hconfirm
      cases hconfirm
    · have hpromotion (promotion : Commit) (hmem : promotion ∈ [commit]) :
          ∃ evidence, promotion.change = .failureIngested evidence := by
        rw [List.mem_singleton.mp hmem]
        exact ⟨_, hwrites.change⟩
      have hacts : fabric.entered.Acts (.resolveAmbiguity resolution) middle
          (.requestFailover (resolutionRequest resolution)) :=
        .confirmed hconfirm (.confirmed hfind hcheck hconfirm hwrites) hconfig hopened' hmiddle
      have hrelocates : fabric.Relocates _ decision ([commit] ++ [moved]) :=
        .intro hpromotion hacts rfl hfind' hok hmoves
      exact ⟨hopened, hrelocates⟩
  | _ => cases hop

theorem Accepts.relocates (h : fabric.Accepts op decision) (hop : op.moves = true) :
    fabric.opened ∧ ∃ commits, fabric.Relocates op decision commits := by
  obtain ⟨commits, hanswers⟩ := fabric.entered.exists_answers op (by rintro rfl; cases hop)
    (by rintro rfl; cases hop)
  obtain ⟨hopened, hrelocates⟩ := h.relocated hop hanswers
  exact ⟨hopened, commits, hrelocates⟩

/-- What an accepted move adds to the history ends with that move. -/
theorem Accepts.adds (h : fabric.Accepts op decision) (hop : op.moves = true)
    {added : List Change} (hadds : fabric.Adds op added) :
    ∃ commits, fabric.Relocates op decision commits ∧ added = commits.map Commit.change := by
  cases hadds with
  | opensQuietly | opensAgain | closes => cases hop
  | performs _ _ _ _ hanswers _ => exact ⟨_, (h.relocated hop hanswers).2, rfl⟩

end Relocates

/-! ### Accepted ingestions -/

section Ingestions

variable {fabric durable : Fabric} {op : Op}

/-- The store never refuses a transaction with a code of acceptance, nor for want of evidence. -/
theorem isIncidental_of_persist {records : List Record} {code : Reason}
    (h : fabric.persist records = (code, durable)) (hcode : code ≠ .ok) :
    code.isIncidental = true := by
  have hrecord {options : StoreOptions} {reason : Reason}
      (h : records.findSome? (Store.refuseRecord options) = some reason) :
      reason.isIncidental = true := by
    obtain ⟨record, -, hrefused⟩ := List.exists_of_findSome?_eq_some h
    unfold Store.refuseRecord at hrefused
    split at hrefused
    · cases hrefused
      rfl
    split at hrefused <;> cases hrefused
    rfl
  have hrefuse {store : Store} {reason : Reason}
    (h : store.refuseTransaction records = some reason) :
      reason.isIncidental = true := by
    unfold Store.refuseTransaction at h
    split at h
    · cases h
      rfl
    split at h
    · cases h
      rfl
    split at h
    · rename_i found hfound
      cases h
      exact hrecord hfound
    split at h <;> cases h
    rfl
  unfold persist at h
  split at h
  · cases h
    exact absurd rfl hcode
  rename_i store hstore
  unfold Store.commitTransaction at h
  cases hrefused : store.refuseTransaction records with
  | none =>
    simp only [hrefused, ne_eq, not_true_eq_false, if_false] at h
    cases h
    exact absurd rfl hcode
  | some reason =>
    simp only [hrefused] at h
    split at h <;> cases h
    · exact hrefuse hrefused
    · exact absurd rfl hcode

/-- An ingestion that is answered with a code none of its refusals has was committed. -/
theorem Ingests.committed {checked : Check Proposal} {code : Reason} {commits : List Commit}
    (h : fabric.Ingests checked code commits) (haccept : code.isAccept = true)
    (hfails : checked.Fails fun refused => refused.code ≠ code) :
    ∃ proposal commit, checked = .ok proposal ∧ commits = [commit] ∧
      fabric.Writes proposal.change proposal.update commit := by
  cases h with
  | turnedDown herror hcode => exact absurd hcode.symm (hfails _ herror)
  | unwritten _ hpersist hcode =>
    rw [Reason.isAccept_of_isIncidental (isIncidental_of_persist hpersist hcode)] at haccept
    cases haccept
  | written hok hwrites => exact ⟨_, _, hok, rfl, hwrites⟩

end Ingestions

/-! ### Moments of a run -/

section Moments

variable {config : FabricConfig} {moments : List Moment} {fabric : Fabric} {moment : Moment}

theorem Run.split (h : Run config moments fabric) (hmoment : moment ∈ moments) :
    ∃ fabric', Reachable config moment.before ∧ Step moment.before moment.event fabric' := by
  induction h with
  | start => cases hmoment
  | @step moments fabric fabric' event hrun hstep ih =>
    rcases List.mem_append.mp hmoment with hmoment | hmoment
    · exact ih hmoment
    · obtain rfl := List.mem_singleton.mp hmoment
      exact ⟨fabric', ⟨moments, hrun⟩, hstep⟩

/-- A call of a run that was accepted, and not merely repeated. -/
def Moment.Accepts (moment : Moment) (op : Op) (decision : RecoveryDecision) : Prop :=
  moment.event = .call op (.decided decision) ∧ decision.accepted = true ∧
    decision.duplicate = false

theorem Run.accepts (h : Run config moments fabric) (hmoment : moment ∈ moments) {op : Op}
    {decision : RecoveryDecision} (haccepts : moment.Accepts op decision) :
    Reachable config moment.before ∧ moment.before.Accepts op decision := by
  obtain ⟨fabric', hreachable, hstep⟩ := h.split hmoment
  obtain ⟨hevent, haccepted, hfresh⟩ := haccepts
  refine ⟨hreachable, ?_, haccepted, hfresh⟩
  generalize heq : moment.event = event at hstep
  cases hstep with
  | call op' =>
    rw [hevent] at heq
    obtain ⟨rfl, hreply⟩ := Event.call.inj heq
    exact hreply.symm
  | crash op' => simp [hevent] at heq

/-- Whether the call is accepted, and not merely repeated. -/
def accepted (fabric : Fabric) (op : Op) : Bool :=
  match (fabric.call op).1 with
  | .decided decision => decision.accepted && !decision.duplicate
  | _ => false

theorem exists_accepts_of_accepted {op : Op} (h : fabric.accepted op = true) :
    ∃ decision, fabric.Accepts op decision := by
  unfold accepted at h
  split at h
  · rename_i decision hreply
    rw [Bool.and_eq_true, Bool.not_eq_true'] at h
    exact ⟨decision, hreply, h.1, h.2⟩
  · cases h

theorem Accepts.asMoment {fabric : Fabric} {op : Op} {decision : RecoveryDecision}
    (h : fabric.Accepts op decision) :
    Moment.Accepts { before := fabric, event := .call op (fabric.call op).1 } op decision :=
  ⟨congrArg _ h.reply, h.accepted, h.fresh⟩

/-- A call after some others is the last moment of their run. -/
theorem exists_last_accepts {start : Fabric} {ops : List Op} {op : Op}
    (h : (start.after ops).accepted op = true) :
    ∃ moment ∈ start.momentsOf (ops ++ [op]),
      moment.before = start.after ops ∧ ∃ decision, moment.Accepts op decision := by
  obtain ⟨decision, haccepts⟩ := exists_accepts_of_accepted h
  refine ⟨_, ?_, rfl, decision, haccepts.asMoment⟩
  rw [momentsOf_split]
  exact List.mem_append_right _ List.mem_cons_self

/-- The intent that an accepted call is answered with. -/
def emits (fabric : Fabric) (op : Op) : Option FailoverIntent :=
  match (fabric.call op).1 with
  | .decided decision => if decision.accepted && !decision.duplicate then decision.intent else none
  | _ => none

theorem exists_accepts_of_emits {op : Op} {α : Type} {f : FailoverIntent → α} {a : α}
    (h : (fabric.emits op).map f = some a) : ∃ decision intent, fabric.Accepts op decision ∧
      decision.intent = some intent ∧ f intent = a := by
  obtain ⟨intent, hemits, hf⟩ := Option.map_eq_some_iff.mp h
  unfold emits at hemits
  split at hemits
  · rename_i decision hreply
    split at hemits
    · rename_i haccepted
      rw [Bool.and_eq_true, Bool.not_eq_true'] at haccepted
      exact ⟨decision, intent, ⟨hreply, haccepted.1, haccepted.2⟩, hemits, hf⟩
    · cases hemits
  · cases hemits

/-- An ingestion whose answer no refusal has was committed. -/
theorem Moment.committed {op : Op} {code : Reason} {explanation : Explanation} {fabric' : Fabric}
    {checked : Check Proposal} {commits : List Commit}
    (hevent : moment.event = .call op (.explained code explanation))
    (hop : moment.before.entered.ingestion op = some checked) (haccept : code.isAccept = true)
    (hfails : checked.Fails fun refused => refused.code ≠ code)
    (hstep : Step moment.before moment.event fabric')
    (hanswers : moment.before.entered.Answers op commits) :
    ∃ proposal commit, checked = .ok proposal ∧ commits = [commit] ∧
      moment.before.entered.Writes proposal.change proposal.update commit := by
  rw [hevent] at hstep
  generalize hcall : Event.call op _ = event at hstep
  cases hstep with
  | crash => cases hcall
  | call op =>
    obtain ⟨rfl, hreply⟩ := Event.call.inj hcall
    obtain ⟨code, explanation', hsame, hingests⟩ := hanswers.ingests _ hop
    obtain ⟨rfl, -⟩ := Reply.explained.inj (hreply.trans hsame)
    exact hingests.committed haccept hfails

/-- The code of the explained answer to a call. -/
def explains (fabric : Fabric) (op : Op) : Option Reason :=
  match (fabric.call op).1 with
  | .explained code _ => some code
  | _ => none

theorem exists_explained_of_explains {fabric : Fabric} {op : Op} {code : Reason}
    (h : fabric.explains op = some code) :
    ∃ explanation, (fabric.call op).1 = .explained code explanation := by
  unfold explains at h
  split at h
  · rename_i reply explanation hreply
    obtain rfl := Option.some.inj h
    exact ⟨explanation, hreply⟩
  · cases h

end Moments

end Fabric

/-! ### Operator authority -/

section Authority

open Fabric (Op Moment)

theorem operator_of_roleSatisfies {state : State} {source : SourceName}
    (h : state.roleSatisfies source .operator = true) :
    state.sources.find? source = some .operator := by
  unfold State.roleSatisfies at h
  split at h
  · cases h
  · rename_i role hrole
    rw [hrole]
    simpa using h

/-- Whether the service of a failover lists the precondition of operator authorization. -/
def Preconditioned (state : State) (service : ServiceName) : Prop :=
  ∃ runtime, state.services.find? service = some runtime ∧
    runtime.descriptor.preconditions.contains .operatorAuthorization = true

/-- The recovery calls that are an operator's to make, with the source that makes them. -/
inductive Reserved (state : State) : Op → SourceName → Prop where
  | placement (request : PlacementRequest) :
      Reserved state (.establishPlacement request) request.requester
  | commanded {request : FailoverRequest} : request.trigger ≠ .failureEvidence →
      Reserved state (.requestFailover request) request.requester
  | preconditioned {request : FailoverRequest} : Preconditioned state request.service →
      Reserved state (.requestFailover request) request.requester
  | resume (request : FailoverRequest) : Reserved state (.resumeRecovery request) request.requester
  | failback (request : FailbackRequest) :
      Reserved state (.requestFailback request) request.requester
  | resolution (resolution : AmbiguityResolution) :
      Reserved state (.resolveAmbiguity resolution) resolution.resolvedBy

/-- The recovery calls whose requester is never looked at: every failback, and a failover on
evidence, which meets the precondition by its own flag. -/
inductive Unchecked (state : State) : Op → Prop where
  | failback (request : FailbackRequest) : Unchecked state (.requestFailback request)
  | preconditioned {request : FailoverRequest} : request.trigger = .failureEvidence →
      Preconditioned state request.service → Unchecked state (.requestFailover request)

/-- Every other accepted call comes from an enrolled operator. -/
theorem operator_of_accepts {fabric : Fabric} {op : Op} {decision : RecoveryDecision}
    {source : SourceName} (h : fabric.Accepts op decision)
    (hreserved : Reserved fabric.state op source)
    (hchecked : ¬Unchecked fabric.state op) :
    fabric.state.sources.find? source = some .operator := by
  apply operator_of_roleSatisfies
  cases hreserved with
  | placement request =>
    obtain ⟨-, runtime, qualified, -, -, hcheck, -⟩ := h.moved rfl
    exact (Fabric.checkPlacement_ok hcheck).1
  | @commanded request htrigger =>
    obtain ⟨-, runtime, qualified, -, -, hcheck, -⟩ := h.moved rfl
    obtain ⟨-, -, -, -, -, -, evidence, target, hevidence, -, -⟩ := Fabric.checkFailover_ok hcheck
    rcases Fabric.checkTrigger_ok hevidence with ⟨hsame, -⟩ | ⟨-, -, -, hrole⟩
    · exact absurd hsame htrigger
    · exact hrole
  | @preconditioned request hprecondition =>
    obtain ⟨-, runtime, qualified, -, -, hcheck, -⟩ := h.moved rfl
    obtain ⟨-, -, -, -, -, -, evidence, target, hevidence, -, -⟩ := Fabric.checkFailover_ok hcheck
    rcases Fabric.checkTrigger_ok hevidence with ⟨hsame, -⟩ | ⟨-, -, -, hrole⟩
    · exact absurd (.preconditioned hsame hprecondition) hchecked
    · exact hrole
  | resume request =>
    obtain ⟨-, runtime, qualified, -, -, hcheck, -⟩ := h.moved rfl
    exact (Fabric.checkResume_ok hcheck).2.2.1
  | failback request => exact absurd (.failback request) hchecked
  | resolution resolution =>
    obtain ⟨-, runtime, evidence, stamp, -, hcheck⟩ := h.resolved
    exact (Fabric.checkResolution_ok hcheck).1

/-- Every accepted call of the run that is an operator's to make came from one. -/
def OperatorLed (moments : List Moment) : Prop :=
  ∀ moment ∈ moments, ∀ op decision source, moment.Accepts op decision →
    Reserved moment.before.state op source →
    moment.before.state.sources.find? source = some .operator

/-- The call is to decide a move, and the checks of the move let it through. -/
def Fabric.Qualifies (fabric : Fabric) (op : Op) : Prop :=
  ∃ service check runtime qualified, fabric.moving op = some (service, check) ∧
    fabric.state.services.find? service = some runtime ∧ check runtime = .ok qualified

/-- A call that is not checked is accepted only if it qualifies. -/
theorem Fabric.Accepts.qualifies {fabric : Fabric} {op : Op} {decision : RecoveryDecision}
    (h : fabric.Accepts op decision) (hunchecked : Unchecked fabric.state op) :
    fabric.Qualifies op := by
  cases hunchecked with
  | failback request =>
    obtain ⟨-, runtime, qualified, -, hfind, hcheck, -⟩ := h.moved rfl
    exact ⟨_, _, runtime, qualified, rfl, hfind, hcheck⟩
  | preconditioned =>
    obtain ⟨-, runtime, qualified, -, hfind, hcheck, -⟩ := h.moved rfl
    exact ⟨_, _, runtime, qualified, rfl, hfind, hcheck⟩

/-- A run is led by operators exactly when the accepted calls that are not checked are. It is if
operators ask for all calls that are not checked and that their state lets through. -/
theorem operatorLed_iff {config : FabricConfig} {moments : List Moment} {fabric : Fabric}
    (h : Fabric.Run config moments fabric) :
    (OperatorLed moments ↔
      ∀ moment ∈ moments, ∀ op decision source, moment.Accepts op decision →
        Unchecked moment.before.state op → Reserved moment.before.state op source →
        moment.before.state.sources.find? source = some .operator) ∧
    ((∀ moment ∈ moments, ∀ source, Unchecked moment.before.state moment.event.op →
        moment.before.Qualifies moment.event.op →
        Reserved moment.before.state moment.event.op source →
        moment.before.state.sources.find? source = some .operator) → OperatorLed moments) := by
  have hled : (∀ moment ∈ moments, ∀ op decision source, moment.Accepts op decision →
      Unchecked moment.before.state op → Reserved moment.before.state op source →
      moment.before.state.sources.find? source = some .operator) → OperatorLed moments := by
    intro hunchecked moment hmoment op decision source haccepts hreserved
    by_cases hchecked : Unchecked moment.before.state op
    · exact hunchecked moment hmoment op decision source haccepts hchecked hreserved
    · exact operator_of_accepts (h.accepts hmoment haccepts).2 hreserved hchecked
  refine ⟨⟨?_, hled⟩, fun hqualified => hled ?_⟩
  · intro hled moment hmoment op decision source haccepts _ hreserved
    exact hled moment hmoment op decision source haccepts hreserved
  · intro moment hmoment op decision source haccepts hunchecked hreserved
    have hop : moment.event.op = op := by rw [haccepts.1]; rfl
    have hqualifies := (h.accepts hmoment haccepts).2.qualifies hunchecked
    subst hop
    exact hqualified moment hmoment source hunchecked hqualifies hreserved

theorem Fabric.mem_momentsOf_concat {fabric : Fabric} {ops : List Op} {op : Op} {moment : Moment}
    (h : moment ∈ fabric.momentsOf (ops ++ [op])) :
    moment ∈ fabric.momentsOf ops ∨
      moment.before = fabric.after ops ∧ moment.event.op = op := by
  rw [Fabric.momentsOf_append] at h
  rcases List.mem_append.mp h with hearlier | hlast
  · exact .inl hearlier
  · obtain rfl := List.mem_singleton.mp hlast
    exact .inr ⟨rfl, rfl⟩

/-- The calls that lead a service off its first target, and the target to a new boot. -/
def Fleet.returning : List Op :=
  failedOver ++ adopt primary 2

theorem Fleet.not_unchecked_returning {op : Op} (h : op ∈ Fleet.returning) (state : State) :
    ¬Unchecked state op := by
  intro hunchecked
  cases hunchecked with
  | failback request =>
    simp [Fleet.returning, failedOver, opening, adopt, register, support, place, moveOn,
      turnDown] at h
  | preconditioned htrigger =>
    simp [Fleet.returning, failedOver, opening, adopt, register, support, place, moveOn,
      turnDown] at h
    rw [h] at htrigger
    cases htrigger

/-- An operator takes the service back to its first target. -/
theorem operatorLed_iff_failedOver :
    (Fleet.running Fleet.returning).accepted (Fleet.goBack 3 Fleet.primary Fleet.operator) ∧
    OperatorLed ((Fabric.create {} {}).momentsOf
      (Fleet.returning ++ [Fleet.goBack 3 Fleet.primary Fleet.operator])) := by
  have hfacts : ((Fleet.running Fleet.returning).accepted
      (Fleet.goBack 3 Fleet.primary Fleet.operator),
      (Fleet.running Fleet.returning).state.sources.find? Fleet.operator) =
        (true, some .operator) := by
    simp only [Fleet.running, Fabric.after_eq_drafted, Fabric.accepted, Fabric.call_eq_drafted]
    decide +kernel
  obtain ⟨haccepted, henrolled⟩ := Prod.mk.inj hfacts
  refine ⟨haccepted, (operatorLed_iff (Fleet.run_running _)).2 ?_⟩
  intro moment hmoment source hunchecked _ hreserved
  rcases Fabric.mem_momentsOf_concat hmoment with hearlier | ⟨hbefore, hop⟩
  · exact absurd hunchecked (Fabric.forall_momentsOf (P := fun _ op => ∀ state, ¬Unchecked state op)
      (fun op hop _ state => Fleet.not_unchecked_returning hop state) moment hearlier _)
  · rw [hop] at hreserved
    have hsource : source = Fleet.operator := by
      cases hreserved with
      | failback => rfl
    have hbefore : moment.before = Fleet.running Fleet.returning := hbefore
    rw [hbefore, hsource]
    exact henrolled

/-- A source that nobody enrolled. -/
def Fleet.stranger : SourceName := ⟨[120], by decide⟩

/-- A stranger takes a service back to its first target. -/
theorem not_operatorLed_failback :
    ¬OperatorLed ((Fabric.create {} {}).momentsOf
      (Fleet.returning ++ [Fleet.goBack 3 Fleet.primary Fleet.stranger])) := by
  intro hled
  have hfacts : ((Fleet.running Fleet.returning).accepted
      (Fleet.goBack 3 Fleet.primary Fleet.stranger),
      (Fleet.running Fleet.returning).state.sources.find? Fleet.stranger) = (true, none) := by
    simp only [Fleet.running, Fabric.after_eq_drafted, Fabric.accepted, Fabric.call_eq_drafted]
    decide +kernel
  obtain ⟨haccepted, hunknown⟩ := Prod.mk.inj hfacts
  obtain ⟨moment, hmoment, hbefore, decision, haccepts⟩ := Fabric.exists_last_accepts haccepted
  have hrole := hled moment hmoment _ decision Fleet.stranger haccepts (.failback _)
  have hbefore : moment.before = Fleet.running Fleet.returning := hbefore
  rw [hbefore, hunknown] at hrole
  cases hrole

end Authority

end OffloadFabric
