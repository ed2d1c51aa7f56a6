import OffloadFabric.Aftermath
import OffloadFabric.Clock
import OffloadFabric.Origins
import OffloadFabric.Refusals

/-!
Failovers on evidence. Whatever failure evidence an open memory retains goes back to a call of
the run that reported it, was accepted and is still on record, and it is as it was reported or
as a later call of an operator confirmed it. An accepted failover on evidence cites such
evidence of the current epoch and boot, about the active target of the service.
-/
namespace OffloadFabric

open Fabric (Op Moment)

/-! ### What a commit does to the evidence -/

section Commits

variable {config : FabricConfig} {fabric actor caller : Fabric} {op op' : Op} {commit : Commit}
  {evidence : FailureEvidence}

theorem Fabric.Ingested.reports {change : Change} {update : State → State}
    (h : fabric.Ingested op change update) (hchange : change = .failureIngested evidence) :
    ∃ reported, op = .ingestFailure reported ∧ fabric.Credible reported ∧
      assignEvidenceId fabric.state reported = .ok evidence.id ∧
      fabric.state.tick.successor = some evidence.provenance.tick ∧
      evidence = Fabric.retainedEvidence reported evidence.id evidence.provenance.tick := by
  cases h with
  | @failure reported id stamp hstamp hcredible hid
  | @suspicion reported id stamp hstamp hcredible hid =>
    obtain rfl := Change.failureIngested.inj hchange
    exact ⟨reported, rfl, hcredible, hid, hstamp, rfl⟩
  | _ => cases hchange

theorem Fabric.Moves.change_ne {move : Move} {decision : RecoveryDecision}
    (h : fabric.Moves move decision commit) (evidence : FailureEvidence) :
    commit.change ≠ .failureIngested evidence := by
  cases h with
  | intro =>
    intro hchange
    cases hchange

/-- A record of evidence is made of a report, or of the evidence that an operator confirmed. -/
theorem Fabric.Caused.reports (h : fabric.Caused op commit)
    (hchange : commit.change = .failureIngested evidence) :
    (∃ reported, op = .ingestFailure reported ∧ fabric.Credible reported ∧
      assignEvidenceId fabric.state reported = .ok evidence.id ∧
      fabric.state.tick.successor = some evidence.provenance.tick ∧
      evidence = Fabric.retainedEvidence reported evidence.id evidence.provenance.tick) ∨
    ∃ resolution runtime earlier stamp, op = .resolveAmbiguity resolution ∧
      resolution.confirmFailure = true ∧
      fabric.state.services.find? resolution.service = some runtime ∧
      fabric.checkResolution resolution runtime = .ok (earlier, stamp) ∧
      evidence = Fabric.promoted earlier := by
  cases h with
  | ingested hop hok hwrites =>
    rw [hwrites.change] at hchange
    exact Or.inl ((ingested_of_ok hop hok).reports hchange)
  | moved _ _ _ hmoves => exact absurd hchange (hmoves.change_ne evidence)
  | confirmed hfind hcheck hconfirm hwrites =>
    rw [hwrites.change] at hchange
    exact Or.inr ⟨_, _, _, _, rfl, hconfirm, hfind, hcheck,
      (Change.failureIngested.inj hchange).symm⟩
  | denied _ _ _ hwrites | acknowledged _ _ hwrites | reported _ _ _ _ hwrites =>
    rw [hwrites.change] at hchange
    cases hchange

theorem Fabric.Caused.change_ne_failure {request : FailoverRequest}
    (h : fabric.Caused (.requestFailover request) commit) (evidence : FailureEvidence) :
    commit.change ≠ .failureIngested evidence := by
  intro hchange
  rcases h.reports hchange with ⟨_, hop, -⟩ | ⟨_, _, _, _, hop, -⟩ <;> cases hop

/-- Evidence that a commit records is retained, in the place of whatever had its number. -/
theorem Fabric.Caused.files (h : fabric.Caused op commit)
    (hchange : commit.change = .failureIngested evidence) :
    commit.after.failures.find? evidence.id = some evidence := by
  cases h with
  | ingested hop hok hwrites =>
    have hingested := ingested_of_ok hop hok
    rw [hwrites.change] at hchange
    rw [hwrites.after]
    generalize Fabric.Proposal.change _ = change at hingested hchange
    generalize Fabric.Proposal.update _ = update at hingested
    cases hingested with
    | failure =>
      obtain rfl := Change.failureIngested.inj hchange
      exact OrderedMap.find?_insert_self _ _ _
    | suspicion =>
      obtain rfl := Change.failureIngested.inj hchange
      rw [State.failures_bump, State.failures_modifyService]
      exact OrderedMap.find?_insert_self _ _ _
    | _ => cases hchange
  | moved _ _ _ hmoves => exact absurd hchange (hmoves.change_ne evidence)
  | confirmed _ _ _ hwrites =>
    rw [hwrites.change] at hchange
    obtain rfl := Change.failureIngested.inj hchange
    rw [hwrites.after, Fabric.promotedState, State.failures_bump, State.failures_modifyService]
    exact OrderedMap.find?_insert_self _ _ _
  | denied _ _ _ hwrites | acknowledged _ _ hwrites | reported _ _ _ _ hwrites =>
    rw [hwrites.change] at hchange
    cases hchange

/-- A commit that records no evidence leaves all of it alone. -/
theorem Fabric.Caused.failures_eq (h : fabric.Caused op commit)
    (hchange : ∀ evidence, commit.change ≠ .failureIngested evidence) :
    commit.after.failures = commit.before.failures := by
  cases h with
  | ingested hop hok hwrites =>
    have hingested := ingested_of_ok hop hok
    rw [hwrites.change] at hchange
    rw [hwrites.after]
    generalize Fabric.Proposal.change _ = change at hingested hchange
    generalize Fabric.Proposal.update _ = update at hingested
    cases hingested with
    | failure | suspicion => exact absurd rfl (hchange _)
    | withdrawn => exact State.failures_modifyService _ _ _
    | dependency _ hupdate =>
      obtain ⟨stats, hafter⟩ := hupdate commit.before
      rw [hafter]
      rfl
    | _ => rfl
  | moved _ _ _ hmoves =>
    cases hmoves with
    | intro =>
      simp only [Move.update, State.failures_remember, State.failures_bump, State.failures_bumpAll]
  | confirmed _ _ _ hwrites => exact absurd hwrites.change (hchange _)
  | denied _ _ _ hwrites | acknowledged _ _ hwrites =>
    rw [hwrites.after]
    rfl
  | reported _ _ _ _ hwrites =>
    rw [hwrites.after]
    exact State.failures_bumpAll _ _

end Commits

/-! ### What a memory retains -/

/-- The last record of every number is retained. -/
def Retained (history : List Change) (state : State) : Prop :=
  ∀ past evidence rest, history = past ++ .failureIngested evidence :: rest →
    (∀ change ∈ rest, ∀ other, change ≠ .failureIngested other) →
    state.failures.find? evidence.id = some evidence

section Retained

variable {config : FabricConfig} {history : List Change} {state state' : State} {change : Change}

theorem Retained.congr (h : Retained history state) (hfailures : state'.failures = state.failures) :
    Retained history state' := by
  intro past evidence rest hsplit hrest
  rw [hfailures]
  exact h past evidence rest hsplit hrest

/-- One more change files evidence, or leaves the evidence alone. -/
theorem Retained.snoc (h : Retained history state)
    (hfiles : ∀ evidence, change = .failureIngested evidence →
      state'.failures.find? evidence.id = some evidence)
    (hother : (∀ evidence, change ≠ .failureIngested evidence) →
      state'.failures = state.failures) : Retained (history ++ [change]) state' := by
  intro past evidence rest hsplit hrest
  rcases append_singleton_split hsplit with ⟨-, hlast, -⟩ | ⟨rest, rfl, hhistory⟩
  · exact hfiles evidence hlast
  · rw [hother (hrest change (by simp))]
    exact h past evidence rest hhistory fun next hnext => hrest next (List.mem_append_left _ hnext)

theorem preserved_retained (config : FabricConfig) (allowed : Fabric → Op → Prop) :
    Preserved config allowed Retained where
  initial := by
    intro past evidence rest hsplit
    simp at hsplit
  keeps _ h hupkeep := h.congr (by rw [hupkeep.keeps.sameRecords])
  commit _ _ _ _ _ hcaused hbefore :=
    hbefore.2.snoc (fun _ hchange => hcaused.files hchange) hcaused.failures_eq
  snapshot _ h := h.congr rfl
  restart _ _ h := h.snoc (fun _ hchange => by cases hchange) fun _ => rfl
  replay {history state change} _ h _ := by
    refine h.snoc (fun evidence hchange => ?_) fun hother => ?_
    · subst hchange
      exact OrderedMap.find?_insert_self _ _ _
    · cases change with
      | failureIngested evidence => exact absurd rfl (hother evidence)
      | serviceWithdrawn service =>
        unfold Change.apply
        dsimp only
        split <;> rfl
      | _ => rfl

end Retained

/-! ### Where evidence comes from -/

/-- The change of the call was made durable, but the rotation of the journal that came due then
failed. -/
def Fabric.Unrotated (fabric : Fabric) (op : Op) : Prop :=
  ∃ change update code, fabric.Proposes op change update ∧
    (fabric.transact change update).1 = .uncompacted code

/-- The call of the moment reported the failure, and the memory it met found the report credible,
numbered it and stamped it. Its answer is an acceptance, unless the record was made durable but
the journal could not be rotated then. -/
structure Fabric.Moment.Reports (moment : Moment) (reported evidence : FailureEvidence) :
    Prop where
  opened : moment.before.opened = true
  called : moment.event.op = .ingestFailure reported
  credible : moment.before.Credible reported
  numbered : assignEvidenceId moment.before.state reported = .ok evidence.id
  stamped : moment.before.state.tick.successor = some evidence.provenance.tick
  recorded : evidence = Fabric.retainedEvidence reported evidence.id evidence.provenance.tick
  answered : ∃ code explanation,
    (moment.before.call moment.event.op).1 = .explained code explanation ∧
      (code.isAccept = true ∨ moment.before.entered.Unrotated moment.event.op)

/-- The call of the moment confirmed the evidence: an enrolled operator named what was pending of
the service. The failover that the call asks for besides may be refused. -/
structure Fabric.Moment.Confirms (moment : Moment) (resolution : AmbiguityResolution)
    (evidence : FailureEvidence) : Prop where
  opened : moment.before.opened = true
  called : moment.event.op = .resolveAmbiguity resolution
  confirms : resolution.confirmFailure = true
  operator : moment.before.state.sources.find? resolution.resolvedBy = some .operator
  pending : ∃ runtime earlier stamp,
    moment.before.state.services.find? resolution.service = some runtime ∧
    runtime.ambiguityPending = true ∧ runtime.pendingAmbiguity = resolution.evidence ∧
    moment.before.state.failures.find? resolution.evidence = some earlier ∧
    moment.before.checkResolution resolution runtime = .ok (earlier, stamp) ∧
    earlier.id = evidence.id ∧ evidence = Fabric.promoted earlier

/-- When the coordinator is next open, it retains the evidence. Should the process have died in
the call that recorded it, the record was read back. -/
def Persists (later : List Moment) (fabric : Fabric) (evidence : FailureEvidence) : Prop :=
  ∀ next ∈ (later.map Moment.before ++ [fabric]).find? Fabric.opened,
    next.state.failures.find? evidence.id = some evidence

/-- The moment reported the evidence, which was recorded, and no process started over with
nothing since. The evidence is as it was reported, or as a later moment confirmed it. -/
inductive Attested (config : FabricConfig) (moments : List Moment) (fabric : Fabric)
    (moment : Moment) (reported : FailureEvidence) : FailureEvidence → Prop where
  | reported {earlier later : List Moment} {evidence : FailureEvidence} :
      moments = earlier ++ moment :: later →
      (∀ next ∈ moment :: later, ¬next.before.Forgets config next.event) →
      moment.Reports reported evidence → Persists later fabric evidence →
      Attested config moments fabric moment reported evidence
  | confirmed {earlier between rest : List Moment} {confirming : Moment}
      {evidence : FailureEvidence} {resolution : AmbiguityResolution} :
      moments = earlier ++ moment :: (between ++ confirming :: rest) →
      (∀ next ∈ moment :: (between ++ confirming :: rest),
        ¬next.before.Forgets config next.event) →
      moment.Reports reported evidence → Persists (between ++ confirming :: rest) fabric evidence →
      confirming.Confirms resolution (Fabric.promoted evidence) →
      Persists rest fabric (Fabric.promoted evidence) →
      Attested config moments fabric moment reported (Fabric.promoted evidence)

section Attested

variable {config : FabricConfig} {allowed : Fabric → Op → Prop}
  {moments earlier later before : List Moment} {moment : Moment} {fabric : Fabric} {op : Op}
  {commit : Commit} {reported evidence : FailureEvidence} {history past : List Change}

/-- An accepted report is answered with an acceptance, unless the journal could not be rotated. -/
theorem Fabric.Evolves.answered {checked : Check Fabric.Proposal}
    (h : fabric.Evolves [commit] (fabric.dispatch op).2) (hcaused : fabric.Caused op commit)
    (hop : fabric.ingestion op = some checked) (hopen : op ≠ .openFabric) :
    ∃ code explanation, (fabric.dispatch op).1 = .explained code explanation ∧
      (code.isAccept = true ∨ fabric.Unrotated op) := by
  obtain ⟨service, subject, hdispatch⟩ := Fabric.dispatch_ingestion hop
  rw [hdispatch] at h ⊢
  refine ⟨_, _, rfl, ?_⟩
  by_cases hcode : (fabric.ingest service subject checked).1.1.isAccept = true
  · exact Or.inl hcode
  right
  rcases Fabric.ingest_spares hop (by simpa using hcode) with hleaves | hspares
  · cases hleaves with
    | uncompacted hproposes hfailed => exact ⟨_, _, _, hproposes, hfailed⟩
    | reopening => exact absurd rfl hopen
    | _ => cases hop
  · -- A refusal would have left the clock alone.
    have hlater := h.passes.tick_lt (by simpa using hcaused.tick) (List.cons_ne_nil _ _)
    have hsame := congrArg State.tick hspares.registries
    exact absurd hsame hlater.ne'

/-- A record of evidence was made by a report or a confirmation, which is answered as it should
be, and the evidence is retained when the coordinator is next open. -/
theorem Originates.files
    (h : Originates config allowed (Grounds config Retained) history past
      (.failureIngested evidence) moment later fabric) :
    moment.before.opened = true ∧ Persists later fabric evidence ∧
      ∃ commit, moment.before.entered.Caused moment.event.op commit ∧
        commit.change = .failureIngested evidence ∧
        ∀ reported, moment.event.op = .ingestFailure reported → ∃ code explanation,
          (moment.before.call moment.event.op).1 = .explained code explanation ∧
            (code.isAccept = true ∨ moment.before.entered.Unrotated moment.event.op) := by
  obtain ⟨hstep, first, memory, added, memory', hchronicled, hrecords, hafter, ⟨middle, rfl⟩,
    hfront, hrests⟩ := h
  rw [List.append_assoc, List.prefix_append_right_inj] at hfront
  obtain ⟨all, hadds, hkept⟩ : ∃ all, moment.before.Adds moment.event.op all ∧ added <+: all := by
    cases hevent : moment.event with
    | call op reply =>
      rw [hevent] at hrecords
      exact ⟨added, hrecords, List.prefix_refl _⟩
    | crash op =>
      rw [hevent] at hrecords
      exact hrecords
  have hpersists {rest : List Change} (hadded : added = middle ++ .failureIngested evidence :: rest)
      (hrest : ∀ change ∈ rest, ∀ other, change ≠ .failureIngested other) :
      Persists later fabric evidence := by
    obtain ⟨epochs, hepochs, -, hnext⟩ := hrests
    intro next hopens
    obtain ⟨memory, hchronicled⟩ := hnext next hopens
    have hretained := (hchronicled.running (List.find?_some hopens)).2.2
    refine hretained (first ++ middle) evidence (rest ++ epochs) (by simp [hadded])
      fun change hmem other => ?_
    rcases List.mem_append.mp hmem with hmem | hmem
    · exact hrest change hmem other
    · obtain ⟨epoch, boot, rfl⟩ := hepochs change hmem
      exact Change.noConfusion
  have hall := hfront.trans hkept
  generalize hop : moment.event.op = op at hadds
  cases hadds with
  | opensQuietly | closes => simp at hall
  | opensAgain => cases (eq_of_prefix_singleton hall).2
  | @performs _ commits hopen hclose hevolves hperforms hanswers hrunning =>
    have hopened : moment.before.opened = true := hrunning (by
      rintro rfl
      simp at hall)
    cases hperforms with
    | nothing => simp at hall
    | @once commit hcaused =>
      obtain ⟨rfl, hchange⟩ := eq_of_prefix_singleton hall
      obtain rfl : [.failureIngested evidence] = added := by
        refine hfront.eq_of_length_le ?_
        simpa using hkept.length_le
      exact ⟨hopened, hpersists rfl (by simp), commit, hcaused, hchange.symm, fun reported hop' =>
        hevolves.answered hcaused (by rw [hop']; rfl) (by rw [hop']; exact Op.noConfusion)⟩
    | @twice resolution one two middle' hop' hconfirm hone hconfig hopened' hmiddle htwo =>
      subst hop'
      obtain ⟨rest, rfl⟩ := hfront
      cases middle with
      | nil =>
        simp only [List.nil_append, List.singleton_append, List.map_cons, List.map_nil] at hkept
        obtain ⟨hchange, hrest⟩ := List.cons_prefix_cons.mp hkept
        refine ⟨hopened, hpersists rfl fun change hmem other => ?_, one, hone,
          hchange.symm, fun reported hop => by cases hop⟩
        obtain rfl := List.mem_singleton.mp (hrest.subset hmem)
        exact htwo.change_ne_failure other
      | cons head middle =>
        rw [List.cons_append, List.map_cons, List.cons_prefix_cons] at hall
        obtain ⟨-, hchange⟩ := eq_of_prefix_singleton hall.2
        exact absurd hchange.symm (htwo.change_ne_failure evidence)

/-- What a moment of the run found, and nothing forgot since, persists to its end. -/
theorem Persists.onward (h : Persists before moment.before evidence)
    (hopened : moment.before.opened = true) :
    Persists (before ++ moment :: later) fabric evidence := by
  intro next hnext
  have hsplit : (before ++ moment :: later).map Moment.before ++ [fabric] =
      (before.map Moment.before ++ [moment.before]) ++ (later.map Moment.before ++ [fabric]) := by
    simp
  rw [hsplit, List.find?_append] at hnext
  refine h next ?_
  cases hfind : (before.map Moment.before ++ [moment.before]).find? Fabric.opened with
  | none => simp [hopened] at hfind
  | some first => rwa [hfind, Option.some_or] at hnext

theorem not_forgets_append {source : Moment}
    (hbefore : ∀ next ∈ source :: before, ¬next.before.Forgets config next.event)
    (hlater : ∀ next ∈ moment :: later, ¬next.before.Forgets config next.event) :
    ∀ next ∈ source :: (before ++ moment :: later), ¬next.before.Forgets config next.event := by
  intro next hnext
  rw [← List.cons_append, List.mem_append] at hnext
  exact hnext.elim (hbefore next) (hlater next)

theorem Attested.onward {source : Moment}
    (h : Attested config earlier moment.before source reported evidence)
    (hsplit : moments = earlier ++ moment :: later) (hopened : moment.before.opened = true)
    (hkept : ∀ next ∈ moment :: later, ¬next.before.Forgets config next.event) :
    Attested config moments fabric source reported evidence := by
  subst hsplit
  cases h with
  | reported hearlier hbefore hreports hpersists =>
    subst hearlier
    exact .reported (List.append_assoc _ _ _) (not_forgets_append hbefore hkept) hreports
      (hpersists.onward hopened)
  | @confirmed first between rest confirming _ resolution hearlier hbefore hreports hpersists
      hconfirms hconfirmed =>
    subst hearlier
    have hlater : (between ++ confirming :: rest) ++ moment :: later =
        between ++ confirming :: (rest ++ moment :: later) := List.append_assoc _ _ _
    have hwhole : first ++ source :: (between ++ confirming :: rest) ++ moment :: later =
        first ++ source :: (between ++ confirming :: (rest ++ moment :: later)) := by simp
    exact .confirmed hwhole (hlater ▸ not_forgets_append hbefore hkept) hreports
      (hlater ▸ hpersists.onward hopened) hconfirms (hconfirmed.onward hopened)

/-- What an open memory retains was reported in the run, and perhaps confirmed. -/
theorem Fabric.Run.attested (hrun : Fabric.Run config moments fabric)
    (hopened : fabric.opened = true) {key : EvidenceId}
    (hfind : fabric.state.failures.find? key = some evidence) :
    key = evidence.id ∧ ∃ moment reported,
      Attested config moments fabric moment reported evidence := by
  -- Confirmed evidence was retained in a shorter run.
  induction hlength : moments.length using Nat.strong_induction_on generalizing moments fabric key
    evidence with
  | _ length ih =>
  obtain ⟨history, memory, -, hchronicled, horigins⟩ :=
    hrun.originates (preserved_retained config fun _ _ => True).stable fun _ _ => trivial
  obtain ⟨hkey, hmem⟩ := (hchronicled.running hopened).2.1.explains.failures key evidence hfind
  obtain ⟨past, hfront⟩ := exists_prefix_of_mem hmem
  obtain ⟨earlier, moment, later, hsplit, hkept, horigin⟩ := horigins past _ hfront
  obtain ⟨hbefore, hpersists, commit, hcaused, hchange, hanswered⟩ := horigin.files
  refine ⟨hkey, ?_⟩
  rcases hcaused.reports hchange with
    ⟨reported, hop, hcredible, hnumbered, hstamped, hrecorded⟩ |
    ⟨resolution, runtime, raw, stamp, hop, hconfirm, hservice, hcheck, rfl⟩
  · exact ⟨moment, reported, .reported hsplit hkept
      { opened := hbefore, called := hop, numbered := hnumbered, stamped := hstamped
        recorded := hrecorded, answered := hanswered reported hop
        credible := ⟨hcredible.role, hcredible.epoch, hcredible.boot, hcredible.topology,
          hcredible.policy, hcredible.service, hcredible.target, hcredible.fresh,
          hcredible.sequence, hcredible.id⟩ } hpersists⟩
  · obtain ⟨hrole, hpending, hnamed, hretained, -⟩ := Fabric.checkResolution_ok hcheck
    have hshorter : earlier.length < length := by
      rw [← hlength, hsplit]
      simp
    obtain ⟨hnumber, source, reported, hattested⟩ :=
      ih _ hshorter (hrun.front hsplit).1 hbefore hretained rfl
    have hconfirms : moment.Confirms resolution (Fabric.promoted raw) :=
      { opened := hbefore, called := hop, confirms := hconfirm
        operator := operator_of_roleSatisfies hrole
        pending := ⟨runtime, raw, stamp, hservice, hpending, hnamed.symm, hretained, hcheck, rfl,
          rfl⟩ }
    refine ⟨source, reported, ?_⟩
    cases hattested with
    | @reported first second _ hearlier hbetween hreports hpersists' =>
      have hlonger : moments = first ++ source :: (second ++ moment :: later) := by
        rw [hsplit, hearlier]
        exact List.append_assoc _ _ _
      exact .confirmed hlonger (not_forgets_append hbetween hkept) hreports
        (hpersists'.onward hbefore) hconfirms hpersists
    | confirmed hearlier hbetween hreports hpersists' hconfirms' hconfirmed =>
      -- Confirming evidence once more does not change it.
      exact (Attested.confirmed hearlier hbetween hreports hpersists' hconfirms' hconfirmed).onward
        hsplit hbefore hkept

end Attested

/-! ### Failovers on evidence -/

/-- The failover on evidence that a call asks for. -/
inductive Cites : Op → FailoverRequest → Prop where
  | direct {request : FailoverRequest} : request.trigger = .failureEvidence →
      Cites (.requestFailover request) request
  | resolved {resolution : AmbiguityResolution} : resolution.confirmFailure = true →
      Cites (.resolveAmbiguity resolution) (Fabric.resolutionRequest resolution)

/-- A call of the run reported the evidence, in the epoch and the boot of the state and from a
source enrolled to report failures. The report was unambiguous, or an operator confirmed it. -/
structure Origin (config : FabricConfig) (moments : List Moment) (fabric : Fabric) (state : State)
    (evidence : FailureEvidence) (moment : Moment) (reported : FailureEvidence) : Prop where
  attested : Attested config moments fabric moment reported evidence
  epoch : moment.before.state.epoch = state.epoch
  boot : moment.before.state.boot = state.boot
  source : reported.provenance.source = evidence.provenance.source
  enrolled : moment.before.state.sources.find? reported.provenance.source = some .failureReporter ∨
    moment.before.state.sources.find? reported.provenance.source = some .operator
  about : reported.service = evidence.service ∧ reported.target = evidence.target
  unambiguous : reported.ambiguity = .unambiguous ∨
    ∃ confirming ∈ moments, ∃ resolution, confirming.Confirms resolution evidence

/-- Evidence that justifies a failover to the destination. -/
structure Gated (config : FabricConfig) (moments : List Moment) (fabric : Fabric) (state : State)
    (request : FailoverRequest) (runtime : ServiceRuntime) (evidence : FailureEvidence)
    (destination : TargetRef) : Prop where
  registered : state.services.find? request.service = some runtime
  retained : state.failures.find? request.evidence = some evidence
  service : evidence.service = request.service
  active : runtime.active = some evidence.target
  origin : ∃ moment reported, Origin config moments fabric state evidence moment reported
  epoch : evidence.provenance.epoch = state.epoch
  boot : evidence.provenance.boot = state.boot
  age : evidence.provenance.tick ≤ state.tick ∧
    state.tick.value - evidence.provenance.tick.value ≤ state.policy.evidenceMaxAgeTicks.toUInt64
  topology : evidence.topologyGeneration = state.topologyGeneration
  policy : evidence.policyGeneration ≤ state.policyGeneration
  unambiguous : evidence.ambiguity = .unambiguous
  dependencies : (qualifyDependencies state runtime).blocking = .ok
  elsewhere : destination.target ≠ evidence.target.target

section Gate

variable {config : FabricConfig} {moments : List Moment} {fabric actor : Fabric} {op : Op}
  {decision : RecoveryDecision} {request : FailoverRequest} {evidence reported : FailureEvidence}
  {state : State} {moment : Moment}

theorem enrolled_of_roleSatisfies {source : SourceName} {role : SourceRole}
    (h : state.roleSatisfies source role = true) :
    state.sources.find? source = some role ∨ state.sources.find? source = some .operator := by
  unfold State.roleSatisfies at h
  split at h
  · cases h
  · rename_i found hfound
    rw [hfound]
    simpa using h

/-- Unambiguous evidence of an epoch and a boot was reported in them. -/
theorem Attested.origin (h : Attested config moments fabric moment reported evidence)
    (hepoch : evidence.provenance.epoch = state.epoch)
    (hboot : evidence.provenance.boot = state.boot)
    (hunambiguous : evidence.ambiguity = .unambiguous) :
    Origin config moments fabric state evidence moment reported := by
  have hattested := h
  cases h with
  | reported _ _ hreports =>
    have hcredible := hreports.credible
    rw [hreports.recorded] at hepoch hboot hunambiguous
    exact
      { attested := hattested
        epoch := hcredible.epoch.symm.trans hepoch
        boot := hcredible.boot.symm.trans hboot
        source := by rw [hreports.recorded]; rfl
        enrolled := enrolled_of_roleSatisfies hcredible.role
        about := by rw [hreports.recorded]; exact ⟨rfl, rfl⟩
        unambiguous := Or.inl hunambiguous }
  | @confirmed _ _ _ confirming raw resolution hsplit _ hreports _ hconfirms =>
    have hcredible := hreports.credible
    have hconfirming : confirming ∈ moments := by
      rw [hsplit]
      simp
    have hsame : raw.provenance.epoch = state.epoch ∧ raw.provenance.boot = state.boot :=
      ⟨hepoch, hboot⟩
    rw [hreports.recorded] at hsame
    refine
      { attested := hattested
        epoch := hcredible.epoch.symm.trans hsame.1
        boot := hcredible.boot.symm.trans hsame.2
        source := ?_
        enrolled := enrolled_of_roleSatisfies hcredible.role
        about := ?_
        unambiguous := Or.inr ⟨confirming, hconfirming, resolution, hconfirms⟩ }
    · show _ = raw.provenance.source
      rw [hreports.recorded]
      rfl
    · show reported.service = raw.service ∧ reported.target = raw.target
      rw [hreports.recorded]
      exact ⟨rfl, rfl⟩

/-- Only the failover that a call cites is decided on evidence. -/
theorem Cites.acts {service : ServiceName} {check : ServiceRuntime → Check Qualified} {op' : Op}
    (h : Cites op request) (hacts : fabric.Acts op actor op')
    (hmoving : actor.moving op' = some (service, check)) :
    op' = .requestFailover request ∧ request.trigger = .failureEvidence := by
  cases h with
  | direct htrigger =>
    cases hacts with
    | direct => exact ⟨rfl, htrigger⟩
  | resolved hconfirm =>
    cases hacts with
    | direct => cases hmoving
    | confirmed => exact ⟨rfl, if_pos hconfirm⟩

theorem Cites.relocates (h : Cites op request) : op.relocates = some request.service := by
  cases h with
  | direct => rfl
  | resolved hconfirm => exact if_pos hconfirm

/-- The call of an accepted move ends with the evidence that whoever acted in it found. -/
theorem Fabric.Carries.failures {service : ServiceName} {op' : Op} {move : Move} {grant : Grant}
    {prior : State} (h : fabric.Carries op decision service actor op' move grant prior) :
    (fabric.call op).2.state.failures = actor.state.failures := by
  cases h with
  | intro _ _ _ _ hprior _ hbefore _ hkeeps =>
    rw [hkeeps.sameRecords]
    dsimp only
    simp only [Move.update, State.failures_remember, State.failures_bump, State.failures_bumpAll]
    rw [hbefore.sameRecords]
    dsimp only
    rw [hprior.state.sameRecords]

/-- An accepted failover on evidence is justified by evidence that its run reported. -/
theorem evidence_gated (hrun : Fabric.Run config moments fabric)
    (h : fabric.Accepts op decision) (hcites : Cites op request) :
    ∃ actor runtime evidence intent, fabric.entered.Acts op actor (.requestFailover request) ∧
      actor.state.core = fabric.state.core ∧ decision.intent = some intent ∧
      Gated config (moments ++ [{ before := fabric, event := .call op (.decided decision) }])
        (fabric.call op).2 actor.state request runtime evidence intent.toTarget := by
  obtain ⟨hopened, actor, op', move, grant, prior, hcarries⟩ := h.carries hcites.relocates
  have hretains := hcarries.failures
  cases hcarries with
  | @intro check runtime qualified _ prior pushed before hacts hmoving hfind hok _ _ _ hintent _ =>
  obtain ⟨rfl, htrigger⟩ := hcites.acts hacts hmoving
  cases hmoving
  obtain ⟨-, -, -, -, -, hwalk, cited, target, hcited, hchosen, hmove⟩ :=
    Fabric.checkFailover_ok hok
  obtain ⟨evidence, hjustifies⟩ : ∃ evidence,
      Fabric.Justifies actor.state request runtime evidence := by
    rcases Fabric.checkTrigger_ok hcited with ⟨-, evidence, -, hjustifies⟩ | ⟨hother, -⟩
    · exact ⟨evidence, hjustifies⟩
    · exact absurd htrigger hother
  -- The deciding call is a step of the run, and may confirm the evidence itself.
  have hclose : op ≠ .closeFabric := by
    rintro rfl
    cases hcites
  have hlonger := hrun.step (.call fabric op)
  rw [h.reply] at hlonger
  obtain ⟨-, moment, reported, hattested⟩ := hlonger.attested
    (Fabric.call_passes hopened hclose).1 (hretains ▸ hjustifies.retained)
  obtain ⟨-, name, htarget, -, helsewhere⟩ := selectFallback_ok hchosen
  refine ⟨actor, runtime, evidence, _, hacts, hacts.same.1, hintent,
    { registered := hfind
      retained := hjustifies.retained
      service := hjustifies.service
      active := hjustifies.active
      origin := ⟨moment, reported,
        hattested.origin hjustifies.epoch hjustifies.boot hjustifies.unambiguous⟩
      epoch := hjustifies.epoch
      boot := hjustifies.boot
      age := ⟨hjustifies.past, hjustifies.age⟩
      topology := hjustifies.topology
      policy := hjustifies.policy
      unambiguous := hjustifies.unambiguous
      dependencies := hwalk
      elsewhere := ?_ }⟩
  have hname : target.name = name := by
    have htargets : actor.state.targets = fabric.state.targets :=
      congrArg Core.targets hacts.same.1
    rw [htargets] at htarget
    exact (hrun.sound.targets _ _ htarget).1
  rw [hmove, Move.intent, Move.destination, hname]
  exact helsewhere _ (Option.mem_def.mpr hjustifies.active)

/-- The service was placed, and its target may have failed. -/
def Fleet.doubted : List Op :=
  placed ++ [reportFailure 1 .ambiguous]

/-- A failure was suspected, and the operator who confirms it moves the service away. -/
theorem evidence_gated_reported : ∃ decision,
    (Fleet.running Fleet.doubted).Accepts (Fleet.settle 2 1 true) decision ∧
    ∃ state runtime evidence intent, decision.intent = some intent ∧
      Gated {} ((Fabric.create {} {}).momentsOf Fleet.doubted ++
          [{ before := Fleet.running Fleet.doubted
             event := .call (Fleet.settle 2 1 true) (.decided decision) }])
        ((Fleet.running Fleet.doubted).call (Fleet.settle 2 1 true)).2 state
        { key := ⟨2⟩, service := Fleet.service, evidence := ⟨1⟩, requester := Fleet.operator
          operatorAuthorized := true } runtime evidence intent.toTarget := by
  have haccepted :
      (Fleet.running Fleet.doubted).accepted (Fleet.settle 2 1 true) = true := by
    simp only [Fleet.running, Fabric.after_eq_drafted, Fabric.accepted, Fabric.call_eq_drafted]
    decide +kernel
  obtain ⟨decision, haccepts⟩ := Fabric.exists_accepts_of_accepted haccepted
  obtain ⟨actor, runtime, evidence, intent, -, -, hintent, hgated⟩ :=
    evidence_gated (Fleet.run_running _) haccepts (.resolved rfl)
  exact ⟨decision, haccepts, actor.state, runtime, evidence, intent, hintent, hgated⟩

end Gate

end OffloadFabric
