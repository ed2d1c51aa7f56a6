import OffloadFabric.Accounts
import OffloadFabric.Runs
import OffloadFabric.Watermarks

/-!
Deliveries that come again. A registration or an observation that was accepted is
recognised when it is repeated at once, and the repetition only counts and explains. Two
recognitions look at less or at more than was retained: a target is compared whole with
its stamped record, and a capability report is recognised by its generation alone, however
stale the slot has become.
-/
namespace OffloadFabric

open Fabric (Op)

/-! ### Checks that refuse -/

/-- The check ends in a refusal that has the property. -/
def Check.Refuses {α : Type} (P : Refusal → Prop) (check : Check α) : Prop :=
  ∃ refused, check = .error refused ∧ P refused

namespace Check.Refuses

variable {α β : Type} {P : Refusal → Prop}

theorem here {cond : Prop} [Decidable cond] {refusal : Refusal} {f : Unit → Check α}
    (hcond : ¬cond) (h : P refusal) : Refuses P (require cond refusal >>= f) := by
  refine ⟨refusal, ?_, h⟩
  rw [require, if_neg hcond]
  rfl

theorem last {cond : Prop} [Decidable cond] {refusal : Refusal} (hcond : ¬cond)
    (h : P refusal) : Refuses P (require cond refusal) :=
  ⟨refusal, by rw [require, if_neg hcond], h⟩

theorem later {cond : Prop} [Decidable cond] {refusal : Refusal} {f : Unit → Check α}
    (hcond : cond) (h : Refuses P (f ())) : Refuses P (require cond refusal >>= f) := by
  rw [require, if_pos hcond]
  exact h

theorem found {value : Option β} {refusal : Refusal} {f : β → Check α} {b : β}
    (hvalue : value = some b) (h : Refuses P (f b)) : Refuses P (demand value refusal >>= f) := by
  rw [hvalue]
  exact h

theorem first {check : Check β} {f : β → Check α} (h : Refuses P check) :
    Refuses P (check >>= f) := by
  obtain ⟨refused, herror, hrefused⟩ := h
  rw [herror]
  exact ⟨refused, rfl, hrefused⟩

theorem past {check : Check β} {f : β → Check α} {b : β} (hcheck : check = .ok b)
    (h : Refuses P (f b)) : Refuses P (check >>= f) := by
  rw [hcheck]
  exact h

end Check.Refuses

/-! ### Recognising a delivery -/

namespace Fabric

/-- The check of the call refuses it with the code. -/
def TurnsDown (fabric : Fabric) (op : Op) (code : Reason) : Prop :=
  ∃ checked, fabric.ingestion op = some checked ∧
    checked.Refuses fun refused => refused.code = code

/-- The call is answered as one that was carried out before, and does no more than count and
explain. -/
structure Redelivers (fabric : Fabric) (op : Op) : Prop where
  answered : ∃ explanation,
    (fabric.call op).1 = .explained .acceptDuplicateIdempotent explanation
  unchanged : (fabric.call op).2 =
    { fabric with
      state := { fabric.state with stats := (fabric.call op).2.state.stats }
      explanations := (fabric.call op).2.explanations, log := [] }

section Recognition

variable {fabric fabric' : Fabric} {op : Op} {code : Reason} {explanation : Explanation}

/-- An ingestion looks at the registries, and at nothing that counts or explains. -/
theorem ingestion_congr (hconfig : fabric'.config = fabric.config)
    (hopened : fabric'.opened = fabric.opened)
    (hregistries : fabric'.state.registries = fabric.state.registries) :
    fabric'.ingestion op = fabric.ingestion op := by
  have hreduced (fabric : Fabric) : fabric.ingestion op =
      { create fabric.config {} with
        opened := fabric.opened, state := fabric.state.registries }.ingestion op := by
    cases op <;> rfl
  rw [hreduced fabric', hreduced fabric, hconfig, hopened, hregistries]

theorem TurnsDown.congr (h : fabric.TurnsDown op code) (hconfig : fabric'.config = fabric.config)
    (hopened : fabric'.opened = fabric.opened)
    (hregistries : fabric'.state.registries = fabric.state.registries) :
    fabric'.TurnsDown op code := by
  obtain ⟨checked, hop, hrefuses⟩ := h
  exact ⟨checked, (ingestion_congr hconfig hopened hregistries).trans hop, hrefuses⟩

theorem bumpAll_stats (state : State) (fields : List StatField) :
    state.bumpAll fields = { state with stats := (state.bumpAll fields).stats } := by
  unfold State.bumpAll
  induction fields generalizing state with
  | nil => rfl
  | cons field rest ih =>
    show List.foldl State.bump (state.bump field) rest = _
    rw [ih]
    rfl

/-- A call that its check turns down is answered so, and only counts and explains. -/
theorem TurnsDown.call (h : fabric.entered.TurnsDown op code) :
    (∃ explanation, (fabric.call op).1 = .explained code explanation) ∧
      (fabric.call op).2 =
        { fabric with
          state := { fabric.state with stats := (fabric.call op).2.state.stats }
          explanations := (fabric.call op).2.explanations, log := [] } := by
  obtain ⟨checked, hop, refused, rfl, rfl⟩ := h
  obtain ⟨service, subject, hcall⟩ := dispatch_ingestion hop
  change fabric.call op = _ at hcall
  rw [hcall]
  refine ⟨⟨_, rfl⟩, ?_⟩
  have hcounted := bumpAll_stats fabric.state refused.counters
  simp only [replyExplained, ingest, finishIngest, recordExplanation, State.bump]
  show Fabric.mk .. = Fabric.mk ..
  rw [show fabric.entered.state = fabric.state from rfl, hcounted]
  rfl

theorem TurnsDown.redelivers_iff (h : fabric.entered.TurnsDown op code) :
    fabric.Redelivers op ↔ code = .acceptDuplicateIdempotent := by
  obtain ⟨⟨explanation, hreply⟩, hunchanged⟩ := h.call
  constructor
  · rintro ⟨⟨other, hother⟩, -⟩
    exact (Reply.explained.inj (hreply.symm.trans hother)).1
  · rintro rfl
    exact ⟨⟨explanation, hreply⟩, hunchanged⟩

theorem eq_duplicate (haccept : code.isAccept = true) (hfresh : code.isFresh = false) :
    code = .acceptDuplicateIdempotent := by
  rw [← code.accepts_eq] at haccept
  unfold Reason.isFresh at hfresh
  split at hfresh
  · rfl
  · rw [haccept] at hfresh
    cases hfresh

end Recognition

/-! ### What was carried out is recognised -/

/-- The memory that an ingestion leaves, up to its counters. -/
def carriedOut (fabric : Fabric) (proposal : Proposal) : Fabric :=
  { fabric with state := proposal.update fabric.state }

section CarriedOut

variable {fabric : Fabric} {state state' : State} {proposal : Proposal}

theorem roleSatisfies_congr (hsources : state'.sources = state.sources)
    {source : SourceName} {required : SourceRole} (h : state.roleSatisfies source required) :
    state'.roleSatisfies source required := by
  unfold State.roleSatisfies at h ⊢
  rw [hsources]
  exact h

/-- Nothing but the services is modified. -/
theorem modifyService_eq (state : State) (service : ServiceName)
    (f : ServiceRuntime → ServiceRuntime) :
    state.modifyService service f =
      { state with services := (state.modifyService service f).services } := by
  unfold State.modifyService
  split <;> rfl

theorem recognises_enrolment {source : SourceName} {role : SourceRole}
    (h : fabric.checkEnrollSource source role = .ok proposal) :
    (fabric.carriedOut proposal).TurnsDown (.enrollSource source role)
      .acceptDuplicateIdempotent := by
  simp only [checkEnrollSource, require_bind_ok, demand_bind_ok, check_pure_ok] at h
  obtain ⟨hopened, hname, -, -, -, stamp, -, rfl⟩ := h
  refine ⟨_, rfl, .later hopened (.later hname (.here ?_ rfl))⟩
  exact not_not.mpr (OrderedMap.find?_insert_self _ _ _)

theorem recognises_service {descriptor : ServiceDescriptor} {registrar : SourceName}
    (h : fabric.checkRegisterService descriptor registrar = .ok proposal) :
    (fabric.carriedOut proposal).TurnsDown (.registerService descriptor registrar)
      .acceptDuplicateIdempotent := by
  simp only [checkRegisterService, require_bind_ok, demand_bind_ok, check_pure_ok] at h
  obtain ⟨hopened, hrole, hvalid, -, -, -, stamp, -, -, rfl⟩ := h
  refine ⟨_, rfl, .later hopened (.later hrole (.later hvalid (.here ?_ rfl)))⟩
  rw [not_not]
  exact congrArg (Option.map ServiceRuntime.descriptor) (OrderedMap.find?_insert_self _ _ _)

/-- A stamped record is recognised when the stamp is the caller's own. -/
theorem refuses_checkAdoption {target : TargetRecord} {generation : TopologyGeneration}
    (hfind : fabric.state.targets.find? target.name =
      some { target with topologyGeneration := generation }) :
    (fabric.checkAdoption target).Refuses fun refused =>
      refused.code = if target.topologyGeneration = generation then .acceptDuplicateIdempotent
        else .duplicateTarget := by
  unfold checkAdoption
  simp only [hfind]
  refine .later (lt_irrefl _) ?_
  by_cases hgeneration : target.topologyGeneration = generation
  · subst hgeneration
    exact .here (not_not.mpr rfl) (if_pos rfl).symm
  · have hother : { target with topologyGeneration := generation } ≠ target := by
      intro heq
      exact hgeneration (congrArg TargetRecord.topologyGeneration heq).symm
    exact .later hother (.last (not_not.mpr rfl) (if_neg hgeneration).symm)

/-- A target is recognised when it was registered under the topology generation it names. -/
theorem recognises_target {target : TargetRecord} {registrar : SourceName}
    (h : fabric.checkRegisterTarget target registrar = .ok proposal) :
    (fabric.carriedOut proposal).TurnsDown (.registerTarget target registrar)
      (if target.topologyGeneration = fabric.state.topologyGeneration then
        .acceptDuplicateIdempotent else .duplicateTarget) := by
  simp only [checkRegisterTarget, require_bind_ok] at h
  obtain ⟨hopened, hrole, hidentity, hincarnation, h⟩ := h
  obtain ⟨_, -, h⟩ := check_bind_ok.mp h
  simp only [demand_bind_ok, check_pure_ok] at h
  obtain ⟨stamp, -, rfl⟩ := h
  refine ⟨_, rfl, .later hopened (.later hrole (.later hidentity (.later hincarnation
    (.first ?_))))⟩
  exact refuses_checkAdoption (OrderedMap.find?_insert_self _ _ _)

theorem recognises_topology {generation : TopologyGeneration} {reporter : SourceName}
    (h : fabric.checkSetTopologyGeneration generation reporter = .ok proposal) :
    (fabric.carriedOut proposal).TurnsDown (.setTopologyGeneration generation reporter)
      .acceptDuplicateIdempotent := by
  simp only [checkSetTopologyGeneration, require_bind_ok, demand_bind_ok, check_pure_ok] at h
  obtain ⟨hopened, hrole, -, -, stamp, -, rfl⟩ := h
  exact ⟨_, rfl, .later hopened (.later hrole (.later (lt_irrefl _) (.here (not_not.mpr rfl) rfl)))⟩

theorem recognises_policy {policy : PolicyDescriptor}
    (h : fabric.checkSetPolicy policy = .ok proposal) :
    (fabric.carriedOut proposal).TurnsDown (.setPolicy policy) .acceptDuplicateIdempotent := by
  simp only [checkSetPolicy, require_bind_ok, demand_bind_ok, check_pure_ok] at h
  obtain ⟨hopened, hvalid, -, -, -, stamp, -, rfl⟩ := h
  exact ⟨_, rfl, .later hopened (.later hvalid (.later (lt_irrefl _)
    (.here (not_not.mpr ⟨rfl, rfl⟩) rfl)))⟩

theorem recognises_withdrawal {service : ServiceName} {requester : SourceName}
    (h : fabric.checkWithdrawService service requester = .ok proposal) :
    (fabric.carriedOut proposal).TurnsDown (.withdrawService service requester)
      .acceptDuplicateIdempotent := by
  simp only [checkWithdrawService, require_bind_ok, demand_bind_ok, check_pure_ok] at h
  obtain ⟨hopened, hrole, runtime, hfind, -, stamp, -, rfl⟩ := h
  have hwithdrawn : ({ fabric.state with tick := stamp }.modifyService service
      fun runtime => runtime.withdraw stamp).services.find? service =
      some (runtime.withdraw stamp) := by
    rw [State.find?_modifyService, if_pos rfl]
    exact congrArg _ hfind
  refine ⟨_, rfl, .later hopened (.later ?_ (.found hwithdrawn (.here (not_not.mpr rfl) rfl)))⟩
  exact roleSatisfies_congr (congrArg State.sources (modifyService_eq _ _ _)) hrole

/-- The same generation with the same capabilities is recognised. -/
theorem refuses_checkSlot {evidence : CapabilityEvidence} {slot : CapabilitySlot}
    (hfind : state.capabilities.find? evidence.target = some slot)
    (hgeneration : evidence.generation = slot.evidence.generation)
    (hcapabilities : evidence.capabilities = slot.evidence.capabilities)
    (hincarnation : evidence.incarnation = slot.evidence.incarnation) :
    (checkSlot evidence (constrainingSlot state evidence)).Refuses fun refused =>
      refused.code = .acceptDuplicateIdempotent := by
  have hslot : constrainingSlot state evidence = some slot := by
    rw [constrainingSlot, hfind, Option.filter_some, if_pos]
    exact decide_eq_true hincarnation.symm
  have hnew : ¬evidence.generation < slot.evidence.generation := hgeneration ▸ lt_irrefl _
  rw [hslot]
  exact .later hnew (.here (not_not.mpr ⟨hgeneration, hcapabilities, hincarnation⟩) rfl)

theorem recognises_capability {evidence : CapabilityEvidence}
    (h : fabric.checkIngestCapability evidence = .ok proposal) :
    (fabric.carriedOut proposal).TurnsDown (.ingestCapability evidence)
      .acceptDuplicateIdempotent := by
  simp only [checkIngestCapability, require_bind_ok, demand_bind_ok] at h
  obtain ⟨hopened, hrole, target, htarget, hincarnation, htopology, h⟩ := h
  obtain ⟨_, -, h⟩ := check_bind_ok.mp h
  simp only [require_bind_ok, demand_bind_ok, check_pure_ok] at h
  obtain ⟨-, stamp, -, rfl⟩ := h
  refine ⟨_, rfl, .later hopened (.later hrole (.found htarget (.later hincarnation
    (.later htopology (.first ?_)))))⟩
  exact refuses_checkSlot (OrderedMap.find?_insert_self _ _ _) rfl rfl rfl

/-- The sequence and digest that the watermark of a source holds are recognised. -/
theorem refuses_checkWatermark {provenance : Provenance} {fingerprint : Digest}
    {watermark : SourceWatermark} (texts : WatermarkTexts) (values : Bool)
    (hfind : state.watermarks.find? provenance.source = some watermark)
    (hsequence : provenance.sequence = watermark.sequence)
    (hdigest : fingerprint = watermark.digest) :
    (checkWatermark state provenance fingerprint texts values).Refuses fun refused =>
      refused.code = .acceptDuplicateIdempotent := by
  unfold checkWatermark
  simp only [hfind]
  exact .here (not_not.mpr ⟨hsequence, hdigest⟩) rfl

/-- The same sources, targets and authority, and no service fewer. -/
structure SameStanding (state state' : State) : Prop where
  sources : state'.sources = state.sources
  targets : state'.targets = state.targets
  epoch : state'.epoch = state.epoch
  boot : state'.boot = state.boot
  services : ∀ service runtime, state.services.find? service = some runtime →
    ∃ next, state'.services.find? service = some next

theorem SameStanding.bump (h : SameStanding state state') (field : StatField) :
    SameStanding state (state'.bump field) :=
  ⟨h.sources, h.targets, h.epoch, h.boot, h.services⟩

theorem SameStanding.modifyService (h : SameStanding state state') (service : ServiceName)
    (f : ServiceRuntime → ServiceRuntime) :
    SameStanding state (state'.modifyService service f) := by
  rw [modifyService_eq]
  refine ⟨h.sources, h.targets, h.epoch, h.boot, fun other runtime hfind => ?_⟩
  obtain ⟨next, hnext⟩ := h.services other runtime hfind
  show ∃ next, (state'.modifyService service f).services.find? other = some next
  rw [State.find?_modifyService]
  by_cases heq : other = service
  · subst heq
    rw [if_pos rfl, hnext]
    exact ⟨_, rfl⟩
  · rw [if_neg heq]
    exact ⟨next, hnext⟩

theorem SameStanding.retainFailure (config : FabricConfig) (evidence : FailureEvidence)
    (stamp : LogicalTick) (state : State) :
    SameStanding state (Fabric.retainFailure config evidence stamp state) := by
  have hcore : (Fabric.retainFailure config evidence stamp state).core = state.core :=
    State.core_retainFailure _ _ _ _
  refine ⟨congrArg Core.sources hcore, congrArg Core.targets hcore, congrArg Core.epoch hcore,
    congrArg Core.boot hcore, fun service runtime hfind => ⟨runtime, ?_⟩⟩
  rw [State.services_retainFailure]
  exact hfind

theorem SameStanding.checkAuthority (h : SameStanding state state') (provenance : Provenance)
    (what : String) (values : Bool) :
    Fabric.checkAuthority state' provenance what values =
      Fabric.checkAuthority state provenance what values := by
  unfold Fabric.checkAuthority
  rw [h.epoch, h.boot]

/-- Failure evidence that passed its check and is the last of its source is recognised. -/
theorem recognises_evidence {evidence : FailureEvidence} {watermark : SourceWatermark}
    (h : fabric.checkFailureEvidence evidence = .ok ()) (hsame : SameStanding fabric.state state')
    (hfind : state'.watermarks.find? evidence.provenance.source = some watermark)
    (hsequence : evidence.provenance.sequence = watermark.sequence)
    (hdigest : failureFingerprint evidence = watermark.digest) :
    Check.Refuses (fun refused => refused.code = .acceptDuplicateIdempotent)
      (checkFailureEvidence { fabric with state := state' } evidence) := by
  simp only [checkFailureEvidence, require_bind_ok, demand_bind_ok] at h
  obtain ⟨hopened, hrole, runtime, hservice, record, htarget, hinitial, h⟩ := h
  obtain ⟨_, hauthority, -⟩ := check_bind_ok.mp h
  obtain ⟨next, hnext⟩ := hsame.services _ _ hservice
  exact .later hopened (.later (roleSatisfies_congr hsame.sources hrole) (.found hnext
    (.found ((congrArg (OrderedMap.find? · _) hsame.targets).trans htarget) (.later hinitial
    (.past ((hsame.checkAuthority _ _ _).trans hauthority)
    (.first (refuses_checkWatermark _ _ hfind hsequence hdigest)))))))

theorem recognises_failure {evidence : FailureEvidence}
    (h : fabric.checkIngestFailure evidence = .ok proposal) :
    (fabric.carriedOut proposal).TurnsDown (.ingestFailure evidence)
      .acceptDuplicateIdempotent := by
  obtain ⟨-, stamp, id, -, -, -, hupdate⟩ := checkIngestFailure_ok h
  unfold checkIngestFailure at h
  obtain ⟨_, hcheck, -⟩ := check_bind_ok.mp h
  have hsame := SameStanding.retainFailure fabric.config (retainedEvidence evidence id stamp) stamp
    fabric.state
  have hwatermark : (retainFailure fabric.config (retainedEvidence evidence id stamp) stamp
      fabric.state).watermarks.find? evidence.provenance.source =
      some (Change.watermarkOf { evidence.provenance with tick := stamp }
        (failureFingerprint evidence)) := by
    rw [watermarks_retainFailure]
    exact OrderedMap.find?_insert_self _ _ _
  refine ⟨_, rfl, .first ?_⟩
  unfold carriedOut
  rw [hupdate]
  by_cases hambiguity : evidence.ambiguity = .unambiguous
  · rw [if_pos hambiguity]
    exact recognises_evidence hcheck hsame hwatermark rfl rfl
  · rw [if_neg hambiguity]
    have hsuspended (f : ServiceRuntime → ServiceRuntime) :=
      (congrArg (OrderedMap.find? · evidence.provenance.source)
        (watermarks_modifyService (retainFailure fabric.config (retainedEvidence evidence id stamp)
          stamp fabric.state) evidence.service f)).trans hwatermark
    exact recognises_evidence hcheck ((hsame.modifyService _ _).bump _) (hsuspended _) rfl rfl

theorem recognises_dependency {observation : DependencyObservation}
    (h : fabric.checkIngestDependency observation = .ok proposal) :
    (fabric.carriedOut proposal).TurnsDown (.ingestDependency observation)
      .acceptDuplicateIdempotent := by
  obtain ⟨-, stamp, -, -, hupdate⟩ := checkIngestDependency_ok h
  obtain ⟨stats, hupdate⟩ := hupdate fabric.state
  simp only [checkIngestDependency, require_bind_ok, demand_bind_ok] at h
  obtain ⟨hopened, hrole, runtime, hservice, other, hother, hself, hinitial, h⟩ := h
  obtain ⟨_, hauthority, -⟩ := check_bind_ok.mp h
  refine ⟨_, rfl, ?_⟩
  unfold carriedOut
  rw [hupdate]
  exact .later hopened (.later hrole (.found hservice (.found hother (.later hself (.later hinitial
    (.past hauthority (.first (refuses_checkWatermark _ _ (OrderedMap.find?_insert_self _ _ _)
      rfl rfl))))))))

end CarriedOut

/-! ### Repeated calls -/

/-- The deliveries that are recognised when they come again. -/
def Op.delivers : Op → Bool
  | .enrollSource _ _ | .registerService _ _ | .registerTarget _ _ | .setTopologyGeneration _ _
  | .setPolicy _ | .withdrawService _ _ | .ingestCapability _ | .ingestFailure _
  | .ingestDependency _ => true
  | _ => false

/-- A target that is registered names the running topology generation, or is already on record
as it is given. -/
def NamesTopology (state : State) (op : Op) : Prop :=
  ∀ target registrar, op = .registerTarget target registrar →
    target.topologyGeneration = state.topologyGeneration ∨
      state.targets.find? target.name = some target

section Repeated

variable {fabric : Fabric} {op : Op} {proposal : Proposal} {code : Reason}
  {explanation : Explanation}

theorem exists_ingestion_of_delivers (hdelivers : op.delivers = true) :
    ∃ checked, fabric.ingestion op = some checked := by
  cases op with
  | enrollSource | registerService | registerTarget | setTopologyGeneration | setPolicy
  | withdrawService | ingestCapability | ingestFailure | ingestDependency => exact ⟨_, rfl⟩
  | _ => cases hdelivers

theorem State.targets_of_registries {state state' : State}
    (h : state'.registries = state.registries) : state'.targets = state.targets := by
  have htargets := congrArg State.targets h
  exact htargets

theorem State.topologyGeneration_of_registries {state state' : State}
    (h : state'.registries = state.registries) :
    state'.topologyGeneration = state.topologyGeneration := by
  have htopology := congrArg State.topologyGeneration h
  exact htopology

/-- A target that its check lets through is not on record as it is given. -/
theorem not_recorded_of_ok {target : TargetRecord} {registrar : SourceName}
    (h : fabric.checkRegisterTarget target registrar = .ok proposal) :
    fabric.state.targets.find? target.name ≠ some target := by
  intro hfind
  obtain ⟨-, hadoption, -⟩ := checkRegisterTarget_ok h
  unfold checkAdoption at hadoption
  simp only [hfind, require_bind_ok] at hadoption
  exact hadoption.2.1 rfl

/-- A target that is recognised is on record as it is given. -/
theorem recorded_of_duplicate (target : TargetRecord) (registrar : SourceName) :
    (fabric.checkRegisterTarget target registrar).Fails fun refused =>
      refused.code = .acceptDuplicateIdempotent →
        fabric.opened = true ∧ fabric.state.targets.find? target.name = some target := by
  refine .require nofun fun hopened => .require nofun fun _ => .require nofun fun _ =>
    .require nofun fun _ => .bind ?_ fun _ _ => .demand nofun fun _ _ => .pure _
  unfold checkAdoption
  dsimp only
  split
  · rename_i existing hfind
    refine .require nofun fun _ => .require_else (fun heq _ => ⟨hopened, ?_⟩) fun _ =>
      .require_last nofun
    rw [hfind, not_not.mp heq]
  · exact .require_last nofun

/-- What was carried out is recognised, apart from a target that was given another stamp. -/
theorem turnsDown_carriedOut (hdelivers : op.delivers = true)
    (hop : fabric.ingestion op = some (.ok proposal)) : ∃ code,
    (fabric.carriedOut proposal).TurnsDown op code ∧
      (code = .acceptDuplicateIdempotent ↔ NamesTopology fabric.state op) := by
  have hother (hop' : ∀ target registrar, op ≠ .registerTarget target registrar)
      (h : (fabric.carriedOut proposal).TurnsDown op .acceptDuplicateIdempotent) : ∃ code,
      (fabric.carriedOut proposal).TurnsDown op code ∧
        (code = .acceptDuplicateIdempotent ↔ NamesTopology fabric.state op) :=
    ⟨_, h, iff_of_true rfl fun target registrar heq => absurd heq (hop' target registrar)⟩
  cases op with
  | registerTarget target registrar =>
    refine ⟨_, recognises_target (Option.some.inj hop), ?_⟩
    have hnew := not_recorded_of_ok (Option.some.inj hop)
    by_cases htopology : target.topologyGeneration = fabric.state.topologyGeneration
    · rw [if_pos htopology]
      refine iff_of_true rfl fun target' registrar' heq => ?_
      cases heq
      exact Or.inl htopology
    · rw [if_neg htopology]
      refine iff_of_false nofun fun hnames => ?_
      rcases hnames target registrar rfl with hsame | hrecorded
      · exact htopology hsame
      · exact hnew hrecorded
  | enrollSource => exact hother nofun (recognises_enrolment (Option.some.inj hop))
  | registerService => exact hother nofun (recognises_service (Option.some.inj hop))
  | setTopologyGeneration => exact hother nofun (recognises_topology (Option.some.inj hop))
  | setPolicy => exact hother nofun (recognises_policy (Option.some.inj hop))
  | withdrawService => exact hother nofun (recognises_withdrawal (Option.some.inj hop))
  | ingestCapability => exact hother nofun (recognises_capability (Option.some.inj hop))
  | ingestFailure => exact hother nofun (recognises_failure (Option.some.inj hop))
  | ingestDependency => exact hother nofun (recognises_dependency (Option.some.inj hop))
  | _ => cases hdelivers

/-- An accepted ingestion was recognised, or its change was carried out. -/
theorem ingestion_of_accept {checked : Check Proposal}
    (hop : fabric.entered.ingestion op = some checked)
    (hreply : (fabric.call op).1 = .explained code explanation) (haccept : code.isAccept = true) :
    (∃ refused, checked = .error refused ∧ refused.code = .acceptDuplicateIdempotent) ∨
    ∃ proposal before, checked = .ok proposal ∧ before.registries = fabric.state.registries ∧
      (fabric.call op).2.state.registries = (proposal.update before).registries := by
  obtain ⟨service, subject, hcall⟩ := dispatch_ingestion hop
  change fabric.call op = _ at hcall
  rw [hcall] at hreply ⊢
  cases checked with
  | error refused =>
    left
    obtain rfl : refused.code = code := (Reply.explained.inj hreply).1
    exact ⟨refused, rfl, eq_duplicate haccept (unfresh_of_ingestion hop refused rfl)⟩
  | ok proposal =>
    right
    rcases htransact : fabric.entered.transact proposal.change proposal.update with
      ⟨progress, durable⟩
    simp only [replyExplained, ingest, htransact] at hreply ⊢
    cases progress with
    | refused reason =>
      obtain rfl : reason = code := (Reply.explained.inj hreply).1
      rw [isAccept_of_transact htransact reason (Or.inl rfl)] at haccept
      cases haccept
    | uncompacted reason =>
      obtain rfl : reason = code := (Reply.explained.inj hreply).1
      rw [isAccept_of_transact htransact reason (Or.inr rfl)] at haccept
      cases haccept
    | done =>
      obtain ⟨before, hbefore, hafter⟩ := transact_registries htransact
        (by intro reason h; cases h)
      exact ⟨proposal, before, rfl, hbefore, hafter⟩

/-- A delivery that was accepted is recognised when it is repeated at once, and the repetition
changes nothing but counters and explanations, unless it registers a target under another
topology generation than it names. -/
theorem redelivery_idempotent_iff (hdelivers : op.delivers = true)
    (hreply : (fabric.call op).1 = .explained code explanation)
    (haccept : code.isAccept = true) :
    (fabric.call op).2.Redelivers op ↔ NamesTopology fabric.state op := by
  have hchecked : ∃ checked, fabric.entered.ingestion op = some checked :=
    exists_ingestion_of_delivers hdelivers
  obtain ⟨checked, hop⟩ := hchecked
  rcases ingestion_of_accept hop hreply haccept with
    ⟨refused, rfl, hduplicate⟩ | ⟨proposal, before, rfl, hbefore, hafter⟩
  · have hturned : fabric.entered.TurnsDown op .acceptDuplicateIdempotent :=
      ⟨_, hop, refused, rfl, hduplicate⟩
    obtain ⟨-, hunchanged⟩ := hturned.call
    have hagain : (fabric.call op).2.entered.TurnsDown op .acceptDuplicateIdempotent := by
      rw [hunchanged]
      exact hturned.congr rfl rfl rfl
    refine iff_of_true (hagain.redelivers_iff.mpr rfl) ?_
    rintro target registrar rfl
    right
    exact (recorded_of_duplicate target registrar refused (Option.some.inj hop) hduplicate).2
  · have hopened : fabric.opened = true := opened_of_ingestion hop rfl
    have hclose : op ≠ .closeFabric := by
      rintro rfl
      cases hdelivers
    obtain ⟨hopened', hconfig', -⟩ := call_passes hopened hclose
    -- The memory that the change was applied to differs from the one found in its counters.
    have hsame : Fabric.ingestion { fabric.entered with state := before } op =
        fabric.entered.ingestion op := ingestion_congr rfl rfl hbefore
    obtain ⟨code', hturned, hnames⟩ := turnsDown_carriedOut hdelivers (hsame.trans hop)
    have hagain : (fabric.call op).2.entered.TurnsDown op code' :=
      hturned.congr hconfig' (hopened'.trans hopened.symm) hafter
    rw [hagain.redelivers_iff, hnames]
    unfold NamesTopology
    rw [State.topologyGeneration_of_registries hbefore, State.targets_of_registries hbefore]

/-! ### Capability reports -/

/-- The capabilities of the target are on record as reported, confirmed for the incarnation that
is registered and under the running topology. -/
def Confirmed (state : State) (evidence : CapabilityEvidence) : Prop :=
  ∃ target slot, state.targets.find? evidence.target = some target ∧
    state.capabilities.find? evidence.target = some slot ∧ slot.requiresReconfirmation = false ∧
    slot.evidence.topologyGeneration = state.topologyGeneration ∧
    slot.evidence.incarnation = target.incarnation ∧
    slot.evidence.capabilities = evidence.capabilities

/-- A slot that holds the reported generation already is neither waiting for a confirmation nor
of another topology. -/
def FreshIfRepeated (state : State) (evidence : CapabilityEvidence) : Prop :=
  ∀ slot, state.capabilities.find? evidence.target = some slot →
    slot.evidence.generation = evidence.generation →
    slot.evidence.incarnation = evidence.incarnation →
    slot.requiresReconfirmation = false ∧
      slot.evidence.topologyGeneration = state.topologyGeneration

/-- A report that is recognised repeats the slot of its target. -/
theorem slot_of_duplicate (evidence : CapabilityEvidence) :
    (fabric.checkIngestCapability evidence).Fails fun refused =>
      refused.code = .acceptDuplicateIdempotent → ∃ target slot,
        fabric.state.targets.find? evidence.target = some target ∧
        fabric.state.capabilities.find? evidence.target = some slot ∧
        evidence.incarnation = target.incarnation ∧
        evidence.generation = slot.evidence.generation ∧
        evidence.capabilities = slot.evidence.capabilities ∧
        evidence.incarnation = slot.evidence.incarnation := by
  refine .require nofun fun _ => .require nofun fun _ => .demand nofun fun target htarget =>
    .require nofun fun hincarnation => .require nofun fun _ => .bind ?_ fun _ _ =>
    .require nofun fun _ => .demand nofun fun _ _ => .pure _
  cases hslot : constrainingSlot fabric.state evidence with
  | none => exact .pure _
  | some slot =>
    obtain ⟨hfind, -⟩ := Option.filter_eq_some_iff.mp hslot
    refine .require nofun fun _ => .require_else (fun hsame _ => ?_) fun _ => .require_last nofun
    obtain ⟨hgeneration, hcapabilities, hsame⟩ := not_not.mp hsame
    exact ⟨target, slot, htarget, hfind, hincarnation, hgeneration, hcapabilities, hsame⟩

/-- A report that is carried out brings another generation, or another incarnation, than the
slot of its target. -/
theorem freshIfRepeated_of_ok {evidence : CapabilityEvidence}
    (h : fabric.checkIngestCapability evidence = .ok proposal) :
    FreshIfRepeated fabric.state evidence := by
  intro slot hfind hgeneration hincarnation
  simp only [checkIngestCapability, require_bind_ok, demand_bind_ok] at h
  obtain ⟨-, -, _, -, -, -, h⟩ := h
  obtain ⟨_, hcheck, -⟩ := check_bind_ok.mp h
  have hslot : constrainingSlot fabric.state evidence = some slot := by
    rw [constrainingSlot, hfind, Option.filter_some, if_pos]
    exact decide_eq_true hincarnation
  rw [hslot] at hcheck
  simp only [checkSlot, require_bind_ok, require_ok] at hcheck
  exact absurd hgeneration.symm hcheck.2.2

/-- An accepted capability report leaves its target confirmed, unless it was recognised by a slot
that waits for a confirmation or is of another topology. -/
theorem accepted_capability_confirmed_iff {evidence : CapabilityEvidence}
    (hreply : (fabric.call (.ingestCapability evidence)).1 = .explained code explanation)
    (haccept : code.isAccept = true) :
    Confirmed (fabric.call (.ingestCapability evidence)).2.state evidence ↔
      FreshIfRepeated fabric.state evidence := by
  have hop : fabric.entered.ingestion (.ingestCapability evidence) =
    some (fabric.entered.checkIngestCapability evidence) := rfl
  rcases ingestion_of_accept hop hreply haccept with
    ⟨refused, herror, hduplicate⟩ | ⟨proposal, before, hok, hbefore, hafter⟩
  · have hturned : fabric.entered.TurnsDown (.ingestCapability evidence)
      .acceptDuplicateIdempotent := ⟨_, hop, refused, herror, hduplicate⟩
    obtain ⟨-, hunchanged⟩ := hturned.call
    obtain ⟨target, slot, htarget, hslot, hincarnation, hgeneration, hcapabilities, hsame⟩ :=
      slot_of_duplicate evidence refused herror hduplicate
    rw [hunchanged]
    constructor
    · rintro ⟨_, found, -, hfound, hconfirmed, htopology, -, -⟩ other hother - -
      obtain rfl := Option.some.inj (hfound.symm.trans hother)
      exact ⟨hconfirmed, htopology⟩
    · intro hfresh
      obtain ⟨hconfirmed, htopology⟩ := hfresh slot hslot hgeneration.symm hsame.symm
      exact ⟨target, slot, htarget, hslot, hconfirmed, htopology, hsame.symm.trans hincarnation,
        hcapabilities.symm⟩
  · refine iff_of_true ?_ (freshIfRepeated_of_ok hok)
    obtain ⟨⟨target, htarget, hincarnation⟩, htopology, stamp, record, -, rfl, -, hupdate⟩ :=
      checkIngestCapability_ok hok
    rw [hupdate] at hafter
    have hregistered : before.targets = fabric.state.targets :=
      State.targets_of_registries hbefore
    have hrunning : before.topologyGeneration = fabric.state.topologyGeneration :=
      State.topologyGeneration_of_registries hbefore
    have htargets : (fabric.call (.ingestCapability evidence)).2.state.targets =
      fabric.state.targets := (State.targets_of_registries hafter).trans hregistered
    have htopologies : (fabric.call (.ingestCapability evidence)).2.state.topologyGeneration =
      fabric.state.topologyGeneration :=
        (State.topologyGeneration_of_registries hafter).trans hrunning
    have hcapabilities := congrArg (fun state => state.capabilities.find? evidence.target) hafter
    exact ⟨target, _, (congrArg (OrderedMap.find? · _) htargets).trans htarget,
      hcapabilities.trans (OrderedMap.find?_insert_self _ _ _), rfl,
      htopology.trans htopologies.symm, hincarnation, rfl⟩

end Repeated

end Fabric

/-! ### Deliveries of the small fleet -/

namespace Fleet

/-- What the operator reports of the first target. -/
def report (topology generation : UInt64) : CapabilityEvidence :=
  { target := primary, generation := ⟨generation⟩, topologyGeneration := ⟨topology⟩
    incarnation := (booted primary 1).incarnation, source := operator }

/-- The first target is adopted, and the topology moves on. -/
def rearranged : List Op :=
  opening ++ adopt primary 1 ++ [.setTopologyGeneration ⟨2⟩ operator]

end Fleet

/-- A failure that is reported twice is recorded the first time and recognised the second. -/
theorem redelivery_idempotent_opening :
    (Fleet.running Fleet.placed).state.failures.find? ⟨1⟩ = none ∧
    (∃ explanation, ((Fleet.running Fleet.placed).call (Fleet.reportFailure 1 .unambiguous)).1 =
      .explained .acceptFailureRecorded explanation) ∧
    ((Fleet.running Fleet.placed).call (Fleet.reportFailure 1 .unambiguous)).2.Redelivers
      (Fleet.reportFailure 1 .unambiguous) := by
  have hfacts : ((Fleet.running Fleet.placed).explains (Fleet.reportFailure 1 .unambiguous),
      (Fleet.running Fleet.placed).state.failures.find? ⟨1⟩) =
        (some .acceptFailureRecorded, none) := by
    simp only [Fleet.running, Fabric.after_eq_drafted, Fabric.explains, Fabric.call_eq_drafted]
    decide +kernel
  obtain ⟨hexplains, hnone⟩ := Prod.mk.inj hfacts
  obtain ⟨explanation, hreply⟩ := Fabric.exists_explained_of_explains hexplains
  refine ⟨hnone, ⟨explanation, hreply⟩, ?_⟩
  exact (Fabric.redelivery_idempotent_iff rfl hreply rfl).mpr fun target registrar hop => by
    cases hop

/-- A target that names no topology generation is registered under the running one, and refused
when the call is repeated. -/
theorem not_redelivery_idempotent :
    Fabric.Reachable {} (Fleet.running Fleet.opening) ∧
    (∃ explanation, ((Fleet.running Fleet.opening).call
      (Fleet.register (Fleet.booted Fleet.primary 1))).1 =
        .explained .acceptTargetRegistered explanation) ∧
    ¬((Fleet.running Fleet.opening).call
      (Fleet.register (Fleet.booted Fleet.primary 1))).2.Redelivers
        (Fleet.register (Fleet.booted Fleet.primary 1)) := by
  have hexplains : (Fleet.running Fleet.opening).explains
      (Fleet.register (Fleet.booted Fleet.primary 1)) = some .acceptTargetRegistered := by
    simp only [Fleet.running, Fabric.after_eq_drafted, Fabric.explains, Fabric.call_eq_drafted]
    decide +kernel
  have hagain : ((Fleet.running Fleet.opening).call
      (Fleet.register (Fleet.booted Fleet.primary 1))).2.explains
      (Fleet.register (Fleet.booted Fleet.primary 1)) = some .duplicateTarget := by
    simp only [Fleet.running, Fabric.after_eq_drafted, Fabric.call_eq_drafted]
    decide +kernel
  refine ⟨Fleet.reachable_running _, Fabric.exists_explained_of_explains hexplains, ?_⟩
  rintro ⟨⟨explanation, hreply⟩, -⟩
  obtain ⟨other, hother⟩ := Fabric.exists_explained_of_explains hagain
  cases hother.symm.trans hreply

/-- A report of a newer generation confirms the target under the topology that moved on. -/
theorem accepted_capability_confirmed_rearranged :
    Fabric.Confirmed ((Fleet.running Fleet.rearranged).call
      (.ingestCapability (Fleet.report 2 2))).2.state (Fleet.report 2 2) := by
  have hexplains : (Fleet.running Fleet.rearranged).explains
      (.ingestCapability (Fleet.report 2 2)) = some .acceptCapabilityRecorded := by
    simp only [Fleet.running, Fabric.after_eq_drafted, Fabric.explains, Fabric.call_eq_drafted]
    decide +kernel
  have hgeneration : ((Fleet.running Fleet.rearranged).state.capabilities.find?
      Fleet.primary).all (fun slot => slot.evidence.generation.value ≠ 2) = true := by
    simp only [Fleet.running, Fabric.after_eq_drafted]
    decide +kernel
  obtain ⟨explanation, hreply⟩ := Fabric.exists_explained_of_explains hexplains
  refine (Fabric.accepted_capability_confirmed_iff hreply rfl).mpr ?_
  intro slot hfind hsame
  change (Fleet.running Fleet.rearranged).state.capabilities.find? Fleet.primary =
    some slot at hfind
  rw [hfind] at hgeneration
  have hother : slot.evidence.generation.value ≠ 2 := by simpa using hgeneration
  exact absurd (congrArg Gen.value hsame) hother

/-- After the topology moved on, a report that repeats its generation is accepted, and the slot
stays as it was. -/
theorem not_accepted_capability_confirmed :
    Fabric.Reachable {} (Fleet.running Fleet.rearranged) ∧
    (∃ explanation, ((Fleet.running Fleet.rearranged).call
      (.ingestCapability (Fleet.report 2 1))).1 =
        .explained .acceptDuplicateIdempotent explanation) ∧
    ¬Fabric.Confirmed ((Fleet.running Fleet.rearranged).call
      (.ingestCapability (Fleet.report 2 1))).2.state (Fleet.report 2 1) := by
  have hexplains : (Fleet.running Fleet.rearranged).explains
      (.ingestCapability (Fleet.report 2 1)) = some .acceptDuplicateIdempotent := by
    simp only [Fleet.running, Fabric.after_eq_drafted, Fabric.explains, Fabric.call_eq_drafted]
    decide +kernel
  have hstale : (((Fleet.running Fleet.rearranged).call
      (.ingestCapability (Fleet.report 2 1))).2.state.capabilities.find? Fleet.primary).all
      (fun slot => slot.evidence.topologyGeneration ≠ ((Fleet.running Fleet.rearranged).call
        (.ingestCapability (Fleet.report 2 1))).2.state.topologyGeneration) = true := by
    simp only [Fleet.running, Fabric.after_eq_drafted, Fabric.call_eq_drafted]
    decide +kernel
  refine ⟨Fleet.reachable_running _, Fabric.exists_explained_of_explains hexplains, ?_⟩
  rintro ⟨target, slot, -, hslot, -, htopology, -⟩
  change (((Fleet.running Fleet.rearranged).call
    (.ingestCapability (Fleet.report 2 1))).2.state.capabilities.find? Fleet.primary) =
      some slot at hslot
  rw [hslot] at hstale
  have hother := by simpa only [Option.all_some, decide_eq_true_eq] using hstale
  exact hother htopology

end OffloadFabric
