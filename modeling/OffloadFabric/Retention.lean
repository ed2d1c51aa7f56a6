import OffloadFabric.Ambiguity
import OffloadFabric.Cancellations
import OffloadFabric.Ceilings

/-!
Which failures are retained within a boot. Evidence gets a place of its own at the end of the
order, and nothing goes but the oldest, and only when there is no room: so it is as long as
no evidence without an id is numbered with the id of evidence that is retained, because only
the ids of callers are looked up. The boot has to start with an order without gaps.
-/
namespace OffloadFabric

open Fabric (Op Moment Reply)

/-- The order lists every retained failure once, and no more are retained than there is room for,
one in any case. -/
structure State.Filed (config : FabricConfig) (state : State) : Prop where
  listed : state.failures.ListedBy state.failureOrder
  size : state.failures.size ≤ max 1 config.maxEvidenceRecords

/-- What has to go before more is retained: the oldest, when there is no room. -/
def State.outgoing (config : FabricConfig) (state : State) : List EvidenceId :=
  if config.maxEvidenceRecords ≤ state.failures.size then state.failureOrder.take 1 else []

/-- The record was retained in a place of its own, and nothing but the outgoing went. -/
structure State.Retains (config : FabricConfig) (before after : State) (record : FailureEvidence) :
    Prop where
  fresh : before.failures.find? record.id = none
  retained : after.failures.find? record.id = some record
  order : after.failureOrder =
    before.failureOrder.drop (before.outgoing config).length ++ [record.id]
  evicted : ∀ key ∈ before.outgoing config, after.failures.find? key = none
  others : ∀ key, key ≠ record.id → key ∉ before.outgoing config →
    after.failures.find? key = before.failures.find? key

/-- Evidence without an id is accepted, and numbered with the id of evidence that is retained. -/
def Fabric.Renumbers (fabric : Fabric) (op : Op) : Prop :=
  ∃ evidence proposal, op = .ingestFailure evidence ∧
    fabric.checkIngestFailure evidence = .ok proposal ∧ evidence.id.isNil = true ∧
    (fabric.state.failures.find? ⟨fabric.state.nextEvidenceId⟩).isSome

section Retention

variable {config : FabricConfig} {state state' : State} {fabric : Fabric} {op : Op}
  {commit : Commit} {commits : List Commit} {calls : List Moment}

theorem State.Filed.congr (h : state.Filed config) (hfailures : state'.failures = state.failures)
    (horder : state'.failureOrder = state.failureOrder) : state'.Filed config :=
  ⟨by rw [hfailures, horder]; exact h.listed, by rw [hfailures]; exact h.size⟩

/-- What evictions leave of filed failures. -/
theorem State.Filed.evict (h : state.Filed config) :
    let evicted := state.failures.evictOldest config.maxEvidenceRecords state.failureOrder
    evicted.2 = state.failureOrder.drop (state.outgoing config).length ∧
      evicted.1.size < max 1 config.maxEvidenceRecords ∧
      ∀ key, evicted.1.find? key =
        if key ∈ state.outgoing config then none else state.failures.find? key := by
  have hlength := h.listed.length_eq
  have hsize := h.size
  rw [h.listed.evictOldest_eq h.size, State.outgoing]
  split
  · cases horder : state.failureOrder with
    | nil =>
      rw [horder, List.length_nil] at hlength
      refine ⟨rfl, ?_, fun key => rfl⟩
      show state.failures.size < _
      omega
    | cons oldest rest =>
      have hlisted := h.listed
      rw [horder] at hlength hlisted
      have hrest := hlisted.erase.length_eq
      rw [List.length_cons] at hlength
      refine ⟨rfl, ?_, fun key => ?_⟩
      · show (state.failures.erase oldest).size < _
        omega
      · show (state.failures.erase oldest).find? key = _
        rw [OrderedMap.find?_erase]
        simp
  · refine ⟨rfl, ?_, fun key => rfl⟩
    show state.failures.size < _
    omega

/-- New evidence is filed when its id is not retained. -/
theorem State.Filed.retain (h : state.Filed config) {record : FailureEvidence}
    (hfresh : state.failures.find? record.id = none) (stamp : LogicalTick) :
    (Fabric.retainFailure config record stamp state).Filed config ∧
      State.Retains config state (Fabric.retainFailure config record stamp state) record := by
  have hledger := Fabric.ledger_retainFailure config record stamp state
  rw [Ledger.ext_iff] at hledger
  obtain ⟨hfailures, horder, -⟩ := hledger
  dsimp only [State.ledger] at hfailures horder
  obtain ⟨hrest, hroom, hfind⟩ := h.evict
  have hnew : record.id ∉ state.failureOrder := by
    rw [h.listed.mem_iff, hfresh]
    simp
  have hunlisted : record.id ∉
      (state.failures.evictOldest config.maxEvidenceRecords state.failureOrder).2 :=
    fun hmem => hnew ((OrderedMap.evictOldest_suffix _ _ _).mem hmem)
  have hinserted := OrderedMap.size_insert_le
    (state.failures.evictOldest config.maxEvidenceRecords state.failureOrder).1 record.id record
  refine ⟨⟨?_, ?_⟩, ⟨hfresh, ?_, ?_, fun key hkey => ?_, fun key hne hkey => ?_⟩⟩
  · rw [hfailures, horder]
    exact h.listed.evictOldest.insert hunlisted record
  · rw [hfailures]
    omega
  · rw [hfailures, OrderedMap.find?_insert_self]
  · rw [horder, hrest]
  · have hne : key ≠ record.id := by
      rintro rfl
      unfold State.outgoing at hkey
      split at hkey
      · exact hnew (List.mem_of_mem_take hkey)
      · cases hkey
    rw [hfailures, OrderedMap.find?_insert_ne _ _ hne, hfind, if_pos hkey]
  · rw [hfailures, OrderedMap.find?_insert_ne _ _ hne, hfind, if_neg hkey]

/-- Evidence that is promoted keeps its place. -/
theorem State.Filed.promote (h : state.Filed config) {evidence : FailureEvidence}
    (hfind : state.failures.find? evidence.id = some evidence) :
    ({ state with failures := state.failures.insert evidence.id (Fabric.promoted evidence) } :
      State).Filed config := by
  refine ⟨h.listed.insert_mem ((h.listed.mem_iff _).mpr (hfind ▸ rfl)) _, ?_⟩
  show (state.failures.insert evidence.id (Fabric.promoted evidence)).size ≤ _
  rw [OrderedMap.size_insert, if_neg (by simp [hfind])]
  exact h.size

/-- The id that is assigned is new, unless evidence without one is numbered again. -/
theorem Fabric.Credible.assigns {evidence : FailureEvidence} {proposal : Proposal} {id : EvidenceId}
    (h : fabric.Credible evidence) (hok : fabric.checkIngestFailure evidence = .ok proposal)
    (hassign : assignEvidenceId fabric.state evidence = .ok id)
    (hnew : ¬fabric.Renumbers (.ingestFailure evidence)) :
    fabric.state.failures.find? id = none := by
  rcases assignEvidenceId_ok hassign with ⟨-, ⟨hid, rfl⟩ | ⟨hnil, rfl, -⟩⟩
  · exact h.id hid
  · by_contra hsome
    exact hnew ⟨evidence, proposal, rfl, hok, hnil, Option.isSome_iff_ne_none.mpr hsome⟩

@[simp] theorem State.failureOrder_modifyService (state : State) (service : ServiceName)
    (f : ServiceRuntime → ServiceRuntime) :
    (state.modifyService service f).failureOrder = state.failureOrder := by
  unfold State.modifyService
  split <;> rfl

@[simp] theorem State.failureOrder_bump (state : State) (field : StatField) :
    (state.bump field).failureOrder = state.failureOrder := rfl

@[simp] theorem State.failureOrder_bumpAll (state : State) (fields : List StatField) :
    (state.bumpAll fields).failureOrder = state.failureOrder := by
  unfold State.bumpAll
  induction fields generalizing state with
  | nil => rfl
  | cons field rest ih => exact ih (state.bump field)

@[simp] theorem State.failureOrder_remember (state : State) (config : FabricConfig)
    (key : RequestKey) (entry : RequestCacheEntry) :
    (state.remember config key entry).failureOrder = state.failureOrder := by
  obtain ⟨cache, order, hremember⟩ := state.exists_remember config key entry
  rw [hremember]

/-- What follows evidence in its commit touches neither the failures nor their order. -/
theorem State.Retains.congr {before after after' : State} {record : FailureEvidence}
    (h : State.Retains config before after record) (hfailures : after'.failures = after.failures)
    (horder : after'.failureOrder = after.failureOrder) :
    State.Retains config before after' record where
  fresh := h.fresh
  retained := hfailures ▸ h.retained
  order := horder.trans h.order
  evicted := hfailures ▸ h.evicted
  others := hfailures ▸ h.others

/-- A commit of the call leaves the failures filed; retaining evidence is one way to do so. -/
theorem Fabric.Caused.filed (h : fabric.Caused op commit) (hconfig : fabric.config = config)
    (hkeyed : ∀ key evidence, fabric.state.failures.find? key = some evidence → evidence.id = key)
    (hfiled : fabric.state.Filed config) (hnew : ¬fabric.Renumbers op) :
    commit.after.Filed config ∧ ∀ evidence, op = .ingestFailure evidence →
      ∃ record, State.Retains config commit.before commit.after record := by
  subst hconfig
  have hsame := h.before_keeps.filed
  have hbefore : commit.before.Filed fabric.config := hfiled.congr hsame.1 hsame.2
  cases h with
  | @ingested op checked proposal commit hop hok hwrites =>
    have hingested := Fabric.ingested_of_ok hop hok
    rw [hwrites.after]
    have hretain {evidence : FailureEvidence} {id : EvidenceId}
        (hevidence : op = .ingestFailure evidence) (hcredible : fabric.Credible evidence)
        (hassign : assignEvidenceId fabric.state evidence = .ok id) (stamp : LogicalTick) := by
      have hfresh : commit.before.failures.find?
          (Fabric.retainedEvidence evidence id stamp).id = none := by
        subst hevidence
        rw [hsame.1]
        exact hcredible.assigns ((Option.some.inj hop).trans hok) hassign hnew
      exact hbefore.retain hfresh stamp
    revert hingested
    generalize proposal.change = change
    generalize proposal.update = update
    intro hingested
    cases hingested with
    | failure _ hcredible hassign _ =>
      obtain ⟨hafter, hretains⟩ := hretain rfl hcredible hassign _
      exact ⟨hafter, fun _ _ => ⟨_, hretains⟩⟩
    | suspicion _ hcredible hassign _ =>
      obtain ⟨hafter, hretains⟩ := hretain rfl hcredible hassign _
      have hfailures := State.failures_modifyService
      have horder := State.failureOrder_modifyService
      exact ⟨hafter.congr (hfailures _ _ _) (horder _ _ _),
        fun _ _ => ⟨_, hretains.congr (hfailures _ _ _) (horder _ _ _)⟩⟩
    | withdrawn =>
      exact ⟨hbefore.congr (State.failures_modifyService _ _ _)
        (State.failureOrder_modifyService _ _ _), fun _ heq => Op.noConfusion heq⟩
    | dependency _ hafter =>
      obtain ⟨stats, hstate⟩ := hafter commit.before
      rw [hstate]
      exact ⟨hbefore.congr rfl rfl, fun _ heq => Op.noConfusion heq⟩
    | _ => exact ⟨hbefore.congr rfl rfl, fun _ heq => Op.noConfusion heq⟩
  | moved hop _ _ hmoves =>
    refine ⟨?_, fun evidence hevidence => ?_⟩
    · cases hmoves
      exact hbefore.congr (by simp [Move.update]) (by simp [Move.update])
    · subst hevidence
      cases hop
  | denied _ _ _ hwrites | acknowledged _ _ hwrites =>
    rw [hwrites.after]
    exact ⟨hbefore.congr rfl rfl, fun _ heq => Op.noConfusion heq⟩
  | reported _ _ _ _ hwrites =>
    rw [hwrites.after]
    exact ⟨hbefore.congr (State.failures_bumpAll _ _) (State.failureOrder_bumpAll _ _),
      fun _ heq => Op.noConfusion heq⟩
  | @confirmed resolution runtime evidence stamp commit _ hcheck _ hwrites =>
    obtain ⟨-, -, -, hevidence, -⟩ := Fabric.checkResolution_ok hcheck
    have hfind : commit.before.failures.find? evidence.id = some evidence := by
      rw [hsame.1, hkeyed _ _ hevidence]
      exact hevidence
    rw [hwrites.after]
    exact ⟨(hbefore.promote hfind).congr (State.failures_modifyService _ _ _)
      (State.failureOrder_modifyService _ _ _), fun _ heq => Op.noConfusion heq⟩

theorem State.Retains.of_before {before before' after : State} {record : FailureEvidence}
    (h : State.Retains config before after record) (hfailures : before.failures = before'.failures)
    (horder : before.failureOrder = before'.failureOrder) :
    State.Retains config before' after record := by
  have houtgoing : before.outgoing config = before'.outgoing config := by
    rw [State.outgoing, State.outgoing, hfailures, horder]
  exact
    { fresh := hfailures ▸ h.fresh
      retained := h.retained
      order := houtgoing ▸ horder ▸ h.order
      evicted := houtgoing ▸ h.evicted
      others := houtgoing ▸ hfailures ▸ h.others }

/-- A call leaves the failures filed. Evidence it ingests is retained, or changes nothing. -/
theorem Fabric.Performs.filed (h : fabric.Performs op commits) (hconfig : fabric.config = config)
    (hkeyed : ∀ key evidence, fabric.state.failures.find? key = some evidence → evidence.id = key)
    (hfiled : fabric.state.Filed config) (hnew : ¬fabric.Renumbers op)
    (hpasses : State.Passes config fabric.state commits state) :
    state.Filed config ∧ ∀ evidence, op = .ingestFailure evidence →
      (commits = [] ∧ state.failures = fabric.state.failures ∧
        state.failureOrder = fabric.state.failureOrder) ∨
      ∃ record, State.Retains config fabric.state state record := by
  cases h with
  | nothing =>
    cases hpasses with
    | keeps hkeeps =>
      obtain ⟨hfailures, horder⟩ := hkeeps.filed
      exact ⟨hfiled.congr hfailures horder, fun _ _ => Or.inl ⟨rfl, hfailures, horder⟩⟩
  | once hcaused =>
    obtain ⟨hafter, hretains⟩ := hcaused.filed hconfig hkeyed hfiled hnew
    cases hpasses with
    | commit hbefore hrest =>
      cases hrest with
      | keeps hkeeps =>
        obtain ⟨hfailures, horder⟩ := hkeeps.filed
        refine ⟨hafter.congr hfailures horder, fun evidence hevidence => Or.inr ?_⟩
        obtain ⟨record, hrecord⟩ := hretains evidence hevidence
        obtain ⟨hfailures', horder'⟩ := hbefore.filed
        exact ⟨record, (hrecord.congr hfailures horder).of_before hfailures' horder'⟩
  | @twice resolution first second middle hop _ hcaused hmiddleConfig _ hmiddle hsecond =>
    subst hop
    obtain ⟨hfirst, -⟩ := hcaused.filed hconfig hkeyed hfiled hnew
    cases hpasses with
    | commit hbefore hrest =>
      cases hrest with
      | commit hbetween hrest =>
        cases hrest with
        | keeps hkeeps =>
          obtain ⟨hfailures, horder⟩ := hkeeps.filed
          obtain ⟨hfailures', horder'⟩ := hbetween.filed
          refine ⟨?_, fun _ heq => Op.noConfusion heq⟩
          cases hsecond with
          | ingested hop => cases hop
          | moved _ _ _ hmoves =>
            cases hmoves
            exact (hfirst.congr hfailures' horder').congr (hfailures.trans (by simp [Move.update]))
              (horder.trans (by simp [Move.update]))

end Retention

/-- In every memory of the boot the order lists each retained failure once. Evidence that is
ingested is retained in a place of its own, for the oldest when there is no room; if not, it
changes nothing and is not accepted. -/
structure FiledOnce (config : FabricConfig) (calls : List Moment) (fabric : Fabric) : Prop where
  before : ∀ moment ∈ calls,
    moment.before.state.failures.ListedBy moment.before.state.failureOrder
  last : fabric.state.failures.ListedBy fabric.state.failureOrder
  ingested : ∀ moment ∈ calls, ∀ evidence code explanation,
    moment.event = .call (.ingestFailure evidence) (.explained code explanation) →
    let after := (moment.before.call (.ingestFailure evidence)).2.state
    (code ≠ .acceptFailureRecorded ∧ after.failures = moment.before.state.failures ∧
      after.failureOrder = moment.before.state.failureOrder) ∨
    ∃ record, State.Retains config moment.before.state after record

section Boots

variable {config : FabricConfig} {earlier calls : List Moment} {start fabric : Fabric}

theorem Fabric.Renumbers.entered {op : Op} (h : fabric.entered.Renumbers op) :
    fabric.Renumbers op := by
  obtain ⟨evidence, proposal, rfl, hok, hnil, hretained⟩ := h
  exact ⟨evidence, proposal, rfl, hok, hnil, hretained⟩

/-- Evidence that is accepted was committed. -/
theorem commits_of_accepted_evidence {evidence : FailureEvidence} {explanation : Explanation}
    {commits : List Commit}
    (hreply : (fabric.call (.ingestFailure evidence)).1 =
      .explained .acceptFailureRecorded explanation)
    (hanswers : fabric.entered.Answers (.ingestFailure evidence) commits) : commits ≠ [] := by
  let moment : Moment :=
    { before := fabric
      event := .call (.ingestFailure evidence) (fabric.call (.ingestFailure evidence)).1 }
  have hevent : moment.event =
      .call (.ingestFailure evidence) (.explained .acceptFailureRecorded explanation) :=
    congrArg (Fabric.Event.call _) hreply
  have hstep : Fabric.Step moment.before moment.event (fabric.call (.ingestFailure evidence)).2 :=
    .call fabric _
  obtain ⟨proposal, commit, -, rfl, -⟩ := Fabric.Moment.committed hevent rfl (by decide)
    (fails_checkIngestFailure _ _) hstep hanswers
  simp

theorem FiledOnce.call {op : Op} {commits : List Commit} (h : FiledOnce config calls fabric)
    (hfiled : (fabric.call op).2.state.Filed config)
    (hanswers : fabric.entered.Answers op commits)
    (hingested : ∀ evidence, op = .ingestFailure evidence →
      (commits = [] ∧ (fabric.call op).2.state.failures = fabric.state.failures ∧
        (fabric.call op).2.state.failureOrder = fabric.state.failureOrder) ∨
      ∃ record, State.Retains config fabric.state (fabric.call op).2.state record) :
    FiledOnce config (calls ++ [{ before := fabric, event := .call op (fabric.call op).1 }])
      (fabric.call op).2 where
  before moment hmoment := by
    rcases List.mem_append.mp hmoment with hmoment | hmoment
    · exact h.before moment hmoment
    · obtain rfl := List.mem_singleton.mp hmoment
      exact h.last
  last := hfiled.listed
  ingested moment hmoment evidence code explanation hevent := by
    rcases List.mem_append.mp hmoment with hmoment | hmoment
    · exact h.ingested moment hmoment evidence code explanation hevent
    · obtain rfl := List.mem_singleton.mp hmoment
      obtain ⟨rfl, hreply⟩ := Fabric.Event.call.inj hevent
      rcases hingested evidence rfl with ⟨hnone, hfailures, horder⟩ | hretains
      · refine Or.inl ⟨?_, hfailures, horder⟩
        rintro rfl
        exact commits_of_accepted_evidence hreply hanswers hnone
      · exact Or.inr hretains

/-- From an open memory with its failures filed on, such as a first open leaves, a boot keeps
them filed as long as no evidence without an id is numbered with an id that is retained. -/
theorem evidence_filed (hrun : Fabric.Run config earlier start) (hopened : start.opened = true)
    (hserves : start.Serves calls fabric) (hstart : start.state.Filed config)
    (hnumbers : ∀ moment ∈ calls, ¬moment.before.Renumbers moment.event.op) :
    FiledOnce config calls fabric := by
  suffices hboth : FiledOnce config calls fabric ∧ fabric.state.Filed config from hboth.1
  induction hserves with
  | start =>
    exact ⟨⟨fun _ hmem => absurd hmem List.not_mem_nil, hstart.listed,
      fun _ hmem => absurd hmem List.not_mem_nil⟩, hstart⟩
  | @call calls fabric op hserves hclose ih =>
    obtain ⟨hfiledOnce, hfiled⟩ := ih fun moment hmoment =>
      hnumbers moment (List.mem_append_left _ hmoment)
    have hnew : ¬fabric.entered.Renumbers op := fun hrenumbers =>
      hnumbers _ (List.mem_append_right _ (List.mem_singleton_self _)) hrenumbers.entered
    have hrun' := hserves.run hrun
    have hkeyed : ∀ key evidence, fabric.entered.state.failures.find? key = some evidence →
        evidence.id = key := fun key evidence hfind =>
      (hrun'.wellKeyed.failures _ ((OrderedMap.find?_eq_some_iff _ _ _).mp hfind)).1
    obtain ⟨-, -, commits, hpasses, hperforms, hanswers⟩ :=
      Fabric.call_passes (hserves.opened hopened).1 hclose
    have hconfig : fabric.entered.config = config := hrun'.configured
    obtain ⟨hafter, hingested⟩ := hperforms.filed hconfig hkeyed hfiled hnew (hconfig ▸ hpasses)
    exact ⟨hfiledOnce.call hafter hanswers hingested, hafter⟩

/-- A memory that retains no failure has its failures filed. -/
theorem filed_of_empty {state : State} (hfailures : state.failures = .empty)
    (horder : state.failureOrder = []) : state.Filed config := by
  refine ⟨?_, ?_⟩
  · rw [hfailures, horder]
    exact OrderedMap.listedBy_empty
  · rw [hfailures]
    exact Nat.zero_le _

/-- Whether the call could number evidence again. -/
def Fabric.Op.unnumbered (fabric : Fabric) : Op → Bool
  | .ingestFailure evidence => evidence.id.isNil &&
      (fabric.state.failures.find? ⟨fabric.state.nextEvidenceId⟩).isSome
  | _ => false

theorem Fabric.Renumbers.unnumbered {op : Op} (h : fabric.Renumbers op) :
    op.unnumbered fabric = true := by
  obtain ⟨evidence, proposal, rfl, -, hnil, hretained⟩ := h
  exact (Bool.and_eq_true _ _).mpr ⟨hnil, hretained⟩

end Boots

namespace Fleet

/-- A coordinator that retains one failure and was opened. -/
def forgetful : Fabric := ((Fabric.create { maxEvidenceRecords := 1 } {}).call .openFabric).2

/-- A coordinator that was opened. -/
def started : Fabric := ((Fabric.create {} {}).call .openFabric).2

/-- The operator reports a failure of the first target under an id of its own, if any. -/
def numberedFailure (id sequence : UInt64) : Op :=
  .ingestFailure
    { id := ⟨id⟩, service, target := booted primary 1, topologyGeneration := ⟨1⟩
      ambiguity := .unambiguous
      provenance := { source := operator, epoch := ⟨1⟩, boot := ⟨1⟩, sequence := ⟨sequence⟩ } }

/-- Failures under these ids, one after the other. -/
def failing (ids : List UInt64) : List Op :=
  opening.tail ++ [register (booted primary 1)] ++
    ids.zipIdx.map fun id => numberedFailure id.1 (UInt64.ofNat id.2 + 1)

theorem not_closes_failing (ids : List UInt64) : .closeFabric ∉ failing ids := by
  simp [failing, opening, register, numberedFailure]

end Fleet

theorem evidence_filed_failing : FiledOnce { maxEvidenceRecords := 1 }
    (Fleet.forgetful.momentsOf (Fleet.failing [0, 0]))
    (Fleet.forgetful.after (Fleet.failing [0, 0])) := by
  have hnumbered : ((Fleet.forgetful.momentsOf (Fleet.failing [0, 0])).any fun moment =>
      moment.event.op.unnumbered moment.before) = false := by
    decide +kernel
  have hrun : Fabric.Run { maxEvidenceRecords := 1 } _ Fleet.forgetful :=
    Fabric.Run.start.step (.call _ .openFabric)
  have hserves := (@Fabric.Serves.start Fleet.forgetful).onward (Fleet.not_closes_failing [0, 0])
  refine evidence_filed hrun rfl hserves (filed_of_empty rfl rfl) fun moment hmoment h => ?_
  exact List.any_eq_false.mp hnumbered moment hmoment h.unnumbered

/-- Evidence that a caller numbered ahead of the coordinator is replaced, and its id is listed
twice. -/
theorem not_filed_once : ∃ earlier calls fabric, Fabric.Run {} earlier Fleet.started ∧
    Fleet.started.opened = true ∧ Fleet.started.Serves calls fabric ∧
    Fleet.started.state.Filed {} ∧ ¬FiledOnce {} calls fabric := by
  have hrun : Fabric.Run {} _ Fleet.started := Fabric.Run.start.step (.call _ .openFabric)
  have hserves := (@Fabric.Serves.start Fleet.started).onward (Fleet.not_closes_failing [2, 0, 0])
  have horder : (Fleet.started.after (Fleet.failing [2, 0, 0])).state.failureOrder =
      [⟨2⟩, ⟨1⟩, ⟨2⟩] := by
    decide +kernel
  refine ⟨_, _, _, hrun, rfl, hserves, filed_of_empty rfl rfl, fun h => ?_⟩
  have hnodup := h.last.nodup
  rw [horder] at hnodup
  exact absurd hnodup (by decide)

end OffloadFabric
