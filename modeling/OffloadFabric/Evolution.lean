import OffloadFabric.Core
import OffloadFabric.StoreDurability

/-!
How an open runtime moves within one call. Bookkeeping changes counters, the request
cache and the passing annotations of services; a commit makes one change durable and
then takes it over into the memory; a rotation replaces the journal by a snapshot.
-/
namespace OffloadFabric

/-! ### Bookkeeping -/

/-- Only evidence that is retained and ambiguous suspends a service, and no withdrawn one. -/
def Remark.Admitted (state : State) (service : ServiceName) : Remark → Prop
  | .suspension id => ∃ runtime key evidence, state.services.find? service = some runtime ∧
      runtime.lifecycle ≠ .withdrawn ∧ state.failures.find? key = some evidence ∧
      evidence.id = id ∧ evidence.service = service ∧ evidence.ambiguity ≠ .unambiguous
  | _ => True

/-- What a call may do to the memory without a record: count, remember that a request
was refused, and annotate a service. -/
inductive State.Upkeep (config : FabricConfig) (state : State) : State → Prop where
  | count (stats : FabricStats) : Upkeep config state { state with stats }
  | remember (key : RequestKey) (entry : RequestCacheEntry) : entry.accepted = false →
      Upkeep config state (state.remember config key entry)
  | annotate (service : ServiceName) (remark : Remark) :
      remark.Admitted state service →
      Upkeep config state (state.modifyService service remark.apply)

/-- Any number of bookkeeping steps. -/
def State.Keeps (config : FabricConfig) : State → State → Prop :=
  Relation.ReflTransGen (Upkeep config)

theorem Remark.hard_apply (remark : Remark) (runtime : ServiceRuntime) :
    (remark.apply runtime).hard = runtime.hard := by
  cases remark <;> rfl

namespace State

variable {config : FabricConfig} {state state' : State}

theorem Keeps.refl (config : FabricConfig) (state : State) : Keeps config state state :=
  Relation.ReflTransGen.refl

theorem Upkeep.keeps (h : Upkeep config state state') : Keeps config state state' :=
  Relation.ReflTransGen.single h

theorem Upkeep.core (h : Upkeep config state state') : state'.core = state.core := by
  cases h with
  | count stats => rfl
  | remember key entry _ => exact core_remember state config key entry
  | annotate service remark _ => exact core_modifyService service remark.hard_apply

theorem Keeps.core (h : Keeps config state state') : state'.core = state.core := by
  induction h with
  | refl => rfl
  | tail _ hstep ih => exact hstep.core.trans ih

/-- The fields that bookkeeping may touch aside, nothing changes. -/
def SameRecords (state state' : State) : Prop :=
  state' =
    { state with
      services := state'.services, requestCache := state'.requestCache
      requestOrder := state'.requestOrder, stats := state'.stats }

theorem exists_remember (state : State) (config : FabricConfig) (key : RequestKey)
    (entry : RequestCacheEntry) : ∃ cache order,
      state.remember config key entry =
        { state with requestCache := cache, requestOrder := order } := by
  unfold remember
  split
  · exact ⟨_, _, rfl⟩
  split
  · exact ⟨_, _, rfl⟩
  · exact ⟨_, _, rfl⟩

theorem Upkeep.sameRecords (h : Upkeep config state state') : state.SameRecords state' := by
  cases h with
  | count stats => rfl
  | remember key entry _ =>
    obtain ⟨cache, order, hremember⟩ := exists_remember state config key entry
    rw [hremember]
    rfl
  | annotate service remark _ =>
    unfold SameRecords modifyService
    split <;> rfl

theorem Keeps.sameRecords (h : Keeps config state state') : state.SameRecords state' := by
  induction h with
  | refl => rfl
  | tail _ hstep ih =>
    have hstep := hstep.sameRecords
    unfold SameRecords at ih hstep ⊢
    rw [hstep, ih]

theorem keeps_bump (config : FabricConfig) (state : State) (field : StatField) :
    Keeps config state (state.bump field) :=
  (Upkeep.count _).keeps

theorem keeps_bumpAll (config : FabricConfig) (state : State) (fields : List StatField) :
    Keeps config state (state.bumpAll fields) := by
  unfold bumpAll
  induction fields generalizing state with
  | nil => exact Keeps.refl config state
  | cons field rest ih => exact (keeps_bump config state field).trans (ih _)

/-- Counting does not change what may be written into a service. -/
theorem admitted_bumpAll {service : ServiceName} {remark : Remark}
    (fields : List StatField) (h : remark.Admitted state service) :
    remark.Admitted (state.bumpAll fields) service := by
  unfold bumpAll
  induction fields generalizing state with
  | nil => exact h
  | cons field rest ih =>
    have hbump : remark.Admitted (state.bump field) service := by
      cases remark <;> exact h
    exact ih hbump

end State

/-- A durable change, with the memory it was committed in and the memory after it. -/
structure Commit where
  before : State
  change : Change
  after : State

namespace Fabric

/-- The same process with the same store, whatever else it remembers. -/
structure SameRuntime (fabric fabric' : Fabric) : Prop where
  config : fabric'.config = fabric.config
  opened : fabric'.opened = fabric.opened
  store : fabric'.store = fabric.store
  disk : fabric'.disk = fabric.disk
  log : fabric'.log = fabric.log

/-- The same explanations, pending intents and cancellations, whatever was written. -/
structure SameSession (fabric fabric' : Fabric) : Prop where
  explanations : fabric'.explanations = fabric.explanations
  intents : fabric'.intents = fabric.intents
  cancels : fabric'.cancels = fabric.cancels

structure Keeps (fabric fabric' : Fabric) : Prop extends fabric.SameRuntime fabric' where
  state : State.Keeps fabric.config fabric.state fabric'.state

section Keeps

variable {fabric fabric' fabric'' : Fabric}

theorem SameRuntime.refl (fabric : Fabric) : fabric.SameRuntime fabric :=
  ⟨rfl, rfl, rfl, rfl, rfl⟩

theorem SameRuntime.trans (h : fabric.SameRuntime fabric') (h' : fabric'.SameRuntime fabric'') :
    fabric.SameRuntime fabric'' :=
  ⟨h'.config.trans h.config, h'.opened.trans h.opened, h'.store.trans h.store,
    h'.disk.trans h.disk, h'.log.trans h.log⟩

theorem Keeps.refl (fabric : Fabric) : fabric.Keeps fabric :=
  ⟨.refl fabric, .refl _ fabric.state⟩

theorem Keeps.trans (h : fabric.Keeps fabric') (h' : fabric'.Keeps fabric'') :
    fabric.Keeps fabric'' :=
  ⟨h.toSameRuntime.trans h'.toSameRuntime, h.state.trans (h.config ▸ h'.state)⟩

/-- Only the memory was touched, and only in its bookkeeping. -/
theorem keeps_of_state (fabric : Fabric) {state : State}
    (h : State.Keeps fabric.config fabric.state state) : fabric.Keeps { fabric with state } :=
  ⟨⟨rfl, rfl, rfl, rfl, rfl⟩, h⟩

theorem keeps_recordExplanation (fabric : Fabric) (explanation : Explanation) :
    fabric.Keeps (fabric.recordExplanation explanation) :=
  ⟨⟨rfl, rfl, rfl, rfl, rfl⟩, (State.Upkeep.count _).keeps⟩

theorem keeps_finishIngest (fabric : Fabric) (explanation : Explanation) :
    fabric.Keeps (fabric.finishIngest explanation).2 :=
  fabric.keeps_recordExplanation _

theorem keeps_accept (fabric : Fabric) (decision : RecoveryDecision) :
    fabric.Keeps (fabric.accept decision).2 :=
  fabric.keeps_recordExplanation _

theorem keeps_refusal (fabric : Fabric) (explanation : Explanation) (code : Reason)
    (subject : Bytes) (detail : String) (value : UInt64) :
    fabric.Keeps (fabric.refusal explanation code subject detail value).2 := by
  unfold refusal
  refine Keeps.trans ?_ (keeps_recordExplanation _ _)
  split
  · exact keeps_of_state _ (State.Upkeep.remember _ _ rfl).keeps
  · exact Keeps.refl fabric

theorem keeps_refuse (fabric : Fabric) (explanation : Explanation) {service : ServiceName}
    {refused : Refusal} (hadmitted : refused.remark.Admitted fabric.state service) :
    fabric.Keeps (fabric.refuse explanation service refused).2 :=
  (fabric.keeps_of_state ((State.keeps_bumpAll _ _ _).trans
    (State.Upkeep.annotate _ _ (State.admitted_bumpAll _ hadmitted)).keeps)).trans
    (keeps_refusal _ _ _ _ _ _)

theorem keeps_replayCached (fabric : Fabric) (entry : RequestCacheEntry) (service : ServiceName)
    (key : RequestKey) : fabric.Keeps (fabric.replayCached entry service key).2 :=
  (fabric.keeps_accept _).trans (keeps_of_state _ (State.keeps_bump _ _ _))

/-- A refusal is never accepted, a replay always a duplicate. -/
@[simp] theorem refusal_accepted (fabric : Fabric) (explanation : Explanation) (code : Reason)
    (subject : Bytes) (detail : String) (value : UInt64) :
    (fabric.refusal explanation code subject detail value).1.accepted = false := rfl

@[simp] theorem refuse_accepted (fabric : Fabric) (explanation : Explanation)
    (service : ServiceName) (refused : Refusal) :
    (fabric.refuse explanation service refused).1.accepted = false := rfl

@[simp] theorem replayCached_duplicate (fabric : Fabric) (entry : RequestCacheEntry)
    (service : ServiceName) (key : RequestKey) :
    (fabric.replayCached entry service key).1.duplicate = true := rfl

end Keeps

section Session

variable {fabric fabric' fabric'' : Fabric}

theorem SameSession.refl (fabric : Fabric) : fabric.SameSession fabric := ⟨rfl, rfl, rfl⟩

theorem SameSession.trans (h : fabric.SameSession fabric') (h' : fabric'.SameSession fabric'') :
    fabric.SameSession fabric'' :=
  ⟨h'.explanations.trans h.explanations, h'.intents.trans h.intents,
    h'.cancels.trans h.cancels⟩

theorem sameSession_persist (fabric : Fabric) (records : List Record) :
    fabric.SameSession (fabric.persist records).2 := by
  unfold persist
  split
  · exact .refl fabric
  · dsimp only
    split <;> exact ⟨rfl, rfl, rfl⟩

theorem sameSession_rotateIfDue (fabric : Fabric) : fabric.SameSession fabric.rotateIfDue.2 := by
  unfold rotateIfDue maybeCompact
  split
  · exact .refl fabric
  split
  · split
    · exact .refl fabric
    split
    · exact .refl fabric
    · dsimp only
      split <;> exact ⟨rfl, rfl, rfl⟩
  · exact .refl fabric

/-- A transaction has no part in what the process answers. -/
theorem transact_sameSession {change : Change} {update : State → State} {progress : Progress}
    (h : fabric.transact change update = (progress, fabric')) : fabric.SameSession fabric' := by
  have hpersist := sameSession_persist fabric [change.record]
  rcases hresult : fabric.persist [change.record] with ⟨code, durable⟩
  rw [hresult] at hpersist
  have hupdate : fabric.SameSession { durable with state := update durable.state } :=
    ⟨hpersist.explanations, hpersist.intents, hpersist.cancels⟩
  have hrotate := sameSession_rotateIfDue { durable with state := update durable.state }
  simp only [transact, hresult] at h
  split at h
  · cases h
    exact hpersist
  split at h
  all_goals
    cases h
    exact hupdate.trans hrotate

end Session

/-! ### Commits -/

/-- The moves of an open runtime, with the commits among them in order. -/
inductive Evolves : Fabric → List Commit → Fabric → Prop where
  | keeps {fabric fabric' : Fabric} : fabric.Keeps fabric' → Evolves fabric [] fabric'
  | commit {fabric durable fabric' : Fabric} {change : Change} :
      fabric.opened → fabric.persist [change.record] = (.ok, durable) →
      durable.SameRuntime fabric' →
      Evolves fabric [{ before := durable.state, change, after := fabric'.state }] fabric'
  | rotate {fabric fabric' : Fabric} {code : Reason} :
      fabric.opened → fabric.rotateIfDue = (code, fabric') → Evolves fabric [] fabric'
  | trans {fabric fabric' fabric'' : Fabric} {commits commits' : List Commit} :
      Evolves fabric commits fabric' → Evolves fabric' commits' fabric'' →
      Evolves fabric (commits ++ commits') fabric''

theorem Evolves.then_keeps {fabric fabric' fabric'' : Fabric} {commits : List Commit}
    (h : fabric.Evolves commits fabric') (hkeeps : fabric'.Keeps fabric'') :
    fabric.Evolves commits fabric'' := by
  simpa only [List.append_nil] using h.trans (.keeps hkeeps)

theorem Evolves.after_keeps {fabric fabric' fabric'' : Fabric} {commits : List Commit}
    (hkeeps : fabric.Keeps fabric') (h : fabric'.Evolves commits fabric'') :
    fabric.Evolves commits fabric'' :=
  (Evolves.keeps hkeeps).trans h

section Transactions

variable {fabric fabric' durable : Fabric} {code : Reason}

theorem persist_refused {records : List Record} (hcode : code ≠ .ok)
    (h : fabric.persist records = (code, durable)) : fabric.Keeps durable := by
  unfold persist at h
  split at h
  · cases h
    exact absurd rfl hcode
  rename_i store hstore
  split at h
  rename_i reason store' ops hcommit
  by_cases hreason : reason = .ok
  · simp only [hreason, ne_eq, not_true_eq_false, if_false] at h
    cases h
    exact absurd rfl hcode
  · simp only [ne_eq, hreason, not_false_eq_true, if_true] at h
    obtain ⟨rfl, rfl⟩ := Store.commitTransaction_refused hreason hcommit
    cases h
    exact ⟨⟨rfl, rfl, hstore.symm, rfl, List.append_nil _⟩, State.Keeps.refl _ _⟩

/-- What a durable commit leaves alone. -/
theorem persist_ok {records : List Record} (h : fabric.persist records = (.ok, durable)) :
    durable.config = fabric.config ∧ durable.opened = fabric.opened ∧
      State.Keeps fabric.config fabric.state durable.state := by
  unfold persist at h
  split at h
  · cases h
    exact ⟨rfl, rfl, State.Keeps.refl _ _⟩
  split at h
  rename_i reason store' ops hcommit
  by_cases hreason : reason = .ok
  · simp only [hreason, ne_eq, not_true_eq_false, if_false] at h
    cases h
    exact ⟨rfl, rfl, State.keeps_bump _ _ _⟩
  · simp only [ne_eq, hreason, not_false_eq_true, if_true] at h
    cases h
    exact absurd rfl hreason

theorem rotateIfDue_keeps (h : fabric.rotateIfDue = (code, fabric')) :
    fabric'.config = fabric.config ∧ fabric'.opened = fabric.opened ∧
      State.Keeps fabric.config fabric.state fabric'.state := by
  unfold rotateIfDue at h
  split at h
  · cases h
    exact ⟨rfl, rfl, State.Keeps.refl _ _⟩
  split at h
  · unfold maybeCompact at h
    split at h
    · cases h
      exact ⟨rfl, rfl, State.Keeps.refl _ _⟩
    split at h
    · cases h
      exact ⟨rfl, rfl, State.Keeps.refl _ _⟩
    split at h
    cases h
    split
    · exact ⟨rfl, rfl, State.keeps_bump _ _ _⟩
    · exact ⟨rfl, rfl, State.Keeps.refl _ _⟩
  · cases h
    exact ⟨rfl, rfl, State.Keeps.refl _ _⟩

/-- A transaction keeps the runtime when it is refused, and commits its change otherwise. -/
theorem transact_evolves {change : Change} {update : State → State} {progress : Progress}
    (hopened : fabric.opened) (h : fabric.transact change update = (progress, fabric')) :
    (∃ code, code ≠ .ok ∧ progress = .refused code ∧ fabric.Keeps fabric') ∨
    (∀ code, progress ≠ .refused code) ∧ ∃ before,
      State.Keeps fabric.config fabric.state before ∧
      State.Keeps fabric.config (update before) fabric'.state ∧
      fabric.Evolves [{ before, change, after := update before }] fabric' := by
  unfold transact at h
  split at h
  rename_i code durable hpersist
  by_cases hcode : code = .ok
  · subst hcode
    obtain ⟨hconfig, hdurable, hkeeps⟩ := persist_ok hpersist
    have hsame : durable.SameRuntime { durable with state := update durable.state } :=
      ⟨rfl, rfl, rfl, rfl, rfl⟩
    have hcommit := Evolves.commit hopened hpersist hsame
    rcases hrotate : rotateIfDue { durable with state := update durable.state } with
      ⟨rotated, fabric₁⟩
    have hrotated := hconfig ▸ (rotateIfDue_keeps hrotate).2.2
    have hevolves := hcommit.trans (.rotate (hdurable.trans hopened) hrotate)
    simp only [ne_eq, not_true_eq_false, if_false, hrotate] at h
    split at h <;>
    · cases h
      exact Or.inr ⟨nofun, durable.state, hkeeps, hrotated, hevolves⟩
  · simp only [ne_eq, hcode, not_false_eq_true, if_true] at h
    cases h
    exact Or.inl ⟨code, hcode, rfl, persist_refused hcode hpersist⟩

end Transactions

/-! ### Ingestion -/

/-- The commit makes the change durable and updates the memory. -/
structure Writes (fabric : Fabric) (change : Change) (update : State → State)
    (commit : Commit) : Prop where
  before : State.Keeps fabric.config fabric.state commit.before
  change : commit.change = change
  after : commit.after = update commit.before

/-- How an ingestion ends: its check refused it, its change could not be made durable, or
it was committed. -/
inductive Ingests (fabric : Fabric) (checked : Check Proposal) (code : Reason) :
    List Commit → Prop where
  | turnedDown {refused : Refusal} :
      checked = .error refused → code = refused.code → Ingests fabric checked code []
  | unwritten {proposal : Proposal} {durable : Fabric} :
      checked = .ok proposal → fabric.persist [proposal.change.record] = (code, durable) →
      code ≠ .ok → Ingests fabric checked code []
  | written {proposal : Proposal} {commit : Commit} :
      checked = .ok proposal → fabric.Writes proposal.change proposal.update commit →
      Ingests fabric checked code [commit]

/-- A refused transaction was refused by the store. -/
theorem transact_refused {fabric fabric' : Fabric} {change : Change} {update : State → State}
    {code : Reason} (h : fabric.transact change update = (.refused code, fabric')) :
    ∃ durable, fabric.persist [change.record] = (code, durable) ∧ code ≠ .ok := by
  unfold transact at h
  split at h
  rename_i reason durable hpersist
  by_cases hreason : reason = .ok
  · simp only [hreason, ne_eq, not_true_eq_false, if_false] at h
    split at h <;> cases h
  · simp only [ne_eq, hreason, not_false_eq_true, if_true] at h
    cases h
    exact ⟨_, hpersist, hreason⟩

theorem ingest_evolves (fabric : Fabric) (service : ServiceName) (subject : Bytes)
    {checked : Check Proposal} (hopened : ∀ proposal, checked = .ok proposal → fabric.opened) :
    ∃ commits, fabric.Evolves commits (fabric.ingest service subject checked).2 ∧
      fabric.Ingests checked (fabric.ingest service subject checked).1.1 commits := by
  unfold ingest
  cases checked with
  | error refused =>
    exact ⟨[], .keeps ((keeps_of_state _ (State.keeps_bumpAll _ _ _)).trans
      (keeps_finishIngest _ _)), .turnedDown rfl rfl⟩
  | ok proposal =>
    rcases htransact : fabric.transact proposal.change proposal.update with ⟨progress, durable⟩
    rcases transact_evolves (hopened proposal rfl) htransact with
      ⟨code, -, rfl, hkeeps⟩ | ⟨hdone, before, hbefore, -, hevolves⟩
    · obtain ⟨_, hpersist, hcode⟩ := transact_refused htransact
      simp only [htransact]
      exact ⟨[], .keeps (hkeeps.trans (keeps_finishIngest _ _)), .unwritten rfl hpersist hcode⟩
    · have hwrites : fabric.Writes proposal.change proposal.update
          { before, change := proposal.change, after := proposal.update before } :=
        ⟨hbefore, rfl, rfl⟩
      refine ⟨_, ?_, .written rfl hwrites⟩
      have hfinish := fun explanation =>
        hevolves.then_keeps (durable.keeps_finishIngest explanation)
      cases progress with
      | refused code => exact absurd rfl (hdone code)
      | uncompacted code => simpa only [htransact] using hfinish _
      | done => simpa only [htransact] using hfinish _

end Fabric

end OffloadFabric
