import OffloadFabric.Eviction
import OffloadFabric.EvidenceGate
import OffloadFabric.Watermarks

/-!
What a memory retains beside its core: failures, watermarks and cached requests. In every
memory of every run they come from enrolled sources, and the orders they are evicted in list
all of them, so that an eviction always makes room.
-/
namespace OffloadFabric

open Fabric (Op)

@[ext] structure Ledger where
  failures : OrderedMap EvidenceId FailureEvidence
  failureOrder : List EvidenceId
  watermarks : OrderedMap SourceName SourceWatermark
  requestCache : OrderedMap RequestKey RequestCacheEntry
  requestOrder : List RequestKey

def State.ledger (state : State) : Ledger :=
  { failures := state.failures
    failureOrder := state.failureOrder
    watermarks := state.watermarks
    requestCache := state.requestCache
    requestOrder := state.requestOrder }

/-- Bookkeeping leaves the failures and their order alone. -/
theorem State.Keeps.filed {config : FabricConfig} {state state' : State}
    (h : State.Keeps config state state') :
    state'.failures = state.failures ∧ state'.failureOrder = state.failureOrder := by
  have hrecords := h.sameRecords
  unfold State.SameRecords at hrecords
  rw [hrecords]
  exact ⟨rfl, rfl⟩

/-- Whatever is retained comes from an enrolled source, and stands in the order that it is
evicted in. The cache of requests is within its ceiling. -/
structure Ledger.Listed (config : FabricConfig) (sources : OrderedMap SourceName SourceRole)
    (ledger : Ledger) : Prop where
  watermarks : ∀ source, (ledger.watermarks.find? source).isSome →
    (sources.find? source).isSome
  failures : ∀ key evidence, ledger.failures.find? key = some evidence →
    evidence.id = key ∧ (sources.find? evidence.provenance.source).isSome
  retained : ledger.failures.CoveredBy ledger.failureOrder
  cached : ledger.requestCache.CoveredBy ledger.requestOrder
  requests : ledger.requestCache.size ≤ config.maxRequestCache

def State.Listed (config : FabricConfig) (state : State) : Prop :=
  state.ledger.Listed config state.sources

/-! ### Evictions -/

namespace Fabric

theorem evictRequests_eq (ceiling : Nat) (order : List RequestKey)
    (cache : OrderedMap RequestKey RequestCacheEntry) :
    evictRequests ceiling order cache = cache.evictOldest ceiling order := by
  induction order generalizing cache with
  | nil => rfl
  | cons oldest order ih =>
    unfold evictRequests OrderedMap.evictOldest
    split
    · exact ih _
    · rfl

/-- The eviction of evidence forgets the oldest, and nothing else in the ledger. -/
theorem ledger_evictFailuresFrom (ceiling : Nat) (order : List EvidenceId) (state : State) :
    (evictFailuresFrom ceiling order state).ledger =
      { state.ledger with
        failures := (state.failures.evictOldest ceiling order).1
        failureOrder := (state.failures.evictOldest ceiling order).2 } := by
  induction order generalizing state with
  | nil => rfl
  | cons oldest order ih =>
    unfold evictFailuresFrom OrderedMap.evictOldest
    split
    · rw [ih]
      split
      · rfl
      · rename_i habsent
        have hnone : state.failures.find? oldest = none := by
          simpa [OrderedMap.contains] using habsent
        rw [OrderedMap.erase_of_find?_none hnone]
        rfl
    · rfl

end Fabric

section Listed

variable {config : FabricConfig} {sources sources' : OrderedMap SourceName SourceRole}
  {ledger : Ledger} {state state' : State}

theorem Ledger.Listed.mono (h : ledger.Listed config sources)
    (hmono : ∀ source, (sources.find? source).isSome → (sources'.find? source).isSome) :
    ledger.Listed config sources' where
  watermarks source hfind := hmono source (h.watermarks source hfind)
  failures key evidence hfind :=
    ⟨(h.failures key evidence hfind).1, hmono _ (h.failures key evidence hfind).2⟩
  retained := h.retained
  cached := h.cached
  requests := h.requests

theorem Ledger.Listed.observe (h : ledger.Listed config sources) {source : SourceName}
    (hsource : (sources.find? source).isSome) (watermark : SourceWatermark) :
    { ledger with watermarks := ledger.watermarks.insert source watermark }.Listed config
      sources where
  watermarks other hfind := by
    rcases OrderedMap.isSome_find?_insert.mp hfind with rfl | hfind
    · exact hsource
    · exact h.watermarks other hfind
  failures := h.failures
  retained := h.retained
  cached := h.cached
  requests := h.requests

/-- Evidence of an enrolled source may be retained, once the order has a place for it. -/
theorem Ledger.Listed.retain (h : ledger.Listed config sources) {evidence : FailureEvidence}
    (hsource : (sources.find? evidence.provenance.source).isSome)
    {failures : OrderedMap EvidenceId FailureEvidence} {order : List EvidenceId}
    (hfailures : ∀ key found, failures.find? key = some found →
      ledger.failures.find? key = some found)
    (hretained : (failures.insert evidence.id evidence).CoveredBy order) :
    { ledger with
      failures := failures.insert evidence.id evidence, failureOrder := order }.Listed config
        sources where
  watermarks := h.watermarks
  failures key found hfind := by
    have hfind : (failures.insert evidence.id evidence).find? key = some found := hfind
    rw [OrderedMap.find?_insert] at hfind
    split at hfind
    · rename_i hkey
      obtain rfl := Option.some.inj hfind
      exact ⟨hkey.symm, hsource⟩
    · exact h.failures key found (hfailures key found hfind)
  retained := hretained
  cached := h.cached
  requests := h.requests

/-- An accepted failure is retained at the end of the order, after the oldest were evicted. -/
theorem Fabric.ledger_retainFailure (config : FabricConfig) (evidence : FailureEvidence)
    (stamp : LogicalTick) (state : State) :
    (retainFailure config evidence stamp state).ledger =
      let evicted := state.failures.evictOldest config.maxEvidenceRecords state.failureOrder
      { state.ledger with
        failures := evicted.1.insert evidence.id evidence
        failureOrder := evicted.2 ++ [evidence.id]
        watermarks := state.watermarks.insert evidence.provenance.source
          (Change.watermarkOf evidence.provenance evidence.contentDigest) } := by
  have hevicted := ledger_evictFailuresFrom config.maxEvidenceRecords state.failureOrder
    { state with
      tick := stamp
      nextEvidenceId :=
        if evidence.id = ⟨state.nextEvidenceId⟩ then state.nextEvidenceId + 1
        else state.nextEvidenceId }
  rw [Ledger.ext_iff] at hevicted ⊢
  obtain ⟨hfailures, horder, hwatermarks, hcache, hrequests⟩ := hevicted
  refine ⟨?_, ?_, ?_, hcache, hrequests⟩
  · exact congrArg (OrderedMap.insert · evidence.id evidence) hfailures
  · exact congrArg (· ++ [evidence.id]) horder
  · exact congrArg (OrderedMap.insert · evidence.provenance.source
      (Change.watermarkOf evidence.provenance evidence.contentDigest)) hwatermarks

theorem State.Listed.retainFailure (h : state.Listed config) {evidence : FailureEvidence}
    (hsource : (state.sources.find? evidence.provenance.source).isSome) (stamp : LogicalTick) :
    (Fabric.retainFailure config evidence stamp state).Listed config := by
  have hsources : (Fabric.retainFailure config evidence stamp state).sources = state.sources :=
    congrArg Core.sources (State.core_retainFailure config evidence stamp state)
  unfold State.Listed
  rw [hsources, Fabric.ledger_retainFailure]
  exact (h.retain hsource (fun _ _ hfind => OrderedMap.find?_evictOldest hfind)
    ((OrderedMap.coveredBy_evictOldest h.retained).insert _ _)).observe hsource _

theorem State.Listed.remember (h : state.Listed config) (hceiling : 0 < config.maxRequestCache)
    (key : RequestKey) (entry : RequestCacheEntry) :
    (state.remember config key entry).Listed config := by
  unfold State.remember
  split
  · exact h
  · split
    · rename_i hcached
      have hsize : (state.requestCache.insert key entry).size = state.requestCache.size := by
        rw [OrderedMap.size_insert, if_neg]
        intro hnone
        simp [OrderedMap.contains, hnone] at hcached
      exact
        { watermarks := h.watermarks
          failures := h.failures
          retained := h.retained
          cached := h.cached.insert_mem (h.cached key hcached) entry
          requests := hsize.trans_le h.requests }
    · rw [Fabric.evictRequests_eq]
      exact
        { watermarks := h.watermarks
          failures := h.failures
          retained := h.retained
          cached := (OrderedMap.coveredBy_evictOldest h.cached).insert key entry
          requests := OrderedMap.size_insert_evictOldest_le hceiling h.cached key entry }

/-- What a replay retains comes from enrolled sources too. -/
theorem State.Listed.apply {change : Change} (h : state.Listed config)
    (hobserved : ∀ provenance, change.observed = some provenance →
      (state.sources.find? provenance.source).isSome) :
    (Change.apply state change).Listed config := by
  cases change with
  | failureIngested evidence =>
    have hsource := hobserved evidence.provenance rfl
    exact (h.retain hsource (fun _ _ hfind => hfind) (h.retained.insert _ _)).observe hsource _
  | dependencyIngested observation =>
    exact h.observe (hobserved observation.provenance rfl) _
  | serviceWithdrawn service =>
    unfold Change.apply
    dsimp only
    split <;> exact h
  | sourceRegistered source role =>
    exact h.mono fun other hfind => OrderedMap.isSome_find?_insert.mpr (Or.inr hfind)
  | _ => exact h

theorem State.listed_modifyService {service : ServiceName} {f : ServiceRuntime → ServiceRuntime} :
    (state.modifyService service f).Listed config ↔ state.Listed config := by
  unfold State.modifyService
  split <;> rfl

theorem State.listed_bumpAll {fields : List StatField} :
    (state.bumpAll fields).Listed config ↔ state.Listed config := by
  unfold State.bumpAll
  induction fields generalizing state with
  | nil => rfl
  | cons field rest ih => exact ih

theorem State.Listed.keeps (h : state.Listed config) (hceiling : 0 < config.maxRequestCache)
    (hkeeps : State.Keeps config state state') : state'.Listed config := by
  induction hkeeps with
  | refl => exact h
  | tail _ hupkeep ih =>
    cases hupkeep with
    | count => exact ih
    | remember => exact ih.remember hceiling _ _
    | annotate => exact State.listed_modifyService.mpr ih

theorem State.Listed.restored (h : state.Listed config) : state.restored.Listed config :=
  { watermarks := h.watermarks
    failures := h.failures
    retained := OrderedMap.coveredBy_keys _
    cached := OrderedMap.coveredBy_keys _
    requests := h.requests }

end Listed

/-! ### Commits -/

section Commits

variable {config : FabricConfig} {fabric : Fabric} {op : Op} {commit : Commit}

theorem Fabric.Writes.listed {change : Change} {update : State → State}
    (h : fabric.Writes change update commit) (hbefore : commit.before.Listed config)
    (hupdate : ∀ state, state.Listed config → (update state).Listed config) :
    commit.after.Listed config := by
  rw [h.after]
  exact hupdate _ hbefore

/-- Whatever a commit records an observation of comes from an enrolled source. -/
theorem Fabric.Caused.enrolled (h : fabric.Caused op commit) (hlisted : fabric.state.Listed config)
    {provenance : Provenance} (hobserved : commit.change.observed = some provenance) :
    (fabric.state.sources.find? provenance.source).isSome := by
  have hrole {source : SourceName} {role : SourceRole}
      (hrole : fabric.state.roleSatisfies source role = true) :
      (fabric.state.sources.find? source).isSome := by
    rcases enrolled_of_roleSatisfies hrole with hfind | hfind <;> rw [hfind] <;> rfl
  cases h with
  | @ingested op checked proposal commit hop hok hwrites =>
    rw [hwrites.change] at hobserved
    have hingested := Fabric.ingested_of_ok hop hok
    revert hobserved hingested
    generalize proposal.change = change
    generalize proposal.update = update
    intro hobserved hingested
    cases hingested with
    | failure _ hcredible | suspicion _ hcredible =>
      obtain rfl := Option.some.inj hobserved
      exact hrole hcredible.role
    | @dependency observation =>
      obtain rfl := Option.some.inj hobserved
      have hchecked : fabric.checkIngestDependency observation = .ok proposal :=
        (Option.some.inj hop).trans hok
      simp only [Fabric.checkIngestDependency, require_bind_ok] at hchecked
      exact hrole hchecked.2.1
    | _ => cases hobserved
  | moved _ _ _ hmoves =>
    cases hmoves
    cases hobserved
  | denied _ _ _ hwrites | acknowledged _ _ hwrites | reported _ _ _ _ hwrites =>
    rw [hwrites.change] at hobserved
    cases hobserved
  | confirmed _ hcheck _ hwrites =>
    obtain ⟨-, -, -, hevidence, -⟩ := Fabric.checkResolution_ok hcheck
    rw [hwrites.change] at hobserved
    obtain rfl := Option.some.inj hobserved
    exact (hlisted.failures _ _ hevidence).2

theorem Fabric.Caused.listed (h : fabric.Caused op commit) (hconfig : fabric.config = config)
    (hceiling : 0 < config.maxRequestCache) (hlisted : fabric.state.Listed config) :
    commit.after.Listed config := by
  have hbefore : commit.before.Listed config :=
    hlisted.keeps hceiling (hconfig ▸ h.before_keeps)
  have hsources : commit.before.sources = fabric.state.sources :=
    congrArg Core.sources h.before_keeps.core
  have hobserved (provenance : Provenance) (hchange : commit.change.observed = some provenance) :
      (commit.before.sources.find? provenance.source).isSome :=
    hsources ▸ h.enrolled hlisted hchange
  cases h with
  | @ingested op checked proposal commit hop hok hwrites =>
    have hingested := Fabric.ingested_of_ok hop hok
    rw [hwrites.change] at hobserved
    rw [hwrites.after]
    revert hobserved hingested
    generalize proposal.change = change
    generalize proposal.update = update
    intro hobserved hingested
    cases hingested with
    | enrolled =>
      exact hbefore.mono fun other hfind => OrderedMap.isSome_find?_insert.mpr (Or.inr hfind)
    | withdrawn => exact State.listed_modifyService.mpr hbefore
    | failure => exact hconfig ▸ hbefore.retainFailure (hobserved _ rfl) _
    | suspicion =>
      exact State.listed_modifyService.mpr (hconfig ▸ hbefore.retainFailure (hobserved _ rfl) _)
    | dependency _ hafter =>
      obtain ⟨stats, hstate⟩ := hafter commit.before
      rw [hstate]
      exact hbefore.apply hobserved
    | _ => exact hbefore
  | moved _ _ _ hmoves =>
    cases hmoves with
    | intro hprior =>
      rw [hprior.config.trans hconfig]
      dsimp only [Move.update]
      refine State.Listed.remember ?_ hceiling _ _
      change (State.bumpAll _ _).Listed config
      exact State.listed_bumpAll.mpr hbefore
  | denied _ _ _ hwrites | acknowledged _ _ hwrites =>
    exact hwrites.listed hbefore fun _ hstate => hstate
  | reported _ _ _ _ hwrites =>
    exact hwrites.listed hbefore fun _ hstate => State.listed_bumpAll.mpr hstate
  | @confirmed resolution runtime evidence stamp commit _ hcheck _ hwrites =>
    obtain ⟨-, -, -, hevidence, -⟩ := Fabric.checkResolution_ok hcheck
    have hfailures : commit.before.failures = fabric.state.failures := by
      rw [hwrites.before.sameRecords]
    have hfind : commit.before.failures.find? evidence.id = some evidence := by
      rw [hfailures, (hlisted.failures _ _ hevidence).1]
      exact hevidence
    rw [hwrites.after]
    refine State.listed_modifyService.mpr ?_
    have hmem : evidence.id ∈ commit.before.failureOrder := hbefore.retained _ (hfind ▸ rfl)
    have hretained :
      (commit.before.failures.insert evidence.id (Fabric.promoted evidence)).CoveredBy
        commit.before.failureOrder := hbefore.retained.insert_mem hmem _
    have hsource : (commit.before.sources.find?
        (Fabric.promoted evidence).provenance.source).isSome := (hbefore.failures _ _ hfind).2
    exact hbefore.retain hsource (fun _ _ hfound => hfound) hretained

/-- A commit retains no more failures than there is room for. -/
theorem Fabric.Caused.failures_le (h : fabric.Caused op commit) (hconfig : fabric.config = config)
    (hceiling : 0 < config.maxEvidenceRecords) (hlisted : fabric.state.Listed config)
    (hsize : fabric.state.failures.size ≤ config.maxEvidenceRecords) :
    commit.after.failures.size ≤ config.maxEvidenceRecords := by
  have hfailures : commit.before.failures = fabric.state.failures := by
    rw [h.before_keeps.sameRecords]
  have horder : commit.before.failureOrder = fabric.state.failureOrder := by
    rw [h.before_keeps.sameRecords]
  have hretained (evidence : FailureEvidence) (stamp : LogicalTick) :
      (Fabric.retainFailure config evidence stamp commit.before).failures.size ≤
        config.maxEvidenceRecords := by
    have hledger := congrArg Ledger.failures
      (Fabric.ledger_retainFailure config evidence stamp commit.before)
    change (Fabric.retainFailure config evidence stamp commit.before).failures = _ at hledger
    rw [hledger, hfailures, horder]
    exact OrderedMap.size_insert_evictOldest_le hceiling hlisted.retained _ _
  rw [← hfailures] at hsize
  cases h with
  | @ingested op checked proposal commit hop hok hwrites =>
    have hingested := Fabric.ingested_of_ok hop hok
    rw [hwrites.after]
    revert hingested
    generalize proposal.change = change
    generalize proposal.update = update
    intro hingested
    cases hingested with
    | withdrawn => simpa using hsize
    | failure => exact hconfig ▸ hretained _ _
    | suspicion => simpa [hconfig] using hretained _ _
    | dependency _ hafter =>
      obtain ⟨stats, hstate⟩ := hafter commit.before
      rw [hstate]
      exact hsize
    | _ => exact hsize
  | moved _ _ _ hmoves =>
    cases hmoves
    simpa [Move.update] using hsize
  | denied _ _ _ hwrites | acknowledged _ _ hwrites =>
    rw [hwrites.after]
    exact hsize
  | reported _ _ _ _ hwrites =>
    rw [hwrites.after, State.failures_bumpAll]
    exact hsize
  | @confirmed resolution runtime evidence stamp commit _ hcheck _ hwrites =>
    obtain ⟨-, -, -, hevidence, -⟩ := Fabric.checkResolution_ok hcheck
    have hfind : commit.before.failures.find? evidence.id = some evidence := by
      rw [hfailures, (hlisted.failures _ _ hevidence).1]
      exact hevidence
    rw [hwrites.after]
    change ((State.modifyService _ _ _).bump _).failures.size ≤ _
    rw [State.failures_bump, State.failures_modifyService]
    change (commit.before.failures.insert evidence.id (Fabric.promoted evidence)).size ≤ _
    rw [OrderedMap.size_insert, if_neg (by simp [hfind])]
    exact hsize

end Commits

end OffloadFabric
