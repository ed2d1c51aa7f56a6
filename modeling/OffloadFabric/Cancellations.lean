import OffloadFabric.Accounts
import OffloadFabric.Boots
import OffloadFabric.Eviction
import OffloadFabric.Reopening

/-!
Cancellations. Between calls the registry lists the keys of moves that were committed, in the
order of their commits, and no request is in flight; so a cancellation only finds out whether
its key was committed. A resolution that denies a failure, and an acknowledgement, are made
durable without the registry.
-/
namespace OffloadFabric

open Fabric (Op Reply Event Moment)

/-! ### The registry -/

namespace CancelRegistry

/-- Nothing is in flight: every entry has committed, and has its place in the order. -/
structure Settled (registry : CancelRegistry) : Prop where
  listed : registry.requests.ListedBy registry.order
  committed : ∀ key phase, registry.requests.find? key = some phase → phase = .committed

theorem settled_empty (capacity : Nat) : Settled { capacity } :=
  ⟨OrderedMap.listedBy_empty, nofun⟩

/-- What is kept of an order: its youngest keys, and all of those that are within the room. -/
def Retains (capacity : Nat) (order kept : List RequestKey) : Prop :=
  kept <:+ order ∧ ∀ youngest, youngest <:+ order → youngest.length < capacity → youngest <:+ kept

theorem Retains.refl (capacity : Nat) (order : List RequestKey) : Retains capacity order order :=
  ⟨List.suffix_refl order, fun _ hyoungest _ => hyoungest⟩

variable {registry : CancelRegistry} {key : RequestKey} {capacity : Nat}

theorem Settled.contains_iff (h : registry.Settled) (key : RequestKey) :
    registry.requests.contains key = true ↔ key ∈ registry.order := by
  rw [h.listed.mem_iff]
  rfl

theorem Settled.of_requests (h : registry.Settled) (capacity : Nat) :
    Settled { registry with capacity } := ⟨h.listed, h.committed⟩

/-- Without an entry in flight a trim evicts the oldest entries. -/
theorem trimFrom_eq {requests : OrderedMap RequestKey CancelPhase} (order : List RequestKey)
    (h : ∀ key phase, requests.find? key = some phase → phase = .committed) :
    trimFrom capacity order requests = requests.evictOldest capacity order := by
  induction order generalizing requests with
  | nil => rfl
  | cons oldest order ih =>
    have herased : ∀ key phase, (requests.erase oldest).find? key = some phase →
        phase = .committed := by
      intro key phase hfind
      rw [OrderedMap.find?_erase] at hfind
      split at hfind
      · cases hfind
      · exact h key phase hfind
    unfold trimFrom OrderedMap.evictOldest
    split
    · cases hfind : requests.find? oldest with
      | none =>
        have hsame := OrderedMap.erase_of_find?_none hfind
        rw [hsame]
        exact ih h
      | some phase =>
        obtain rfl := h oldest phase hfind
        exact ih herased
    · rfl

theorem Settled.evicted (h : registry.Settled) :
    Settled { registry with
      requests := (registry.requests.evictOldest capacity registry.order).1
      order := (registry.requests.evictOldest capacity registry.order).2 } where
  listed := h.listed.evictOldest
  committed key phase hfind := h.committed key phase (OrderedMap.find?_evictOldest hfind)

/-- The registry with a request in flight. -/
def withActive (registry : CancelRegistry) (key : RequestKey) : CancelRegistry :=
  { registry with
    requests := registry.requests.insert key .active, order := registry.order ++ [key] }

/-- The registry with one more commit. -/
def withCommitted (registry : CancelRegistry) (key : RequestKey) : CancelRegistry :=
  { registry with
    requests := registry.requests.insert key .committed, order := registry.order ++ [key] }

theorem Settled.withCommitted (h : registry.Settled) (hnew : key ∉ registry.order) :
    (registry.withCommitted key).Settled where
  listed := h.listed.insert hnew _
  committed key' phase hfind := by
    by_cases hsame : key' = key
    · subst hsame
      rw [CancelRegistry.withCommitted, OrderedMap.find?_insert_self] at hfind
      exact (Option.some.inj hfind).symm
    · rw [CancelRegistry.withCommitted, OrderedMap.find?_insert_ne _ _ hsame] at hfind
      exact h.committed key' phase hfind

theorem releaseIfActive_withActive (h : registry.Settled) (hnew : key ∉ registry.order) :
    (registry.withActive key).releaseIfActive key = registry := by
  have hfind : registry.requests.find? key = none := by
    rw [h.listed.mem_iff] at hnew
    simpa using hnew
  have hrequests : (registry.requests.insert key .active).erase key = registry.requests := by
    ext key' phase
    rw [OrderedMap.find?_erase]
    split
    · rename_i hsame
      rw [hsame, hfind]
    · rename_i hother
      rw [OrderedMap.find?_insert_ne _ _ hother]
  have horder : (registry.order ++ [key]).filter (· ≠ key) = registry.order := by
    rw [List.filter_append]
    have hkept : registry.order.filter (· ≠ key) = registry.order := by
      rw [List.filter_eq_self]
      intro key' hkey'
      have hother : key' ≠ key := fun hsame => hnew (hsame ▸ hkey')
      simpa using hother
    rw [hkept]
    simp
  unfold releaseIfActive withActive
  rw [if_pos (OrderedMap.find?_insert_self _ _ _)]
  simp only [hrequests, horder]

/-- With nothing in flight there is nothing to release. -/
theorem Settled.releaseIfActive_eq (h : registry.Settled) (key : RequestKey) :
    registry.releaseIfActive key = registry := by
  unfold releaseIfActive
  rw [if_neg]
  intro hactive
  cases h.committed key _ hactive

/-- A commit settles the request in flight, and its release does nothing more. -/
theorem releaseIfActive_markCommitted (registry : CancelRegistry) (key : RequestKey) :
    ((registry.withActive key).markCommitted key).releaseIfActive key =
      registry.withCommitted key := by
  have hcontains : (registry.withActive key).requests.contains key = true := by
    simp [withActive, OrderedMap.contains]
  have hrequests : ((registry.requests.insert key .active).insert key .committed) =
      registry.requests.insert key .committed := by
    ext key' phase
    by_cases hsame : key' = key
    · subst hsame
      rw [OrderedMap.find?_insert_self, OrderedMap.find?_insert_self]
    · rw [OrderedMap.find?_insert_ne _ _ hsame, OrderedMap.find?_insert_ne _ _ hsame,
        OrderedMap.find?_insert_ne _ _ hsame]
  unfold markCommitted
  rw [if_pos hcontains]
  unfold releaseIfActive withActive withCommitted
  rw [if_neg]
  · rw [hrequests]
  · rw [OrderedMap.find?_insert_self]
    intro h
    cases h

/-- The room that a registry is given. -/
def roomOf (capacity : Nat) : Nat := if capacity = 0 then 1 else capacity

theorem roomOf_pos (capacity : Nat) : 0 < roomOf capacity := by
  unfold roomOf
  split <;> omega

/-- A key that is held is turned away. Any other key is registered, once the oldest entries
have made room for it. -/
theorem Settled.begins (h : registry.Settled) (hkey : key.isNil = false) (capacity : Nat) :
    ∃ settled : CancelRegistry, settled.Settled ∧
      Retains (roomOf capacity) registry.order settled.order ∧
      (key ∈ registry.order ∧
          registry.begin key capacity = (.protocolViolation, settled) ∨
        key ∉ settled.order ∧ registry.begin key capacity = (.ok, settled.withActive key)) := by
  by_cases hheld : key ∈ registry.order
  · refine ⟨_, h.of_requests (roomOf capacity), .refl _ _, Or.inl ⟨hheld, ?_⟩⟩
    unfold begin
    rw [if_neg (by simp [hkey])]
    dsimp only
    rw [if_pos ((h.contains_iff key).mpr hheld)]
    rfl
  have hnew : ¬registry.requests.contains key = true := fun hcontains =>
    hheld ((h.contains_iff key).mp hcontains)
  by_cases hfull : roomOf capacity ≤ registry.requests.size
  · have hroom : ¬roomOf capacity ≤
        (registry.requests.evictOldest (roomOf capacity) registry.order).1.size :=
      Nat.not_le.mpr (OrderedMap.size_evictOldest_lt (roomOf_pos capacity) h.listed.coveredBy)
    have htrim := @trimFrom_eq (roomOf capacity) _ registry.order h.committed
    have hsuffix := OrderedMap.evictOldest_suffix (roomOf capacity) registry.order registry.requests
    refine ⟨_, @Settled.evicted _ (roomOf capacity) (h.of_requests (roomOf capacity)),
      ⟨hsuffix, fun _ => h.listed.suffix_evictOldest⟩,
      Or.inr ⟨fun hmem => hheld (hsuffix.subset hmem), ?_⟩⟩
    unfold begin
    rw [if_neg (by simp [hkey])]
    dsimp only
    rw [if_neg hnew]
    unfold roomOf at hfull htrim hroom
    rw [if_pos hfull]
    unfold trim
    simp only [htrim]
    rw [if_neg hroom]
    rfl
  · refine ⟨_, h.of_requests (roomOf capacity), .refl _ _, Or.inr ⟨hheld, ?_⟩⟩
    unfold begin
    rw [if_neg (by simp [hkey])]
    dsimp only
    rw [if_neg hnew]
    unfold roomOf at hfull
    rw [if_neg hfull]
    rw [if_neg hfull]
    rfl

end CancelRegistry

/-- The decision is an acceptance, and not merely a repeated one. -/
def RecoveryDecision.fresh (decision : RecoveryDecision) : Bool :=
  decision.accepted && !decision.duplicate

namespace Fabric

/-! ### Decisions -/

/-- A decision marks its key as committed exactly when it newly accepts a move. -/
def Marks (key : RequestKey) (registry : CancelRegistry) (moves : Bool)
    (answer : RecoveryDecision × Fabric) : Prop :=
  answer.2.cancels =
    if answer.1.fresh && moves && !key.isNil then registry.markCommitted key else registry

section Marks

variable {fabric fabric' : Fabric} {registry : CancelRegistry} {key : RequestKey}
  {service : ServiceName}

theorem cancels_refusal (fabric : Fabric) (explanation : Explanation) (code : Reason)
    (subject : Bytes) (detail : String) (value : UInt64) :
    (fabric.refusal explanation code subject detail value).2.cancels = fabric.cancels := by
  unfold refusal
  dsimp only
  split <;> rfl

theorem marks_refusal (hcancels : fabric.cancels = registry) (moves : Bool)
    (explanation : Explanation) (code : Reason) (subject : Bytes) (detail : String)
    (value : UInt64) :
    Marks key registry moves (fabric.refusal explanation code subject detail value) :=
  (cancels_refusal _ _ _ _ _ _).trans hcancels

theorem marks_refuse (hcancels : fabric.cancels = registry) (moves : Bool)
    (explanation : Explanation) (service : ServiceName) (refused : Refusal) :
    Marks key registry moves (fabric.refuse explanation service refused) := by
  unfold refuse
  exact marks_refusal (by exact hcancels) _ _ _ _ _ _

theorem marks_decided {decide : Explanation → RecoveryDecision × Fabric} {moves : Bool}
    (hcancels : fabric.cancels = registry)
    (h : ∀ explanation, Marks key registry moves (decide explanation)) :
    Marks key registry moves (fabric.decided service key decide) := by
  unfold decided
  split
  · exact marks_refusal hcancels _ _ _ _ _ _
  split
  · show fabric.cancels = _
    rw [hcancels]
    simp [RecoveryDecision.fresh]
  · exact h _

theorem cancels_commitRecovery {move : Move} {result : CommitResult}
    (h : commitRecovery fabric move = (result, fabric')) :
    fabric'.cancels =
      if result.code = .ok ∧ move.key.isNil = false then fabric.cancels.markCommitted move.key
      else fabric.cancels := by
  unfold commitRecovery at h
  split at h
  · rename_i refused hrefused
    cases h
    rw [if_neg]
    exact fun hok => CommitCheck.Explained.prepare fabric move refused hrefused hok.1
  dsimp only at h
  split at h
  · rename_i code durable htransact
    cases h
    have hdenied := isAccept_of_transact htransact _ (Or.inl rfl)
    rw [(transact_sameSession htransact).cancels, if_neg]
    exact fun hok => ne_ok_of_isAccept hdenied hok.1
  all_goals
    rename_i htransact
    have hsame := (transact_sameSession htransact).cancels
    cases h
    dsimp only
    rw [hsame]
    cases move.key.isNil <;> rfl

theorem marks_concludeCommit (hcancels : fabric.cancels = registry) (explanation : Explanation)
    {qualified : Qualified} (hkey : qualified.move.key = key) (closing : Closing) :
    Marks key registry true (fabric.concludeCommit explanation qualified closing) := by
  unfold concludeCommit
  rcases hcommit : commitRecovery { fabric with state := fabric.state.bumpAll qualified.counters }
    qualified.move with ⟨result, durable⟩
  have hdurable : durable.cancels = if result.code = .ok ∧ key.isNil = false
      then registry.markCommitted key else registry := by
    rw [cancels_commitRecovery hcommit, hkey, ← hcancels]
  simp only [hcommit]
  split
  · rename_i hcode
    rw [if_neg fun hok => hcode hok.1] at hdurable
    have hmarks := @marks_refuse durable registry key hdurable true
    split
    · exact hmarks _ _ _
    · exact hmarks _ _ _
  · rename_i hcode
    show durable.cancels = _
    rw [hdurable, not_not.mp hcode]
    simp [RecoveryDecision.fresh, accept]

theorem marks_decideMove (hcancels : fabric.cancels = registry) (service : ServiceName)
    {check : ServiceRuntime → Check Qualified}
    (hkey : ∀ runtime, (check runtime).Yields fun qualified => qualified.move.key = key)
    (closing : Closing) :
    Marks key registry true (fabric.decideMove service key check closing) := by
  refine marks_decided hcancels fun explanation => ?_
  split
  · exact marks_refusal hcancels _ _ _ _ _ _
  split
  · exact marks_refuse hcancels _ _ _ _
  · rename_i qualified hqualified
    exact marks_concludeCommit hcancels _ (hkey _ qualified hqualified) _

theorem key_checkPlacement (request : PlacementRequest) (runtime : ServiceRuntime) :
    (fabric.checkPlacement request runtime).Yields
      fun qualified => qualified.move.key = request.key :=
  .bind fun _ => .bind fun _ => .bind fun _ => .bind fun _ => .bind fun _ => .bind fun _ =>
  .pure rfl

theorem key_checkFailover (request : FailoverRequest) (runtime : ServiceRuntime) :
    (fabric.checkFailover request runtime).Yields
      fun qualified => qualified.move.key = request.key := by
  refine .bind fun _ => .bind fun _ => .bind fun _ => .bind fun _ => .bind fun _ =>
    .bind fun _ => ?_
  dsimp only
  split
  · intro qualified hthrown
    cases hthrown
  · exact .pure rfl

theorem key_checkResume (request : FailoverRequest) (runtime : ServiceRuntime) :
    (fabric.checkResume request runtime).Yields
      fun qualified => qualified.move.key = request.key :=
  .bind fun _ => .bind fun _ => .bind fun _ => .bind fun _ => .bind fun _ => .bind fun _ =>
  .bind fun _ => .pure rfl

theorem key_checkFailback (request : FailbackRequest) (runtime : ServiceRuntime) :
    (fabric.checkFailback request runtime).Yields
      fun qualified => qualified.move.key = request.key :=
  .bind fun _ => .bind fun _ => .bind fun _ => .bind fun _ => .bind fun _ => .bind fun _ =>
  .bind fun _ => .bind fun _ => .bind fun _ => .bind fun _ => .bind fun _ => .bind fun _ =>
  .bind fun _ => .pure rfl

theorem marks_doRequestFailover (hcancels : fabric.cancels = registry)
    (request : FailoverRequest) (resume : Bool) :
    Marks request.key registry true (fabric.doRequestFailover request resume) := by
  unfold doRequestFailover
  split
  · exact marks_decideMove hcancels _ (key_checkResume request) _
  · exact marks_decideMove hcancels _ (key_checkFailover request) _

/-- Only the failover that a confirmation asks for marks the key of a resolution. -/
theorem marks_doResolveAmbiguity (hcancels : fabric.cancels = registry)
    (resolution : AmbiguityResolution) :
    Marks resolution.key registry resolution.confirmFailure
      (fabric.doResolveAmbiguity resolution) := by
  refine marks_decided hcancels fun explanation => ?_
  split
  · exact marks_refusal hcancels _ _ _ _ _ _
  split
  · exact marks_refuse hcancels _ _ _ _
  rename_i runtime evidence stamp hcheck
  split
  · rename_i hconfirm
    have hpersist := sameSession_persist fabric
      [(Change.failureIngested (promoted evidence)).record]
    rw [hconfirm]
    unfold confirmAmbiguity
    dsimp only
    split
    all_goals
      rename_i hresult
      rw [hresult] at hpersist
      have hdurable := hpersist.cancels.trans hcancels
    · exact marks_doRequestFailover (by exact hdurable) (resolutionRequest resolution) false
    · exact marks_refusal hdurable _ _ _ _ _ _
  · rename_i hconfirm
    rw [Bool.not_eq_true] at hconfirm
    rw [hconfirm]
    unfold denyAmbiguity
    dsimp only
    split
    all_goals
      rename_i htransact
      have hdurable := (transact_sameSession htransact).cancels.trans hcancels
    · exact marks_refusal hdurable _ _ _ _ _ _
    · exact marks_refusal hdurable _ _ _ _ _ _
    · show _ = _
      rw [Bool.and_false, Bool.false_and]
      exact hdurable

end Marks

/-! ### Calls -/

/-- The key that an event marks as committed. -/
def Event.marks : Event → Option RequestKey
  | .call op (.decided decision) =>
    if decision.fresh && op.moves then op.key?.filter fun key => !key.isNil else none
  | _ => none

/-- A settled registry goes on: it keeps its youngest entries, and marks at most one more. -/
def Advances (capacity : Nat) (registry registry' : CancelRegistry) (mark : Option RequestKey) :
    Prop :=
  registry'.Settled ∧ ∃ kept, CancelRegistry.Retains capacity registry.order kept ∧
    registry'.order = kept ++ mark.toList

section Calls

variable {fabric fabric' : Fabric} {registry registry' : CancelRegistry} {op : Op}

theorem Advances.same (h : registry.Settled) (capacity : Nat) :
    Advances capacity registry registry none :=
  ⟨h, registry.order, .refl _ _, (List.append_nil _).symm⟩

theorem advances_of_cancels (h : fabric.cancels.Settled) (capacity : Nat)
    (hsame : (fabric.call op).2.cancels = fabric.cancels)
    (hmark : (Event.call op (fabric.call op).1).marks = none) :
    Advances capacity fabric.cancels (fabric.call op).2.cancels
      (Event.call op (fabric.call op).1).marks := by
  rw [hsame, hmark]
  exact .same h capacity

theorem cancels_ingest (fabric : Fabric) (service : ServiceName) (subject : Bytes)
    (checked : Check Proposal) :
    (fabric.ingest service subject checked).2.cancels = fabric.cancels := by
  unfold ingest
  dsimp only
  split
  · rfl
  split
  all_goals
    rename_i htransact
    exact (transact_sameSession htransact).cancels

theorem cancels_recover (fabric : Fabric) (found : Store.Opened) :
    (fabric.recover found).2.cancels = fabric.cancels := by
  unfold recover
  dsimp only
  split
  · rfl
  split
  · rfl
  split
  · rfl
  split
  · rfl
  split
  all_goals
    rename_i htransact
    have hsame := (transact_sameSession htransact).cancels
    exact hsame

/-- An open does not start the registry over. -/
theorem cancels_open (fabric : Fabric) : fabric.open.2.cancels = fabric.cancels := by
  unfold «open»
  split
  · rfl
  split
  · rfl
  split
  · rfl
  · exact cancels_recover _ _

theorem cancels_doAcknowledgeIntent (fabric : Fabric) (ack : IntentAck) :
    (fabric.doAcknowledgeIntent ack).2.cancels = fabric.cancels := by
  unfold doAcknowledgeIntent
  dsimp only
  split
  · exact cancels_refusal _ _ _ _ _ _
  split
  · exact cancels_refusal _ _ _ _ _ _
  split
  · exact cancels_refusal _ _ _ _ _ _
  split
  all_goals
    rename_i htransact
    have hsame := (transact_sameSession htransact).cancels
  · exact (cancels_refusal _ _ _ _ _ _).trans hsame
  · exact (cancels_refusal _ _ _ _ _ _).trans hsame
  · exact hsame

theorem cancels_doReportEffect (fabric : Fabric) (report : EffectReport) :
    (fabric.doReportEffect report).2.cancels = fabric.cancels := by
  unfold doReportEffect
  dsimp only
  split
  · exact cancels_refusal _ _ _ _ _ _
  split
  · exact cancels_refusal _ _ _ _ _ _
  split
  · exact cancels_refusal _ _ _ _ _ _
  split
  · rfl
  split
  · exact cancels_refusal _ _ _ _ _ _
  unfold recordEffect
  dsimp only
  split
  all_goals
    rename_i htransact
    have hsame := (transact_sameSession htransact).cancels
  · exact (cancels_refusal _ _ _ _ _ _).trans hsame
  · exact (cancels_refusal _ _ _ _ _ _).trans hsame
  · exact hsame

/-- With nothing in flight, a cancellation changes nothing. -/
theorem cancels_cancel (h : fabric.cancels.Settled) (key : RequestKey) :
    (fabric.cancel key).2.cancels = fabric.cancels := by
  have hsame : (fabric.cancels.cancel key).2 = fabric.cancels := by
    unfold CancelRegistry.cancel
    cases hfind : fabric.cancels.requests.find? key with
    | none => rfl
    | some phase =>
      obtain rfl := h.committed key phase hfind
      rfl
  unfold cancel
  dsimp only
  rw [hsame]
  split
  · rfl
  · split <;> rfl

/-- What a keyed request does to the registry: nothing when the answer is remembered or the
key is turned away; otherwise the decision is made with the key in flight. -/
theorem keyed_registers {service : ServiceName} {key : RequestKey}
    {decide : Fabric → RecoveryDecision × Fabric} {decision : RecoveryDecision}
    (h : fabric.keyed service key decide = (decision, fabric')) :
    decision.fresh = false ∧ (fabric'.cancels = fabric.cancels ∨ ∃ code, code ≠ .ok ∧
        fabric.cancels.begin key fabric.config.maxRequestCache = (code, fabric'.cancels)) ∨
      ∃ actor decided : Fabric, decide actor = (decision, decided) ∧
        fabric.cancels.begin key fabric.config.maxRequestCache = (.ok, actor.cancels) ∧
        fabric'.cancels = decided.cancels.releaseIfActive key := by
  unfold keyed at h
  split at h
  · have hrepeated : (fabric.replayCached ‹_› service key).1.fresh = false := by
      simp [RecoveryDecision.fresh]
    rw [h] at hrepeated
    exact Or.inl ⟨hrepeated, Or.inl (by cases h; rfl)⟩
  split at h
  rename_i registered cancels hbegin
  dsimp only at h
  by_cases hregistered : registered = .ok
  · rw [if_neg (not_not.mpr hregistered)] at h
    cases h
    exact Or.inr ⟨{ fabric with cancels }, _, rfl, by rw [hbegin, hregistered], rfl⟩
  · rw [if_pos hregistered] at h
    have hrefused := cancels_refusal { fabric with cancels }
      ({ fabric with cancels }.beginExplanation service key) registered service.bytes
      (if registered = .queueCapacityExceeded then "cancellation registry is full"
        else "request key is already in flight") 0
    rw [h] at hrefused
    refine Or.inl ⟨?_, Or.inr ⟨registered, hregistered, ?_⟩⟩
    · cases h
      rfl
    · rw [hbegin]
      exact congrArg _ hrefused.symm

/-- A keyed request is released unless it committed. -/
theorem advances_keyed {service : ServiceName} {key : RequestKey}
    {decide : Fabric → RecoveryDecision × Fabric} {moves : Bool} {decision : RecoveryDecision}
    (hsettled : fabric.cancels.Settled)
    (hmarks : ∀ actor, Marks key actor.cancels moves (decide actor))
    (h : fabric.keyed service key decide = (decision, fabric')) :
    Advances (CancelRegistry.roomOf fabric.config.maxRequestCache) fabric.cancels fabric'.cancels
      (if decision.fresh && moves && !key.isNil then some key else none) := by
  rcases keyed_registers h with ⟨hstale, hsame⟩ | ⟨actor, decided, hdecide, hbegin, hcancels⟩
  · rw [hstale, Bool.false_and, Bool.false_and, if_neg (by simp)]
    rcases hsame with hsame | ⟨code, hcode, hbegin⟩
    · rw [hsame]
      exact .same hsettled _
    · have hnil : key.isNil = false := by
        by_contra hnil
        rw [CancelRegistry.begin, if_pos (by simpa using hnil)] at hbegin
        exact hcode (Prod.mk.inj hbegin).1.symm
      obtain ⟨settled, hsettled', hretains, ⟨-, hturned⟩ | ⟨-, hbegun⟩⟩ :=
        hsettled.begins hnil fabric.config.maxRequestCache
      · rw [(Prod.mk.inj (hbegin.symm.trans hturned)).2]
        exact ⟨hsettled', _, hretains, (List.append_nil _).symm⟩
      · exact absurd (Prod.mk.inj (hbegin.symm.trans hbegun)).1 hcode
  have hmarked := hmarks actor
  rw [hdecide] at hmarked
  unfold Marks at hmarked
  dsimp only at hmarked
  cases hnil : key.isNil with
  | true =>
    have hactor : actor.cancels = fabric.cancels := by
      rw [CancelRegistry.begin, if_pos hnil] at hbegin
      exact (Prod.mk.inj hbegin).2.symm
    rw [hcancels, hmarked, hactor, hnil]
    rw [if_neg (by simp), if_neg (by simp), hsettled.releaseIfActive_eq]
    exact .same hsettled _
  | false =>
    obtain ⟨settled, hsettled', hretains, ⟨-, hturned⟩ | ⟨hnew, hbegun⟩⟩ :=
      hsettled.begins hnil fabric.config.maxRequestCache
    · cases hbegin.symm.trans hturned
    have hactor : actor.cancels = settled.withActive key :=
      (Prod.mk.inj (hbegin.symm.trans hbegun)).2
    rw [hcancels, hmarked, hactor, hnil]
    cases hfresh : decision.fresh && moves with
    | true =>
      rw [if_pos (by simp), CancelRegistry.releaseIfActive_markCommitted, if_pos (by simp)]
      exact ⟨hsettled'.withCommitted hnew, _, hretains, rfl⟩
    | false =>
      rw [if_neg (by simp), CancelRegistry.releaseIfActive_withActive hsettled' hnew,
        if_neg (by simp)]
      exact ⟨hsettled', _, hretains, (List.append_nil _).symm⟩

/-- What a call does to a settled registry. -/
theorem advances_call (hsettled : fabric.cancels.Settled) (op : Op) :
    Advances (CancelRegistry.roomOf fabric.config.maxRequestCache) fabric.cancels
      (fabric.call op).2.cancels (Event.call op (fabric.call op).1).marks := by
  have hingest {service : ServiceName} {subject : Bytes} {checked : Check Proposal}
      (hcall : fabric.call op = replyExplained (fabric.entered.ingest service subject checked)) :
      Advances (CancelRegistry.roomOf fabric.config.maxRequestCache) fabric.cancels
        (fabric.call op).2.cancels (Event.call op (fabric.call op).1).marks := by
    refine advances_of_cancels hsettled _ ?_ ?_
    · rw [hcall]
      exact cancels_ingest _ _ _ _
    · rw [hcall]
      rfl
  have hkeyed {service : ServiceName} {key : RequestKey}
      {decide : Fabric → RecoveryDecision × Fabric}
      (hcall : fabric.call op = replyDecided (fabric.entered.keyed service key decide))
      (hop : op.key? = some key)
      (hmarks : ∀ actor, Marks key actor.cancels op.moves (decide actor)) :
      Advances (CancelRegistry.roomOf fabric.config.maxRequestCache) fabric.cancels
        (fabric.call op).2.cancels (Event.call op (fabric.call op).1).marks := by
    rcases hkeyed : fabric.entered.keyed service key decide with ⟨decision, fabric'⟩
    have hadvances : Advances (CancelRegistry.roomOf fabric.config.maxRequestCache) fabric.cancels
        fabric'.cancels (if decision.fresh && op.moves && !key.isNil then some key else none) :=
      @advances_keyed fabric.entered _ _ _ _ _ _ hsettled hmarks hkeyed
    rw [hcall, hkeyed]
    show Advances _ _ fabric'.cancels _
    unfold Event.marks
    dsimp only [replyDecided]
    rw [hop]
    cases hfresh : decision.fresh && op.moves with
    | true =>
      rw [hfresh, Bool.true_and] at hadvances
      simpa [Option.filter] using hadvances
    | false =>
      rw [hfresh, Bool.false_and] at hadvances
      simpa using hadvances
  cases op with
  | openFabric => exact advances_of_cancels hsettled _ (cancels_open fabric.entered) rfl
  | closeFabric =>
    refine advances_of_cancels hsettled _ ?_ rfl
    show fabric.entered.close.2.cancels = _
    unfold close
    split <;> rfl
  | enrollSource | registerService | registerTarget | setTopologyGeneration | setPolicy
  | withdrawService | retireTarget | ingestCapability | ingestFailure | ingestDependency =>
    exact hingest rfl
  | establishPlacement request =>
    exact hkeyed rfl rfl fun actor => marks_decideMove rfl _ (key_checkPlacement request) _
  | requestFailover request =>
    exact hkeyed rfl rfl fun actor => marks_doRequestFailover rfl request false
  | resumeRecovery request =>
    exact hkeyed rfl rfl fun actor => marks_doRequestFailover rfl request true
  | resolveAmbiguity resolution =>
    exact hkeyed rfl rfl fun actor => marks_doResolveAmbiguity rfl resolution
  | requestFailback request =>
    exact hkeyed rfl rfl fun actor => marks_decideMove rfl _ (key_checkFailback request) _
  | acknowledgeIntent ack =>
    refine advances_of_cancels hsettled _ (cancels_doAcknowledgeIntent fabric.entered ack) ?_
    show (if _ then _ else _) = _
    simp [Op.moves]
  | reportEffect report =>
    refine advances_of_cancels hsettled _ (cancels_doReportEffect fabric.entered report) ?_
    show (if _ then _ else _) = _
    simp [Op.moves]
  | cancel key =>
    exact advances_of_cancels hsettled _ (@cancels_cancel fabric.entered hsettled key) rfl
  | takeIntent =>
    refine advances_of_cancels hsettled _ ?_ rfl
    show fabric.entered.takeIntent.2.cancels = _
    unfold takeIntent
    split <;> rfl
  | waitForIntent =>
    refine advances_of_cancels hsettled _ ?_ rfl
    show fabric.entered.waitForIntent.2.cancels = _
    unfold waitForIntent
    split <;> rfl

/-- With nothing in flight, a cancellation says whether its key was committed. -/
theorem code_cancel (h : fabric.cancels.Settled) {key : RequestKey} {code : Reason}
    {explanation : Explanation}
    (hreply : (fabric.call (.cancel key)).1 = .explained code explanation) :
    code = if key ∈ fabric.cancels.order then .cancelTooLate else .requestUnknown := by
  have hcode : (fabric.cancels.cancel key).1 = code := by
    have hcall : (fabric.call (.cancel key)).1 =
        .explained (fabric.cancels.cancel key).1 (fabric.entered.cancel key).1.2 := rfl
    rw [hcall] at hreply
    exact (Reply.explained.inj hreply).1
  rw [← hcode]
  have hheld := h.contains_iff key
  unfold OrderedMap.contains at hheld
  unfold CancelRegistry.cancel
  cases hfind : fabric.cancels.requests.find? key with
  | none =>
    rw [hfind] at hheld
    rw [if_neg fun hmem => by simpa using hheld.mpr hmem]
  | some phase =>
    obtain rfl := h.committed key phase hfind
    rw [hfind] at hheld
    rw [if_pos (hheld.mp rfl)]

end Calls

/-! ### Boots -/

/-- The key under which the registry follows a call. -/
def Event.key? : Event → Option RequestKey
  | .call op _ | .crash op => op.key?.filter fun key => !key.isNil

theorem Event.key?_of_marks {event : Event} {key : RequestKey} (h : event.marks = some key) :
    event.key? = some key := by
  unfold Event.marks at h
  split at h
  · split at h
    · exact h
    · cases h
  · cases h

/-- The keys of the requests among some moments. -/
def keysOf (calls : List Moment) : List RequestKey := calls.filterMap (·.event.key?)

/-- The keys that some moments have marked as committed, in their order. -/
def markedBy (calls : List Moment) : List RequestKey := calls.filterMap (·.event.marks)

section Boots

variable {config : FabricConfig} {moments calls : List Moment} {start fabric : Fabric}

theorem markedBy_subset (calls : List Moment) : markedBy calls ⊆ keysOf calls := by
  intro key hkey
  obtain ⟨moment, hmoment, hmarks⟩ := List.mem_filterMap.mp hkey
  exact List.mem_filterMap.mpr ⟨moment, hmoment, Event.key?_of_marks hmarks⟩

theorem dedup_keysOf_le {calls calls' : List Moment} (h : calls ⊆ calls') :
    (keysOf calls).dedup.length ≤ (keysOf calls').dedup.length := by
  refine ((List.nodup_dedup _).subperm fun key hkey => ?_).length_le
  rw [List.mem_dedup] at hkey ⊢
  obtain ⟨moment, hmoment, hkeyed⟩ := List.mem_filterMap.mp hkey
  exact List.mem_filterMap.mpr ⟨moment, h hmoment, hkeyed⟩

/-- In every run the registry is settled, and lists only keys that a call marked. -/
theorem Run.settled (h : Run config moments fabric) :
    fabric.cancels.Settled ∧
      ∀ key ∈ fabric.cancels.order, ∃ moment ∈ moments, moment.event.marks = some key := by
  induction h with
  | start => exact ⟨CancelRegistry.settled_empty _, fun _ hkey => absurd hkey List.not_mem_nil⟩
  | @step moments fabric fabric' event hrun hstep ih =>
    obtain ⟨hsettled, hmarked⟩ := ih
    cases hstep with
    | call op =>
      obtain ⟨hsettled', kept, hretains, horder⟩ := advances_call hsettled op
      refine ⟨hsettled', fun key hkey => ?_⟩
      rw [horder] at hkey
      rcases List.mem_append.mp hkey with hkey | hkey
      · obtain ⟨moment, hmoment, hmarks⟩ := hmarked key (hretains.1.subset hkey)
        exact ⟨moment, List.mem_append_left _ hmoment, hmarks⟩
      · exact ⟨_, List.mem_append_right _ List.mem_cons_self, Option.mem_toList.mp hkey⟩
    | crash op disk _ =>
      exact ⟨CancelRegistry.settled_empty _, fun _ hkey => absurd hkey List.not_mem_nil⟩

/-- As long as the calls met fewer keys than the ceiling, one more call leaves the registry with
all the keys that they have marked, each of them once. -/
theorem markedBy_call (hsettled : fabric.cancels.Settled) (hnodup : (markedBy calls).Nodup)
    (hsuffix : markedBy calls <:+ fabric.cancels.order)
    (hroom : (keysOf calls).dedup.length < fabric.config.maxRequestCache) (op : Op) :
    (fabric.call op).2.cancels.Settled ∧
      (markedBy (calls ++ [{ before := fabric, event := .call op (fabric.call op).1 }])).Nodup ∧
      markedBy (calls ++ [{ before := fabric, event := .call op (fabric.call op).1 }]) <:+
        (fabric.call op).2.cancels.order := by
  obtain ⟨hsettled', kept, hretains, horder⟩ := advances_call hsettled op
  have hcount : (markedBy calls).length ≤ (keysOf calls).dedup.length := by
    refine (hnodup.subperm fun key hkey => ?_).length_le
    exact List.mem_dedup.mpr (markedBy_subset calls hkey)
  have hkept : markedBy calls <:+ kept := by
    refine hretains.2 _ hsuffix ?_
    unfold CancelRegistry.roomOf
    split <;> omega
  have hmarked : markedBy (calls ++ [{ before := fabric, event := .call op (fabric.call op).1 }]) =
      markedBy calls ++ (Event.call op (fabric.call op).1).marks.toList := by
    rw [markedBy, List.filterMap_append]
    cases hmark : (Event.call op (fabric.call op).1).marks <;> simp [hmark, markedBy]
  have hsuffix' : markedBy calls ++ (Event.call op (fabric.call op).1).marks.toList <:+
      (fabric.call op).2.cancels.order := by
    rw [horder]
    obtain ⟨older, holder⟩ := hkept
    exact ⟨older, by rw [← holder, List.append_assoc]⟩
  rw [hmarked]
  exact ⟨hsettled', hsuffix'.sublist.nodup hsettled'.listed.nodup, hsuffix'⟩

/-- While a boot has met fewer keys than the ceiling, the registry ends with all the keys that
it has marked. -/
theorem Serves.marked (h : start.Serves calls fabric) (hstart : start.opened = true)
    (hsettled : start.cancels.Settled)
    (hroom : (keysOf calls).dedup.length < start.config.maxRequestCache) :
    fabric.cancels.Settled ∧ (markedBy calls).Nodup ∧ markedBy calls <:+ fabric.cancels.order := by
  induction h with
  | start => exact ⟨hsettled, List.nodup_nil, List.nil_suffix⟩
  | @call calls fabric op hserves hclose ih =>
    have hfew := Nat.lt_of_le_of_lt (dedup_keysOf_le (List.subset_append_left calls _)) hroom
    obtain ⟨hbefore, hnodup, hsuffix⟩ := ih hfew
    exact markedBy_call hbefore hnodup hsuffix ((hserves.opened hstart).2 ▸ hfew) op

theorem keysOf_momentsOf (fabric : Fabric) (ops : List Op) :
    keysOf (fabric.momentsOf ops) =
      ops.filterMap fun op => op.key?.filter fun key => !key.isNil := by
  induction ops generalizing fabric with
  | nil => rfl
  | cons op ops ih =>
    have hrest := ih (fabric.call op).2
    unfold keysOf at hrest ⊢
    simp only [momentsOf, List.filterMap_cons, hrest]
    rfl

end Boots

/-! ### Consistency -/

/-- The key that a request or an acknowledgement carries, if it carries one. -/
def Op.request? (op : Op) : Option RequestKey :=
  Option.filter (fun key => !key.isNil) <| match op with
    | .acknowledgeIntent ack => some ack.key
    | op => op.key?

/-- What the call does with that key is durable. -/
def Moment.Changes (moment : Moment) (key : RequestKey) : Prop :=
  ∃ op reply commits, moment.event = .call op reply ∧ op.request? = some key ∧ commits ≠ [] ∧
    moment.before.entered.Evolves commits (moment.before.call op).2

/-- A request with that key is accepted, and is durable. -/
def Moment.Commits (moment : Moment) (key : RequestKey) : Prop :=
  ∃ op decision commits, moment.Accepts op decision ∧ op.request? = some key ∧ commits ≠ [] ∧
    moment.before.entered.Evolves commits (moment.before.call op).2

/-- A failure is denied, or an intent acknowledged, under that key: the registry is passed by. -/
def Moment.Unguarded (moment : Moment) (key : RequestKey) : Prop :=
  ∃ op decision, moment.Accepts op decision ∧ op.request? = some key ∧ op.moves = false

/-- The calls that a run of the coordinator has made since an open, and what it did before. -/
def Boot (config : FabricConfig) (earlier calls : List Moment) (fabric : Fabric) : Prop :=
  ∃ before, Run config earlier before ∧ before.opened = false ∧
    (before.call .openFabric).2.opened = true ∧ (before.call .openFabric).2.Serves calls fabric

/-- Every cancellation of a boot is answered as the requests with its key turn out: as made in
time when none of them ever changes anything durably, as too late when one was committed, as
unknown when none was. -/
def Consistent (earlier calls : List Moment) : Prop :=
  ∀ before after cancellation key code explanation, calls = before ++ cancellation :: after →
    cancellation.event = .call (.cancel key) (.explained code explanation) →
    (code = .cancelled → ∀ moment ∈ calls, ¬moment.Changes key) ∧
    (code = .cancelTooLate → ∃ moment ∈ earlier ++ before, moment.Commits key) ∧
    (code = .requestUnknown → ∀ moment ∈ before, ¬moment.Commits key)

/-- Whenever a key is cancelled under which a failure was denied or an intent acknowledged,
the registry lists it. -/
def Guarded (calls : List Moment) : Prop :=
  ∀ before after cancellation key reply, calls = before ++ cancellation :: after →
    cancellation.event = .call (.cancel key) reply →
    (∃ moment ∈ before, moment.Unguarded key) →
    cancellation.before.cancels.requests.contains key = true

section Consistency

variable {config : FabricConfig} {earlier calls : List Moment} {fabric : Fabric} {op : Op}
  {decision : RecoveryDecision} {key : RequestKey}

/-- Every accepted request is durable. -/
theorem Accepts.durable (h : fabric.Accepts op decision) (hkey : op.request? = some key) :
    ∃ commits, commits ≠ [] ∧ fabric.entered.Evolves commits (fabric.call op).2 := by
  obtain ⟨commits, hevolves, -, hanswers⟩ := @dispatch_evolves fabric.entered op
    (by rintro rfl; cases hkey) (by rintro rfl; cases hkey)
  by_cases hmoves : op.moves = true
  · obtain ⟨-, hrelocates⟩ := h.relocated hmoves hanswers
    refine ⟨commits, ?_, hevolves⟩
    rintro rfl
    generalize hcommits : ([] : List Commit) = commits at hrelocates
    cases hrelocates
    simp at hcommits
  cases op with
  | resolveAmbiguity resolution =>
    obtain ⟨decided, hreply, hresolves⟩ := hanswers.resolves resolution rfl
    obtain rfl : decision = decided := by
      have hsame := h.reply.symm.trans hreply
      cases hsame
      rfl
    refine ⟨commits, ?_, hevolves⟩
    rintro rfl
    cases hresolves with
    | turnedDown hduplicate => exact absurd (hduplicate h.accepted) (by simp [h.fresh])
  | acknowledgeIntent ack =>
    rcases hack : fabric.entered.doAcknowledgeIntent ack with ⟨decided, fabric'⟩
    have hreply := h.reply
    have hafter : (fabric.call (.acknowledgeIntent ack)).2 = fabric' := by
      simp [call, dispatch, replyDecided, hack]
    rcases doAcknowledgeIntent_evolves hack with
      ⟨hrefused, -⟩ | ⟨entry, stamp, commit, -, -, -, -, hacknowledged, -⟩
    · simp only [call, dispatch, replyDecided, hack, Reply.decided.injEq] at hreply
      subst hreply
      exact absurd h.accepted (by simp [hrefused])
    · rw [hafter]
      exact ⟨_, List.cons_ne_nil _ _, hacknowledged⟩
  | establishPlacement | requestFailover | resumeRecovery | requestFailback =>
    exact absurd rfl hmoves
  | _ => cases hkey

theorem Accepts.committed (h : fabric.Accepts op decision) (hkey : op.request? = some key) :
    Moment.Commits { before := fabric, event := .call op (fabric.call op).1 } key := by
  obtain ⟨commits, hsome, hevolves⟩ := h.durable hkey
  exact ⟨op, decision, commits, h.asMoment, hkey, hsome, hevolves⟩

theorem Op.key?_of_moves (hmoves : op.moves = true) (hkey : op.request? = some key) :
    op.key?.filter (fun key => !key.isNil) = some key := by
  cases op with
  | acknowledgeIntent ack => cases hmoves
  | _ => exact hkey

/-- An accepted move with a key marks it. -/
theorem Moment.Accepts.marks {moment : Moment} (h : moment.Accepts op decision)
    (hmoves : op.moves = true) (hkey : op.request? = some key) : moment.event.marks = some key := by
  obtain ⟨hevent, haccepted, hfresh⟩ := h
  rw [hevent]
  show (if decision.fresh && op.moves then _ else none) = _
  rw [if_pos (by simp [RecoveryDecision.fresh, haccepted, hfresh, hmoves])]
  exact Op.key?_of_moves hmoves hkey

/-- Only an accepted move marks a key. -/
theorem Event.accepts_of_marks {moment : Moment} (h : moment.event.marks = some key) :
    ∃ op decision, moment.Accepts op decision ∧ op.request? = some key := by
  unfold Event.marks at h
  split at h
  · rename_i op decision hevent
    split at h
    · rename_i hfresh
      simp only [RecoveryDecision.fresh, Bool.and_eq_true, Bool.not_eq_true'] at hfresh
      refine ⟨op, decision, ⟨hevent, hfresh.1.1, hfresh.1.2⟩, ?_⟩
      cases op with
      | acknowledgeIntent ack => cases hfresh.2
      | _ => exact h
    · cases h
  · cases h

/-- What a cancellation of a boot meets: a registry that lists all that the boot has marked,
from which it is answered. -/
theorem Boot.met {before after : List Moment} {cancellation : Moment} {reply : Reply}
    (hboot : Boot config earlier (before ++ cancellation :: after) fabric)
    (hroom : (keysOf (before ++ cancellation :: after)).dedup.length < config.maxRequestCache)
    (hevent : cancellation.event = .call (.cancel key) reply) :
    ∃ opening code explanation, opening.event.marks = none ∧
      Run config (earlier ++ opening :: before) cancellation.before ∧
      cancellation.before.cancels.Settled ∧
      markedBy before <:+ cancellation.before.cancels.order ∧
      reply = .explained code explanation ∧
      code =
        if key ∈ cancellation.before.cancels.order then .cancelTooLate else .requestUnknown := by
  obtain ⟨start, hrun, hclosed, hopened, hserves⟩ := hboot
  have hstarted := hrun.step (.call start .openFabric)
  obtain ⟨hbefore, op, hop⟩ := hserves.split
  rw [hevent] at hop
  obtain ⟨rfl, hreply⟩ := Event.call.inj hop
  have hfew := Nat.lt_of_le_of_lt (dedup_keysOf_le (List.subset_append_left before _)) hroom
  rw [← hstarted.configured] at hfew
  obtain ⟨hsettled, -, hmarked⟩ := hbefore.marked hopened hstarted.settled.1 hfew
  have hexplained : reply = .explained (cancellation.before.entered.cancel key).1.1
      (cancellation.before.entered.cancel key).1.2 := hreply
  refine ⟨{ before := start, event := .call .openFabric (start.call .openFabric).1 }, _, _, rfl,
    ?_, hsettled, hmarked, hexplained, code_cancel hsettled (hreply.symm.trans hexplained)⟩
  simpa using hbefore.run hstarted

theorem Run.commits {moments : List Moment} {moment : Moment} (hrun : Run config moments fabric)
    (hmoment : moment ∈ moments) (haccepts : moment.Accepts op decision)
    (hkey : op.request? = some key) : moment.Commits key := by
  obtain ⟨commits, hsome, hevolves⟩ := (hrun.accepts hmoment haccepts).2.durable hkey
  exact ⟨op, decision, commits, haccepts, hkey, hsome, hevolves⟩

/-- A boot answers every cancellation as the requests with its key turn out exactly when the
registry knows what was denied or acknowledged under the key. -/
theorem consistent_iff_guarded (hboot : Boot config earlier calls fabric)
    (hroom : (keysOf calls).dedup.length < config.maxRequestCache) :
    Consistent earlier calls ↔ Guarded calls := by
  constructor
  · intro hconsistent before after cancellation key reply hcalls hevent hunguarded
    subst hcalls
    obtain ⟨opening, code, explanation, -, hrun, hsettled, -, rfl, hcode⟩ := hboot.met hroom hevent
    obtain ⟨moment, hmoment, op, decision, haccepts, hkey, -⟩ := hunguarded
    rw [hsettled.contains_iff]
    by_contra hunlisted
    rw [if_neg hunlisted] at hcode
    have hcommits := hrun.commits (List.mem_append_right _ (List.mem_cons_of_mem _ hmoment))
      haccepts hkey
    obtain ⟨-, -, hunknown⟩ := hconsistent before after cancellation key code explanation rfl hevent
    exact hunknown hcode moment hmoment hcommits
  · intro hguarded before after cancellation key code explanation hcalls hevent
    have hheld := hguarded before after cancellation key _ hcalls hevent
    subst hcalls
    obtain ⟨opening, code', explanation', hopening, hrun, hsettled, hmarked, hreply, hcode⟩ :=
      hboot.met hroom hevent
    obtain ⟨rfl, rfl⟩ := Reply.explained.inj hreply
    refine ⟨?_, ?_, ?_⟩
    · intro hcancelled
      rw [hcode] at hcancelled
      split at hcancelled <;> cases hcancelled
    · intro hlate
      have hlisted : key ∈ cancellation.before.cancels.order := by
        by_contra hunlisted
        rw [hcode, if_neg hunlisted] at hlate
        cases hlate
      obtain ⟨moment, hmoment, hmarks⟩ := hrun.settled.2 key hlisted
      obtain ⟨op, decision, haccepts, hkey⟩ := Event.accepts_of_marks hmarks
      refine ⟨moment, ?_, hrun.commits hmoment haccepts hkey⟩
      rcases List.mem_append.mp hmoment with hmoment | hmoment
      · exact List.mem_append_left _ hmoment
      rcases List.mem_cons.mp hmoment with rfl | hmoment
      · rw [hopening] at hmarks
        cases hmarks
      · exact List.mem_append_right _ hmoment
    · intro hunknown moment hmoment hcommitted
      have hunlisted : key ∉ cancellation.before.cancels.order := by
        intro hlisted
        rw [hcode, if_pos hlisted] at hunknown
        cases hunknown
      obtain ⟨op, decision, commits, haccepts, hkey, -⟩ := hcommitted
      by_cases hmoves : op.moves = true
      · have hmarks := haccepts.marks hmoves hkey
        exact hunlisted (hmarked.subset (List.mem_filterMap.mpr ⟨moment, hmoment, hmarks⟩))
      · have hlisted := hheld ⟨moment, hmoment, op, decision, haccepts, hkey, by simpa using hmoves⟩
        exact hunlisted ((hsettled.contains_iff key).mp hlisted)

theorem boot_keeping {ops : List Op} (hclose : .closeFabric ∉ ops) :
    Boot { storeDirectory := true } [] ((Fleet.keeping [.openFabric]).momentsOf ops)
      (Fleet.keeping (.openFabric :: ops)) :=
  ⟨_, .start, rfl, by decide +kernel, Serves.start.onward hclose⟩

end Consistency

end Fabric

/-- The service is placed, and then two keys are cancelled, that of the placement first. -/
def Fleet.regretted : List Op := placed.tail ++ [.cancel ⟨1⟩, .cancel ⟨2⟩]

/-- Requests that move a service are cancelled too late, and others are unknown. -/
theorem consistent_regretted :
    Fabric.Consistent [] ((Fleet.keeping [.openFabric]).momentsOf Fleet.regretted) := by
  have hclose : Op.closeFabric ∉ Fleet.regretted := by
    simp [Fleet.regretted, Fleet.placed, Fleet.opening, Fleet.adopt, Fleet.register, Fleet.support,
      Fleet.place]
  refine (Fabric.consistent_iff_guarded (Fabric.boot_keeping hclose) ?_).mpr ?_
  · rw [Fabric.keysOf_momentsOf]
    decide +kernel
  · intro before after cancellation key reply hcalls hevent hunguarded
    obtain ⟨moment, hmoment, op, decision, ⟨hcalled, -, -⟩, hkey, hmoves⟩ := hunguarded
    have hop : moment.event.op.request? = none ∨ moment.event.op.moves = true := by
      refine Fabric.forall_momentsOf (P := fun _ op => op.request? = none ∨ op.moves = true)
        (fun op hop fabric => ?_) moment (hcalls ▸ List.mem_append_left _ hmoment)
      revert op
      simp [Fleet.regretted, Fleet.placed, Fleet.opening, Fleet.adopt, Fleet.register,
        Fleet.support, Fleet.place, Fabric.Op.request?, Fabric.Op.key?, Fabric.Op.moves]
    rw [hcalled] at hop
    rcases hop with hop | hop
    · cases hop.symm.trans hkey
    · cases hop.symm.trans hmoves

/-- The service is placed, and then its target is suspected. -/
def Fleet.suspected : List Op := placed.tail ++ [reportFailure 1 .ambiguous]

/-- The denial of a failure is durable, and its key is unknown to a cancellation. -/
theorem not_consistent_denied : ∃ calls fabric,
    Fabric.Boot { storeDirectory := true } [] calls fabric ∧
      (Fabric.keysOf calls).dedup.length <
        { storeDirectory := true : FabricConfig }.maxRequestCache ∧
      ¬Fabric.Consistent [] calls := by
  have hfacts : (((Fleet.keeping [.openFabric]).after Fleet.suspected).accepted
        (Fleet.settle 5 1 false),
      ((Fleet.keeping [.openFabric]).after (Fleet.suspected ++ [Fleet.settle 5 1 false])).explains
        (.cancel ⟨5⟩)) = (true, some .requestUnknown) := by
    simp only [Fleet.keeping, Fabric.after_eq_drafted, Fabric.accepted, Fabric.explains,
      Fabric.call_eq_drafted]
    decide +kernel
  obtain ⟨haccepted, hunknown⟩ := Prod.mk.inj hfacts
  obtain ⟨decision, haccepts⟩ := Fabric.exists_accepts_of_accepted haccepted
  obtain ⟨explanation, hreply⟩ := Fabric.exists_explained_of_explains hunknown
  have hclose : Op.closeFabric ∉
      Fleet.suspected ++ [Fleet.settle 5 1 false] ++ [.cancel ⟨5⟩] := by
    simp [Fleet.suspected, Fleet.placed, Fleet.opening, Fleet.adopt, Fleet.register, Fleet.support,
      Fleet.place, Fleet.reportFailure, Fleet.settle]
  refine ⟨_, _, Fabric.boot_keeping hclose, ?_, fun hconsistent => ?_⟩
  · rw [Fabric.keysOf_momentsOf]
    decide +kernel
  · obtain ⟨-, -, hnone⟩ := hconsistent _ _ _ ⟨5⟩ .requestUnknown explanation
      (Fabric.momentsOf_split (Fleet.keeping [.openFabric])
        (Fleet.suspected ++ [Fleet.settle 5 1 false]) (.cancel ⟨5⟩) [])
      (congrArg (Event.call (.cancel ⟨5⟩)) hreply)
    have hdenied := Fabric.momentsOf_split (Fleet.keeping [.openFabric]) Fleet.suspected
      (Fleet.settle 5 1 false) []
    refine hnone rfl _ ?_ (haccepts.committed rfl)
    rw [hdenied]
    exact List.mem_append_right _ List.mem_cons_self

end OffloadFabric
