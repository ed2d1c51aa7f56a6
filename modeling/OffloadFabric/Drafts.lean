import OffloadFabric.Runs

/-!
Records drafted field by field. The writer appends to one buffer and measures it at
every field; when a record has room, its bytes are those of its fields in turn. The
examples run the coordinator on drafts.
-/
namespace OffloadFabric

namespace Codec

variable {β α τ : Type} {limit : Nat}

/-- With room for `tokens`, `e` returns `a` and appends exactly these. -/
def Lays (limit : Nat) (e : Emit β α) (a : α) (tokens : List β) : Prop :=
  ∀ buf : List β, (buf ++ tokens).length ≤ limit → e (some buf) = (a, some (buf ++ tokens))

theorem Lays.bind {e : Emit β α} {f : α → Emit β τ} {a : α} {b : τ} {s t : List β}
    (he : Lays limit e a s) (hf : Lays limit (f a) b t) : Lays limit (e >>= f) b (s ++ t) := by
  intro buf hroom
  rw [← List.append_assoc] at hroom ⊢
  have hfirst : (buf ++ s).length ≤ limit := by
    rw [List.length_append] at hroom
    omega
  change f (e (some buf)).1 (e (some buf)).2 = _
  rw [he buf hfirst]
  exact hf _ hroom

theorem lays_pure (a : α) : Lays limit (pure a : Emit β α) a [] := by
  intro buf _
  rw [List.append_nil]
  rfl

theorem lays_forM {ι : Type} {e : ι → Emit β Unit} {tokens : ι → List β}
    (h : ∀ item, Lays limit (e item) () (tokens item)) (items : List ι) :
    Lays limit (items.forM e) () (items.flatMap tokens) := by
  induction items with
  | nil => exact lays_pure ()
  | cons item items ih => exact (h item).bind ih

end Codec

open Codec

/-! ### The writer -/

theorem lays_append (bytes : Bytes) : Lays kMaxTotalBytes (append bytes) () bytes := by
  intro buf hroom
  rw [List.length_append] at hroom
  exact if_neg (by omega)

theorem lays_text {value : Bytes} (h : value.length ≤ kMaxTextBytes) :
    Lays kMaxTotalBytes (putText value) () (BigEndian.ofNat 4 value.length ++ value) := by
  unfold putText
  rw [if_neg (Nat.not_lt.mpr h)]
  exact lays_append _

theorem lays_count {count : Nat} (h : count ≤ kMaxItems) :
    Lays kMaxTotalBytes (putCount count) true (BigEndian.ofNat 4 count) := by
  intro buf hroom
  refine (if_neg (Nat.not_lt.mpr h)).trans ?_
  rw [lays_append _ buf hroom]
  rfl

/-! ### Drafts -/

/-- What an encoder appends when there is room. -/
structure Draft (encoder : Encoder) where
  bytes : Bytes
  lays : Lays kMaxTotalBytes encoder () bytes

namespace Draft

variable {first second : Encoder} {α : Type}

def seq (one : Draft first) (two : Draft second) : Draft (do first; second) :=
  ⟨one.bytes ++ two.bytes, one.lays.bind two.lays⟩

def ofAppend (bytes : Bytes) : Draft (append bytes) := ⟨bytes, lays_append bytes⟩

def u8 (value : UInt8) : Draft (putU8 value) := ofAppend _
def u16 (value : UInt16) : Draft (putU16 value) := ofAppend _
def u32 (value : UInt32) : Draft (putU32 value) := ofAppend _
def u64 (value : UInt64) : Draft (putU64 value) := ofAppend _
def bool (value : Bool) : Draft (putBool value) := u8 _

def optional (value : Option α) {encodeOne : α → Encoder}
    (one : (item : α) → Draft (encodeOne item)) : Draft (encodeOptional value encodeOne) :=
  match value with
  | some item => (u8 1).seq (one item)
  | none => u8 0

def list (items : List α) {encodeOne : α → Encoder} (h : items.length ≤ kMaxItems)
    (one : (item : α) → Draft (encodeOne item)) : Draft (encodeList items encodeOne) :=
  ⟨BigEndian.ofNat 4 items.length ++ items.flatMap fun item => (one item).bytes,
    (lays_count h).bind (by
      rw [if_pos rfl]
      exact lays_forM (fun item => (one item).lays) items)⟩

def name {tag : NameTag} (value : Name tag) : Draft (encodeName value) :=
  ⟨_, lays_text (value.valid.1.trans (by decide))⟩

def id {tag : IdTag} (value : Id tag) : Draft (encodeId value) := u64 _
def gen {tag : GenTag} (value : Gen tag) : Draft (encodeGen value) := u64 _
def tick (value : LogicalTick) : Draft (encodeTick value) := u64 _
def enum {E : Type} [Enumerated E] (value : E) : Draft (encodeEnum value) := u8 _

def targetIncarnation (value : TargetIncarnation) : Draft (encodeTargetIncarnation value) :=
  (gen value.host).seq (gen value.device)

def targetRef (value : TargetRef) : Draft (encodeTargetRef value) :=
  (name value.target).seq (targetIncarnation value.incarnation)

def dependencySpec (value : DependencySpec) : Draft (encodeDependencySpec value) :=
  (name value.service).seq <| (enum value.kind).seq (enum value.requirement)

def serviceDescriptor (value : ServiceDescriptor) (h : value.dependencies.length ≤ kMaxItems) :
    Draft (encodeServiceDescriptor value) :=
  (name value.name).seq <| (name value.scope).seq <| (enum value.statefulness).seq <|
    Draft.seq (u64 value.requiredCapabilities.mask) <| Draft.seq (u32 value.preconditions.mask) <|
    (list value.dependencies h dependencySpec).seq (gen value.lastKnownStateGeneration)

def fenceRecord (value : FenceRecord) : Draft (encodeFenceRecord value) :=
  (name value.service).seq <| (gen value.token).seq <| (targetRef value.holder).seq <|
    (id value.attempt).seq <| (gen value.epoch).seq (tick value.issued)

def leaseRecord (value : LeaseRecord) : Draft (encodeLeaseRecord value) :=
  (name value.service).seq <| (id value.id).seq <| (gen value.term).seq <|
    (name value.scope).seq <| (targetRef value.holder).seq <| (gen value.epoch).seq
      (tick value.issued)

def attemptRecord (value : AttemptRecord) : Draft (encodeAttemptRecord value) :=
  (id value.id).seq <| (name value.service).seq <| (gen value.generation).seq <|
    (gen value.fence).seq <| (targetRef value.fromTarget).seq <| (targetRef value.toTarget).seq <|
    (gen value.leaseTerm).seq <| (gen value.epoch).seq <| (tick value.opened).seq <|
    (enum value.phase).seq <| (enum value.outcome).seq <| (bool value.durableCommitted).seq <|
    (bool value.acknowledged).seq <| (bool value.restartDowngraded).seq (u16 value.lastReason.code)

def phases (lifecycle : LifecyclePhase) (recovery : RecoveryPhase) (continuity : ContinuityClass) :
    Draft (encodePhases lifecycle recovery continuity) :=
  (u8 _).seq <| (u8 _).seq (u8 _)

def witnessUpdate (update : TargetName × FenceWitness) : Draft (encodeWitnessUpdate update) :=
  (name update.1).seq <| Draft.seq (gen update.2.token) <|
    (targetIncarnation update.2.incarnation).seq (gen update.2.topologyGeneration)

end Draft

/-- No list of the change is longer than a count may be. -/
structure RuntimeChange.Modest (change : RuntimeChange) : Prop where
  dependencies : change.runtime.descriptor.dependencies.length ≤ kMaxItems
  history : change.runtime.history.length ≤ kMaxItems
  effects : change.runtime.effectsSeen.length ≤ kMaxItems
  witnesses : change.witnesses.length ≤ kMaxItems

instance (change : RuntimeChange) : Decidable change.Modest :=
  decidable_of_iff (_ ∧ _ ∧ _ ∧ _)
    ⟨fun ⟨hone, htwo, hthree, hfour⟩ => ⟨hone, htwo, hthree, hfour⟩,
      fun h => ⟨h.dependencies, h.history, h.effects, h.witnesses⟩⟩

namespace Draft

def serviceRuntime {change : RuntimeChange} (h : change.Modest) :
    Draft (encodeServiceRuntime change.runtime) :=
  let value := change.runtime
  (serviceDescriptor value.descriptor h.dependencies).seq <|
    (phases value.lifecycle value.recovery value.continuity).seq <|
    (optional value.active targetRef).seq <| (optional value.fallback targetRef).seq <|
    (gen value.generation).seq <| (gen value.fence).seq <|
    (optional value.lease leaseRecord).seq <| (u64 value.nextAttempt).seq <|
    (id value.currentAttempt).seq <| (list value.history h.history attemptRecord).seq <|
    (list value.effectsSeen h.effects id).seq <| (u64 value.attemptsEvicted).seq <|
    (u32 value.attemptsSinceVerified).seq <| (bool value.activationAccepted).seq <|
    (bool value.effectVerified).seq <| (bool value.stateTransferVerified).seq <|
    (bool value.failoverRecorded).seq <| (bool value.ambiguityPending).seq <|
    (id value.pendingAmbiguity).seq <| (optional value.preFailoverTarget targetRef).seq <|
    (gen value.preFailoverCapability).seq <| (gen value.preFailoverTopology).seq <|
    (gen value.preFailoverPolicy).seq <| (tick value.lastChange).seq (u16 value.lastReason.code)

def runtimeChange {change : RuntimeChange} (h : change.Modest) :
    Draft (encodeRuntimeChange change) :=
  (name change.service).seq <| (serviceRuntime h).seq <| (optional change.fence fenceRecord).seq
    (list change.witnesses h.witnesses witnessUpdate)

end Draft

/-! ### Changes -/

namespace Change

/-- The payload of a change of a runtime, if it can be drafted. -/
def draft? : Change → Option Bytes
  | .runtimeChanged _ change =>
    if h : change.Modest then
      let bytes := (Draft.runtimeChange h).bytes
      if bytes.length ≤ kMaxTotalBytes then some bytes else none
    else none
  | _ => none

theorem run_of_draft {change : Change} {bytes : Bytes} (h : change.draft? = some bytes) :
    CanonicalWriter.run change.encoder = some bytes := by
  cases change with
  | runtimeChanged kind change =>
    rw [draft?] at h
    by_cases hmodest : change.Modest
    · rw [dif_pos hmodest] at h
      obtain ⟨hroom, hbytes⟩ := Option.ite_none_right_eq_some.mp h
      rw [← hbytes]
      exact congrArg Prod.snd ((Draft.runtimeChange hmodest).lays [] hroom)
    · rw [dif_neg hmodest] at h
      cases h
  | _ => cases h

/-- The record of a change, drafted if it can be. -/
def draftedRecord (change : Change) : Record :=
  match change.draft? with
  | some payload => { kind := change.kind, payload }
  | none => change.record

theorem record_eq_drafted (change : Change) : change.record = change.draftedRecord := by
  unfold draftedRecord
  split
  · rename_i bytes hdraft
    rw [record, run_of_draft hdraft]
    rfl
  · rfl

/-- A change that can be drafted is writable. -/
def draftable (change : Change) : Bool := change.draft?.isSome || change.writable

theorem writable_eq_draftable (change : Change) : change.writable = change.draftable := by
  unfold draftable
  cases hdraft : change.draft? with
  | none => rfl
  | some bytes =>
    rw [writable, run_of_draft hdraft]
    rfl

end Change

namespace Fabric

/-- The calls, with every record drafted. -/
def drafting : { drafted : Fabric → Op → Reply × Fabric //
    ∀ fabric op, fabric.call op = drafted fabric op } := by
  refine ⟨?_, fun fabric op => ?_⟩
  rotate_left
  · simp only [call, dispatch, doEstablishPlacement, doRequestFailover, doResolveAmbiguity,
      doRequestFailback, decideMove, concludeCommit, commitRecovery, prepare, confirmAmbiguity,
      denyAmbiguity, doAcknowledgeIntent, doReportEffect, checkEffect, recordEffect, transact,
      Change.writable_eq_draftable, Change.record_eq_drafted]
    rfl

/-- One public call on drafted records. -/
def drafted (fabric : Fabric) (op : Op) : Reply × Fabric := drafting.val fabric op

theorem call_eq_drafted (fabric : Fabric) (op : Op) : fabric.call op = fabric.drafted op :=
  drafting.property fabric op

theorem after_eq_drafted (fabric : Fabric) (ops : List Op) :
    fabric.after ops = ops.foldl (fun fabric op => (fabric.drafted op).2) fabric := by
  simp only [after, call_eq_drafted]

/-- The moments of some calls on drafted records. -/
def draftedMoments (fabric : Fabric) : List Op → List Moment
  | [] => []
  | op :: ops =>
    { before := fabric, event := .call op (fabric.drafted op).1 } ::
      draftedMoments (fabric.drafted op).2 ops

theorem momentsOf_eq_drafted (fabric : Fabric) (ops : List Op) :
    fabric.momentsOf ops = fabric.draftedMoments ops := by
  induction ops generalizing fabric with
  | nil => rfl
  | cons op ops ih => rw [momentsOf, draftedMoments, call_eq_drafted, ih]

end Fabric

end OffloadFabric
