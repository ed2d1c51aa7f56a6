import OffloadFabric.CanonicalForms
import OffloadFabric.Requests

/-!
What a request on the wire asks for. A command is one call or one observation with its
arguments; a client writes it in exactly one way, and the execution of a request is the
execution of the command whose encoding it is. A request that is no encoding of a command is
refused before anything happens.
-/
namespace OffloadFabric

open Codec

/-! ### Commands -/

inductive Command where
  | queryView | export | stats | recovery | pullIntent | shutdown
  | explain (service : ServiceName)
  | enrollSource (source : SourceName) (role : SourceRole)
  | registerService (registrar : SourceName) (descriptor : ServiceDescriptor)
  | registerTarget (registrar : SourceName) (target : TargetRecord)
  | setTopologyGeneration (generation : TopologyGeneration) (reporter : SourceName)
  | setPolicy (policy : PolicyDescriptor)
  | withdrawService (service : ServiceName) (requester : SourceName)
  | establishPlacement (request : PlacementRequest)
  | ingestCapability (evidence : CapabilityEvidence)
  | ingestFailure (evidence : FailureEvidence)
  | ingestDependency (observation : DependencyObservation)
  | requestFailover (request : FailoverRequest)
  | resumeRecovery (request : FailoverRequest)
  | resolveAmbiguity (resolution : AmbiguityResolution)
  | requestFailback (request : FailbackRequest)
  | acknowledgeIntent (ack : IntentAck)
  | reportEffect (report : EffectReport)
  | verifyFence (check : Fabric.FenceCheck)
  | cancelRequest (key : RequestKey)

namespace Command

def kind : Command → WireRequestKind
  | .queryView => .queryView
  | .export => .export
  | .stats => .stats
  | .recovery => .recovery
  | .pullIntent => .pullIntent
  | .shutdown => .shutdown
  | .explain _ => .explain
  | .enrollSource _ _ => .enrollSource
  | .registerService _ _ => .registerService
  | .registerTarget _ _ => .registerTarget
  | .setTopologyGeneration _ _ => .setTopologyGeneration
  | .setPolicy _ => .setPolicy
  | .withdrawService _ _ => .withdrawService
  | .establishPlacement _ => .establishPlacement
  | .ingestCapability _ => .ingestCapability
  | .ingestFailure _ => .ingestFailure
  | .ingestDependency _ => .ingestDependency
  | .requestFailover _ => .requestFailover
  | .resumeRecovery _ => .resumeRecovery
  | .resolveAmbiguity _ => .resolveAmbiguity
  | .requestFailback _ => .requestFailback
  | .acknowledgeIntent _ => .acknowledgeIntent
  | .reportEffect _ => .reportEffect
  | .verifyFence _ => .verifyFence
  | .cancelRequest _ => .cancelRequest

/-- The key that travels outside the body. The other commands ignore it. -/
def key? : Command → Option RequestKey
  | .establishPlacement request => some request.key
  | .requestFailover request => some request.key
  | .resumeRecovery request => some request.key
  | .resolveAmbiguity resolution => some resolution.key
  | .requestFailback request => some request.key
  | .acknowledgeIntent ack => some ack.key
  | _ => none

/-- The masks of the command hold only bits this build knows. -/
def known : Command → Prop
  | .registerService _ descriptor => descriptor.known
  | .ingestCapability evidence => evidence.capabilities.known
  | _ => True

end Command

/-! ### Bodies -/

def encodeEnrollment (body : SourceName × UInt8) : Encoder := do
  encodeName body.1
  putU8 body.2

def encodeServiceBody (body : SourceName × ServiceDescriptor) : Encoder := do
  encodeName body.1
  encodeServiceDescriptor body.2

def encodeTargetBody (body : SourceName × TargetRecord) : Encoder := do
  encodeName body.1
  encodeTargetRecord body.2

def encodeTopologyBody (body : UInt64 × SourceName) : Encoder := do
  putU64 body.1
  encodeName body.2

def encodeWithdrawal (body : ServiceName × SourceName) : Encoder := do
  encodeName body.1
  encodeName body.2

def encodePlacementBody (body : ServiceName × TargetName × SourceName) : Encoder := do
  encodeName body.1
  encodeName body.2.1
  encodeName body.2.2

def encodeFailoverBody (body : ServiceName × UInt8 × UInt64 × SourceName × Bool) : Encoder := do
  encodeName body.1
  putU8 body.2.1
  putU64 body.2.2.1
  encodeName body.2.2.2.1
  putBool body.2.2.2.2

def encodeResolutionBody (body : ServiceName × UInt64 × Bool × SourceName) : Encoder := do
  encodeName body.1
  putU64 body.2.1
  putBool body.2.2.1
  encodeName body.2.2.2

def encodeFailbackBody (body : ServiceName × TargetName × UInt64 × UInt64 × SourceName) :
    Encoder := do
  encodeName body.1
  encodeName body.2.1
  putU64 body.2.2.1
  putU64 body.2.2.2.1
  encodeName body.2.2.2.2

def encodeAckBody (body : UInt64 × UInt64 × UInt64 × Bool × SourceName) : Encoder := do
  putU64 body.1
  putU64 body.2.1
  putU64 body.2.2.1
  putBool body.2.2.2.1
  encodeName body.2.2.2.2

def encodeFenceBody (body : ServiceName × TargetRef × UInt64) : Encoder := do
  encodeName body.1
  encodeTargetRef body.2.1
  putU64 body.2.2

def FailoverRequest.body (request : FailoverRequest) : Encoder :=
  encodeFailoverBody (request.service, Enumerated.ordinal request.trigger, request.evidence.value,
    request.requester, request.operatorAuthorized)

/-- The body of a command as a client writes it. -/
def Command.body : Command → Encoder
  | .queryView | .export | .stats | .recovery | .pullIntent | .shutdown => pure ()
  | .explain service => encodeName service
  | .enrollSource source role => encodeEnrollment (source, Enumerated.ordinal role)
  | .registerService registrar descriptor => encodeServiceBody (registrar, descriptor)
  | .registerTarget registrar target => encodeTargetBody (registrar, target)
  | .setTopologyGeneration generation reporter => encodeTopologyBody (generation.value, reporter)
  | .setPolicy policy => encodePolicyDescriptor policy
  | .withdrawService service requester => encodeWithdrawal (service, requester)
  | .establishPlacement request =>
    encodePlacementBody (request.service, request.target, request.requester)
  | .ingestCapability evidence => encodeCapabilityEvidence evidence
  | .ingestFailure evidence => encodeFailureEvidence evidence
  | .ingestDependency observation => encodeDependencyObservation observation
  | .requestFailover request => request.body
  | .resumeRecovery request => request.body
  | .resolveAmbiguity resolution =>
    encodeResolutionBody (resolution.service, resolution.evidence.value,
      resolution.confirmFailure, resolution.resolvedBy)
  | .requestFailback request =>
    encodeFailbackBody (request.service, request.preferredTarget,
      request.observedTopologyGeneration.value, request.observedPolicyGeneration.value,
      request.requester)
  | .acknowledgeIntent ack =>
    encodeAckBody (ack.attempt.value, ack.fence.value, ack.generation.value, ack.accepted,
      ack.executor)
  | .reportEffect report => encodeEffectReport report
  | .verifyFence check => encodeFenceBody (check.service, check.holder, check.presented.value)
  | .cancelRequest key => putU64 key.value

/-- The request is the encoding of the command. -/
structure WireRequest.Asks (request : WireRequest) (command : Command) : Prop where
  kind : request.kind = command.kind.code
  key : ∀ key, command.key? = some key → request.key = key.value
  body : CanonicalWriter.run command.body = some request.body
  known : command.known

/-! ### Execution of a command -/

namespace Command

/-- The call a command makes of the runtime; the others only observe it. -/
def call? : Command → Option Fabric.Op
  | .queryView | .export | .stats | .recovery | .shutdown | .explain _ | .verifyFence _ => none
  | .pullIntent => some .takeIntent
  | .enrollSource source role => some (.enrollSource source role)
  | .registerService registrar descriptor => some (.registerService descriptor registrar)
  | .registerTarget registrar target => some (.registerTarget target registrar)
  | .setTopologyGeneration generation reporter =>
    some (.setTopologyGeneration generation reporter)
  | .setPolicy policy => some (.setPolicy policy)
  | .withdrawService service requester => some (.withdrawService service requester)
  | .establishPlacement request => some (.establishPlacement request)
  | .ingestCapability evidence => some (.ingestCapability evidence)
  | .ingestFailure evidence => some (.ingestFailure evidence)
  | .ingestDependency observation => some (.ingestDependency observation)
  | .requestFailover request => some (.requestFailover request)
  | .resumeRecovery request => some (.resumeRecovery request)
  | .resolveAmbiguity resolution => some (.resolveAmbiguity resolution)
  | .requestFailback request => some (.requestFailback request)
  | .acknowledgeIntent ack => some (.acknowledgeIntent ack)
  | .reportEffect report => some (.reportEffect report)
  | .cancelRequest key => some (.cancel key)

/-- What an observation reads off the runtime: its code, whether it accepts, and its text. -/
def observe (fabric : Fabric) : Command → Reason × Bool × Bytes
  | .queryView | .export => (.ok, true, fabric.view.canonicalText)
  | .stats => (.ok, true, fabric.state.stats.toJson.dump)
  | .recovery => (.ok, true, fabric.restart.toJson.dump)
  | .explain service =>
    (.ok, true, (JsonValue.list
      ((fabric.explanations.forService service).map Explanation.toJson)).dump)
  | .verifyFence check =>
    let verdict := fabric.verifyFence check
    (verdict.code, verdict.authorized, verdict.toJson.dump)
  | _ => (.ok, true, ascii "\x7b\"accepted\":true,\"status\":\x7b\"code\":\"OK\"\x7d\x7d")

/-- The runtime after a command. -/
def effect (command : Command) (fabric : Fabric) : Fabric :=
  match command.call? with
  | some op => (fabric.call op).2
  | none => fabric

/-- What a command is answered with. -/
def answer (command : Command) (fabric : Fabric) (response : WireResponse) :
    Reason × WireResponse :=
  match command.call? with
  | some op => (fabric.call op).1.respond response
  | none =>
    let (status, accepted, body) := command.observe fabric
    (status, { response with status, accepted, body })

end Command

/-! ### Bodies are read back -/

/-- A body with one encoding for each valid value, which a reader takes in whole. -/
structure BodyCodec {α : Type} (encode : α → Encoder) (decoder : Decoder α)
    (valid : α → Prop) : Prop where
  canonical : CanonicalCodec encode decoder valid
  fits : ∀ value bytes, CanonicalWriter.run (encode value) = some bytes →
    bytes.length ≤ kMaxTotalBytes

theorem BodyCodec.of_spelled {α : Type} {encode : α → Encoder} {decoder : Decoder α}
    {valid : α → Prop} {least : Nat}
    (htrips : ∀ value, RoundTrips 1 least (encode value) decoder value (valid value))
    (hspelled : Spelled encode decoder) : BodyCodec encode decoder valid where
  canonical := .of_spelled htrips hspelled
  fits value _ hbytes := (htrips value).length_le hbytes

theorem BodyCodec.decodeBody_eq_ok {α : Type} {encode : α → Encoder} {decoder : Decoder α}
    {valid : α → Prop} (h : BodyCodec encode decoder valid) {body : Bytes} {value : α} :
    decodeBody decoder body = .ok value ↔
      CanonicalWriter.run (encode value) = some body ∧ valid value := by
  unfold decodeBody
  constructor
  · intro hdecoded
    split at hdecoded
    · cases hdecoded
    · rename_i found reader hfound
      by_cases hend : reader.atEnd = true
      · rw [if_pos hend] at hdecoded
        obtain rfl := Except.ok.inj hdecoded
        obtain ⟨hvalid, bytes, hbytes, hbody⟩ := h.canonical.encodes body found reader hfound
        have hrest : reader.rest = [] := by simpa [CanonicalReader.atEnd] using hend
        rw [hrest, List.append_nil] at hbody
        rw [hbody]
        exact ⟨hbytes, hvalid⟩
      · rw [if_neg hend] at hdecoded
        cases hdecoded
  · rintro ⟨hbytes, hvalid⟩
    have hfits := h.fits value body hbytes
    have hdecodes := h.canonical.decodes value body [] hvalid hbytes
    rw [List.append_nil, if_pos hfits] at hdecodes
    rw [hdecodes]
    rfl

theorem emptyBody_eq_ok {body : Bytes} :
    emptyBody body = .ok () ↔ CanonicalWriter.run (pure ()) = some body := by
  cases body with
  | nil => exact ⟨fun _ => rfl, fun _ => rfl⟩
  | cons byte rest =>
    constructor
    · intro h
      cases h
    · intro h
      cases h

theorem bodyCodec_name {tag : NameTag} :
    BodyCodec (encodeName : Name tag → Encoder) decodeName fun _ => True :=
  .of_spelled roundTrips_name spelled_name

theorem bodyCodec_u64 : BodyCodec putU64 getU64 fun _ => True :=
  .of_spelled roundTrips_u64 spelled_u64

theorem bodyCodec_enrollment :
    BodyCodec encodeEnrollment decodeEnrollment fun _ => True :=
  .of_spelled
    (fun body => (roundTrips_name body.1).seq <| (roundTrips_u8 body.2).result rfl)
    (.seq spelled_name fun _ => .seq spelled_u8 fun _ => .done rfl)

theorem bodyCodec_service :
    BodyCodec encodeServiceBody decodeServiceBody fun body => body.2.known :=
  .of_spelled
    (fun body => (roundTrips_name body.1).seq <|
      (roundTrips_serviceDescriptor body.2).result rfl)
    (.seq spelled_name fun _ => .seq spelled_serviceDescriptor fun _ => .done rfl)

theorem bodyCodec_target : BodyCodec encodeTargetBody decodeTargetBody fun _ => True :=
  .of_spelled
    (fun body => (roundTrips_name body.1).seq <| (roundTrips_targetRecord body.2).result rfl)
    (.seq spelled_name fun _ => .seq spelled_targetRecord fun _ => .done rfl)

theorem bodyCodec_topology : BodyCodec encodeTopologyBody decodeTopologyBody fun _ => True :=
  .of_spelled
    (fun body => (roundTrips_u64 body.1).seq <| (roundTrips_name body.2).result rfl)
    (.seq spelled_u64 fun _ => .seq spelled_name fun _ => .done rfl)

theorem bodyCodec_policy :
    BodyCodec encodePolicyDescriptor decodePolicyDescriptor fun _ => True :=
  .of_spelled roundTrips_policyDescriptor spelled_policyDescriptor

theorem bodyCodec_withdrawal : BodyCodec encodeWithdrawal decodeWithdrawal fun _ => True :=
  .of_spelled
    (fun body => (roundTrips_name body.1).seq <| (roundTrips_name body.2).result rfl)
    (.seq spelled_name fun _ => .seq spelled_name fun _ => .done rfl)

theorem bodyCodec_placement :
    BodyCodec encodePlacementBody decodePlacementBody fun _ => True :=
  .of_spelled
    (fun body => (roundTrips_name body.1).seq <| (roundTrips_name body.2.1).seq <|
      (roundTrips_name body.2.2).result rfl)
    (.seq spelled_name fun _ => .seq spelled_name fun _ => .seq spelled_name fun _ =>
      .done rfl)

theorem bodyCodec_capability :
    BodyCodec encodeCapabilityEvidence decodeCapabilityEvidence
      fun evidence => evidence.capabilities.known :=
  .of_spelled roundTrips_capabilityEvidence spelled_capabilityEvidence

theorem bodyCodec_failure :
    BodyCodec encodeFailureEvidence decodeFailureEvidence fun _ => True :=
  .of_spelled roundTrips_failureEvidence spelled_failureEvidence

theorem bodyCodec_dependency :
    BodyCodec encodeDependencyObservation decodeDependencyObservation fun _ => True :=
  .of_spelled roundTrips_dependencyObservation spelled_dependencyObservation

theorem bodyCodec_failover :
    BodyCodec encodeFailoverBody decodeFailoverBody fun _ => True :=
  .of_spelled
    (fun body => (roundTrips_name body.1).seq <| (roundTrips_u8 body.2.1).seq <|
      (roundTrips_u64 body.2.2.1).seq <| (roundTrips_name body.2.2.2.1).seq <|
      (roundTrips_bool body.2.2.2.2).result rfl)
    (.seq spelled_name fun _ => .seq spelled_u8 fun _ => .seq spelled_u64 fun _ =>
      .seq spelled_name fun _ => .seq spelled_bool fun _ => .done rfl)

theorem bodyCodec_resolution :
    BodyCodec encodeResolutionBody decodeResolutionBody fun _ => True :=
  .of_spelled
    (fun body => (roundTrips_name body.1).seq <| (roundTrips_u64 body.2.1).seq <|
      (roundTrips_bool body.2.2.1).seq <| (roundTrips_name body.2.2.2).result rfl)
    (.seq spelled_name fun _ => .seq spelled_u64 fun _ => .seq spelled_bool fun _ =>
      .seq spelled_name fun _ => .done rfl)

theorem bodyCodec_failback :
    BodyCodec encodeFailbackBody decodeFailbackBody fun _ => True :=
  .of_spelled
    (fun body => (roundTrips_name body.1).seq <| (roundTrips_name body.2.1).seq <|
      (roundTrips_u64 body.2.2.1).seq <| (roundTrips_u64 body.2.2.2.1).seq <|
      (roundTrips_name body.2.2.2.2).result rfl)
    (.seq spelled_name fun _ => .seq spelled_name fun _ => .seq spelled_u64 fun _ =>
      .seq spelled_u64 fun _ => .seq spelled_name fun _ => .done rfl)

theorem bodyCodec_ack : BodyCodec encodeAckBody decodeAckBody fun _ => True :=
  .of_spelled
    (fun body => (roundTrips_u64 body.1).seq <| (roundTrips_u64 body.2.1).seq <|
      (roundTrips_u64 body.2.2.1).seq <| (roundTrips_bool body.2.2.2.1).seq <|
      (roundTrips_name body.2.2.2.2).result rfl)
    (.seq spelled_u64 fun _ => .seq spelled_u64 fun _ => .seq spelled_u64 fun _ =>
      .seq spelled_bool fun _ => .seq spelled_name fun _ => .done rfl)

theorem bodyCodec_effect : BodyCodec encodeEffectReport decodeEffectReport fun _ => True :=
  .of_spelled roundTrips_effectReport spelled_effectReport

theorem bodyCodec_fence : BodyCodec encodeFenceBody decodeFenceBody fun _ => True :=
  .of_spelled
    (fun body => (roundTrips_name body.1).seq <| (roundTrips_targetRef body.2.1).seq <|
      (roundTrips_u64 body.2.2).result rfl)
    (.seq spelled_name fun _ => .seq spelled_targetRef fun _ => .seq spelled_u64 fun _ =>
      .done rfl)

/-! ### What a request asks for -/

/-- The value a number stands for. -/
def ofOrdinal {E : Type} [Enumerated E] (raw : UInt8) : Except Reason E :=
  match (Enumerated.values : List E)[raw.toNat]? with
  | none => .error .unsupportedSemantics
  | some value => .ok value

theorem ofOrdinal_eq_ok {E : Type} [Enumerated E] [LawfulEnumerated E] {raw : UInt8}
    {value : E} : ofOrdinal raw = .ok value ↔ raw = Enumerated.ordinal value := by
  unfold ofOrdinal
  constructor
  · intro h
    split at h
    · cases h
    · rename_i found hfound
      obtain rfl := Except.ok.inj h
      exact (UInt8.toNat_inj.mp (ordinal_of_getElem? hfound)).symm
  · rintro rfl
    rw [Enumerated.values_ordinal]

instance : LawfulEnumerated SourceRole := ⟨rfl⟩
instance : LawfulEnumerated RecoveryTrigger := ⟨rfl⟩

/-- The failover request of a body. -/
def decodedFailover (key : RequestKey) (body : ServiceName × UInt8 × UInt64 × SourceName × Bool) :
    Except Reason FailoverRequest :=
  let (service, trigger, evidence, requester, authorized) := body
  (ofOrdinal trigger).map fun trigger =>
    { key, service, trigger, evidence := ⟨evidence⟩, requester
      operatorAuthorized := authorized }

/-- The command of a request, or the reason it is refused for. -/
def WireRequest.parse (request : WireRequest) : Except Reason Command :=
  let key : RequestKey := ⟨request.key⟩
  let body := request.body
  match WireRequestKind.ofCode? request.kind with
  | none => .error .requestUnknown
  | some .queryView => (emptyBody body).map fun _ => .queryView
  | some .export => (emptyBody body).map fun _ => .export
  | some .stats => (emptyBody body).map fun _ => .stats
  | some .recovery => (emptyBody body).map fun _ => .recovery
  | some .pullIntent => (emptyBody body).map fun _ => .pullIntent
  | some .shutdown => (emptyBody body).map fun _ => .shutdown
  | some .explain => (decodeBody decodeName body).map .explain
  | some .enrollSource =>
    (decodeBody decodeEnrollment body).bind fun (source, role) =>
      (ofOrdinal role).map (.enrollSource source)
  | some .registerService =>
    (decodeBody decodeServiceBody body).map fun (registrar, descriptor) =>
      .registerService registrar descriptor
  | some .registerTarget =>
    (decodeBody decodeTargetBody body).map fun (registrar, target) =>
      .registerTarget registrar target
  | some .setTopologyGeneration =>
    (decodeBody decodeTopologyBody body).map fun (generation, reporter) =>
      .setTopologyGeneration ⟨generation⟩ reporter
  | some .setPolicy => (decodeBody decodePolicyDescriptor body).map .setPolicy
  | some .withdrawService =>
    (decodeBody decodeWithdrawal body).map fun (service, requester) =>
      .withdrawService service requester
  | some .establishPlacement =>
    (decodeBody decodePlacementBody body).map fun (service, target, requester) =>
      .establishPlacement { key, service, target, requester }
  | some .ingestCapability => (decodeBody decodeCapabilityEvidence body).map .ingestCapability
  | some .ingestFailure => (decodeBody decodeFailureEvidence body).map .ingestFailure
  | some .ingestDependency =>
    (decodeBody decodeDependencyObservation body).map .ingestDependency
  | some .requestFailover =>
    (decodeBody decodeFailoverBody body).bind fun value =>
      (decodedFailover key value).map .requestFailover
  | some .resumeRecovery =>
    (decodeBody decodeFailoverBody body).bind fun value =>
      (decodedFailover key value).map .resumeRecovery
  | some .resolveAmbiguity =>
    (decodeBody decodeResolutionBody body).map fun (service, evidence, confirm, operator) =>
      .resolveAmbiguity
        { key, service, evidence := ⟨evidence⟩, confirmFailure := confirm, resolvedBy := operator }
  | some .requestFailback =>
    (decodeBody decodeFailbackBody body).map fun (service, target, topology, policy, requester) =>
      .requestFailback
        { key, service, preferredTarget := target, observedTopologyGeneration := ⟨topology⟩
          observedPolicyGeneration := ⟨policy⟩, requester }
  | some .acknowledgeIntent =>
    (decodeBody decodeAckBody body).map fun (attempt, fence, generation, accepted, executor) =>
      .acknowledgeIntent
        { key, attempt := ⟨attempt⟩, fence := ⟨fence⟩, generation := ⟨generation⟩, accepted
          executor }
  | some .reportEffect => (decodeBody decodeEffectReport body).map .reportEffect
  | some .verifyFence =>
    (decodeBody decodeFenceBody body).map fun (service, holder, token) =>
      .verifyFence { service, holder, presented := ⟨token⟩ }
  | some .cancelRequest => (decodeBody getU64 body).map fun target => .cancelRequest ⟨target⟩

section Parse

variable {α : Type} {encode : α → Encoder} {decoder : Decoder α} {valid : α → Prop}
  {body : Bytes} {command : Command}

theorem BodyCodec.bind_ok (h : BodyCodec encode decoder valid)
    {make : α → Except Reason Command} (hok : (decodeBody decoder body).bind make = .ok command) :
    ∃ value, make value = .ok command ∧ CanonicalWriter.run (encode value) = some body ∧
      valid value := by
  cases hdecoded : decodeBody decoder body with
  | error code =>
    rw [hdecoded] at hok
    cases hok
  | ok value =>
    rw [hdecoded] at hok
    exact ⟨value, hok, h.decodeBody_eq_ok.mp hdecoded⟩

theorem BodyCodec.map_ok (h : BodyCodec encode decoder valid) {make : α → Command}
    (hok : (decodeBody decoder body).map make = .ok command) :
    ∃ value, make value = command ∧ CanonicalWriter.run (encode value) = some body ∧
      valid value := by
  cases hdecoded : decodeBody decoder body with
  | error code =>
    rw [hdecoded] at hok
    cases hok
  | ok value =>
    rw [hdecoded] at hok
    exact ⟨value, Except.ok.inj hok, h.decodeBody_eq_ok.mp hdecoded⟩

theorem emptyBody_map_ok {make : Unit → Command} (hok : (emptyBody body).map make = .ok command) :
    make () = command ∧ CanonicalWriter.run (pure ()) = some body := by
  cases hempty : emptyBody body with
  | error code =>
    rw [hempty] at hok
    cases hok
  | ok value =>
    rw [hempty] at hok
    exact ⟨Except.ok.inj hok, emptyBody_eq_ok.mp hempty⟩

end Parse

/-- The failover request of a body is the one that is written that way. -/
theorem decodedFailover_eq_ok {key : RequestKey}
    {body : ServiceName × UInt8 × UInt64 × SourceName × Bool} {request : FailoverRequest} :
    decodedFailover key body = .ok request ↔
      request.key = key ∧
        body = (request.service, Enumerated.ordinal request.trigger, request.evidence.value,
          request.requester, request.operatorAuthorized) := by
  obtain ⟨service, trigger, evidence, requester, authorized⟩ := body
  constructor
  · intro h
    cases htrigger : (ofOrdinal trigger : Except Reason RecoveryTrigger) with
    | error code =>
      rw [decodedFailover, htrigger] at h
      cases h
    | ok value =>
      rw [decodedFailover, htrigger] at h
      obtain rfl := Except.ok.inj h
      obtain rfl := ofOrdinal_eq_ok.mp htrigger
      exact ⟨rfl, rfl⟩
  · rintro ⟨rfl, hbody⟩
    simp only [Prod.mk.injEq] at hbody
    obtain ⟨rfl, rfl, rfl, rfl, rfl⟩ := hbody
    rw [decodedFailover, ofOrdinal_eq_ok.mpr rfl]
    rfl

/-- What is parsed is asked for: one case per kind of request. -/
theorem WireRequest.asks_of_parse {request : WireRequest} {command : Command}
    (h : request.parse = .ok command) : request.Asks command := by
  unfold WireRequest.parse at h
  cases hkind : WireRequestKind.ofCode? request.kind with
  | none =>
    rw [hkind] at h
    cases h
  | some kind =>
    have hcode := (WireRequestKind.code_of_ofCode? hkind).symm
    rw [hkind] at h
    cases kind with
    | queryView | «export» | stats | recovery | pullIntent | shutdown =>
      obtain ⟨rfl, hbody⟩ := emptyBody_map_ok h
      exact ⟨hcode, nofun, hbody, trivial⟩
    | explain =>
      obtain ⟨service, rfl, hbody, -⟩ := bodyCodec_name.map_ok h
      exact ⟨hcode, nofun, hbody, trivial⟩
    | enrollSource =>
      obtain ⟨⟨source, role⟩, hmake, hbody, -⟩ := bodyCodec_enrollment.bind_ok h
      cases hrole : (ofOrdinal role : Except Reason SourceRole) with
      | error code =>
        simp only [hrole] at hmake
        cases hmake
      | ok value =>
        simp only [hrole] at hmake
        obtain rfl := Except.ok.inj hmake
        obtain rfl := ofOrdinal_eq_ok.mp hrole
        exact ⟨hcode, nofun, hbody, trivial⟩
    | registerService =>
      obtain ⟨value, rfl, hbody, hknown⟩ := bodyCodec_service.map_ok h
      exact ⟨hcode, nofun, hbody, hknown⟩
    | registerTarget =>
      obtain ⟨value, rfl, hbody, -⟩ := bodyCodec_target.map_ok h
      exact ⟨hcode, nofun, hbody, trivial⟩
    | setTopologyGeneration =>
      obtain ⟨value, rfl, hbody, -⟩ := bodyCodec_topology.map_ok h
      exact ⟨hcode, nofun, hbody, trivial⟩
    | setPolicy =>
      obtain ⟨value, rfl, hbody, -⟩ := bodyCodec_policy.map_ok h
      exact ⟨hcode, nofun, hbody, trivial⟩
    | withdrawService =>
      obtain ⟨value, rfl, hbody, -⟩ := bodyCodec_withdrawal.map_ok h
      exact ⟨hcode, nofun, hbody, trivial⟩
    | establishPlacement =>
      obtain ⟨value, rfl, hbody, -⟩ := bodyCodec_placement.map_ok h
      refine ⟨hcode, ?_, hbody, trivial⟩
      rintro key ⟨⟩
      rfl
    | ingestCapability =>
      obtain ⟨value, rfl, hbody, hknown⟩ := bodyCodec_capability.map_ok h
      exact ⟨hcode, nofun, hbody, hknown⟩
    | ingestFailure =>
      obtain ⟨value, rfl, hbody, -⟩ := bodyCodec_failure.map_ok h
      exact ⟨hcode, nofun, hbody, trivial⟩
    | ingestDependency =>
      obtain ⟨value, rfl, hbody, -⟩ := bodyCodec_dependency.map_ok h
      exact ⟨hcode, nofun, hbody, trivial⟩
    | requestFailover | resumeRecovery =>
      obtain ⟨value, hmake, hbody, -⟩ := bodyCodec_failover.bind_ok h
      cases hfailover : decodedFailover ⟨request.key⟩ value with
      | error code =>
        rw [hfailover] at hmake
        cases hmake
      | ok failover =>
        rw [hfailover] at hmake
        obtain rfl := Except.ok.inj hmake
        obtain ⟨hkey, rfl⟩ := decodedFailover_eq_ok.mp hfailover
        refine ⟨hcode, ?_, hbody, trivial⟩
        rintro key ⟨⟩
        exact (congrArg Id.value hkey).symm
    | resolveAmbiguity =>
      obtain ⟨value, rfl, hbody, -⟩ := bodyCodec_resolution.map_ok h
      refine ⟨hcode, ?_, hbody, trivial⟩
      rintro key ⟨⟩
      rfl
    | requestFailback =>
      obtain ⟨value, rfl, hbody, -⟩ := bodyCodec_failback.map_ok h
      refine ⟨hcode, ?_, hbody, trivial⟩
      rintro key ⟨⟩
      rfl
    | acknowledgeIntent =>
      obtain ⟨value, rfl, hbody, -⟩ := bodyCodec_ack.map_ok h
      refine ⟨hcode, ?_, hbody, trivial⟩
      rintro key ⟨⟩
      rfl
    | reportEffect =>
      obtain ⟨value, rfl, hbody, -⟩ := bodyCodec_effect.map_ok h
      exact ⟨hcode, nofun, hbody, trivial⟩
    | verifyFence =>
      obtain ⟨value, rfl, hbody, -⟩ := bodyCodec_fence.map_ok h
      exact ⟨hcode, nofun, hbody, trivial⟩
    | cancelRequest =>
      obtain ⟨value, rfl, hbody, -⟩ := bodyCodec_u64.map_ok h
      exact ⟨hcode, nofun, hbody, trivial⟩

/-- A body that was written is decoded to what was written. -/
theorem BodyCodec.decoded {α : Type} {encode : α → Encoder} {decoder : Decoder α}
    {valid : α → Prop} (h : BodyCodec encode decoder valid) {body : Bytes} {value : α}
    (hbody : CanonicalWriter.run (encode value) = some body) (hvalid : valid value) :
    decodeBody decoder body = .ok value := h.decodeBody_eq_ok.mpr ⟨hbody, hvalid⟩

/-- What is asked for is parsed: one case per command. -/
theorem WireRequest.parse_of_asks {request : WireRequest} {command : Command}
    (h : request.Asks command) : request.parse = .ok command := by
  obtain ⟨hcode, hkey, hbody, hknown⟩ := h
  have hkind : WireRequestKind.ofCode? request.kind = some command.kind := by
    rw [hcode]
    exact WireRequestKind.ofCode?_code _
  obtain ⟨kind, key, body⟩ := request
  unfold WireRequest.parse
  rw [hkind]
  cases command with
  | queryView | «export» | stats | recovery | pullIntent | shutdown =>
    exact congrArg (Except.map _) (emptyBody_eq_ok.mpr hbody)
  | explain service => exact congrArg (Except.map _) (bodyCodec_name.decoded hbody trivial)
  | enrollSource source role =>
    show (decodeBody decodeEnrollment body).bind _ = _
    rw [bodyCodec_enrollment.decoded hbody trivial]
    show (ofOrdinal (Enumerated.ordinal role)).map _ = _
    rw [ofOrdinal_eq_ok.mpr rfl]
    rfl
  | registerService registrar descriptor =>
    exact congrArg (Except.map _) (bodyCodec_service.decoded hbody hknown)
  | registerTarget registrar target =>
    exact congrArg (Except.map _) (bodyCodec_target.decoded hbody trivial)
  | setTopologyGeneration generation reporter =>
    exact congrArg (Except.map _) (bodyCodec_topology.decoded hbody trivial)
  | setPolicy policy => exact congrArg (Except.map _) (bodyCodec_policy.decoded hbody trivial)
  | withdrawService service requester =>
    exact congrArg (Except.map _) (bodyCodec_withdrawal.decoded hbody trivial)
  | establishPlacement asked =>
    obtain rfl := hkey asked.key rfl
    exact congrArg (Except.map _) (bodyCodec_placement.decoded hbody trivial)
  | ingestCapability evidence =>
    exact congrArg (Except.map _) (bodyCodec_capability.decoded hbody hknown)
  | ingestFailure evidence =>
    exact congrArg (Except.map _) (bodyCodec_failure.decoded hbody trivial)
  | ingestDependency observation =>
    exact congrArg (Except.map _) (bodyCodec_dependency.decoded hbody trivial)
  | requestFailover asked | resumeRecovery asked =>
    obtain rfl := hkey asked.key rfl
    show (decodeBody decodeFailoverBody body).bind _ = _
    rw [bodyCodec_failover.decoded hbody trivial]
    show (decodedFailover asked.key _).map _ = _
    rw [decodedFailover_eq_ok.mpr ⟨rfl, rfl⟩]
    rfl
  | resolveAmbiguity resolution =>
    obtain rfl := hkey resolution.key rfl
    exact congrArg (Except.map _) (bodyCodec_resolution.decoded hbody trivial)
  | requestFailback asked =>
    obtain rfl := hkey asked.key rfl
    exact congrArg (Except.map _) (bodyCodec_failback.decoded hbody trivial)
  | acknowledgeIntent ack =>
    obtain rfl := hkey ack.key rfl
    exact congrArg (Except.map _) (bodyCodec_ack.decoded hbody trivial)
  | reportEffect report => exact congrArg (Except.map _) (bodyCodec_effect.decoded hbody trivial)
  | verifyFence check => exact congrArg (Except.map _) (bodyCodec_fence.decoded hbody trivial)
  | cancelRequest target => exact congrArg (Except.map _) (bodyCodec_u64.decoded hbody trivial)

/-- No request asks for two commands. -/
theorem WireRequest.Asks.unique {request : WireRequest} {command command' : Command}
    (h : request.Asks command) (h' : request.Asks command') : command = command' :=
  Except.ok.inj ((WireRequest.parse_of_asks h).symm.trans (WireRequest.parse_of_asks h'))

/-! ### Executing a request is executing its command -/

/-- Execute what was parsed; a refusal touches nothing. -/
def Fabric.execute (fabric : Fabric) (response : WireResponse) : Except Reason Command → Executed
  | .error code => ((code, response), fabric)
  | .ok command => (command.answer fabric response, command.effect fabric)

theorem whenDecoded_map {α : Type} {decoded : Except Reason α} {response : WireResponse}
    {fabric : Fabric} {next : α → Executed} {make : α → Command}
    (h : ∀ value, next value = fabric.execute response (.ok (make value))) :
    whenDecoded decoded response fabric next = fabric.execute response (decoded.map make) := by
  cases decoded with
  | error code => rfl
  | ok value => exact h value

theorem whenDecoded_bind {α : Type} {decoded : Except Reason α} {response : WireResponse}
    {fabric : Fabric} {next : α → Executed} {make : α → Except Reason Command}
    (h : ∀ value, next value = fabric.execute response (make value)) :
    whenDecoded decoded response fabric next = fabric.execute response (decoded.bind make) := by
  cases decoded with
  | error code => rfl
  | ok value => exact h value

theorem executeRequest_eq (fabric : Fabric) (request : WireRequest) (response : WireResponse) :
    executeRequest fabric request response = fabric.execute response request.parse := by
  unfold executeRequest WireRequest.parse
  cases WireRequestKind.ofCode? request.kind with
  | none => rfl
  | some kind =>
    cases kind with
    | enrollSource =>
      refine whenDecoded_bind fun (source, role) => ?_
      simp only [ofOrdinal]
      cases (Enumerated.values : List SourceRole)[role.toNat]? with
      | none => rfl
      | some role => rfl
    | requestFailover | resumeRecovery =>
      refine whenDecoded_bind fun (service, trigger, evidence, requester, authorized) => ?_
      simp only [decodedFailover, ofOrdinal]
      cases (Enumerated.values : List RecoveryTrigger)[trigger.toNat]? with
      | none => rfl
      | some trigger => rfl
    | _ => exact whenDecoded_map fun _ => rfl

end OffloadFabric
