import OffloadFabric.ModelCodec
import OffloadFabric.Rendering
import OffloadFabric.Wire

/-!
Requests and responses: how a payload holds a request and a reply, what the body of every
kind of request holds, and the execution of a decoded request against the runtime.
-/
namespace OffloadFabric

open Codec

/-! ### Kinds -/

inductive WireRequestKind where
  | queryView | export | explain | stats | recovery | pullIntent | enrollSource | registerService
  | registerTarget | setTopologyGeneration | setPolicy | withdrawService | establishPlacement
  | ingestCapability | ingestFailure | ingestDependency | requestFailover | resolveAmbiguity
  | resumeRecovery | requestFailback | acknowledgeIntent | reportEffect | verifyFence
  | cancelRequest | shutdown
  deriving DecidableEq, Inhabited, Repr

namespace WireRequestKind

/-- The number on the wire. -/
def code : WireRequestKind → UInt16
  | .queryView => 1
  | .export => 2
  | .explain => 3
  | .stats => 4
  | .recovery => 5
  | .pullIntent => 6
  | .enrollSource => 10
  | .registerService => 11
  | .registerTarget => 12
  | .setTopologyGeneration => 13
  | .setPolicy => 14
  | .withdrawService => 15
  | .establishPlacement => 16
  | .ingestCapability => 20
  | .ingestFailure => 21
  | .ingestDependency => 22
  | .requestFailover => 30
  | .resolveAmbiguity => 31
  | .resumeRecovery => 32
  | .requestFailback => 33
  | .acknowledgeIntent => 34
  | .reportEffect => 35
  | .verifyFence => 40
  | .cancelRequest => 41
  | .shutdown => 50

def all : List WireRequestKind :=
  [.queryView, .export, .explain, .stats, .recovery, .pullIntent, .enrollSource,
   .registerService, .registerTarget, .setTopologyGeneration, .setPolicy, .withdrawService,
   .establishPlacement, .ingestCapability, .ingestFailure, .ingestDependency, .requestFailover,
   .resolveAmbiguity, .resumeRecovery, .requestFailback, .acknowledgeIntent, .reportEffect,
   .verifyFence, .cancelRequest, .shutdown]

/-- The kind of a number. The numbers up to the highest one have gaps. -/
def ofCode? (raw : UInt16) : Option WireRequestKind := all.find? fun kind => kind.code == raw

theorem ofCode?_code (kind : WireRequestKind) : ofCode? kind.code = some kind := by
  cases kind <;> rfl

theorem code_of_ofCode? {raw : UInt16} {kind : WireRequestKind} (h : ofCode? raw = some kind) :
    kind.code = raw := by
  simpa using List.find?_some h

end WireRequestKind

def kWireRequestKindMax : UInt16 := 50

instance : Enumerated RecoveryTrigger where
  values := [.failureEvidence, .plannedMaintenance, .operatorCommand]
  ordinal
    | .failureEvidence => 0
    | .plannedMaintenance => 1
    | .operatorCommand => 2
  values_ordinal e := by cases e <;> rfl

/-! ### Payloads -/

/-- A request. Its kind is the number it came with, which may name no kind. -/
structure WireRequest where
  kind : UInt16 := WireRequestKind.queryView.code
  key : UInt64 := 0
  body : Bytes := []
  deriving DecidableEq

structure WireResponse where
  status : Reason := .ok
  accepted : Bool := false
  duplicate : Bool := false
  body : Bytes := []
  deriving DecidableEq

/-- The kind and the key that a request starts with. -/
def encodeHead (head : UInt16 × UInt64) : Encoder := do
  putU16 head.1
  putU64 head.2

def decodeHead : Decoder (UInt16 × UInt64) := do
  let kind ← getU16
  let key ← getU64
  return (kind, key)

/-- What was written, if a payload may be that large. -/
def boundedPayload (writer : CanonicalWriter) (maxPayload : UInt64) : Except Reason Bytes :=
  match writer with
  | none => .error .oversized
  | some buffer =>
    if frameCeiling maxPayload < buffer.length then .error .oversized else .ok buffer

def WireRequest.encode (request : WireRequest) : Encoder := do
  encodeHead (request.kind, request.key)
  putBlob request.body

/-- Decode a payload into `out`. A refusal leaves in `out` what was read before it. -/
def decodeRequest (data : Bytes) (out : WireRequest) : Reason × WireRequest :=
  match decodeFrom decodeHead data with
  | .error code => (code, out)
  | .ok ((kind, key), reader) =>
    let out := { out with key }
    if kind = 0 ∨ kWireRequestKindMax < kind then (.unsupportedSemantics, out)
    else
      let out := { out with kind }
      match getBlob reader with
      | .error code => (code, out)
      | .ok (body, reader) =>
        let out := { out with body }
        if CanonicalReader.atEnd reader then (.ok, out) else (.malformed, out)

/-- The fields of a response one after the other. Its status is a number until it is known. -/
def encodeFields (fields : UInt16 × Bool × Bool × Bytes) : Encoder := do
  putU16 fields.1
  putBool fields.2.1
  putBool fields.2.2.1
  putText fields.2.2.2

def decodeFields : Decoder (UInt16 × Bool × Bool × Bytes) := do
  let status ← getU16
  let accepted ← getBool
  let duplicate ← getBool
  let body ← getText
  return (status, accepted, duplicate, body)

def WireResponse.encode (response : WireResponse) : Encoder :=
  encodeFields (response.status.code, response.accepted, response.duplicate, response.body)

def encodeResponse (response : WireResponse) (maxPayload : UInt64) : Except Reason Bytes :=
  boundedPayload (CanonicalWriter.run response.encode) maxPayload

def decodeResponse (data : Bytes) : Except Reason WireResponse :=
  match decodeFrom decodeFields data with
  | .error code => .error code
  | .ok ((status, accepted, duplicate, body), reader) =>
    match Reason.ofCode? status with
    | none => .error .unsupportedSemantics
    | some status =>
      if reader.atEnd then .ok { status, accepted, duplicate, body } else .error .malformed

/-! ### Bodies -/

/-- A body without content. -/
def emptyBody (body : Bytes) : Except Reason Unit :=
  if body.isEmpty then .ok () else .error .malformed

/-- What `decoder` makes of a whole body. -/
def decodeBody {α : Type} (decoder : Decoder α) (body : Bytes) : Except Reason α :=
  match decodeFrom decoder body with
  | .error code => .error code
  | .ok (value, reader) => if reader.atEnd then .ok value else .error .malformed

/-- A source and the number of its role. -/
def decodeEnrollment : Decoder (SourceName × UInt8) := do
  let source ← decodeName
  let role ← getU8
  return (source, role)

def decodeServiceBody : Decoder (SourceName × ServiceDescriptor) := do
  let registrar ← decodeName
  let descriptor ← decodeServiceDescriptor
  return (registrar, descriptor)

def decodeTargetBody : Decoder (SourceName × TargetRecord) := do
  let registrar ← decodeName
  let target ← decodeTargetRecord
  return (registrar, target)

def decodeTopologyBody : Decoder (UInt64 × SourceName) := do
  let generation ← getU64
  let reporter ← decodeName
  return (generation, reporter)

def decodeWithdrawal : Decoder (ServiceName × SourceName) := do
  let service ← decodeName
  let requester ← decodeName
  return (service, requester)

def decodePlacementBody : Decoder (ServiceName × TargetName × SourceName) := do
  let service ← decodeName
  let target ← decodeName
  let requester ← decodeName
  return (service, target, requester)

/-- A failover or its resumption; the trigger is still a number. -/
def decodeFailoverBody : Decoder (ServiceName × UInt8 × UInt64 × SourceName × Bool) := do
  let service ← decodeName
  let trigger ← getU8
  let evidence ← getU64
  let requester ← decodeName
  let authorized ← getBool
  return (service, trigger, evidence, requester, authorized)

def decodeResolutionBody : Decoder (ServiceName × UInt64 × Bool × SourceName) := do
  let service ← decodeName
  let evidence ← getU64
  let confirm ← getBool
  let operator ← decodeName
  return (service, evidence, confirm, operator)

def decodeFailbackBody : Decoder (ServiceName × TargetName × UInt64 × UInt64 × SourceName) := do
  let service ← decodeName
  let target ← decodeName
  let topology ← getU64
  let policy ← getU64
  let requester ← decodeName
  return (service, target, topology, policy, requester)

def decodeAckBody : Decoder (UInt64 × UInt64 × UInt64 × Bool × SourceName) := do
  let attempt ← getU64
  let fence ← getU64
  let generation ← getU64
  let accepted ← getBool
  let executor ← decodeName
  return (attempt, fence, generation, accepted, executor)

def decodeFenceBody : Decoder (ServiceName × TargetRef × UInt64) := do
  let service ← decodeName
  let holder ← decodeTargetRef
  let token ← getU64
  return (service, holder, token)

/-! ### Responses -/

def reasonResponse (code : Reason) (explanation : Explanation) : WireResponse :=
  { status := code
    accepted := code.isAccept
    body := (JsonValue.record
      [("accepted", .bool code.isAccept), ("explanation", explanation.toJson),
       ("status", code.toJson)]).dump }

def decisionResponse (decision : RecoveryDecision) : WireResponse :=
  { status := decision.outcome
    accepted := decision.accepted
    duplicate := decision.duplicate
    body := decision.toJson.dump }

def intentJson : Option FailoverIntent → JsonValue
  | some intent => .record [("intent", intent.toJson), ("pending", .bool true)]
  | none => .record [("intent", .null), ("pending", .bool false)]

/-- The answer to a query that always succeeds. -/
def WireResponse.observing (response : WireResponse) (body : Bytes) : WireResponse :=
  { response with status := .ok, accepted := true, body }

/-- The code a call comes to, and the response that tells it. -/
def Fabric.Reply.respond (response : WireResponse) : Fabric.Reply → Reason × WireResponse
  | .code status => (status, { response with status })
  | .explained status explanation => (status, reasonResponse status explanation)
  | .decided decision => (decision.outcome, decisionResponse decision)
  | .intent taken => (.ok, response.observing (intentJson taken).dump)

/-! ### Execution -/

/-- The code of an execution with the response and the runtime it leaves. -/
abbrev Executed := (Reason × WireResponse) × Fabric

/-- Go on with a body that was decoded; any other body touches nothing. -/
def whenDecoded {α : Type} (decoded : Except Reason α) (response : WireResponse)
    (fabric : Fabric) (next : α → Executed) : Executed :=
  match decoded with
  | .error code => ((code, response), fabric)
  | .ok value => next value

/-- Execute a request, filling in `response`. -/
def executeRequest (fabric : Fabric) (request : WireRequest) (response : WireResponse) :
    Executed :=
  let key : RequestKey := ⟨request.key⟩
  let body := request.body
  let observed (text : Bytes) : Executed := ((.ok, response.observing text), fabric)
  let perform (op : Fabric.Op) : Executed :=
    ((fabric.call op).1.respond response, (fabric.call op).2)
  match WireRequestKind.ofCode? request.kind with
  | none => ((.requestUnknown, response), fabric)
  | some .queryView =>
    whenDecoded (emptyBody body) response fabric fun _ => observed fabric.view.canonicalText
  | some .export =>
    whenDecoded (emptyBody body) response fabric fun _ => observed fabric.view.canonicalText
  | some .stats =>
    whenDecoded (emptyBody body) response fabric fun _ =>
      observed fabric.state.stats.toJson.dump
  | some .recovery =>
    whenDecoded (emptyBody body) response fabric fun _ => observed fabric.restart.toJson.dump
  | some .explain =>
    whenDecoded (decodeBody decodeName body) response fabric fun service =>
      observed (JsonValue.list
        ((fabric.explanations.forService service).map Explanation.toJson)).dump
  | some .pullIntent =>
    whenDecoded (emptyBody body) response fabric fun _ => perform .takeIntent
  | some .enrollSource =>
    whenDecoded (decodeBody decodeEnrollment body) response fabric fun (source, role) =>
      match (Enumerated.values : List SourceRole)[role.toNat]? with
      | none => ((.unsupportedSemantics, response), fabric)
      | some role => perform (.enrollSource source role)
  | some .registerService =>
    whenDecoded (decodeBody decodeServiceBody body) response fabric
      fun (registrar, descriptor) => perform (.registerService descriptor registrar)
  | some .registerTarget =>
    whenDecoded (decodeBody decodeTargetBody body) response fabric fun (registrar, target) =>
      perform (.registerTarget target registrar)
  | some .setTopologyGeneration =>
    whenDecoded (decodeBody decodeTopologyBody body) response fabric
      fun (generation, reporter) => perform (.setTopologyGeneration ⟨generation⟩ reporter)
  | some .setPolicy =>
    whenDecoded (decodeBody decodePolicyDescriptor body) response fabric fun policy =>
      perform (.setPolicy policy)
  | some .withdrawService =>
    whenDecoded (decodeBody decodeWithdrawal body) response fabric fun (service, requester) =>
      perform (.withdrawService service requester)
  | some .establishPlacement =>
    whenDecoded (decodeBody decodePlacementBody body) response fabric
      fun (service, target, requester) =>
        perform (.establishPlacement { key, service, target, requester })
  | some .ingestCapability =>
    whenDecoded (decodeBody decodeCapabilityEvidence body) response fabric fun evidence =>
      perform (.ingestCapability evidence)
  | some .ingestFailure =>
    whenDecoded (decodeBody decodeFailureEvidence body) response fabric fun evidence =>
      perform (.ingestFailure evidence)
  | some .ingestDependency =>
    whenDecoded (decodeBody decodeDependencyObservation body) response fabric
      fun observation => perform (.ingestDependency observation)
  | some .requestFailover =>
    whenDecoded (decodeBody decodeFailoverBody body) response fabric
      fun (service, trigger, evidence, requester, authorized) =>
        match (Enumerated.values : List RecoveryTrigger)[trigger.toNat]? with
        | none => ((.unsupportedSemantics, response), fabric)
        | some trigger =>
          perform (.requestFailover { key, service, trigger, evidence := ⟨evidence⟩, requester
                                      operatorAuthorized := authorized })
  | some .resumeRecovery =>
    whenDecoded (decodeBody decodeFailoverBody body) response fabric
      fun (service, trigger, evidence, requester, authorized) =>
        match (Enumerated.values : List RecoveryTrigger)[trigger.toNat]? with
        | none => ((.unsupportedSemantics, response), fabric)
        | some trigger =>
          perform (.resumeRecovery { key, service, trigger, evidence := ⟨evidence⟩, requester
                                     operatorAuthorized := authorized })
  | some .resolveAmbiguity =>
    whenDecoded (decodeBody decodeResolutionBody body) response fabric
      fun (service, evidence, confirm, operator) =>
        perform (.resolveAmbiguity { key, service, evidence := ⟨evidence⟩
                                     confirmFailure := confirm, resolvedBy := operator })
  | some .requestFailback =>
    whenDecoded (decodeBody decodeFailbackBody body) response fabric
      fun (service, target, topology, policy, requester) =>
        perform (.requestFailback { key, service, preferredTarget := target
                                    observedTopologyGeneration := ⟨topology⟩
                                    observedPolicyGeneration := ⟨policy⟩, requester })
  | some .acknowledgeIntent =>
    whenDecoded (decodeBody decodeAckBody body) response fabric
      fun (attempt, fence, generation, accepted, executor) =>
        perform (.acknowledgeIntent { key, attempt := ⟨attempt⟩, fence := ⟨fence⟩
                                      generation := ⟨generation⟩, accepted, executor })
  | some .reportEffect =>
    whenDecoded (decodeBody decodeEffectReport body) response fabric fun report =>
      perform (.reportEffect report)
  | some .verifyFence =>
    whenDecoded (decodeBody decodeFenceBody body) response fabric
      fun (service, holder, token) =>
        let verdict := fabric.verifyFence { service, holder, presented := ⟨token⟩ }
        ((verdict.code, { response with
          status := verdict.code, accepted := verdict.authorized, body := verdict.toJson.dump }),
         fabric)
  | some .cancelRequest =>
    whenDecoded (decodeBody getU64 body) response fabric fun target =>
      perform (.cancel ⟨target⟩)
  | some .shutdown =>
    whenDecoded (emptyBody body) response fabric fun _ =>
      observed (ascii "\x7b\"accepted\":true,\"status\":\x7b\"code\":\"OK\"\x7d\x7d")

end OffloadFabric
