import OffloadFabric.Commands
import OffloadFabric.Runs

/-!
The daemon behind a connection: every request frame is decoded, executed and answered, a
cancel frame is executed without an answer, and any other frame ends the connection. What is
refused leaves the runtime alone and what is accepted is one command; but the daemon stops for
a request that only looks like a shutdown, and an answer over the ceiling of a text is lost.
-/
namespace OffloadFabric

open Codec

/-! ### The loop of a connection -/

/-- The daemon as a connection sees it. -/
structure Server where
  fabric : Fabric
  maxFrame : UInt64 := 1048576
  allowRemoteShutdown : Bool := false

/-- What is answered when nothing else is. -/
def refusalText (code : Reason) : Bytes :=
  ascii "\x7b\"accepted\":false,\"status\":\x7b\"code\":\"" ++ ascii code.text ++
    ascii "\"\x7d\x7d"

/-- The request of a payload as far as it was decoded, its response and the runtime after it. -/
def respond (fabric : Fabric) (payload : Bytes) : WireRequest × WireResponse × Fabric :=
  match decodeRequest payload {} with
  | (.ok, request) =>
    let ((executed, response), fabric) := executeRequest fabric request {}
    if response.body.isEmpty then
      (request, { response with status := executed, body := refusalText executed }, fabric)
    else (request, response, fabric)
  | (decoded, request) =>
    (request, { status := decoded, accepted := false, body := refusalText decoded }, fabric)

/-- What serving one frame comes to. -/
structure Served where
  server : Server
  /-- The frame that was handed to the socket. -/
  sent : Option Frame := none
  /-- Whether the connection waits for another frame. -/
  goesOn : Bool := false
  /-- Whether the daemon began to shut down. -/
  shutsDown : Bool := false

namespace Server

/-- Serve a request. The socket takes the answer or, if not `delivered`, fails. -/
def serveRequest (server : Server) (frame : Frame) (delivered : Bool) : Served :=
  let (request, response, fabric) := respond server.fabric frame.payload
  let server := { server with fabric }
  match encodeResponse response server.maxFrame with
  | .error _ => { server }
  | .ok payload =>
    let reply : Frame := { kind := .response, correlation := frame.correlation, payload }
    match encodeFrame reply server.maxFrame with
    | .error _ => { server }
    | .ok _ =>
      if !delivered then { server, sent := some reply }
      else if request.kind = WireRequestKind.shutdown.code && server.allowRemoteShutdown then
        { server, sent := some reply, shutsDown := true }
      else { server, sent := some reply, goesOn := true }

/-- Serve a frame of a connection that has shaken hands. -/
def serveFrame (server : Server) (frame : Frame) (delivered : Bool) : Served :=
  match frame.kind with
  | .cancel =>
    match decodeFrom getU64 frame.payload with
    | .error _ => { server, goesOn := true }
    | .ok (key, _) =>
      { server := { server with fabric := (server.fabric.call (.cancel ⟨key⟩)).2 }
        goesOn := true }
  | .request => server.serveRequest frame delivered
  | _ => { server }

/-- Serve the frames of a connection until one ends it, each with the fate of its answer: what
was sent, the daemon after it, and whether it began to shut down. -/
def serveConnection (server : Server) : List (Frame × Bool) → List Frame × Server × Bool
  | [] => ([], server, false)
  | (frame, delivered) :: rest =>
    let served := server.serveFrame frame delivered
    if served.goesOn then
      let (sent, left) := served.server.serveConnection rest
      (served.sent.toList ++ sent, left)
    else (served.sent.toList, served.server, served.shutsDown)

end Server

/-! ### Payloads -/

/-- The payload is the encoding of a request for the command. -/
def Asks (payload : Bytes) (command : Command) : Prop :=
  ∃ request : WireRequest,
    CanonicalWriter.run request.encode = some payload ∧ request.Asks command

/-- The payload starts like a request of this kind, whatever follows the head. -/
def StartsAs (payload : Bytes) (kind : WireRequestKind) : Prop :=
  payload.length ≤ kMaxTotalBytes ∧ ∃ key head rest,
    CanonicalWriter.run (encodeHead (kind.code, key)) = some head ∧ payload = head ++ rest

/-- The command of a payload, or the reason it is refused for. -/
def parsePayload (payload : Bytes) : Except Reason Command :=
  match decodeRequest payload {} with
  | (.ok, request) => request.parse
  | (code, _) => .error code

theorem roundTrips_head (head : UInt16 × UInt64) :
    RoundTrips 1 2 (encodeHead head) decodeHead head True :=
  (roundTrips_u16 head.1).seq <| (roundTrips_u64 head.2).result rfl

theorem spelled_head : Spelled encodeHead decodeHead :=
  .seq spelled_u16 fun _ => .seq spelled_u64 fun _ => .done rfl

theorem bodyCodec_head : BodyCodec encodeHead decodeHead fun _ => True :=
  .of_spelled roundTrips_head spelled_head

/-- The whole of a request. -/
def decodeWhole : Decoder WireRequest := do
  let (kind, key) ← decodeHead
  check (¬(kind = 0 ∨ kWireRequestKindMax < kind)) .unsupportedSemantics
  let body ← getBlob
  return { kind, key, body }

theorem roundTrips_request (request : WireRequest) :
    RoundTrips 1 2 request.encode decodeWhole request
      ¬(request.kind = 0 ∨ kWireRequestKindMax < request.kind) := by
  have hblob : RoundTrips 1 4 (putBlob request.body) (do
      let body ← getBlob
      return { kind := request.kind, key := request.key, body }) request True :=
    (roundTrips_blob request.body).result rfl
  exact (roundTrips_head (request.kind, request.key)).seq
    ((hblob.check _ _).congr_accepted (iff_of_eq (and_true _)))

theorem bodyCodec_request :
    BodyCodec WireRequest.encode decodeWhole
      fun request => ¬(request.kind = 0 ∨ kWireRequestKindMax < request.kind) :=
  .of_spelled roundTrips_request
    (.seq spelled_head fun _ => .check fun _ => .seq spelled_blob fun _ => .done rfl)

/-- The reader never refuses with the code of a success. -/
def NeverOk {α : Type} (decoder : Decoder α) : Prop := ∀ reader, decoder reader ≠ .error .ok

theorem neverOk_take (count : Nat) : NeverOk (take count) := by
  intro reader h
  unfold take at h
  split at h <;> cases h

theorem neverOk_check (cond : Prop) [Decidable cond] {err : Reason} (herr : err ≠ .ok) :
    NeverOk (check cond err : Decoder Unit) := by
  intro reader h
  unfold check at h
  split at h
  · cases h
  · exact herr (Except.error.inj h)

theorem neverOk_pure {α : Type} (value : α) : NeverOk (pure value : Decoder α) := by
  intro reader h
  cases h

theorem NeverOk.bind {α β : Type} {decoder : Decoder α} {next : α → Decoder β}
    (h : NeverOk decoder) (hnext : ∀ value, NeverOk (next value)) :
    NeverOk (decoder >>= next) := by
  intro reader hfail
  rw [parse_bind] at hfail
  cases hread : decoder reader with
  | error code =>
    rw [hread] at hfail
    obtain rfl := Except.error.inj hfail
    exact h reader hread
  | ok result =>
    rw [hread] at hfail
    exact hnext result.1 result.2 hfail

theorem neverOk_u16 : NeverOk getU16 := (neverOk_take 2).bind fun _ => neverOk_pure _
theorem neverOk_u32 : NeverOk getU32 := (neverOk_take 4).bind fun _ => neverOk_pure _
theorem neverOk_u64 : NeverOk getU64 := (neverOk_take 8).bind fun _ => neverOk_pure _

theorem neverOk_head : NeverOk decodeHead :=
  neverOk_u16.bind fun _ => neverOk_u64.bind fun _ => neverOk_pure _

theorem neverOk_blob : NeverOk getBlob :=
  neverOk_u32.bind fun _ => (neverOk_check _ (by decide)).bind fun _ => neverOk_take _

/-- How far the decoding of a payload got. -/
inductive Decoding (payload : Bytes) : Reason → WireRequest → Except Reason WireRequest → Prop
  where
  /-- There is no head; the request is still the one it was given. -/
  | headless {code : Reason} (hcode : code ≠ .ok)
      (hhead : decodeFrom decodeHead payload = .error code) :
      Decoding payload code {} (.error code)
  /-- The kind is out of range and not taken over. -/
  | outOfRange {kind : UInt16} {key : UInt64} {reader : CanonicalReader}
      (hhead : decodeFrom decodeHead payload = .ok ((kind, key), reader))
      (hkind : kind = 0 ∨ kWireRequestKindMax < kind) :
      Decoding payload .unsupportedSemantics { key } (.error .unsupportedSemantics)
  /-- The kind was taken over before the rest was refused. -/
  | cut {kind : UInt16} {key : UInt64} {reader : CanonicalReader} {code : Reason} {body : Bytes}
      (hhead : decodeFrom decodeHead payload = .ok ((kind, key), reader))
      (hkind : ¬(kind = 0 ∨ kWireRequestKindMax < kind)) (hcode : code ≠ .ok) :
      Decoding payload code { kind, key, body } (.error code)
  | whole {request : WireRequest} {reader : CanonicalReader}
      (hhead : decodeFrom decodeHead payload = .ok ((request.kind, request.key), reader))
      (hkind : ¬(request.kind = 0 ∨ kWireRequestKindMax < request.kind)) :
      Decoding payload .ok request (.ok request)

section Whole

variable {payload : Bytes} {kind : UInt16} {key : UInt64} {reader : CanonicalReader}
  {code : Reason}

theorem decodeWhole_eq (payload : Bytes) :
    decodeFrom decodeWhole payload =
      (decodeFrom decodeHead payload).bind fun result =>
        (do
          check (¬(result.1.1 = 0 ∨ kWireRequestKindMax < result.1.1)) .unsupportedSemantics
          let body ← getBlob
          return { kind := result.1.1, key := result.1.2, body } : Decoder WireRequest)
            result.2 := by
  rw [decodeFrom_eq, decodeFrom_eq]
  split <;> rfl

theorem decodeWhole_of_headless (hhead : decodeFrom decodeHead payload = .error code) :
    decodeFrom decodeWhole payload = .error code := by
  rw [decodeWhole_eq, hhead]
  rfl

theorem decodeWhole_of_head
    (hhead : decodeFrom decodeHead payload = .ok ((kind, key), reader)) :
    decodeFrom decodeWhole payload =
      if kind = 0 ∨ kWireRequestKindMax < kind then .error .unsupportedSemantics
      else (getBlob reader).bind fun result =>
        .ok ({ kind, key, body := result.1 }, result.2) := by
  rw [decodeWhole_eq, hhead]
  by_cases hkind : kind = 0 ∨ kWireRequestKindMax < kind
  · rw [if_pos hkind]
    simp only [Except.bind, check, if_neg (not_not.mpr hkind)]
    rfl
  · rw [if_neg hkind]
    simp only [Except.bind, check_true hkind]
    rfl

theorem neverOk_from {α : Type} {decoder : Decoder α} (h : NeverOk decoder)
    (hfail : decodeFrom decoder payload = .error code) : code ≠ .ok := by
  rintro rfl
  rw [decodeFrom_eq] at hfail
  split at hfail
  · exact h _ hfail
  · cases hfail

end Whole

/-- How far `decode_request` got decides the request it leaves, and it accepts what a whole
request is. -/
theorem decodeRequest_decoding (payload : Bytes) :
    Decoding payload (decodeRequest payload {}).1 (decodeRequest payload {}).2
      (decodeBody decodeWhole payload) := by
  unfold decodeRequest decodeBody
  cases hhead : decodeFrom decodeHead payload with
  | error code =>
    rw [decodeWhole_of_headless hhead]
    exact .headless (neverOk_from neverOk_head hhead) hhead
  | ok result =>
    obtain ⟨⟨kind, key⟩, reader⟩ := result
    rw [decodeWhole_of_head hhead]
    by_cases hkind : kind = 0 ∨ kWireRequestKindMax < kind
    · simp only [if_pos hkind]
      exact .outOfRange hhead hkind
    · simp only [if_neg hkind]
      cases hblob : getBlob reader with
      | error code =>
        refine .cut hhead hkind ?_
        rintro rfl
        exact neverOk_blob reader hblob
      | ok result =>
        obtain ⟨body, rest⟩ := result
        simp only [Except.bind]
        by_cases hend : CanonicalReader.atEnd rest = true
        · simp only [if_pos hend]
          exact .whole hhead hkind
        · simp only [if_neg hend]
          exact .cut hhead hkind (by decide)

section Payload

variable {payload : Bytes} {command : Command}

theorem parsePayload_eq (payload : Bytes) :
    parsePayload payload = (decodeBody decodeWhole payload).bind WireRequest.parse := by
  have hdecoding := decodeRequest_decoding payload
  unfold parsePayload
  generalize decodeRequest payload {} = decoded at hdecoding
  generalize decodeBody decodeWhole payload = whole at hdecoding
  obtain ⟨code, request⟩ := decoded
  cases hdecoding with
  | headless hcode hhead =>
    split
    · rename_i heq
      exact absurd (congrArg Prod.fst heq) hcode
    · rename_i heq
      obtain ⟨rfl, -⟩ := Prod.mk.inj heq
      rfl
  | outOfRange hhead hkind => rfl
  | cut hhead hkind hcode =>
    split
    · rename_i heq
      exact absurd (congrArg Prod.fst heq) hcode
    · rename_i heq
      obtain ⟨rfl, -⟩ := Prod.mk.inj heq
      rfl
  | whole hhead hkind => rfl

theorem WireRequestKind.code_inRange (kind : WireRequestKind) :
    ¬(kind.code = 0 ∨ kWireRequestKindMax < kind.code) := by
  cases kind <;> decide

/-- A payload is accepted exactly if it is the encoding of a request for a command. -/
theorem parsePayload_eq_ok : parsePayload payload = .ok command ↔ Asks payload command := by
  rw [parsePayload_eq]
  constructor
  · intro h
    cases hwhole : decodeBody decodeWhole payload with
    | error code =>
      rw [hwhole] at h
      cases h
    | ok request =>
      rw [hwhole] at h
      obtain ⟨hbytes, -⟩ := bodyCodec_request.decodeBody_eq_ok.mp hwhole
      exact ⟨request, hbytes, WireRequest.asks_of_parse h⟩
  · rintro ⟨request, hbytes, hasks⟩
    have hkind : ¬(request.kind = 0 ∨ kWireRequestKindMax < request.kind) := by
      rw [hasks.kind]
      exact WireRequestKind.code_inRange _
    rw [bodyCodec_request.decoded hbytes hkind]
    exact WireRequest.parse_of_asks hasks

/-- No payload asks for two commands. -/
theorem Asks.unique {command' : Command} (h : Asks payload command)
    (h' : Asks payload command') : command = command' :=
  Except.ok.inj ((parsePayload_eq_ok.mpr h).symm.trans (parsePayload_eq_ok.mpr h'))

/-- A request that was never told its kind is a query of the view. -/
theorem queryView_ne_shutdown :
    WireRequestKind.queryView.code ≠ WireRequestKind.shutdown.code := by
  decide

theorem startsAs_iff {kind : WireRequestKind} :
    StartsAs payload kind ↔
      ∃ key reader, decodeFrom decodeHead payload = .ok ((kind.code, key), reader) := by
  constructor
  · rintro ⟨hsize, key, head, rest, hhead, rfl⟩
    refine ⟨key, ⟨rest, 0⟩, ?_⟩
    rw [bodyCodec_head.canonical.decodes _ head rest trivial hhead, if_pos hsize]
  · rintro ⟨key, reader, hhead⟩
    obtain ⟨-, head, hbytes, hpayload⟩ := bodyCodec_head.canonical.encodes _ _ _ hhead
    refine ⟨?_, key, head, reader.rest, hbytes, hpayload⟩
    rw [decodeFrom_eq] at hhead
    by_contra hsize
    rw [if_neg hsize] at hhead
    cases hhead

/-- The request of a payload is a shutdown as soon as its head is that of one. -/
theorem kind_eq_shutdown :
    (decodeRequest payload {}).2.kind = WireRequestKind.shutdown.code ↔
      StartsAs payload .shutdown := by
  have hdecoding := decodeRequest_decoding payload
  rw [startsAs_iff]
  generalize decodeRequest payload {} = decoded at hdecoding
  generalize decodeBody decodeWhole payload = whole at hdecoding
  obtain ⟨code, request⟩ := decoded
  cases hdecoding with
  | headless hcode hhead =>
    constructor
    · intro h
      exact absurd h queryView_ne_shutdown
    · rintro ⟨key, reader, hother⟩
      rw [hhead] at hother
      cases hother
  | outOfRange hhead hkind =>
    constructor
    · intro h
      exact absurd h queryView_ne_shutdown
    · rintro ⟨key, reader, hother⟩
      rw [hhead] at hother
      cases hother
      exact absurd hkind (WireRequestKind.code_inRange .shutdown)
  | cut hhead hkind hcode =>
    constructor
    · rintro rfl
      exact ⟨_, _, hhead⟩
    · rintro ⟨key, reader, hother⟩
      rw [hhead] at hother
      cases hother
      rfl
  | whole hhead hkind =>
    constructor
    · intro h
      rw [h] at hhead
      exact ⟨_, _, hhead⟩
    · rintro ⟨key, reader, hother⟩
      rw [hhead] at hother
      exact congrArg (fun result => result.1.1) (Except.ok.inj hother)

end Payload

/-! ### Responses on the wire -/

/-- The bytes a response takes: its status, its two flags, and its text behind its length. -/
def WireResponse.size (response : WireResponse) : Nat := 8 + response.body.length

section Response

variable {response : WireResponse} {maxPayload : UInt64} {bytes : Bytes}

theorem bodyCodec_fields : BodyCodec encodeFields decodeFields fun _ => True :=
  .of_spelled
    (fun fields => (roundTrips_u16 fields.1).seq <| (roundTrips_bool fields.2.1).seq <|
      (roundTrips_bool fields.2.2.1).seq <| (roundTrips_text fields.2.2.2).result rfl)
    (.seq spelled_u16 fun _ => .seq spelled_bool fun _ => .seq spelled_bool fun _ =>
      .seq spelled_text fun _ => .done rfl)

/-- A text over its ceiling fails the writer, and all that was written is lost. -/
theorem run_encode_of_lt (h : kMaxTextBytes < response.body.length) :
    CanonicalWriter.run response.encode = none := by
  have htext : putText response.body = failWriter := if_pos h
  rw [WireResponse.encode]
  simp only [encodeFields, htext]
  rfl

theorem writes_bool (value : Bool) :
    Writes kMaxTotalBytes (putBool value) (BigEndian.ofNat 1 (if value then 1 else 0)) := by
  cases value <;> exact writes_append _

/-- Any other response is written, in as many bytes as its size says. -/
theorem run_encode_of_le (h : response.body.length ≤ kMaxTextBytes) :
    ∃ bytes, CanonicalWriter.run response.encode = some bytes ∧
      bytes.length = response.size := by
  have htext : putText response.body =
      append (BigEndian.ofNat 4 response.body.length ++ response.body) :=
    if_neg (Nat.not_lt.mpr h)
  have hwrites : Writes kMaxTotalBytes response.encode
      (BigEndian.ofNat 2 response.status.code.toNat ++
        (BigEndian.ofNat 1 (if response.accepted then 1 else 0) ++
          (BigEndian.ofNat 1 (if response.duplicate then 1 else 0) ++
            (BigEndian.ofNat 4 response.body.length ++ response.body)))) := by
    rw [WireResponse.encode]
    simp only [encodeFields, htext]
    exact (writes_append _).bind <| (writes_bool _).bind <| (writes_bool _).bind <|
      writes_append _
  have hlength : ∀ a b c d : Bytes, (a ++ (b ++ (c ++ (d ++ response.body)))).length =
      a.length + b.length + c.length + d.length + response.body.length := by
    intro a b c d
    simp only [List.length_append]
    omega
  refine ⟨_, hwrites [] ?_, ?_⟩
  · rw [List.nil_append, hlength]
    simp only [BigEndian.length_ofNat]
    unfold kMaxTextBytes at h
    unfold kMaxTotalBytes
    omega
  · rw [List.nil_append, hlength]
    simp only [BigEndian.length_ofNat]
    rfl

/-- A response is encoded if its text is within the ceiling of a text and all of it within the
ceiling of a payload. -/
theorem encodeResponse_eq_ok :
    encodeResponse response maxPayload = .ok bytes ↔
      CanonicalWriter.run response.encode = some bytes ∧
        bytes.length ≤ frameCeiling maxPayload := by
  unfold encodeResponse boundedPayload
  cases CanonicalWriter.run response.encode with
  | none =>
    constructor
    · intro h
      cases h
    · rintro ⟨h, -⟩
      cases h
  | some buffer =>
    by_cases hsize : frameCeiling maxPayload < buffer.length
    · simp only [if_pos hsize]
      constructor
      · intro h
        cases h
      · rintro ⟨h, hle⟩
        obtain rfl := Option.some.inj h
        omega
    · simp only [if_neg hsize]
      constructor
      · intro h
        obtain rfl := Except.ok.inj h
        exact ⟨rfl, Nat.not_lt.mp hsize⟩
      · rintro ⟨h, -⟩
        rw [Option.some.inj h]

/-- An encoded response is decoded again. -/
theorem decodeResponse_encode (h : CanonicalWriter.run response.encode = some bytes) :
    decodeResponse bytes = .ok response := by
  have hfits := bodyCodec_fields.fits _ bytes h
  have hdecodes := bodyCodec_fields.canonical.decodes _ bytes [] trivial h
  rw [List.append_nil, if_pos hfits] at hdecodes
  unfold decodeResponse
  rw [hdecodes]
  simp only [Reason.ofCode?_code]
  rfl

/-- What is encoded and decoded again, and how large it is. -/
theorem encodeResponse_isSome :
    (∃ bytes, encodeResponse response maxPayload = .ok bytes ∧
      decodeResponse bytes = .ok response) ↔
      response.body.length ≤ kMaxTextBytes ∧ response.size ≤ frameCeiling maxPayload := by
  constructor
  · rintro ⟨bytes, hencoded, -⟩
    obtain ⟨hrun, hceiling⟩ := encodeResponse_eq_ok.mp hencoded
    by_cases htext : response.body.length ≤ kMaxTextBytes
    · obtain ⟨bytes', hrun', hsize⟩ := run_encode_of_le htext
      obtain rfl := Option.some.inj (hrun.symm.trans hrun')
      exact ⟨htext, by omega⟩
    · rw [run_encode_of_lt (Nat.not_le.mp htext)] at hrun
      cases hrun
  · rintro ⟨htext, hceiling⟩
    obtain ⟨bytes, hrun, hsize⟩ := run_encode_of_le htext
    exact ⟨bytes, encodeResponse_eq_ok.mpr ⟨hrun, by omega⟩, decodeResponse_encode hrun⟩

end Response

/-! ### Serving one request -/

/-- The answer to a refused payload. -/
def refusal (code : Reason) : WireResponse := { status := code, body := refusalText code }

theorem length_ascii (letters : List Char) :
    (ascii (String.ofList letters)).length = letters.length := by
  rw [ascii, String.toList_ofList, List.length_map]

theorem length_text_le (code : Reason) : (ascii code.text).length ≤ 38 := by
  cases code <;> exact le_of_eq_of_le (length_ascii _) (by decide)

theorem length_refusal_le (code : Reason) : (refusal code).body.length ≤ kMaxTextBytes := by
  have htext := length_text_le code
  have hbody : (refusal code).body.length = 39 + (ascii code.text).length := by
    show (refusalText code).length = _
    rw [refusalText, List.length_append, List.length_append]
    have hopening : (ascii "\x7b\"accepted\":false,\"status\":\x7b\"code\":\"").length = 36 := by
      decide
    have hclosing : (ascii "\"\x7d\x7d").length = 3 := by decide
    omega
  unfold kMaxTextBytes
  omega

section Serve

variable {payload : Bytes} {command : Command} {code : Reason}

/-- A refused payload is answered with its reason, and the runtime is not touched. -/
theorem respond_refused (fabric : Fabric) (h : parsePayload payload = .error code) :
    respond fabric payload = ((decodeRequest payload {}).2, refusal code, fabric) := by
  unfold parsePayload at h
  unfold respond
  generalize decodeRequest payload {} = decoded at h ⊢
  split at h
  · rename_i request
    simp only [executeRequest_eq, h]
    rfl
  · rename_i decoded request hcode
    obtain rfl := Except.error.inj h
    rfl

/-- An accepted payload leaves the runtime after its command. -/
theorem respond_accepted (fabric : Fabric) (h : parsePayload payload = .ok command) :
    (respond fabric payload).2.2 = command.effect fabric := by
  unfold parsePayload at h
  unfold respond
  generalize decodeRequest payload {} = decoded at h ⊢
  split at h
  · rename_i request
    simp only [executeRequest_eq, h, Fabric.execute]
    split <;> rfl
  · cases h

theorem respond_request (fabric : Fabric) (payload : Bytes) :
    (respond fabric payload).1 = (decodeRequest payload {}).2 := by
  unfold respond
  split
  · rename_i request hdecoded
    rw [hdecoded]
    dsimp only
    split <;> rfl
  · rename_i hdecoded
    rw [hdecoded]

end Serve

namespace Server

variable (server : Server) (frame : Frame) (delivered : Bool)

/-- The runtime after a request does not depend on what becomes of the answer. -/
theorem fabric_serveRequest :
    (server.serveRequest frame delivered).server.fabric =
      (respond server.fabric frame.payload).2.2 := by
  unfold serveRequest
  dsimp only
  split
  · rfl
  · split
    · rfl
    · split
      · rfl
      · split <;> rfl

/-- The frame that answers a request, if its response is encoded. -/
theorem sent_serveRequest {payload : Bytes}
    (h : encodeResponse (respond server.fabric frame.payload).2.1 server.maxFrame = .ok payload) :
    (server.serveRequest frame delivered).sent =
      some { kind := .response, correlation := frame.correlation, payload } := by
  obtain ⟨-, hceiling⟩ := encodeResponse_eq_ok.mp h
  have hframe : encodeFrame { kind := .response, correlation := frame.correlation, payload }
      server.maxFrame = .ok _ := encodeFrame_ok.mpr ⟨hceiling, rfl⟩
  unfold serveRequest
  dsimp only
  rw [h]
  dsimp only
  rw [hframe]
  dsimp only
  split
  · rfl
  · split <;> rfl

theorem shutsDown_serveRequest {payload : Bytes}
    (h : encodeResponse (respond server.fabric frame.payload).2.1 server.maxFrame = .ok payload) :
    (server.serveRequest frame delivered).shutsDown = true ↔
      StartsAs frame.payload .shutdown ∧ server.allowRemoteShutdown = true ∧
        delivered = true := by
  obtain ⟨-, hceiling⟩ := encodeResponse_eq_ok.mp h
  have hframe : encodeFrame { kind := .response, correlation := frame.correlation, payload }
      server.maxFrame = .ok _ := encodeFrame_ok.mpr ⟨hceiling, rfl⟩
  rw [← kind_eq_shutdown, ← respond_request server.fabric]
  unfold serveRequest
  dsimp only
  rw [h]
  dsimp only
  rw [hframe]
  cases delivered with
  | false => simp
  | true =>
    by_cases hkind : (respond server.fabric frame.payload).1.kind = WireRequestKind.shutdown.code
    · cases server.allowRemoteShutdown with
      | false => simp
      | true => simp [hkind]
    · simp [hkind]

/-- An answer that is not encoded is not sent, and the connection is over. -/
theorem serveRequest_of_error {code : Reason}
    (h : encodeResponse (respond server.fabric frame.payload).2.1 server.maxFrame = .error code) :
    server.serveRequest frame delivered =
      { server := { server with fabric := (respond server.fabric frame.payload).2.2 } } := by
  unfold serveRequest
  dsimp only
  rw [h]

end Server

/-! ### Refused and accepted payloads -/

/-- A refused payload leaves nothing behind: the runtime with its queue is as it was, the daemon
does not begin to shut down, and the connection is answered without acceptance. -/
structure Discarded (server : Server) (served : Served) : Prop where
  fabric : served.server.fabric = server.fabric
  serving : served.shutsDown = false
  answered : ∃ reply response, served.sent = some reply ∧
    decodeResponse reply.payload = .ok response ∧ response.accepted = false

/-- What serving a payload should come to: its one command if it is the encoding of one, and
nothing at all if it is not. -/
def Heeded (server : Server) (payload : Bytes) (served : Served) : Prop :=
  (∀ command, Asks payload command → served.server.fabric = command.effect server.fabric) ∧
    ((∀ command, ¬ Asks payload command) → Discarded server served)

theorem exists_refusal {payload : Bytes} (h : ∀ command, ¬ Asks payload command) :
    ∃ code, parsePayload payload = .error code := by
  cases hparse : parsePayload payload with
  | error code => exact ⟨code, rfl⟩
  | ok command => exact absurd (parsePayload_eq_ok.mp hparse) (h command)

theorem not_asks_of_refused {payload : Bytes} {code : Reason}
    (h : parsePayload payload = .error code) (command : Command) : ¬ Asks payload command := by
  intro hasks
  rw [parsePayload_eq_ok.mpr hasks] at h
  cases h

/-- Nothing is left of a refused payload exactly if its answer fits in a frame and the daemon
does not take it for a shutdown. -/
theorem discarded_iff {server : Server} {frame : Frame} {delivered : Bool} {code : Reason}
    (h : parsePayload frame.payload = .error code) :
    Discarded server (server.serveRequest frame delivered) ↔
      (refusal code).size ≤ frameCeiling server.maxFrame ∧
        ¬(StartsAs frame.payload .shutdown ∧ server.allowRemoteShutdown = true ∧
          delivered = true) := by
  have hrespond := respond_refused server.fabric h
  constructor
  · rintro ⟨-, hserving, reply, response, hsent, -, -⟩
    cases hencode : encodeResponse (respond server.fabric frame.payload).2.1 server.maxFrame with
    | error code' =>
      rw [Server.serveRequest_of_error server frame delivered hencode] at hsent
      cases hsent
    | ok payload =>
      refine ⟨?_, fun hshutdown => ?_⟩
      · rw [hrespond] at hencode
        obtain ⟨hrun, -⟩ := encodeResponse_eq_ok.mp hencode
        exact (encodeResponse_isSome.mp ⟨payload, hencode, decodeResponse_encode hrun⟩).2
      · have hbegun := (Server.shutsDown_serveRequest server frame delivered hencode).mpr hshutdown
        rw [hserving] at hbegun
        cases hbegun
  · rintro ⟨hfits, hserving⟩
    obtain ⟨payload, hencode, hdecode⟩ :=
      encodeResponse_isSome.mpr ⟨length_refusal_le code, hfits⟩
    have hanswer : encodeResponse (respond server.fabric frame.payload).2.1 server.maxFrame =
        .ok payload := by rw [hrespond]; exact hencode
    refine ⟨?_, ?_, _, refusal code, Server.sent_serveRequest server frame delivered hanswer,
      hdecode, rfl⟩
    · rw [Server.fabric_serveRequest, hrespond]
    · refine Bool.eq_false_iff.mpr fun hbegun => hserving ?_
      exact (Server.shutsDown_serveRequest server frame delivered hanswer).mp hbegun

/-- What is served is heeded exactly if a refusal can be answered and is not taken for a
shutdown. A payload that asks for a command asks for no other one. -/
theorem heeded_iff (server : Server) (frame : Frame) (delivered : Bool) :
    Heeded server frame.payload (server.serveRequest frame delivered) ↔
      ∀ code, parsePayload frame.payload = .error code →
        (refusal code).size ≤ frameCeiling server.maxFrame ∧
          ¬(StartsAs frame.payload .shutdown ∧ server.allowRemoteShutdown = true ∧
            delivered = true) := by
  constructor
  · rintro ⟨-, hdiscards⟩ code hcode
    exact (discarded_iff hcode).mp (hdiscards (not_asks_of_refused hcode))
  · intro h
    refine ⟨fun command hasks => ?_, fun hnone => ?_⟩
    · rw [Server.fabric_serveRequest]
      exact respond_accepted server.fabric (parsePayload_eq_ok.mpr hasks)
    · obtain ⟨code, hcode⟩ := exists_refusal hnone
      exact (discarded_iff hcode).mpr (h code hcode)

namespace Fleet

/-- A shutdown with one byte too many. -/
def overlong : Frame :=
  { kind := .request, correlation := 1
    payload := [0, 50] ++ List.replicate 8 0 ++ [0, 0, 0, 0] ++ [0] }

/-- A daemon that may be shut down from afar. -/
def yielding : Server := { fabric := running [.openFabric], allowRemoteShutdown := true }

end Fleet

/-- A shutdown with a byte too many is answered as malformed and stops the daemon all the
same. -/
theorem not_discarded_overlong : Fabric.Reachable {} Fleet.yielding.fabric ∧
    (∀ command, ¬ Asks Fleet.overlong.payload command) ∧
      (Fleet.yielding.serveRequest Fleet.overlong true).shutsDown = true ∧
        ¬ Heeded Fleet.yielding Fleet.overlong.payload
            (Fleet.yielding.serveRequest Fleet.overlong true) := by
  have hparse : parsePayload Fleet.overlong.payload = .error .malformed := rfl
  have hnone := not_asks_of_refused hparse
  have hshutdown : (Fleet.yielding.serveRequest Fleet.overlong true).shutsDown = true := by
    obtain ⟨payload, hencode, -⟩ :=
      (@encodeResponse_isSome _ Fleet.yielding.maxFrame).mpr
        ⟨length_refusal_le .malformed, by decide⟩
    refine (@Server.shutsDown_serveRequest _ _ _ payload ?_).mpr ⟨?_, rfl, rfl⟩
    · rw [respond_refused _ hparse]
      exact hencode
    · exact kind_eq_shutdown.mp (by decide)
  refine ⟨Fleet.reachable_running _, hnone, hshutdown, fun hheeded => ?_⟩
  have hserving := (hheeded.2 hnone).serving
  rw [hshutdown] at hserving
  cases hserving

/-! ### A whole connection -/

/-- The call that a frame is served with. -/
def Frame.call? (frame : Frame) : Option Fabric.Op :=
  match frame.kind with
  | .cancel =>
    match decodeFrom getU64 frame.payload with
    | .error _ => none
    | .ok (key, _) => some (.cancel ⟨key⟩)
  | .request =>
    match parsePayload frame.payload with
    | .error _ => none
    | .ok command => command.call?
  | _ => none

theorem Command.effect_eq (command : Command) (fabric : Fabric) :
    command.effect fabric = fabric.after command.call?.toList := by
  unfold Command.effect
  cases command.call? <;> rfl

namespace Server

variable {server : Server} {frame : Frame} {delivered : Bool}

/-- A frame is served with its call, and with no other. -/
theorem fabric_serveFrame :
    (server.serveFrame frame delivered).server.fabric =
      server.fabric.after frame.call?.toList := by
  unfold serveFrame Frame.call?
  cases frame.kind with
  | cancel =>
    dsimp only
    cases decodeFrom getU64 frame.payload <;> rfl
  | request =>
    dsimp only
    rw [fabric_serveRequest]
    cases hparse : parsePayload frame.payload with
    | error code => rw [respond_refused server.fabric hparse]; rfl
    | ok command =>
      rw [respond_accepted server.fabric hparse]
      exact Command.effect_eq command server.fabric
  | _ => rfl

/-- A connection makes the calls of the frames it served, each once and in their order. -/
theorem fabric_serveConnection (frames : List (Frame × Bool)) :
    ∃ served, served <+: frames ∧ (server.serveConnection frames).2.1.fabric =
      server.fabric.after (served.filterMap fun entry => entry.1.call?) := by
  induction frames generalizing server with
  | nil => exact ⟨[], List.prefix_rfl, rfl⟩
  | cons entry rest ih =>
    obtain ⟨frame, delivered⟩ := entry
    have hstep := @fabric_serveFrame server frame delivered
    have hcalls : ∀ served : List (Frame × Bool),
        ((frame, delivered) :: served).filterMap (fun entry => entry.1.call?) =
          frame.call?.toList ++ served.filterMap fun entry => entry.1.call? := by
      intro served
      rw [List.filterMap_cons]
      cases frame.call? <;> rfl
    by_cases hgoesOn : (server.serveFrame frame delivered).goesOn = true
    · obtain ⟨served, hprefix, hfabric⟩ := @ih (server.serveFrame frame delivered).server
      refine ⟨(frame, delivered) :: served, List.cons_prefix_cons.mpr ⟨rfl, hprefix⟩, ?_⟩
      rw [hcalls, Fabric.after_append, ← hstep, ← hfabric]
      simp only [serveConnection, if_pos hgoesOn]
    · refine ⟨[(frame, delivered)], ⟨rest, rfl⟩, ?_⟩
      rw [hcalls, Fabric.after_append, ← hstep]
      simp only [serveConnection, if_neg hgoesOn]
      rfl

/-- Whatever is sent over a connection, the runtime behind it stays reachable. -/
theorem reachable_serveConnection {config : FabricConfig} (frames : List (Frame × Bool))
    (h : Fabric.Reachable config server.fabric) :
    Fabric.Reachable config (server.serveConnection frames).2.1.fabric := by
  obtain ⟨moments, hrun⟩ := h
  obtain ⟨served, -, hfabric⟩ := @fabric_serveConnection server frames
  rw [hfabric]
  exact ⟨_, hrun.calls _⟩

end Server

/-! ### Answers -/

/-- A response that fits in a payload is encoded and decoded again. -/
def Answerable (response : WireResponse) (maxPayload : UInt64) : Prop :=
  response.size ≤ frameCeiling maxPayload →
    ∃ bytes, encodeResponse response maxPayload = .ok bytes ∧ decodeResponse bytes = .ok response

theorem answerable_iff_length (response : WireResponse) (maxPayload : UInt64) :
    Answerable response maxPayload ↔
      (response.size ≤ frameCeiling maxPayload → response.body.length ≤ kMaxTextBytes) := by
  unfold Answerable
  rw [encodeResponse_isSome]
  constructor
  · intro h hfits
    exact (h hfits).1
  · intro h hfits
    exact ⟨h hfits, hfits⟩

/-- The text that a command is answered with: what it reads off the runtime, or what its call
comes to. -/
def Command.text (command : Command) (fabric : Fabric) (response : WireResponse) : Bytes :=
  match command.call? with
  | none => (command.observe fabric).2.2
  | some op =>
    match (fabric.call op).1 with
    | .code _ => response.body
    | .explained status explanation => (reasonResponse status explanation).body
    | .decided decision => decision.toJson.dump
    | .intent taken => (intentJson taken).dump

theorem Command.body_answer (command : Command) (fabric : Fabric) (response : WireResponse) :
    (command.answer fabric response).2.body = command.text fabric response := by
  unfold Command.answer Command.text
  cases command.call? with
  | none => rfl
  | some op =>
    dsimp only
    cases (fabric.call op).1 <;> rfl

namespace JsonValue

theorem length_decimalDigits_le (value : UInt64) : (toDecimal value).length ≤ 20 := by
  rw [toDecimal, decimalDigits, List.length_map, Nat.length_toDigits_le_iff (by decide) (by decide)]
  exact value.toNat_lt.trans (by decide)

theorem dumpMembers_cons (key : Bytes) (value : JsonValue) {rest : List (Bytes × JsonValue)}
    (h : rest ≠ []) : dumpMembers ((key, value) :: rest) =
      escaped key ++ [58] ++ value.dump ++ [44] ++ dumpMembers rest := by
  cases rest with
  | nil => exact absurd rfl h
  | cons => rw [dumpMembers]; exact List.cons_ne_nil _ _

theorem setMember_ne_nil (key : Bytes) (value : JsonValue) (members : List (Bytes × JsonValue)) :
    setMember key value members ≠ [] := by
  cases members with
  | nil => exact List.cons_ne_nil _ _
  | cons member rest =>
    rw [setMember]
    split
    · exact List.cons_ne_nil _ _
    split <;> exact List.cons_ne_nil _ _

theorem length_dumpMembers_setMember_le (key : Bytes) (value : JsonValue)
    (members : List (Bytes × JsonValue)) :
    (dumpMembers (setMember key value members)).length ≤
      (dumpMembers members).length + ((escaped key).length + value.dump.length + 2) := by
  induction members with
  | nil =>
    simp only [setMember, dumpMembers, List.length_append, List.length_cons, List.length_nil]
    omega
  | cons member rest ih =>
    obtain ⟨k, v⟩ := member
    rw [setMember]
    split
    · simp only [dumpMembers, List.length_append, List.length_cons, List.length_nil]
      omega
    split
    · omega
    cases rest with
    | nil =>
      simp only [setMember, dumpMembers, List.length_append, List.length_cons, List.length_nil]
      omega
    | cons next rest =>
      rw [dumpMembers_cons k v (setMember_ne_nil _ _ _),
        dumpMembers_cons k v (List.cons_ne_nil _ _)]
      simp only [List.length_append, List.length_cons, List.length_nil]
      omega

theorem length_escaped_ascii (chars : List Char) :
    (escaped (ascii (String.ofList chars))).length =
      (chars.flatMap fun c => escapeByte (UInt8.ofNat c.toNat)).length + 2 := by
  rw [ascii, String.toList_ofList, escaped, List.flatMap_map, List.length_append,
    List.length_append]
  simp only [List.length_cons, List.length_nil]
  omega

/-- A rendered object is not longer than its members allow. -/
theorem length_dump_record_le (bound : Nat) {members : List (String × JsonValue)}
    (h : ∀ member ∈ members,
      (escaped (ascii member.1)).length + member.2.dump.length + 2 ≤ bound) :
    (record members).dump.length ≤ members.length * bound + 4 := by
  have hfold (set : List (Bytes × JsonValue)) :
      (members.foldl (fun json member => json.set member.1 member.2) (object set)).dump.length ≤
        members.length * bound + ((dumpMembers set).length + 2) := by
    induction members generalizing set with
    | nil =>
      simp only [List.foldl_nil, dump, List.length_append, List.length_cons, List.length_nil]
      omega
    | cons member members ih =>
      have hmember := h member List.mem_cons_self
      have hset := length_dumpMembers_setMember_le (ascii member.1) member.2 set
      have hrest := ih (fun next hmem => h next (List.mem_cons_of_mem _ hmem))
        (setMember (ascii member.1) member.2 set)
      rw [List.foldl_cons, List.length_cons, Nat.add_one_mul]
      exact hrest.trans (by omega)
  cases members with
  | nil => exact Nat.le_add_left _ _
  | cons => exact (hfold []).trans (by simp only [dumpMembers, List.length_nil]; omega)

end JsonValue

theorem StatField.length_text_le (field : StatField) :
    (JsonValue.escaped (ascii field.text)).length ≤ 60 := by
  cases field <;> exact le_of_eq_of_le (JsonValue.length_escaped_ascii _) (by decide)

/-- The counters are always answered. -/
theorem FabricStats.length_dump_toJson_le (stats : FabricStats) :
    stats.toJson.dump.length ≤ kMaxTextBytes := by
  refine (JsonValue.length_dump_record_le 82 ?_).trans ?_
  · intro member hmember
    obtain ⟨field, hfield, rfl⟩ := List.mem_map.mp hmember
    have hdigits := JsonValue.length_decimalDigits_le (stats.count field)
    have hname := field.length_text_le
    dsimp only
    rw [JsonValue.dump]
    omega
  · rw [List.length_map]
    decide

/-- What an executed request is answered with gets through exactly if its text is within the
ceiling of a text, however much more a payload may hold. The text is the one that came with a
refused request, the one that an observation reads off the runtime, or what a call comes to; the
counters and the farewell are within the ceiling. -/
theorem answerable_iff (fabric : Fabric) (request : WireRequest) (response : WireResponse)
    (maxPayload : UInt64) :
    (Answerable (executeRequest fabric request response).1.2 maxPayload ↔
      ((executeRequest fabric request response).1.2.size ≤ frameCeiling maxPayload →
        (executeRequest fabric request response).1.2.body.length ≤ kMaxTextBytes)) ∧
    (∀ code, request.parse = .error code →
      (Answerable (executeRequest fabric request response).1.2 maxPayload ↔
        (response.size ≤ frameCeiling maxPayload → response.body.length ≤ kMaxTextBytes))) ∧
    (∀ command, request.parse = .ok command →
      (Answerable (executeRequest fabric request response).1.2 maxPayload ↔
        ((command.answer fabric response).2.size ≤ frameCeiling maxPayload →
          (command.text fabric response).length ≤ kMaxTextBytes))) ∧
    (request.parse = .ok .stats ∨ request.parse = .ok .shutdown →
      Answerable (executeRequest fabric request response).1.2 maxPayload) := by
  have hcommand (command : Command) (hparse : request.parse = .ok command) :
      Answerable (executeRequest fabric request response).1.2 maxPayload ↔
        ((command.answer fabric response).2.size ≤ frameCeiling maxPayload →
          (command.text fabric response).length ≤ kMaxTextBytes) := by
    rw [executeRequest_eq, hparse, ← command.body_answer]
    exact answerable_iff_length _ _
  refine ⟨answerable_iff_length _ _, fun code hparse => ?_, hcommand, ?_⟩
  · rw [executeRequest_eq, hparse]
    exact answerable_iff_length _ _
  · have hfarewell :
        (ascii "\x7b\"accepted\":true,\"status\":\x7b\"code\":\"OK\"\x7d\x7d").length ≤
          kMaxTextBytes := by
      decide
    rintro (hparse | hparse)
    · exact (hcommand _ hparse).mpr fun _ => fabric.state.stats.length_dump_toJson_le
    · exact (hcommand _ hparse).mpr fun _ => hfarewell

namespace Fleet

/-- A name of as many letters as a name may have. -/
def spacious (last : UInt8) : Bytes := List.replicate 63 97 ++ [last]

def spread (target : TargetName) : Fabric.Op :=
  .registerTarget
    { name := target, host := ⟨spacious 104, by decide⟩, device := ⟨spacious 100, by decide⟩
      scope := ⟨spacious 122, by decide⟩, incarnation := { host := ⟨1⟩, device := ⟨1⟩ } }
    operator

/-- Seven targets with long names are registered. -/
def widespread : List Fabric.Op :=
  [.openFabric, .enrollSource operator .operator, .setTopologyGeneration ⟨1⟩ operator,
    spread ⟨spacious 97, by decide⟩, spread ⟨spacious 98, by decide⟩,
    spread ⟨spacious 99, by decide⟩, spread ⟨spacious 100, by decide⟩,
    spread ⟨spacious 101, by decide⟩, spread ⟨spacious 102, by decide⟩,
    spread ⟨spacious 103, by decide⟩]

end Fleet

/-- The view of seven targets is a text of 4200 bytes: it is not encoded, though the payload of
a frame would hold it many times. -/
theorem not_answerable_widespread : Fabric.Reachable {} (Fleet.running Fleet.widespread) ∧
    ¬ Answerable (executeRequest (Fleet.running Fleet.widespread) {} {}).1.2 1048576 := by
  refine ⟨Fleet.reachable_running _, fun hanswerable => ?_⟩
  have hbody :
      (executeRequest (Fleet.running Fleet.widespread) {} {}).1.2.body.length = 4200 := by
    decide +kernel
  have hfits := encodeResponse_isSome.mp <| hanswerable <| by
    rw [WireResponse.size, hbody]
    decide
  rw [hbody] at hfits
  exact absurd hfits.1 (by decide)

end OffloadFabric
