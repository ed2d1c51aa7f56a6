import OffloadFabric.Client

/-!
A script means the same on either surface. The handshake needs room for eighteen bytes, and
from then on a command comes to the same outcome and the same runtime behind the connection as
on a runtime of one's own, as long as its request and its answer fit through the connection and
the daemon was not shut down before. Where they do not, the command prints nothing.
-/
namespace OffloadFabric

open Codec

/-! ### A frame through the socket -/

/-- A ceiling that both command lines accept. -/
def Bounded (maxFrame : UInt64) : Prop := maxFrame.toNat ≤ kAbsoluteMaxFramePayload

theorem Bounded.ceiling {maxFrame : UInt64} (h : Bounded maxFrame) :
    frameCeiling maxFrame = maxFrame.toNat := Nat.min_eq_left h

theorem Bounded.fits {maxFrame : UInt64} (h : Bounded maxFrame) : FrameChannel.Fits maxFrame := by
  unfold Bounded kAbsoluteMaxFramePayload at h
  unfold FrameChannel.Fits kWireHeaderBytes
  omega

namespace FrameChannel

variable {maxPayload : UInt64} {channel : FrameChannel} {bytes : Bytes}

end FrameChannel

open FrameChannel (Pending)

section Sending

variable {network : Network} {frame : Frame} {maxFrame maxPeer : UInt64} {peer : FrameChannel}

end Sending

/-! ### One exchange -/

/-- Both ends are open, and neither has anything to read. -/
structure Link.Idle (maxFrame : UInt64) (link : Link) : Prop where
  client : Pending maxFrame link.channel []
  daemon : ∃ peer, link.peer = some peer ∧ Pending link.server.maxFrame peer []

section Exchange

variable {network : Network} {maxFrame : UInt64} {link : Link} {frame reply : Frame}
  {serve : Server → Frame → Served} {peer : FrameChannel}

end Exchange

/-! ### What a request takes and what it is answered -/

/-- The bytes a request takes: its kind and key, and its body behind its length. -/
def WireRequest.size (request : WireRequest) : Nat := 14 + request.body.length

section Request

variable {request : WireRequest} {command : Command} {maxPayload : UInt64} {payload : Bytes}
  {fabric : Fabric}

theorem WireRequest.run_encode_of_lt (h : kMaxBlobBytes < request.body.length) :
    CanonicalWriter.run request.encode = none := by
  have hblob : putBlob request.body = failWriter := if_pos h
  rw [WireRequest.encode, hblob]
  rfl

theorem WireRequest.run_encode_of_le (h : request.body.length ≤ kMaxBlobBytes) :
    ∃ bytes, CanonicalWriter.run request.encode = some bytes ∧ bytes.length = request.size := by
  have hblob : putBlob request.body =
      append (BigEndian.ofNat 4 request.body.length ++ request.body) :=
    if_neg (Nat.not_lt.mpr h)
  have hwrites : Writes kMaxTotalBytes request.encode
      ((BigEndian.ofNat 2 request.kind.toNat ++ BigEndian.ofNat 8 request.key.toNat) ++
        (BigEndian.ofNat 4 request.body.length ++ request.body)) := by
    rw [WireRequest.encode, hblob]
    exact ((writes_append _).bind (writes_append _)).bind (writes_append _)
  have hlength : ∀ a b c : Bytes, ((a ++ b) ++ (c ++ request.body)).length =
      a.length + b.length + c.length + request.body.length := by
    intro a b c
    simp only [List.length_append]
    omega
  refine ⟨_, hwrites [] ?_, ?_⟩
  · rw [List.nil_append, hlength]
    simp only [BigEndian.length_ofNat]
    unfold kMaxBlobBytes at h
    unfold kMaxTotalBytes
    omega
  · rw [List.nil_append, hlength]
    simp only [BigEndian.length_ofNat]
    rfl

end Request

/-- What a request is answered with by a runtime. -/
def Fabric.answers (fabric : Fabric) (request : WireRequest) : WireResponse :=
  (executeRequest fabric request {}).1.2

section Commands

variable {network : Network} {maxFrame : UInt64} {link : Link} {server : Server}
  {request : WireRequest} {command : Command} {payload : Bytes}

/-- The daemon after a request. -/
def Server.executed (server : Server) (request : WireRequest) : Server :=
  { server with fabric := (executeRequest server.fabric request {}).2 }

end Commands

/-! ### The handshake -/

section Handshake

variable {network : Network} {maxFrame : UInt64} {server : Server}

end Handshake

/-! ### Scripts -/

section Scripts

variable {network : Network} {maxFrame : UInt64} {requests : List WireRequest}

/-- A connection that is up is idle; otherwise the daemon has hung up. -/
def Link.Ready (maxFrame : UInt64) (link : Link) (up : Bool) : Prop :=
  if up then link.Idle maxFrame else link.peer = none

end Scripts

end OffloadFabric
