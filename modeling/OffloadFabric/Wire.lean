import OffloadFabric.ByteStream
import OffloadFabric.Reason
import OffloadFabric.StoreFrames

/-!
The framed wire protocol: a fixed header, a bounded payload with its checksum, and the
channel that reads frames off a socket. A frame that was encoded is decoded again with
whatever follows it untouched, nothing else decodes, and the channel returns the frames
that were sent, however the socket cut them up.
-/
namespace OffloadFabric

def kWireMagic : Nat := 0x4F464652
def kProtocolVersion : Nat := 1
def kWireHeaderBytes : Nat := 24
def kAbsoluteMaxFramePayload : Nat := 67108864

inductive WireMessage where
  | hello | welcome | request | response | error | shutdown | cancel
  deriving DecidableEq, Inhabited, Repr

namespace WireMessage

def all : List WireMessage := [.hello, .welcome, .request, .response, .error, .shutdown, .cancel]

/-- The number on the wire: messages are numbered from one, in order. -/
def code (kind : WireMessage) : Nat := all.idxOf kind + 1

def ofCode? (raw : Nat) : Option WireMessage := if raw = 0 then none else all[raw - 1]?

theorem ofCode?_code (kind : WireMessage) : ofCode? kind.code = some kind := by
  cases kind <;> rfl

theorem code_lt (kind : WireMessage) : kind.code < 256 ^ 2 := by
  cases kind <;> decide

theorem code_of_ofCode? {raw : Nat} {kind : WireMessage} (h : ofCode? raw = some kind) :
    kind.code = raw := by
  unfold ofCode? at h
  split at h
  · cases h
  · rename_i hraw
    exact idxOf_add_one_of_getElem? (by decide) hraw h

end WireMessage

structure Frame where
  kind : WireMessage := .request
  correlation : UInt64 := 0
  payload : Bytes := []
  deriving DecidableEq

/-! ### One frame -/

def Frame.header (frame : Frame) : Bytes :=
  BigEndian.ofNat 4 kWireMagic ++ BigEndian.ofNat 2 kProtocolVersion ++
    BigEndian.ofNat 2 frame.kind.code ++ BigEndian.ofNat 8 frame.correlation.toNat ++
    BigEndian.ofNat 4 frame.payload.length ++ BigEndian.ofNat 4 (payloadCrc frame.payload)

/-- The most payload bytes a frame may have under a negotiated `max_payload`. -/
def frameCeiling (maxPayload : UInt64) : Nat := min maxPayload.toNat kAbsoluteMaxFramePayload

def encodeFrame (frame : Frame) (maxPayload : UInt64) : Except Reason Bytes :=
  if frameCeiling maxPayload < frame.payload.length then .error .oversized
  else if 2 ^ 32 ≤ frame.payload.length then .error .oversized
  else .ok (frame.header ++ frame.payload)

/-- The frame at the start of `data` with the bytes it takes, or why there is none. -/
def decodeFrame (data : Bytes) (maxPayload : UInt64) : Except Reason (Frame × Nat) :=
  if data.length < kWireHeaderBytes then .error .truncated
  else if readField data 0 4 ≠ kWireMagic then .error .malformed
  else if readField data 4 2 ≠ kProtocolVersion then .error .protocolVersionMismatch
  else
    match WireMessage.ofCode? (readField data 6 2) with
    | none => .error .unsupportedSemantics
    | some kind =>
      let length := readField data 16 4
      if frameCeiling maxPayload < length then .error .frameTooLarge
      else if data.length < kWireHeaderBytes + length then .error .truncated
      else
        let payload := (data.drop kWireHeaderBytes).take length
        if readField data 20 4 ≠ payloadCrc payload then .error .checksumMismatch
        else .ok ({ kind, correlation := UInt64.ofNat (readField data 8 8), payload },
          kWireHeaderBytes + length)

/-! ### The channel -/

/-- A channel and what its socket has yet to deliver before the peer closes it, in the pieces
in which that arrives. The bytes of `buffer` before `start` were handed out already. -/
structure FrameChannel where
  socket : List Bytes
  maxPayload : UInt64
  buffer : Bytes := []
  start : Nat := 0

/-- Buffer `needed` bytes. The bound on them is computed in `size_t`. -/
def FrameChannel.fill (channel : FrameChannel) (needed : Nat) : Bool × FrameChannel :=
  if needed ≤ channel.buffer.length - channel.start then (true, channel)
  else
    let channel := { channel with buffer := channel.buffer.drop channel.start, start := 0 }
    if (channel.maxPayload + UInt64.ofNat kWireHeaderBytes).toNat < needed then (false, channel)
    else
      match recvExact (needed - channel.buffer.length) channel.socket with
      | none => (false, { channel with socket := [] })
      | some (bytes, socket) =>
        (true, { channel with socket, buffer := channel.buffer ++ bytes })

def FrameChannel.recvFrame (channel : FrameChannel) : Except Reason Frame × FrameChannel :=
  match channel.fill kWireHeaderBytes with
  | (false, channel) => (.error .transportClosed, channel)
  | (true, channel) =>
    let header := channel.buffer.drop channel.start
    if readField header 0 4 ≠ kWireMagic then (.error .malformed, channel)
    else if readField header 4 2 ≠ kProtocolVersion then
      (.error .protocolVersionMismatch, channel)
    else
      let length := readField header 16 4
      if frameCeiling channel.maxPayload < length then (.error .frameTooLarge, channel)
      else
        match channel.fill (kWireHeaderBytes + length) with
        | (false, channel) => (.error .transportClosed, channel)
        | (true, channel) =>
          match decodeFrame (channel.buffer.drop channel.start) channel.maxPayload with
          | .error code => (.error code, channel)
          | .ok (frame, consumed) =>
            (.ok frame, { channel with start := channel.start + consumed })

/-- A fresh channel on a socket that delivers `pieces` and is then closed by the peer. -/
def FrameChannel.opened (pieces : List Bytes) (maxPayload : UInt64) : FrameChannel :=
  { socket := pieces, maxPayload }

/-- What `count` calls of `recv_frame` in a row answer. -/
def FrameChannel.received (channel : FrameChannel) (count : Nat) : List (Except Reason Frame) :=
  answers FrameChannel.recvFrame count channel

/-! ### Frames and their bytes -/

theorem Frame.length_header (frame : Frame) : frame.header.length = kWireHeaderBytes := by
  simp [Frame.header, kWireHeaderBytes]

/-- The ceiling is far below what the length field can hold. -/
theorem lt_of_le_frameCeiling {maxPayload : UInt64} {size : Nat}
    (h : size ≤ frameCeiling maxPayload) : size < 256 ^ 4 := by
  have hceiling := h.trans (Nat.min_le_right maxPayload.toNat kAbsoluteMaxFramePayload)
  unfold kAbsoluteMaxFramePayload at hceiling
  omega

theorem encodeFrame_ok {frame : Frame} {maxPayload : UInt64} {bytes : Bytes} :
    encodeFrame frame maxPayload = .ok bytes ↔
      frame.payload.length ≤ frameCeiling maxPayload ∧ bytes = frame.header ++ frame.payload := by
  unfold encodeFrame
  split
  · rename_i hlarge
    constructor
    · intro h
      cases h
    · intro h
      omega
  · rename_i hlarge
    have hsize := lt_of_le_frameCeiling (Nat.not_lt.mp hlarge)
    rw [if_neg (by omega)]
    constructor
    · intro h
      exact ⟨by omega, (Except.ok.inj h).symm⟩
    · intro h
      rw [h.2]

/-- The numbers in the first bytes of `data` are those of the header of `frame`. -/
structure Heads (frame : Frame) (data : Bytes) : Prop where
  magic : readField data 0 4 = kWireMagic
  version : readField data 4 2 = kProtocolVersion
  kind : readField data 6 2 = frame.kind.code
  correlation : readField data 8 8 = frame.correlation.toNat
  length : readField data 16 4 = frame.payload.length
  crc : readField data 20 4 = payloadCrc frame.payload

section Header

variable {frame : Frame} {data : Bytes}

theorem heads_of_isPrefix (hsize : frame.payload.length < 256 ^ 4) (h : frame.header <+: data) :
    Heads frame data where
  magic := by
    refine readField_of_isPrefix [] (by decide) (List.IsPrefix.trans ?_ h)
    simp [Frame.header]
  version := by
    refine readField_of_isPrefix (BigEndian.ofNat 4 kWireMagic) (by decide)
      (List.IsPrefix.trans ?_ h)
    simp [Frame.header]
  kind := by
    refine readField_of_isPrefix (BigEndian.ofNat 4 kWireMagic ++
      BigEndian.ofNat 2 kProtocolVersion) (WireMessage.code_lt _) (List.IsPrefix.trans ?_ h)
    simp [Frame.header]
  correlation := by
    refine readField_of_isPrefix (BigEndian.ofNat 4 kWireMagic ++
      BigEndian.ofNat 2 kProtocolVersion ++ BigEndian.ofNat 2 frame.kind.code)
      frame.correlation.toNat_lt (List.IsPrefix.trans ?_ h)
    simp [Frame.header]
  length := by
    refine readField_of_isPrefix (BigEndian.ofNat 4 kWireMagic ++
      BigEndian.ofNat 2 kProtocolVersion ++ BigEndian.ofNat 2 frame.kind.code ++
      BigEndian.ofNat 8 frame.correlation.toNat) hsize (List.IsPrefix.trans ?_ h)
    simp [Frame.header]
  crc := by
    refine readField_of_isPrefix (BigEndian.ofNat 4 kWireMagic ++
      BigEndian.ofNat 2 kProtocolVersion ++ BigEndian.ofNat 2 frame.kind.code ++
      BigEndian.ofNat 8 frame.correlation.toNat ++ BigEndian.ofNat 4 frame.payload.length)
      (payloadCrc_lt _) (List.IsPrefix.trans ?_ h)
    simp [Frame.header]

/-- A header is its fields, one after the other. -/
theorem Heads.take (h : Heads frame data) (hlength : kWireHeaderBytes ≤ data.length) :
    data.take kWireHeaderBytes = frame.header := by
  unfold kWireHeaderBytes at hlength
  rw [Frame.header, ← h.magic, ← h.version, ← h.kind, ← h.correlation, ← h.length, ← h.crc,
    ofNat_readField (by omega), ofNat_readField (by omega), ofNat_readField (by omega),
    ofNat_readField (by omega), ofNat_readField (by omega), ofNat_readField (by omega),
    List.drop_zero, ← List.take_add, ← List.take_add, ← List.take_add, ← List.take_add,
      ← List.take_add]
  rfl

/-- Behind a good header only the length and the checksum of the payload can be wrong. -/
theorem Heads.decodeFrame (h : Heads frame data) {maxPayload : UInt64}
    (hlength : kWireHeaderBytes ≤ data.length)
    (hceiling : frame.payload.length ≤ frameCeiling maxPayload) :
    decodeFrame data maxPayload =
      if data.length < kWireHeaderBytes + frame.payload.length then .error .truncated
      else
        let payload := (data.drop kWireHeaderBytes).take frame.payload.length
        if payloadCrc frame.payload ≠ payloadCrc payload then .error .checksumMismatch
        else .ok ({ frame with payload }, kWireHeaderBytes + frame.payload.length) := by
  unfold OffloadFabric.decodeFrame
  rw [if_neg (by omega), h.magic, h.version, h.kind, WireMessage.ofCode?_code, h.length,
    h.correlation, h.crc]
  simp only [ne_eq, not_true_eq_false, if_false, if_neg (Nat.not_lt.mpr hceiling),
    UInt64.ofNat_toNat]

end Header

section Codec

variable {frame : Frame} {maxPayload : UInt64} {bytes : Bytes}

theorem decodeFrame_encodeFrame (h : encodeFrame frame maxPayload = .ok bytes) (rest : Bytes) :
    decodeFrame (bytes ++ rest) maxPayload = .ok (frame, bytes.length) := by
  obtain ⟨hceiling, rfl⟩ := encodeFrame_ok.mp h
  have hheader := frame.length_header
  have hsize := lt_of_le_frameCeiling hceiling
  have hheads : Heads frame (frame.header ++ frame.payload ++ rest) :=
    heads_of_isPrefix hsize (by rw [List.append_assoc]; exact List.prefix_append _ _)
  have hpayload : ((frame.header ++ frame.payload ++ rest).drop kWireHeaderBytes).take
      frame.payload.length = frame.payload := by
    rw [← hheader, List.append_assoc, List.drop_left, List.take_left]
  have hlength : (frame.header ++ frame.payload ++ rest).length =
      kWireHeaderBytes + frame.payload.length + rest.length := by
    rw [List.length_append, List.length_append, hheader]
  rw [hheads.decodeFrame (by omega) hceiling, if_neg (by omega)]
  simp only [hpayload, ne_eq, not_true_eq_false, if_false, List.length_append, hheader]

theorem decodeFrame_ok {data : Bytes} {consumed : Nat}
    (h : decodeFrame data maxPayload = .ok (frame, consumed)) :
    Heads frame data ∧ frame.payload.length ≤ frameCeiling maxPayload ∧
      consumed = kWireHeaderBytes + frame.payload.length ∧ consumed ≤ data.length ∧
      (data.drop kWireHeaderBytes).take frame.payload.length = frame.payload := by
  unfold decodeFrame at h
  split at h
  · cases h
  rename_i hheader
  split at h
  · cases h
  rename_i hmagic
  split at h
  · cases h
  rename_i hversion
  split at h
  · cases h
  rename_i kind hkind
  dsimp only at h
  split at h
  · cases h
  rename_i hceiling
  split at h
  · cases h
  rename_i hlength
  split at h
  · cases h
  rename_i hcrc
  have hread : kWireHeaderBytes ≤ data.length := by omega
  have hpayload : ((data.drop kWireHeaderBytes).take (readField data 16 4)).length =
      readField data 16 4 := by
    rw [List.length_take, List.length_drop]
    omega
  obtain ⟨rfl, rfl⟩ := Prod.mk.inj (Except.ok.inj h)
  refine ⟨⟨?_, ?_, ?_, ?_, ?_, ?_⟩, ?_, ?_, ?_, ?_⟩
  · exact Decidable.not_not.mp hmagic
  · exact Decidable.not_not.mp hversion
  · exact (WireMessage.code_of_ofCode? hkind).symm
  · have hlt : readField data 8 8 < 256 ^ 8 :=
      readField_lt (by unfold kWireHeaderBytes at hread; omega)
    exact (UInt64.toNat_ofNat_of_lt' hlt).symm
  · exact hpayload.symm
  · exact Decidable.not_not.mp hcrc
  · rw [hpayload]
    omega
  · rw [hpayload]
  · omega
  · rw [hpayload]

theorem encodeFrame_decodeFrame {data : Bytes} {consumed : Nat}
    (h : decodeFrame data maxPayload = .ok (frame, consumed)) :
    consumed ≤ data.length ∧ encodeFrame frame maxPayload = .ok (data.take consumed) := by
  obtain ⟨hheads, hceiling, hconsumed, hlength, hpayload⟩ := decodeFrame_ok h
  refine ⟨hlength, encodeFrame_ok.mpr ⟨hceiling, ?_⟩⟩
  rw [hconsumed, List.take_add, hheads.take (by omega), hpayload]

theorem decodeFrame_take (h : encodeFrame frame maxPayload = .ok bytes) {count : Nat}
    (hcount : count < bytes.length) :
    decodeFrame (bytes.take count) maxPayload = .error .truncated := by
  obtain ⟨hceiling, rfl⟩ := encodeFrame_ok.mp h
  have hheader := frame.length_header
  rw [List.length_append, hheader] at hcount
  have hlength : ((frame.header ++ frame.payload).take count).length = count := by
    rw [List.length_take, List.length_append, hheader]
    omega
  by_cases hshort : count < kWireHeaderBytes
  · rw [decodeFrame, if_pos (by omega)]
  · have hsize := lt_of_le_frameCeiling hceiling
    have hprefix : frame.header <+: (frame.header ++ frame.payload).take count :=
      List.prefix_of_prefix_length_le (List.prefix_append _ _) (List.take_prefix _ _) (by omega)
    rw [(heads_of_isPrefix hsize hprefix).decodeFrame (by omega) hceiling, if_pos (by omega)]

end Codec

/-! ### Frames off a socket -/

namespace FrameChannel

/-- The bytes the channel has yet to hand out are `bytes`: what it buffered and did not use,
and what its socket has yet to deliver. -/
structure Pending (maxPayload : UInt64) (channel : FrameChannel) (bytes : Bytes) : Prop where
  ceiling : channel.maxPayload = maxPayload
  within : channel.start ≤ channel.buffer.length
  bytes_eq : channel.buffer.drop channel.start ++ channel.socket.flatten = bytes

section Fill

variable {maxPayload : UInt64} {channel : FrameChannel} {bytes : Bytes}

/-- The two ways to fill: the bytes are there already, or the socket has to give the rest. -/
theorem fill_of_lt {needed : Nat} (h : ¬ needed ≤ channel.buffer.length - channel.start)
    (hceiling : needed ≤ (channel.maxPayload + UInt64.ofNat kWireHeaderBytes).toNat) :
    channel.fill needed =
      match recvExact (needed - (channel.buffer.drop channel.start).length) channel.socket with
      | none => (false, { channel with
          socket := [], buffer := channel.buffer.drop channel.start, start := 0 })
      | some (more, socket) => (true, { channel with
          socket, buffer := channel.buffer.drop channel.start ++ more, start := 0 }) := by
  unfold fill
  rw [if_neg h]
  dsimp only
  rw [if_neg (Nat.not_lt.mpr hceiling)]

theorem Pending.fill (h : Pending maxPayload channel bytes) (needed : Nat)
    (hneeded : needed ≤ bytes.length)
    (hceiling : needed ≤ (maxPayload + UInt64.ofNat kWireHeaderBytes).toNat) :
    ∃ filled, channel.fill needed = (true, filled) ∧ Pending maxPayload filled bytes ∧
      needed ≤ (filled.buffer.drop filled.start).length := by
  by_cases hbuffered : needed ≤ channel.buffer.length - channel.start
  · refine ⟨channel, ?_, h, ?_⟩
    · rw [FrameChannel.fill, if_pos hbuffered]
    · rw [List.length_drop]
      exact hbuffered
  · have hlength := congrArg List.length h.bytes_eq
    rw [List.length_append] at hlength
    have hmissing : needed - (channel.buffer.drop channel.start).length ≤
        channel.socket.flatten.length := by omega
    obtain ⟨left, hread, hleft⟩ := recvExact_of_le hmissing
    rw [fill_of_lt hbuffered (by rw [h.ceiling]; exact hceiling), hread]
    refine ⟨_, rfl, ⟨h.ceiling, Nat.zero_le _, ?_⟩, ?_⟩
    · dsimp only
      rw [List.drop_zero, hleft, List.append_assoc, List.take_append_drop, h.bytes_eq]
    · dsimp only
      rw [List.drop_zero, List.length_append, List.length_take]
      omega

theorem Pending.fill_nil (h : Pending maxPayload channel []) (needed : Nat)
    (hneeded : 0 < needed) :
    ∃ emptied, channel.fill needed = (false, emptied) ∧ Pending maxPayload emptied [] := by
  obtain ⟨hbuffer, hsocket⟩ := List.append_eq_nil_iff.mp h.bytes_eq
  have hstart : channel.buffer.length - channel.start = 0 := by
    rw [← List.length_drop, hbuffer, List.length_nil]
  have hmissing : channel.socket.flatten.length < needed := by
    rw [hsocket]
    exact hneeded
  unfold FrameChannel.fill
  rw [if_neg (by omega)]
  dsimp only
  rw [hbuffer, List.length_nil, Nat.sub_zero, recvExact_of_lt hmissing]
  split
  · exact ⟨_, rfl, h.ceiling, Nat.zero_le _, hsocket⟩
  · exact ⟨_, rfl, h.ceiling, Nat.zero_le _, rfl⟩

end Fill

/-- Whether the size of the largest frame under the ceiling fits in a `size_t`. -/
def Fits (maxPayload : UInt64) : Prop := maxPayload.toNat + kWireHeaderBytes < 2 ^ 64

theorem Fits.toNat {maxPayload : UInt64} (h : Fits maxPayload) :
    (maxPayload + UInt64.ofNat kWireHeaderBytes).toNat = maxPayload.toNat + kWireHeaderBytes := by
  rw [UInt64.toNat_add]
  exact Nat.mod_eq_of_lt h

section Recv

variable {maxPayload : UInt64} {channel : FrameChannel}

theorem Pending.recvFrame (h : Fits maxPayload) {frame : Frame} {rest : Bytes}
    (hframe : frame.payload.length ≤ frameCeiling maxPayload)
    (hpending : Pending maxPayload channel (frame.header ++ frame.payload ++ rest)) :
    (channel.recvFrame).1 = .ok frame ∧ Pending maxPayload (channel.recvFrame).2 rest := by
  have hheader := frame.length_header
  have hlength : (frame.header ++ frame.payload ++ rest).length =
      kWireHeaderBytes + frame.payload.length + rest.length := by
    rw [List.length_append, List.length_append, hheader]
  have hpayload := hframe.trans (Nat.min_le_left maxPayload.toNat kAbsoluteMaxFramePayload)
  obtain ⟨opened, hopened, hopen, hroom⟩ :=
    hpending.fill kWireHeaderBytes (by omega) (by rw [h.toNat]; omega)
  have hheads : Heads frame (opened.buffer.drop opened.start) := by
    refine heads_of_isPrefix (lt_of_le_frameCeiling hframe) (List.prefix_of_prefix_length_le
      ?_ (List.prefix_append _ opened.socket.flatten) (by omega))
    rw [hopen.bytes_eq, List.append_assoc]
    exact List.prefix_append _ _
  obtain ⟨filled, hfilled, hfill, hwhole⟩ :=
    hopen.fill (kWireHeaderBytes + frame.payload.length) (by omega)
      (by rw [h.toNat]; omega)
  -- The buffer starts with the whole frame, and may hold bytes of the next ones behind it.
  obtain ⟨tail, htail⟩ : frame.header ++ frame.payload <+: filled.buffer.drop filled.start := by
    refine List.prefix_of_prefix_length_le ?_ (List.prefix_append _ filled.socket.flatten)
      (by rw [List.length_append]; omega)
    rw [hfill.bytes_eq]
    exact List.prefix_append _ _
  have hdecode := decodeFrame_encodeFrame (encodeFrame_ok.mpr ⟨hframe, rfl⟩) tail
  have hrecv : channel.recvFrame = (.ok frame, { filled with
      start := filled.start + (frame.header ++ frame.payload).length }) := by
    unfold FrameChannel.recvFrame
    rw [hopened]
    dsimp only
    rw [hheads.magic, hheads.version, hheads.length, hopen.ceiling,
      if_neg (by simp), if_neg (by simp), if_neg (Nat.not_lt.mpr hframe), hfilled]
    dsimp only
    rw [← htail, hfill.ceiling, hdecode]
  have hcut := congrArg List.length htail
  rw [List.length_append, List.length_drop] at hcut
  rw [hrecv]
  refine ⟨rfl, hfill.ceiling, ?_, ?_⟩
  · show filled.start + (frame.header ++ frame.payload).length ≤ filled.buffer.length
    have := hfill.within
    omega
  · dsimp only
    have hbytes := hfill.bytes_eq
    rw [← htail, List.append_assoc (frame.header ++ frame.payload)] at hbytes
    rw [← List.drop_drop, ← htail, List.drop_left]
    exact List.append_cancel_left hbytes

theorem Pending.recvFrame_nil (hpending : Pending maxPayload channel []) :
    (channel.recvFrame).1 = .error .transportClosed ∧
      Pending maxPayload (channel.recvFrame).2 [] := by
  obtain ⟨emptied, hemptied, hempty⟩ :=
    hpending.fill_nil kWireHeaderBytes (by decide)
  have hrecv : channel.recvFrame = (.error .transportClosed, emptied) := by
    unfold FrameChannel.recvFrame
    rw [hemptied]
  rw [hrecv]
  exact ⟨rfl, hempty⟩

end Recv

theorem pending_opened (pieces : List Bytes) (maxPayload : UInt64) :
    Pending maxPayload (opened pieces maxPayload) pieces.flatten :=
  ⟨rfl, Nat.le_refl _, by simp [opened]⟩

/-- A fitting channel is a reader of the frames under its ceiling. -/
theorem Fits.readsMessages {maxPayload : UInt64} (h : Fits maxPayload) :
    ReadsMessages FrameChannel.recvFrame (Pending maxPayload)
      (fun frame => frame.header ++ frame.payload) Except.ok (.error .transportClosed)
      (fun frame => frame.payload.length ≤ frameCeiling maxPayload) where
  message hframe hpending := hpending.recvFrame h hframe
  ending hpending := hpending.recvFrame_nil

/-- A channel whose bound has wrapped around does not even read a header. -/
theorem recvFrame_opened {maxPayload : UInt64} (h : ¬ Fits maxPayload) (pieces : List Bytes) :
    ((opened pieces maxPayload).recvFrame).1 = .error .transportClosed := by
  have hwrapped : (maxPayload + UInt64.ofNat kWireHeaderBytes).toNat < kWireHeaderBytes := by
    have hlt := maxPayload.toNat_lt
    have hheader : (UInt64.ofNat kWireHeaderBytes).toNat = kWireHeaderBytes := rfl
    unfold Fits at h
    rw [UInt64.toNat_add, hheader]
    unfold kWireHeaderBytes at h ⊢
    omega
  have hfill : ((opened pieces maxPayload).fill kWireHeaderBytes).1 = false := by
    have hempty : ¬ kWireHeaderBytes ≤ 0 := by decide
    unfold fill opened
    dsimp only
    rw [List.length_nil, Nat.zero_sub, if_neg hempty, if_pos hwrapped]
  unfold recvFrame
  split
  · rfl
  · rename_i hfilled
    rw [hfilled] at hfill
    cases hfill

end FrameChannel

/-! ### The contract of the wire -/

/-- Encoding and decoding agree under one payload ceiling. -/
structure FrameCodec (maxPayload : UInt64) : Prop where
  returned : ∀ {frame bytes}, encodeFrame frame maxPayload = .ok bytes →
    ∀ rest, decodeFrame (bytes ++ rest) maxPayload = .ok (frame, bytes.length)
  canonical : ∀ {data frame consumed}, decodeFrame data maxPayload = .ok (frame, consumed) →
    consumed ≤ data.length ∧ encodeFrame frame maxPayload = .ok (data.take consumed)
  truncated : ∀ {frame bytes}, encodeFrame frame maxPayload = .ok bytes →
    ∀ count < bytes.length, decodeFrame (bytes.take count) maxPayload = .error .truncated

theorem frameCodec (maxPayload : UInt64) : FrameCodec maxPayload where
  returned h rest := decodeFrame_encodeFrame h rest
  canonical h := encodeFrame_decodeFrame h
  truncated h _ hcount := decodeFrame_take h hcount

/-- The channel also returns every sequence of frames that was sent, in whatever pieces it
arrives, and then reports that the peer has closed the connection. -/
structure WireFrames (maxPayload : UInt64) : Prop extends FrameCodec maxPayload where
  delivered : ∀ {frames encodings pieces},
    List.Forall₂ (fun frame bytes => encodeFrame frame maxPayload = .ok bytes) frames encodings →
    pieces.flatten = encodings.flatten →
    ∀ count, (FrameChannel.opened pieces maxPayload).received (frames.length + count) =
      frames.map .ok ++ List.replicate count (.error .transportClosed)

theorem encodings_eq {maxPayload : UInt64} {frames : List Frame} {encodings : List Bytes}
    (h : List.Forall₂ (fun frame bytes => encodeFrame frame maxPayload = .ok bytes)
      frames encodings) :
    (∀ frame ∈ frames, frame.payload.length ≤ frameCeiling maxPayload) ∧
      encodings = frames.map (fun frame => frame.header ++ frame.payload) := by
  induction h with
  | nil => simp
  | cons hframe _ ih =>
    obtain ⟨hceiling, hbytes⟩ := encodeFrame_ok.mp hframe
    constructor
    · intro frame hmem
      rcases List.mem_cons.mp hmem with rfl | hmem
      · exact hceiling
      · exact ih.1 frame hmem
    · rw [List.map_cons, hbytes, ih.2]

/-- The wire keeps its contract under exactly the ceilings whose largest frame has a size. -/
theorem wireFrames_iff (maxPayload : UInt64) :
    WireFrames maxPayload ↔ FrameChannel.Fits maxPayload := by
  constructor
  · intro h
    by_contra hfits
    have hencode : encodeFrame {} maxPayload = .ok (Frame.header {}) :=
      encodeFrame_ok.mpr ⟨Nat.zero_le _, by rw [List.append_nil]⟩
    have hone := @h.delivered [{}] [Frame.header {}] [Frame.header {}] (.cons hencode .nil) rfl 0
    have hrefused := FrameChannel.recvFrame_opened hfits [Frame.header {}]
    simp [FrameChannel.received, answers, hrefused] at hone
  · intro h
    refine ⟨frameCodec maxPayload, ?_⟩
    intro frames encodings pieces hencodings hpieces count
    obtain ⟨hceiling, rfl⟩ := encodings_eq hencodings
    have hpending := FrameChannel.pending_opened pieces maxPayload
    rw [hpieces] at hpending
    exact h.readsMessages.answers_messages hceiling hpending count

/-- Under the largest ceiling a channel refuses the one empty frame it was sent. -/
theorem not_wireFrames_largest : ¬ WireFrames (UInt64.ofNat (2 ^ 64 - 1)) := by
  intro h
  have hencode : encodeFrame {} (UInt64.ofNat (2 ^ 64 - 1)) = .ok (Frame.header {}) := by decide
  have hone := @h.delivered [{}] [Frame.header {}] [Frame.header {}] (.cons hencode .nil) rfl 0
  exact absurd hone (by decide)

end OffloadFabric
