import OffloadFabric.Store

/-!
What the scan of a journal finds in bytes that the store itself wrote: complete
frames are read back one by one, and a frame that was cut short is a torn tail at
exactly the offset where it began.
-/
namespace OffloadFabric

/-! ### Codes -/

/-- A code is the position of its name in a list that holds every name once, from 1 on. -/
theorem idxOf_add_one_of_getElem? {α : Type} [DecidableEq α] {names : List α} {name : α}
    {raw : Nat} (hnodup : names.Nodup) (hraw : raw ≠ 0) (h : names[raw - 1]? = some name) :
    names.idxOf name + 1 = raw := by
  obtain ⟨hlt, hget⟩ := List.getElem?_eq_some_iff.mp h
  have hindex : names.idxOf name = raw - 1 := by
    rw [← hget]
    exact hnodup.idxOf_getElem _ hlt
  omega

/-! ### Fields at fixed offsets -/

theorem readField_at (before field after : Bytes) :
    readField (before ++ (field ++ after)) before.length field.length =
      BigEndian.toNat field := by simp [readField]

/-- A field that the data starts with, up to the end of the field, is read back. -/
theorem readField_of_isPrefix (before : Bytes) {data : Bytes} {width n : Nat} (hn : n < 256 ^ width)
    (h : before ++ BigEndian.ofNat width n <+: data) :
    readField data before.length width = n := by
  obtain ⟨after, rfl⟩ := h
  have hread := readField_at before (BigEndian.ofNat width n) after
  rw [BigEndian.length_ofNat, BigEndian.toNat_ofNat_of_lt hn] at hread
  rw [List.append_assoc, hread]

/-- Writing a field again gives the bytes it was read from. -/
theorem ofNat_readField {data : Bytes} {offset width : Nat} (h : offset + width ≤ data.length) :
    BigEndian.ofNat width (readField data offset width) = (data.drop offset).take width := by
  have hlength : ((data.drop offset).take width).length = width := by
    rw [List.length_take, List.length_drop]
    omega
  have hwritten := BigEndian.ofNat_toNat ((data.drop offset).take width)
  rwa [hlength] at hwritten

theorem readField_lt {data : Bytes} {offset width : Nat} (h : offset + width ≤ data.length) :
    readField data offset width < 256 ^ width := by
  have hlt := BigEndian.toNat_lt ((data.drop offset).take width)
  rwa [List.length_take, List.length_drop, Nat.min_eq_left (by omega)] at hlt

theorem length_recordHeader (kind : RecordKind) (sequence : UInt64) (payload : Bytes) :
    (recordHeader kind sequence payload).length = kFrameHeaderBytes := by
  simp [recordHeader, kFrameHeaderBytes]

theorem RawFrame.length_bytes (frame : RawFrame) :
    frame.bytes.length = kFrameHeaderBytes + frame.payload.length + kFrameTrailerBytes := by
  simp [RawFrame.bytes, buildRecordFrame, length_recordHeader, kFrameTrailerBytes, Nat.add_assoc]

/-- The checksum a header carries for its payload. -/
def payloadCrc (payload : Bytes) : Nat :=
  if payload.isEmpty then 0 else (crc32c payload).toNat

theorem payloadCrc_lt (payload : Bytes) : payloadCrc payload < 256 ^ 4 := by
  unfold payloadCrc
  split
  · omega
  · exact (crc32c payload).toNat_lt

/-- Data that starts with the header of `frame`. -/
def StartsFrame (frame : RawFrame) (data : Bytes) : Prop :=
  data.take kFrameHeaderBytes = recordHeader frame.kind frame.sequence frame.payload

section Header

variable {frame : RawFrame} {data : Bytes}

theorem StartsFrame.field (h : StartsFrame frame data) (before : Bytes) {width n : Nat}
    (hn : n < 256 ^ width) (hparts : before ++ BigEndian.ofNat width n <+:
      recordHeader frame.kind frame.sequence frame.payload) :
    readField data before.length width = n := by
  refine readField_of_isPrefix before hn (hparts.trans ?_)
  rw [← h]
  exact List.take_prefix _ _

theorem StartsFrame.magic (h : StartsFrame frame data) : readField data 0 4 = kFrameMagic := by
  refine h.field [] (by decide) ?_
  simp [recordHeader]

theorem StartsFrame.version (h : StartsFrame frame data) :
    readField data 4 2 = kStoreFormatVersion := by
  refine h.field (BigEndian.ofNat 4 kFrameMagic) (by decide) ?_
  simp [recordHeader]

theorem StartsFrame.kind (h : StartsFrame frame data) :
    readField data 6 2 = frame.kind.code := by
  refine h.field (BigEndian.ofNat 4 kFrameMagic ++ BigEndian.ofNat 2 kStoreFormatVersion)
    (RecordKind.code_lt _) ?_
  simp [recordHeader]

theorem StartsFrame.payloadLength (h : StartsFrame frame data)
    (hsize : frame.payload.length < 256 ^ 4) :
    readField data 8 4 = frame.payload.length := by
  refine h.field (BigEndian.ofNat 4 kFrameMagic ++ BigEndian.ofNat 2 kStoreFormatVersion ++
    BigEndian.ofNat 2 frame.kind.code) hsize ?_
  simp [recordHeader]

theorem StartsFrame.sequence (h : StartsFrame frame data) :
    readField data 12 8 = frame.sequence.toNat := by
  refine h.field (BigEndian.ofNat 4 kFrameMagic ++ BigEndian.ofNat 2 kStoreFormatVersion ++
    BigEndian.ofNat 2 frame.kind.code ++ BigEndian.ofNat 4 frame.payload.length)
    frame.sequence.toNat_lt ?_
  simp [recordHeader]

theorem StartsFrame.crc (h : StartsFrame frame data) :
    readField data 20 4 = payloadCrc frame.payload := by
  refine h.field (BigEndian.ofNat 4 kFrameMagic ++ BigEndian.ofNat 2 kStoreFormatVersion ++
    BigEndian.ofNat 2 frame.kind.code ++ BigEndian.ofNat 4 frame.payload.length ++
    BigEndian.ofNat 8 frame.sequence.toNat) (payloadCrc_lt _) ?_
  simp [recordHeader, payloadCrc]

end Header

/-! ### Whole and torn frames -/

theorem RawFrame.startsFrame (frame : RawFrame) (rest : Bytes) :
    StartsFrame frame (frame.bytes ++ rest) := by
  have hlength := length_recordHeader frame.kind frame.sequence frame.payload
  unfold StartsFrame RawFrame.bytes buildRecordFrame
  simp only [List.append_assoc]
  rw [← hlength, List.take_left]

theorem RawFrame.startsFrame_take (frame : RawFrame) {count : Nat}
    (hheader : kFrameHeaderBytes ≤ count) : StartsFrame frame (frame.bytes.take count) := by
  have hwhole := frame.startsFrame []
  unfold StartsFrame at hwhole ⊢
  rw [List.append_nil] at hwhole
  rw [List.take_take, Nat.min_eq_left hheader, hwhole]

/-- A complete frame is read back, whatever follows it. -/
theorem readFrame_bytes (options : StoreOptions) (frame : RawFrame) (rest : Bytes)
    (hsize : frame.payload.length ≤ options.maxRecordPayloadBytes.toNat) :
    readFrame options (frame.bytes ++ rest) = .ok (frame, frame.bytes.length) := by
  have hstarts := frame.startsFrame rest
  have hmax := options.maxRecordPayloadBytes.toNat_lt
  have hlength := frame.length_bytes
  have hheader : (frame.bytes ++ rest).take kFrameHeaderBytes =
      recordHeader frame.kind frame.sequence frame.payload := hstarts
  have hpayload : ((frame.bytes ++ rest).drop kFrameHeaderBytes).take frame.payload.length =
      frame.payload := by
    have hdrop (body : Bytes) : (recordHeader frame.kind frame.sequence frame.payload ++
        body).drop kFrameHeaderBytes = body := by
      rw [← length_recordHeader frame.kind frame.sequence frame.payload, List.drop_left]
    simp only [RawFrame.bytes, buildRecordFrame, List.append_assoc]
    rw [hdrop, List.take_left]
  have htrailer : readField (frame.bytes ++ rest) (kFrameHeaderBytes + frame.payload.length) 4 =
      (crc32c (recordHeader frame.kind frame.sequence frame.payload ++ frame.payload)).toNat := by
    have hread := readField_at (recordHeader frame.kind frame.sequence frame.payload ++
      frame.payload) (BigEndian.ofNat 4 (crc32c (recordHeader frame.kind frame.sequence
        frame.payload ++ frame.payload)).toNat) rest
    rw [BigEndian.length_ofNat, BigEndian.toNat_ofNat_of_lt (UInt32.toNat_lt _),
      List.length_append, length_recordHeader] at hread
    simpa only [RawFrame.bytes, buildRecordFrame, List.append_assoc] using hread
  unfold readFrame
  rw [hstarts.magic, hstarts.version, hstarts.kind, hstarts.payloadLength (by omega),
    hstarts.crc, hstarts.sequence, RecordKind.ofCode?_code]
  simp only [hheader, hpayload, htrailer, ← crc32c_append]
  have hfits : ¬ (frame.bytes ++ rest).length <
      kFrameHeaderBytes + frame.payload.length + kFrameTrailerBytes := by
    rw [List.length_append]
    omega
  simp only [ne_eq, not_true_eq_false, if_false, if_neg (Nat.not_lt.mpr hsize), if_neg hfits,
    hlength, payloadCrc, UInt64.ofNat_toNat]

/-- A frame cut short after its header is torn. -/
theorem readFrame_torn (options : StoreOptions) (frame : RawFrame) {count : Nat}
    (hsize : frame.payload.length ≤ options.maxRecordPayloadBytes.toNat)
    (hheader : kFrameHeaderBytes ≤ count) (hcut : count < frame.bytes.length) :
    readFrame options (frame.bytes.take count) = .error .tornTail := by
  have hmax := options.maxRecordPayloadBytes.toNat_lt
  have hlength := frame.length_bytes
  have hstarts := frame.startsFrame_take hheader
  unfold readFrame
  rw [hstarts.magic, hstarts.version, hstarts.kind, hstarts.payloadLength (by omega),
    RecordKind.ofCode?_code]
  have hshort : (frame.bytes.take count).length <
      kFrameHeaderBytes + frame.payload.length + kFrameTrailerBytes := by
    rw [List.length_take]
    omega
  simp only [ne_eq, not_true_eq_false, if_false, if_neg (Nat.not_lt.mpr hsize), if_pos hshort]

/-- A frame whose payload is above the bound of the reader is corrupt. -/
theorem readFrame_oversized (options : StoreOptions) (frame : RawFrame) {data : Bytes}
    (hstarts : StartsFrame frame data) (hlength : frame.payload.length < 256 ^ 4)
    (hsize : options.maxRecordPayloadBytes.toNat < frame.payload.length) :
    readFrame options data = .error .corrupt := by
  unfold readFrame
  rw [hstarts.magic, hstarts.version, hstarts.kind, hstarts.payloadLength hlength,
    RecordKind.ofCode?_code]
  simp only [ne_eq, not_true_eq_false, if_false, if_pos hsize]

/-! ### Scanning -/

@[simp] theorem framesBytes_nil : framesBytes [] = [] := rfl

@[simp] theorem framesBytes_cons (frame : RawFrame) (rest : List RawFrame) :
    framesBytes (frame :: rest) = frame.bytes ++ framesBytes rest := rfl

@[simp] theorem framesBytes_append (first second : List RawFrame) :
    framesBytes (first ++ second) = framesBytes first ++ framesBytes second := by
  simp [framesBytes]

theorem scanFrames_short (options : StoreOptions) {data : Bytes}
    (h : data.length < kFrameHeaderBytes + kFrameTrailerBytes) :
    scanFrames options data =
      { status := if data.isEmpty then .clean else .tornTail, frames := [], badOffset := 0 } := by
  rw [scanFrames, dif_neg (by omega)]

theorem scanFrames_error (options : StoreOptions) {data : Bytes} {status : ScanStatus}
    (hlength : kFrameHeaderBytes + kFrameTrailerBytes ≤ data.length)
    (hread : readFrame options data = .error status) :
    scanFrames options data = { status, frames := [], badOffset := 0 } := by
  rw [scanFrames, dif_pos hlength]
  split
  · rename_i status' hread'
    rw [hread] at hread'
    cases hread'
    rfl
  · rename_i hread'
    rw [hread] at hread'
    cases hread'

theorem scanFrames_ok (options : StoreOptions) {data : Bytes} {frame : RawFrame} {size : Nat}
    (hlength : kFrameHeaderBytes + kFrameTrailerBytes ≤ data.length)
    (hread : readFrame options data = .ok (frame, size)) :
    scanFrames options data =
      { scanFrames options (data.drop size) with
        frames := frame :: (scanFrames options (data.drop size)).frames
        badOffset := size + (scanFrames options (data.drop size)).badOffset } := by
  rw [scanFrames, dif_pos hlength]
  split
  · rename_i hread'
    rw [hread] at hread'
    cases hread'
  · rename_i frame' size' hread'
    rw [hread] at hread'
    cases hread'
    rfl

/-- Scanning a complete frame and then the rest. -/
theorem scanFrames_bytes (options : StoreOptions) (frame : RawFrame) (rest : Bytes)
    (hsize : frame.payload.length ≤ options.maxRecordPayloadBytes.toNat) :
    scanFrames options (frame.bytes ++ rest) =
      { scanFrames options rest with
        frames := frame :: (scanFrames options rest).frames
        badOffset := frame.bytes.length + (scanFrames options rest).badOffset } := by
  have hlength := frame.length_bytes
  have hfits : kFrameHeaderBytes + kFrameTrailerBytes ≤ (frame.bytes ++ rest).length := by
    rw [List.length_append]
    omega
  have hscan := scanFrames_ok options hfits (readFrame_bytes options frame rest hsize)
  rwa [List.drop_left] at hscan

/-- The bytes of a frame whose writing was cut short. -/
def tornBytes : Option (RawFrame × Nat) → Bytes
  | none => []
  | some (frame, count) => frame.bytes.take count

/-- Whether a frame reached the disk far enough to be looked at by the next scan. -/
def Seen (torn : Option (RawFrame × Nat)) (frame : RawFrame) : Prop :=
  ∃ count, torn = some (frame, count) ∧ kFrameHeaderBytes + kFrameTrailerBytes ≤ count

/-- A frame that was cut short is not complete. -/
def IsTorn (torn : Option (RawFrame × Nat)) : Prop :=
  ∀ frame count, torn = some (frame, count) → count < frame.bytes.length

theorem scanFrames_torn (options : StoreOptions) {torn : Option (RawFrame × Nat)}
    (htorn : IsTorn torn)
    (hsize : ∀ frame, Seen torn frame →
      frame.payload.length ≤ options.maxRecordPayloadBytes.toNat) :
    scanFrames options (tornBytes torn) =
      { status := if (tornBytes torn).isEmpty then .clean else .tornTail
        frames := [], badOffset := 0 } := by
  cases torn with
  | none => exact scanFrames_short options (by decide)
  | some cut =>
    obtain ⟨frame, count⟩ := cut
    have hcut := htorn frame count rfl
    have hlength : (frame.bytes.take count).length = count := by
      rw [List.length_take]
      omega
    by_cases hshort : count < kFrameHeaderBytes + kFrameTrailerBytes
    · exact scanFrames_short options (by rw [tornBytes, hlength]; exact hshort)
    · have hnonempty : (frame.bytes.take count).isEmpty = false := by
        rw [← Bool.not_eq_true, List.isEmpty_iff_length_eq_zero, hlength]
        unfold kFrameHeaderBytes at hshort
        omega
      have hread := readFrame_torn options frame
        (hsize frame ⟨count, rfl, by omega⟩) (by omega) hcut
      rw [tornBytes, hnonempty]
      exact scanFrames_error options (by rw [hlength]; omega) hread

theorem scanFrames_journal (options : StoreOptions) (frames : List RawFrame) (rest : Bytes)
    (hsize : ∀ frame ∈ frames,
      frame.payload.length ≤ options.maxRecordPayloadBytes.toNat) :
    scanFrames options (framesBytes frames ++ rest) =
      { scanFrames options rest with
        frames := frames ++ (scanFrames options rest).frames
        badOffset := (framesBytes frames).length + (scanFrames options rest).badOffset } := by
  induction frames with
  | nil => simp
  | cons frame frames ih =>
    rw [framesBytes_cons, List.append_assoc,
      scanFrames_bytes options frame _ (hsize frame List.mem_cons_self),
      ih fun f hf => hsize f (List.mem_cons_of_mem _ hf)]
    simp [Nat.add_assoc]

/-- A scan of what the store wrote that does not refuse it met no oversized payload. -/
theorem payloads_of_accepted (options : StoreOptions) (frames : List RawFrame)
    {torn : Option (RawFrame × Nat)} (htorn : IsTorn torn)
    (hbounded : ∀ frame, frame ∈ frames ∨ Seen torn frame → frame.payload.length < 256 ^ 4)
    (haccepted : (scanFrames options (framesBytes frames ++ tornBytes torn)).status ≠ .corrupt) :
    ∀ frame, frame ∈ frames ∨ Seen torn frame →
      frame.payload.length ≤ options.maxRecordPayloadBytes.toNat := by
  induction frames with
  | nil =>
    intro frame hframe
    have hseen : Seen torn frame := by simpa using hframe
    have hsized := hbounded frame hframe
    obtain ⟨count, rfl, hcount⟩ := hseen
    have hcut := htorn frame count rfl
    by_contra hlarge
    have hread := readFrame_oversized options frame
      (frame.startsFrame_take (Nat.le_trans (Nat.le_add_right _ _) hcount)) hsized
      (Nat.lt_of_not_le hlarge)
    have hscan := scanFrames_error options
      (by rw [List.length_take]; omega) hread
    exact haccepted (by simpa [tornBytes] using congrArg ScanResult.status hscan)
  | cons head rest ih =>
    rw [framesBytes_cons, List.append_assoc] at haccepted
    have hhead : head.payload.length ≤ options.maxRecordPayloadBytes.toNat := by
      by_contra hlarge
      have hlength := head.length_bytes
      have hread := readFrame_oversized options head
        (head.startsFrame (framesBytes rest ++ tornBytes torn))
        (hbounded head (Or.inl List.mem_cons_self)) (Nat.lt_of_not_le hlarge)
      have hscan := scanFrames_error options
        (by rw [List.length_append]; omega) hread
      exact haccepted (congrArg ScanResult.status hscan)
    rw [scanFrames_bytes options head _ hhead] at haccepted
    have hrest := ih
      (fun frame hframe => hbounded frame (hframe.imp (List.mem_cons_of_mem _) id)) haccepted
    rintro frame (hframe | hseen)
    · rcases List.mem_cons.mp hframe with rfl | hframe
      · exact hhead
      · exact hrest frame (Or.inl hframe)
    · exact hrest frame (Or.inr hseen)

/-- A scan that meets no oversized payload finds every complete frame. -/
theorem scanFrames_found (options : StoreOptions) (frames : List RawFrame)
    {torn : Option (RawFrame × Nat)} (htorn : IsTorn torn)
    (hpayloads : ∀ frame, frame ∈ frames ∨ Seen torn frame →
      frame.payload.length ≤ options.maxRecordPayloadBytes.toNat) :
    scanFrames options (framesBytes frames ++ tornBytes torn) =
      { status := if (tornBytes torn).isEmpty then .clean else .tornTail
        frames, badOffset := (framesBytes frames).length } := by
  rw [scanFrames_journal options frames _ fun f hf => hpayloads f (Or.inl hf),
    scanFrames_torn options htorn fun f hf => hpayloads f (Or.inr hf)]
  simp

end OffloadFabric
