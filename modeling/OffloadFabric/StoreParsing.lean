import OffloadFabric.StoreRecovery

/-!
What an open makes of a journal with arbitrary contents. The scan splits the file into
good frames and one fragment, or refuses it; the assembly splits the frames into
complete groups and one unfinished group, or refuses them. Both directions are shown,
so the accepted journals are exactly the well-formed ones within the bounds of the open.
-/
namespace OffloadFabric

/-! ### One frame -/

theorem RecordKind.code_of_ofCode? {raw : Nat} {kind : RecordKind} (h : ofCode? raw = some kind) :
    kind.code = raw := by
  unfold ofCode? at h
  split at h
  · cases h
  · rename_i hraw
    exact idxOf_add_one_of_getElem? (by decide) hraw h

/-- The header of a frame that is not all there: everything in it that is checked before
the payload is read. -/
structure ValidHeader (options : StoreOptions) (data : Bytes) : Prop where
  magic : readField data 0 4 = kFrameMagic
  version : readField data 4 2 = kStoreFormatVersion
  kind : (RecordKind.ofCode? (readField data 6 2)).isSome
  payload : readField data 8 4 ≤ options.maxRecordPayloadBytes.toNat

/-- The size of the frame that a header announces. -/
def announcedBytes (data : Bytes) : Nat :=
  kFrameHeaderBytes + readField data 8 4 + kFrameTrailerBytes

/-- Bytes at the end of a journal that cannot hold a frame: fewer than the smallest frame
has, or fewer than their own valid header announces. -/
def Fragment (options : StoreOptions) (data : Bytes) : Prop :=
  data.length < kFrameHeaderBytes + kFrameTrailerBytes ∨
    ValidHeader options data ∧ data.length < announcedBytes data

section Frame

variable {options : StoreOptions} {data : Bytes}

/-- The header of a frame, from the numbers that are read at its offsets. -/
theorem recordHeader_eq_take {frame : RawFrame} (hlength : kFrameHeaderBytes ≤ data.length)
    (hmagic : readField data 0 4 = kFrameMagic)
    (hversion : readField data 4 2 = kStoreFormatVersion)
    (hkind : readField data 6 2 = frame.kind.code)
    (hpayload : readField data 8 4 = frame.payload.length)
    (hsequence : readField data 12 8 = frame.sequence.toNat)
    (hcrc : readField data 20 4 = payloadCrc frame.payload) :
    recordHeader frame.kind frame.sequence frame.payload = data.take kFrameHeaderBytes := by
  unfold kFrameHeaderBytes at hlength
  unfold payloadCrc at hcrc
  rw [recordHeader, ← hmagic, ← hversion, ← hkind, ← hpayload, ← hsequence, ← hcrc,
    ofNat_readField (by omega), ofNat_readField (by omega), ofNat_readField (by omega),
    ofNat_readField (by omega), ofNat_readField (by omega), ofNat_readField (by omega),
    List.drop_zero, ← List.take_add, ← List.take_add, ← List.take_add, ← List.take_add,
    ← List.take_add]
  rfl

/-- A frame that is read takes exactly its own bytes off the data. -/
theorem readFrame_ok {frame : RawFrame} {size : Nat}
    (hlength : kFrameHeaderBytes + kFrameTrailerBytes ≤ data.length)
    (h : readFrame options data = .ok (frame, size)) :
    data = frame.bytes ++ data.drop size ∧
      frame.payload.length ≤ options.maxRecordPayloadBytes.toNat := by
  unfold readFrame at h
  split at h
  · cases h
  rename_i hmagic
  split at h
  · cases h
  rename_i hversion
  split at h
  · cases h
  rename_i kind hkind
  dsimp only at h
  split at h
  · cases h
  rename_i hceiling
  split at h
  · cases h
  rename_i hfits
  change (if readField data 20 4 ≠ payloadCrc ((data.drop kFrameHeaderBytes).take
    (readField data 8 4)) then _ else _) = _ at h
  split at h
  · cases h
  rename_i hcrc
  split at h
  · cases h
  rename_i htrailer
  have hpayload : ((data.drop kFrameHeaderBytes).take (readField data 8 4)).length =
      readField data 8 4 := by
    rw [List.length_take, List.length_drop]
    omega
  obtain ⟨rfl, rfl⟩ := Prod.mk.inj (Except.ok.inj h)
  have hsequence : readField data 12 8 < 256 ^ 8 :=
    readField_lt (by unfold kFrameHeaderBytes at hlength; omega)
  have hheader := @recordHeader_eq_take data
    { kind, sequence := UInt64.ofNat (readField data 12 8)
      payload := (data.drop kFrameHeaderBytes).take (readField data 8 4) }
    (by omega) (Decidable.not_not.mp hmagic) (Decidable.not_not.mp hversion)
    (RecordKind.code_of_ofCode? hkind).symm hpayload.symm
    (UInt64.toNat_ofNat_of_lt' hsequence).symm (Decidable.not_not.mp hcrc)
  refine ⟨?_, by rw [hpayload]; omega⟩
  rw [RawFrame.bytes, buildRecordFrame, hheader]
  dsimp only
  have hroom : kFrameHeaderBytes + readField data 8 4 + 4 ≤ data.length := Nat.not_lt.mp hfits
  rw [crc32c_append, Decidable.not_not.mp htrailer, ofNat_readField hroom]
  have hparts := List.take_append_drop
    (kFrameHeaderBytes + readField data 8 4 + kFrameTrailerBytes) data
  rw [List.take_add, List.take_add] at hparts
  exact hparts.symm

/-- Why data with room for a frame does not start with one. -/
theorem readFrame_error {status : ScanStatus} (h : readFrame options data = .error status) :
    status = .corrupt ∨ status = .versionIncompatible ∨
      status = .tornTail ∧ ValidHeader options data ∧ data.length < announcedBytes data := by
  unfold readFrame at h
  split at h
  · exact Or.inl (Except.error.inj h).symm
  rename_i hmagic
  split at h
  · exact Or.inr (Or.inl (Except.error.inj h).symm)
  rename_i hversion
  split at h
  · exact Or.inl (Except.error.inj h).symm
  rename_i kind hkind
  dsimp only at h
  split at h
  · exact Or.inl (Except.error.inj h).symm
  rename_i hceiling
  split at h
  · rename_i hshort
    refine Or.inr (Or.inr ⟨(Except.error.inj h).symm, ⟨Decidable.not_not.mp hmagic,
      Decidable.not_not.mp hversion, ?_, Nat.not_lt.mp hceiling⟩, hshort⟩)
    rw [hkind]
    rfl
  change (if readField data 20 4 ≠ payloadCrc ((data.drop kFrameHeaderBytes).take
    (readField data 8 4)) then _ else _) = _ at h
  split at h
  · exact Or.inl (Except.error.inj h).symm
  split at h
  · exact Or.inl (Except.error.inj h).symm
  · cases h

theorem readFrame_fragment (hheader : ValidHeader options data)
    (hshort : data.length < announcedBytes data) : readFrame options data = .error .tornTail := by
  obtain ⟨kind, hkind⟩ := Option.isSome_iff_exists.mp hheader.kind
  unfold announcedBytes at hshort
  unfold readFrame
  rw [hheader.magic, hheader.version, hkind]
  dsimp only
  rw [if_neg (by simp), if_neg (by simp), if_neg (Nat.not_lt.mpr hheader.payload), if_pos hshort]

end Frame

/-! ### The scan -/

/-- A journal that is good frames and then a fragment. -/
structure Framed (options : StoreOptions) (data : Bytes) (frames : List RawFrame)
    (fragment : Bytes) : Prop where
  bytes : data = framesBytes frames ++ fragment
  payloads : ∀ frame ∈ frames, frame.payload.length ≤ options.maxRecordPayloadBytes.toNat
  fragment : Fragment options fragment

section Scan

variable {options : StoreOptions} {data : Bytes}

theorem scanFrames_fragment (h : Fragment options data) :
    scanFrames options data =
      { status := if data.isEmpty then .clean else .tornTail, frames := [], badOffset := 0 } := by
  by_cases hshort : data.length < kFrameHeaderBytes + kFrameTrailerBytes
  · exact scanFrames_short options hshort
  · rcases h with hfew | ⟨hheader, hannounced⟩
    · exact absurd hfew hshort
    · have hnonempty : data.isEmpty = false := by
        rw [← Bool.not_eq_true, List.isEmpty_iff_length_eq_zero]
        unfold kFrameHeaderBytes at hshort
        omega
      rw [hnonempty]
      exact scanFrames_error options (by omega) (readFrame_fragment hheader hannounced)

/-- A scan of a framed journal finds its frames and stops at the fragment. -/
theorem Framed.scan {frames : List RawFrame} {fragment : Bytes}
    (h : Framed options data frames fragment) :
    scanFrames options data =
      { status := if fragment.isEmpty then .clean else .tornTail
        frames, badOffset := (framesBytes frames).length } := by
  rw [h.bytes, scanFrames_journal options frames fragment h.payloads,
    scanFrames_fragment h.fragment]
  simp

/-- A scan that does not refuse the journal found it framed. -/
theorem framed_of_scan (h : (scanFrames options data).status ≠ .corrupt)
    (hversion : (scanFrames options data).status ≠ .versionIncompatible) :
    ∃ fragment, Framed options data (scanFrames options data).frames fragment := by
  induction hn : data.length using Nat.strong_induction_on generalizing data with
  | _ n ih =>
    by_cases hshort : data.length < kFrameHeaderBytes + kFrameTrailerBytes
    · rw [scanFrames_short options hshort]
      exact ⟨data, by simp, by simp, Or.inl hshort⟩
    · cases hread : readFrame options data with
      | error status =>
        rw [scanFrames_error options (by omega) hread] at h hversion ⊢
        rcases readFrame_error hread with rfl | rfl | ⟨rfl, hheader, hannounced⟩
        · exact absurd rfl h
        · exact absurd rfl hversion
        · exact ⟨data, by simp, by simp, Or.inr ⟨hheader, hannounced⟩⟩
      | ok found =>
        obtain ⟨frame, size⟩ := found
        have hsize := readFrame_size hread
        obtain ⟨hbytes, hpayload⟩ := readFrame_ok (by omega) hread
        rw [scanFrames_ok options (by omega) hread] at h hversion ⊢
        have hless : (data.drop size).length < n := by
          rw [List.length_drop]
          unfold kFrameHeaderBytes at hshort
          omega
        obtain ⟨fragment, hrest⟩ := ih _ hless h hversion rfl
        refine ⟨fragment, ?_, ?_, hrest.fragment⟩
        · rw [framesBytes_cons, List.append_assoc, ← hrest.bytes]
          exact hbytes
        · intro other hother
          rcases List.mem_cons.mp hother with rfl | hother
          · exact hpayload
          · exact hrest.payloads other hother

end Scan

/-! ### Groups -/

def RawFrame.IsRecord (frame : RawFrame) : Prop :=
  frame.kind ≠ .beginTransaction ∧ frame.kind ≠ .commitTransaction

def RawFrame.record (frame : RawFrame) : Record := { kind := frame.kind, payload := frame.payload }

/-- A Begin frame, whose payload is an id, and the records after it. -/
structure OpenGroup where
  marker : RawFrame
  body : List RawFrame
  markerKind : marker.kind = .beginTransaction
  markerId : marker.payload.length = 8
  bodyKinds : ∀ frame ∈ body, frame.IsRecord

/-- A group that ends with a Commit frame for the id of its Begin frame. -/
structure Group extends OpenGroup where
  commit : RawFrame
  commitKind : commit.kind = .commitTransaction
  commitId : commit.payload = marker.payload

def OpenGroup.frames (group : OpenGroup) : List RawFrame := group.marker :: group.body

def OpenGroup.records (group : OpenGroup) : List Record := group.body.map RawFrame.record

def Group.frames (group : Group) : List RawFrame := group.toOpenGroup.frames ++ [group.commit]

def Group.records (group : Group) : List Record := group.toOpenGroup.records

def OpenGroup.append (group : OpenGroup) (frame : RawFrame) (hrecord : frame.IsRecord) :
    OpenGroup :=
  { group with
    body := group.body ++ [frame]
    bodyKinds := by
      intro other hother
      rcases List.mem_append.mp hother with hother | hother
      · exact group.bodyKinds other hother
      · rw [List.mem_singleton.mp hother]
        exact hrecord }

/-- Frames with increasing numbers that are complete groups and one unfinished group. -/
structure Groups (frames : List RawFrame) (groups : List Group) (last : Option OpenGroup) :
    Prop where
  frames_eq : frames = (groups.map Group.frames).flatten ++ (last.map OpenGroup.frames).getD []
  increasing : frames.Pairwise fun earlier later => earlier.sequence < later.sequence

/-! ### The assembly -/

theorem payloadU64_eq_some {payload : Bytes} {id : UInt64} :
    payloadU64 payload = some id ↔ payload.length = 8 ∧ payload = BigEndian.ofNat 8 id.toNat := by
  constructor
  · intro h
    unfold payloadU64 at h
    split at h
    · rename_i hlength
      have hlt := BigEndian.toNat_lt payload
      have hbytes := BigEndian.ofNat_toNat payload
      rw [hlength] at hlt hbytes
      refine ⟨hlength, ?_⟩
      rw [← Option.some.inj h, UInt64.toNat_ofNat_of_lt' hlt, hbytes]
    · cases h
  · rintro ⟨-, rfl⟩
    exact Assembly.payloadU64_marker id

namespace Assembly

/-- What an accepted frame does to the assembly. -/
inductive Takes (assembly : Assembly) (frame : RawFrame) : Assembly → Prop
  | begin {id : UInt64} (hkind : frame.kind = .beginTransaction)
      (hout : assembly.inTransaction = false) (hid : payloadU64 frame.payload = some id) :
      Takes assembly frame
        { assembly with
          previousSequence := frame.sequence, havePreviousSequence := true
          inTransaction := true, transactionId := id, pending := [] }
  | commit (hkind : frame.kind = .commitTransaction) (hin : assembly.inTransaction = true)
      (hid : payloadU64 frame.payload = some assembly.transactionId) :
      Takes assembly frame
        { assembly with
          previousSequence := frame.sequence, havePreviousSequence := true
          inTransaction := false, transactionsApplied := assembly.transactionsApplied + 1
          recoveredRecords := assembly.recoveredRecords ++ assembly.pending, pending := [] }
  | record (hrecord : frame.IsRecord) (hin : assembly.inTransaction = true)
      (hroom : assembly.recoveredRecords.length + assembly.pending.length < kMaxReplayRecords) :
      Takes assembly frame
        { assembly with
          previousSequence := frame.sequence, havePreviousSequence := true
          pending := assembly.pending ++ [frame.record] }

theorem step_takes {assembly next : Assembly} {frame : RawFrame}
    (h : assembly.step frame = .ok next) :
    assembly.Before frame.sequence ∧ assembly.Takes frame next := by
  have hbefore : assembly.Before frame.sequence := by
    intro hhave
    by_contra hstale
    unfold step at h
    rw [if_pos (by simpa [hhave] using hstale)] at h
    cases h
  refine ⟨hbefore, ?_⟩
  unfold step at h
  rw [if_neg (by rw [not_stale hbefore]; decide)] at h
  dsimp only at h
  by_cases hbegin : frame.kind = .beginTransaction
  · rw [if_pos hbegin] at h
    split at h
    · cases h
    rename_i hout
    split at h
    · cases h
    rename_i id hid
    cases h
    exact .begin hbegin (by simpa using hout) hid
  · rw [if_neg hbegin] at h
    by_cases hcommit : frame.kind = .commitTransaction
    · rw [if_pos hcommit] at h
      split at h
      · cases h
      rename_i hin
      split at h
      · cases h
      rename_i hid
      cases h
      exact .commit hcommit (by simpa using hin) (Decidable.not_not.mp hid)
    · rw [if_neg hcommit] at h
      split at h
      · cases h
      rename_i hin
      split at h
      · cases h
      rename_i hroom
      cases h
      exact .record ⟨hbegin, hcommit⟩ (by simpa using hin) (Nat.not_le.mp hroom)

theorem Takes.step {assembly next : Assembly} {frame : RawFrame} (h : assembly.Takes frame next)
    (hbefore : assembly.Before frame.sequence) : assembly.step frame = .ok next := by
  unfold Assembly.step
  rw [if_neg (by rw [not_stale hbefore]; decide)]
  dsimp only
  cases h with
  | begin hkind hout hid => rw [if_pos hkind, if_neg (by simp [hout]), hid]
  | commit hkind hin hid =>
    rw [if_neg (by rw [hkind]; decide), if_pos hkind, if_neg (by simp [hin]),
      if_neg (by simp [hid])]
  | record hrecord hin hroom =>
    rw [if_neg hrecord.1, if_neg hrecord.2, if_neg (by simp [hin]), if_neg (by omega)]
    rfl

/-- What the assembly knows of the frames it has taken. -/
structure Parsed (assembly : Assembly) (frames : List RawFrame) (groups : List Group)
    (last : Option OpenGroup) : Prop where
  grouped : Groups frames groups last
  inTransaction : assembly.inTransaction = last.isSome
  transactionId : ∀ group, last = some group →
    payloadU64 group.marker.payload = some assembly.transactionId
  pending : assembly.pending = (last.map OpenGroup.records).getD []
  recovered : assembly.recoveredRecords = (groups.map Group.records).flatten
  previous : ∀ frame ∈ frames, assembly.havePreviousSequence = true ∧
    frame.sequence ≤ assembly.previousSequence

theorem Parsed.start : Parsed {} [] [] none :=
  ⟨⟨rfl, List.Pairwise.nil⟩, rfl, by simp, rfl, rfl, by simp⟩

theorem Parsed.increasing {assembly : Assembly} {frames : List RawFrame} {groups : List Group}
    {last : Option OpenGroup} (h : Parsed assembly frames groups last) {frame : RawFrame}
    (hbefore : assembly.Before frame.sequence) :
    (frames ++ [frame]).Pairwise fun earlier later => earlier.sequence < later.sequence := by
  refine List.pairwise_append.mpr ⟨h.grouped.increasing, List.pairwise_singleton _ _, ?_⟩
  intro earlier hearlier later hlater
  obtain ⟨hhave, hle⟩ := h.previous earlier hearlier
  rw [List.mem_singleton.mp hlater]
  exact UInt64.lt_of_le_of_lt hle (hbefore hhave)

theorem Parsed.step {assembly next : Assembly} {frames : List RawFrame} {groups : List Group}
    {last : Option OpenGroup} {frame : RawFrame} (h : Parsed assembly frames groups last)
    (hstep : assembly.step frame = .ok next) :
    ∃ groups' last', Parsed next (frames ++ [frame]) groups' last' := by
  obtain ⟨hbefore, htakes⟩ := step_takes hstep
  have hincreasing := h.increasing hbefore
  have hprevious : ∀ other ∈ frames ++ [frame], other.sequence ≤ frame.sequence := by
    intro other hother
    rcases List.mem_append.mp hother with hother | hother
    · obtain ⟨hhave, hle⟩ := h.previous other hother
      exact UInt64.le_trans hle (UInt64.le_of_lt (hbefore hhave))
    · rw [List.mem_singleton.mp hother]
      exact UInt64.le_refl _
  have hframes := h.grouped.frames_eq
  cases htakes with
  | @begin id hkind hout hid =>
    have hnone : last = none := by
      rw [h.inTransaction] at hout
      cases last with
      | none => rfl
      | some group => cases hout
    subst hnone
    have hlength := (payloadU64_eq_some.mp hid).1
    refine ⟨groups, some ⟨frame, [], hkind, hlength, by simp⟩, ⟨?_, hincreasing⟩, rfl, ?_, rfl,
      h.recovered, fun other hother => ⟨rfl, hprevious other hother⟩⟩
    · rw [hframes]
      simp [OpenGroup.frames]
    · intro group hgroup
      cases hgroup
      exact hid
  | commit hkind hin hid =>
    rw [h.inTransaction] at hin
    obtain ⟨group, rfl⟩ := Option.isSome_iff_exists.mp hin
    have hmarker := h.transactionId group rfl
    have hcommitId : frame.payload = group.marker.payload := by
      rw [(payloadU64_eq_some.mp hid).2, (payloadU64_eq_some.mp hmarker).2]
    refine ⟨groups ++ [⟨group, frame, hkind, hcommitId⟩], none, ⟨?_, hincreasing⟩, rfl, by simp,
      rfl, ?_, fun other hother => ⟨rfl, hprevious other hother⟩⟩
    · rw [hframes]
      simp [Group.frames]
    · dsimp only
      rw [h.recovered, h.pending]
      simp [Group.records, OpenGroup.records]
  | record hrecord hin hroom =>
    rw [h.inTransaction] at hin
    obtain ⟨group, rfl⟩ := Option.isSome_iff_exists.mp hin
    refine ⟨groups, some (group.append frame hrecord), ⟨?_, hincreasing⟩, ?_, ?_, ?_,
      h.recovered, fun other hother => ⟨rfl, hprevious other hother⟩⟩
    · rw [hframes]
      simp [OpenGroup.frames, OpenGroup.append]
    · exact h.inTransaction
    · intro other hother
      cases hother
      exact h.transactionId group rfl
    · dsimp only
      rw [h.pending]
      simp [OpenGroup.records, OpenGroup.append]

/-- Frames that assemble are groups, and the assembly recovered the complete ones. -/
theorem parsed_of_assemble {frames : List RawFrame} {assembly : Assembly}
    (h : assemble frames = .ok assembly) :
    ∃ groups last, Parsed assembly frames groups last := by
  induction frames using List.reverseRecOn generalizing assembly with
  | nil =>
    cases h
    exact ⟨[], none, Parsed.start⟩
  | append_singleton frames frame ih =>
    obtain ⟨middle, hmiddle, hlast⟩ := foldlM_append_ok h
    obtain ⟨next, hstep, hdone⟩ := foldlM_cons_ok hlast
    cases hdone
    obtain ⟨groups, last, hparsed⟩ := ih hmiddle
    exact hparsed.step hstep

/-! ### Groups that assemble -/

/-- The frames are numbered so that the assembly can take them one after the other. -/
structure Ready (assembly : Assembly) (frames : List RawFrame) : Prop where
  increasing : frames.Pairwise fun earlier later => earlier.sequence < later.sequence
  before : ∀ frame ∈ frames, assembly.Before frame.sequence

theorem Takes.numbered {assembly next : Assembly} {frame : RawFrame}
    (h : assembly.Takes frame next) : next.previousSequence = frame.sequence := by
  cases h <;> rfl

theorem Ready.take {assembly next : Assembly} {frame : RawFrame} {rest : List RawFrame}
    (h : assembly.Ready (frame :: rest)) (htakes : assembly.Takes frame next) :
    assembly.step frame = .ok next ∧ next.Ready rest := by
  obtain ⟨hless, hincreasing⟩ := List.pairwise_cons.mp h.increasing
  refine ⟨htakes.step (h.before frame List.mem_cons_self), hincreasing, ?_⟩
  intro other hother _
  rw [htakes.numbered]
  exact hless other hother

/-- The records of a group are taken while there is room for them. -/
theorem foldlM_body {body rest : List RawFrame} {assembly : Assembly}
    (hready : assembly.Ready (body ++ rest)) (hbody : ∀ frame ∈ body, frame.IsRecord)
    (hin : assembly.inTransaction = true)
    (hroom : assembly.recoveredRecords.length + assembly.pending.length + body.length ≤
      kMaxReplayRecords) :
    ∃ final, body.foldlM step assembly = .ok final ∧ final.Ready rest ∧
      final.inTransaction = true ∧ final.transactionId = assembly.transactionId ∧
      final.recoveredRecords = assembly.recoveredRecords ∧
      final.pending = assembly.pending ++ body.map RawFrame.record := by
  induction body generalizing assembly with
  | nil => exact ⟨assembly, rfl, hready, hin, rfl, rfl, by simp⟩
  | cons frame body ih =>
    rw [List.length_cons] at hroom
    have hrecord := hbody frame List.mem_cons_self
    obtain ⟨hstep, hnext⟩ := hready.take (.record hrecord hin (by omega))
    obtain ⟨final, hfinal, hrest, hin', hid, hrecovered, hpending⟩ :=
      ih hnext (fun other hother => hbody other (List.mem_cons_of_mem _ hother)) hin (by
        dsimp only
        rw [List.length_append, List.length_singleton]
        omega)
    refine ⟨final, ?_, hrest, hin', hid, hrecovered, ?_⟩
    · rw [List.foldlM_cons, hstep]
      exact hfinal
    · rw [hpending, List.map_cons, List.append_assoc, List.singleton_append]

theorem foldlM_openGroup {group : OpenGroup} {rest : List RawFrame} {assembly : Assembly}
    (hready : assembly.Ready (group.frames ++ rest)) (hout : assembly.inTransaction = false)
    (hroom : assembly.recoveredRecords.length + group.records.length ≤ kMaxReplayRecords) :
    ∃ final, group.frames.foldlM step assembly = .ok final ∧ final.Ready rest ∧
      final.inTransaction = true ∧
      payloadU64 group.marker.payload = some final.transactionId ∧
      final.recoveredRecords = assembly.recoveredRecords ∧ final.pending = group.records := by
  have hid : payloadU64 group.marker.payload =
      some (UInt64.ofNat (BigEndian.toNat group.marker.payload)) := if_pos group.markerId
  obtain ⟨hstep, hnext⟩ := hready.take (.begin group.markerKind hout hid)
  obtain ⟨final, hfinal, hrest, hin, hsame, hrecovered, hpending⟩ :=
    foldlM_body hnext group.bodyKinds rfl (by
      rw [OpenGroup.records, List.length_map] at hroom
      exact hroom)
  refine ⟨final, ?_, hrest, hin, by rw [hsame]; exact hid, hrecovered, ?_⟩
  · rw [OpenGroup.frames, List.foldlM_cons, hstep]
    exact hfinal
  · rw [hpending]
    rfl

theorem foldlM_group {group : Group} {rest : List RawFrame} {assembly : Assembly}
    (hready : assembly.Ready (group.frames ++ rest)) (hout : assembly.inTransaction = false)
    (hroom : assembly.recoveredRecords.length + group.records.length ≤ kMaxReplayRecords) :
    ∃ final, group.frames.foldlM step assembly = .ok final ∧ final.Ready rest ∧
      final.inTransaction = false ∧
      final.recoveredRecords = assembly.recoveredRecords ++ group.records := by
  rw [Group.frames, List.append_assoc] at hready
  obtain ⟨filled, hfilled, hready', hin, hid, hrecovered, hpending⟩ :=
    foldlM_openGroup hready hout hroom
  obtain ⟨hstep, hnext⟩ := hready'.take
    (.commit group.commitKind hin (by rw [group.commitId]; exact hid))
  refine ⟨_, ?_, hnext, rfl, ?_⟩
  · rw [Group.frames]
    refine foldlM_append_of hfilled ?_
    rw [List.foldlM_cons, hstep]
    rfl
  · dsimp only
    rw [hrecovered, hpending]
    rfl

theorem foldlM_groups {groups : List Group} {rest : List RawFrame} {assembly : Assembly}
    (hready : assembly.Ready ((groups.map Group.frames).flatten ++ rest))
    (hout : assembly.inTransaction = false)
    (hroom : assembly.recoveredRecords.length + (groups.map Group.records).flatten.length ≤
      kMaxReplayRecords) :
    ∃ final, (groups.map Group.frames).flatten.foldlM step assembly = .ok final ∧
      final.Ready rest ∧ final.inTransaction = false ∧
      final.recoveredRecords = assembly.recoveredRecords ++ (groups.map Group.records).flatten := by
  induction groups generalizing assembly with
  | nil => exact ⟨assembly, rfl, hready, hout, by simp⟩
  | cons group groups ih =>
    rw [List.map_cons, List.flatten_cons, List.length_append] at hroom
    rw [List.map_cons, List.flatten_cons, List.append_assoc] at hready
    obtain ⟨middle, hmiddle, hready', hout', hrecovered⟩ :=
      foldlM_group hready hout (by omega)
    obtain ⟨final, hfinal, hrest, hdone, hall⟩ := ih hready' hout' (by
      rw [hrecovered, List.length_append]
      omega)
    refine ⟨final, ?_, hrest, hdone, ?_⟩
    · rw [List.map_cons, List.flatten_cons]
      exact foldlM_append_of hmiddle hfinal
    · rw [hall, hrecovered, List.map_cons, List.flatten_cons, List.append_assoc]

end Assembly

theorem recordCount_openGroup (group : OpenGroup) :
    recordCount group.frames = group.records.length := by
  have hbody : recordCount group.body = group.body.length :=
    List.countP_eq_length.mpr fun frame hframe => by
      simpa [RawFrame.IsRecord] using group.bodyKinds frame hframe
  rw [OpenGroup.frames, OpenGroup.records, List.length_map, ← hbody]
  simp [recordCount, group.markerKind]

theorem recordCount_group (group : Group) :
    recordCount group.frames = group.records.length := by
  rw [Group.frames, recordCount_append, recordCount_openGroup, Group.records]
  simp [recordCount, group.commitKind]

theorem recordCount_groups (groups : List Group) :
    recordCount (groups.map Group.frames).flatten = (groups.map Group.records).flatten.length := by
  induction groups with
  | nil => rfl
  | cons group groups ih =>
    rw [List.map_cons, List.flatten_cons, recordCount_append, recordCount_group, ih,
      List.map_cons, List.flatten_cons, List.length_append]

/-- Groups within the replay bound assemble, to the records of the complete ones. -/
theorem Groups.assembles {frames : List RawFrame} {groups : List Group}
    {last : Option OpenGroup} (h : Groups frames groups last)
    (hroom : recordCount frames ≤ kMaxReplayRecords) :
    ∃ assembly, assemble frames = .ok assembly ∧
      assembly.recoveredRecords = (groups.map Group.records).flatten := by
  have hframes := h.frames_eq
  subst hframes
  rw [recordCount_append, recordCount_groups] at hroom
  have hready : ({} : Assembly).Ready ((groups.map Group.frames).flatten ++
      (last.map OpenGroup.frames).getD []) := ⟨h.increasing, fun _ _ hhave => by cases hhave⟩
  obtain ⟨middle, hmiddle, hrest, hout, hrecovered⟩ :=
    Assembly.foldlM_groups hready rfl (by
      rw [List.length_nil]
      omega)
  cases last with
  | none =>
    refine ⟨middle, ?_, hrecovered⟩
    rw [assemble, Option.map_none, Option.getD_none, List.append_nil]
    exact hmiddle
  | some group =>
    rw [Option.map_some, Option.getD_some] at hrest hroom ⊢
    rw [recordCount_openGroup] at hroom
    rw [← List.append_nil group.frames] at hrest
    obtain ⟨final, hfinal, -, -, -, hsame, -⟩ := Assembly.foldlM_openGroup hrest hout (by
      rw [hrecovered, List.nil_append]
      exact hroom)
    exact ⟨final, Assembly.foldlM_append_of hmiddle hfinal, by rw [hsame]; exact hrecovered⟩

/-! ### Opening an arbitrary journal -/

/-- A journal whose good frames are `frames`, in groups of which the complete ones hold
`records`. -/
structure WellFormed (options : StoreOptions) (data : Bytes) (frames : List RawFrame)
    (records : List Record) : Prop where
  framed : ∃ fragment, Framed options data frames fragment
  grouped : ∃ groups last, Groups frames groups last ∧
    records = (groups.map Group.records).flatten

/-- There is no snapshot, or a valid one that is not newer than the journal. -/
def SnapshotUsable (dir : Directory) (journal : Nat) : Prop :=
  ∀ generation frame, dir.snapshots.last? = some (generation, frame) →
    generation ≤ journal ∧ ∃ payload, readSnapshotFrame frame = .ok payload

/-- The classes under which an open refuses the contents of the files. -/
def RecoveryReport.Refused (report : RecoveryReport) : Prop :=
  report.classification = .corrupt ∨ report.classification = .versionIncompatible

section Open

variable {options : StoreOptions} {dir : Directory} {journal : Nat} {data : Bytes}

theorem SnapshotUsable.load (h : SnapshotUsable dir journal) :
    ∃ loaded, (loaded.map Prod.fst).getD 0 ≤ journal ∧
      ∀ found, Store.loadSnapshot dir found = .ok loaded := by
  cases hlast : dir.snapshots.last? with
  | none =>
    refine ⟨none, Nat.zero_le _, fun found => ?_⟩
    rw [Store.loadSnapshot, hlast]
  | some entry =>
    obtain ⟨generation, frame⟩ := entry
    obtain ⟨hle, payload, hread⟩ := h generation frame hlast
    refine ⟨some (generation, payload), hle, fun found => ?_⟩
    rw [Store.loadSnapshot, hlast]
    simp only [hread]

/-- The scan of the newest journal decides what is loaded. -/
theorem loadJournal_scan {loaded : Option (Nat × Bytes)} (found : RecoveryReport)
    (hlast : dir.journals.last? = some (journal, data))
    (hloaded : (loaded.map Prod.fst).getD 0 ≤ journal) :
    Store.loadJournal options dir loaded found =
      .ok (some (scanJournal options data, data.length)) ∧
        (scanJournal options data).status ≠ .corrupt ∧
        (scanJournal options data).status ≠ .versionIncompatible ∧
        (scanJournal options data).status ≠ .tooLarge ∨
      ∃ report, Store.loadJournal options dir loaded found = .error report ∧ report.Refused ∧
        (scanJournal options data).status ≠ .clean ∧
        (scanJournal options data).status ≠ .tornTail := by
  unfold Store.loadJournal
  rw [hlast]
  dsimp only
  rw [if_neg (Nat.not_lt.mpr hloaded)]
  cases hstatus : (scanJournal options data).status with
  | clean => exact Or.inl ⟨rfl, by simp⟩
  | tornTail => exact Or.inl ⟨rfl, by simp⟩
  | corrupt => exact Or.inr ⟨_, rfl, Or.inl rfl, by simp⟩
  | versionIncompatible => exact Or.inr ⟨_, rfl, Or.inr rfl, by simp⟩
  | tooLarge => exact Or.inr ⟨_, rfl, Or.inl rfl, by simp⟩

theorem scanJournal_of_le (h : data.length ≤ (readBound options).toNat) :
    scanJournal options data = scanFrames options data := by
  rw [scanJournal, if_neg (Nat.not_lt.mpr h)]

theorem le_of_scanJournal (h : (scanJournal options data).status ≠ .tooLarge) :
    data.length ≤ (readBound options).toNat := by
  by_contra hlarge
  rw [scanJournal, if_pos (Nat.lt_of_not_le hlarge)] at h
  exact h rfl

/-- An open with a usable snapshot fails in the scan or in the assembly. -/
theorem Store.open_error {loaded : Option (Nat × Bytes)} {report : RecoveryReport}
    (hload : ∀ found, Store.loadSnapshot dir found = .ok loaded)
    (h : Store.open options dir = .error report) :
    (∃ found, Store.loadJournal options dir loaded found = .error report) ∨
      report.classification = .corrupt ∧ ∃ found scanned failure,
        Store.loadJournal options dir loaded found = .ok scanned ∧
          assemble ((scanned.map fun j => j.1.frames).getD []) = .error failure := by
  unfold Store.open at h
  simp only [hload] at h
  split at h
  · rename_i failed hscan
    cases h
    exact Or.inl ⟨_, hscan⟩
  · rename_i scanned hscan
    split at h
    · rename_i failure hassembly
      cases h
      exact Or.inr ⟨rfl, _, scanned, _, hscan, hassembly⟩
    · cases h

/-- The records of an open are those of its journal. -/
theorem SnapshotUsable.wellFormed_of_ok (h : SnapshotUsable dir journal)
    (hjournal : dir.journals.last? = some (journal, data)) {opened : Store.Opened}
    (hopen : Store.open options dir = .ok opened) :
    ∃ frames, WellFormed options data frames opened.records := by
  obtain ⟨loaded, hloaded, hload⟩ := h.load
  obtain ⟨found, found', loaded', scanned, assembly, hload', hscanned, hassembly, rfl⟩ :=
    Store.open_ok hopen
  rw [hload found] at hload'
  cases hload'
  rcases loadJournal_scan found' hjournal hloaded with
    ⟨haccepted, hcorrupt, hversion, hlarge⟩ | ⟨report, hrefused, -⟩
  · rw [haccepted] at hscanned
    cases hscanned
    have hscan := scanJournal_of_le (le_of_scanJournal hlarge)
    rw [hscan] at hcorrupt hversion hassembly
    obtain ⟨fragment, hframed⟩ := framed_of_scan hcorrupt hversion
    obtain ⟨groups, last, hparsed⟩ := Assembly.parsed_of_assemble hassembly
    exact ⟨_, ⟨fragment, hframed⟩, groups, last, hparsed.grouped, hparsed.recovered⟩
  · rw [hrefused] at hscanned
    cases hscanned

theorem SnapshotUsable.refused_of_error (h : SnapshotUsable dir journal)
    (hjournal : dir.journals.last? = some (journal, data)) {report : RecoveryReport}
    (hopen : Store.open options dir = .error report) : report.Refused := by
  obtain ⟨loaded, hloaded, hload⟩ := h.load
  rcases Store.open_error hload hopen with ⟨found, hscan⟩ | ⟨hcorrupt, -⟩
  · rcases loadJournal_scan found hjournal hloaded with
      ⟨haccepted, -⟩ | ⟨report', hrefused, hclass, -⟩
    · rw [haccepted] at hscan
      cases hscan
    · rw [hrefused] at hscan
      cases hscan
      exact hclass
  · exact Or.inl hcorrupt

/-- Only a journal above the bounds is refused although it is well-formed. -/
theorem SnapshotUsable.exceeds_of_error (h : SnapshotUsable dir journal)
    (hjournal : dir.journals.last? = some (journal, data)) {report : RecoveryReport}
    (hopen : Store.open options dir = .error report) {frames : List RawFrame}
    {records : List Record} (hwell : WellFormed options data frames records) :
    (readBound options).toNat < data.length ∨ kMaxReplayRecords < recordCount frames := by
  obtain ⟨loaded, hloaded, hload⟩ := h.load
  obtain ⟨⟨fragment, hframed⟩, groups, last, hgroups, -⟩ := hwell
  by_contra hbounds
  obtain ⟨hsize, hcount⟩ := not_or.mp hbounds
  have hscan := (scanJournal_of_le (Nat.not_lt.mp hsize)).trans hframed.scan
  obtain ⟨assembly, hassembly, -⟩ := hgroups.assembles (Nat.not_lt.mp hcount)
  rcases Store.open_error hload hopen with ⟨found, hrefused⟩ |
    ⟨-, found, scanned, failure, haccepted, hfailed⟩
  · rcases loadJournal_scan found hjournal hloaded with
      ⟨haccepted, -⟩ | ⟨report', -, -, hclean, htorn⟩
    · rw [haccepted] at hrefused
      cases hrefused
    · rw [hscan] at hclean htorn
      cases hempty : fragment.isEmpty <;> simp [hempty] at hclean htorn
  · rcases loadJournal_scan found hjournal hloaded with ⟨haccepted', -⟩ | ⟨report', hrefused, -⟩
    · rw [haccepted'] at haccepted
      cases haccepted
      rw [Option.map_some, Option.getD_some, hscan, hassembly] at hfailed
      cases hfailed
    · rw [hrefused] at haccepted
      cases haccepted

/-- An open that succeeds returns the records of a well-formed journal. One that fails gives
a refusal, and only for a journal that is not well-formed or is above the bounds. -/
theorem open_iff_wellFormed (hjournal : dir.journals.last? = some (journal, data))
    (hsnapshot : SnapshotUsable dir journal) :
    (∀ opened, Store.open options dir = .ok opened →
      ∃ frames, WellFormed options data frames opened.records) ∧
    ∀ report, Store.open options dir = .error report →
      report.Refused ∧ ∀ frames records, WellFormed options data frames records →
        (readBound options).toNat < data.length ∨ kMaxReplayRecords < recordCount frames := by
  constructor
  · intro opened hopen
    exact hsnapshot.wellFormed_of_ok hjournal hopen
  · intro report hopen
    refine ⟨hsnapshot.refused_of_error hjournal hopen, ?_⟩
    intro frames records hwell
    exact hsnapshot.exceeds_of_error hjournal hopen hwell

end Open

/-- The frames of two transactions, and of a third one that was not finished. -/
def interruptedFrames : List RawFrame :=
  Store.transactionFrames 1 [{ kind := .epochAdvanced, payload := [1] }] ++
    Store.transactionFrames 4
      [{ kind := .epochAdvanced, payload := [2] }, { kind := .epochAdvanced, payload := [3, 4] }] ++
    [{ kind := .beginTransaction, sequence := 8, payload := BigEndian.ofNat 8 8 },
      { kind := .epochAdvanced, sequence := 9, payload := [5] }]

/-- A journal that ends in the middle of its last frame. -/
def interruptedJournal : Bytes :=
  framesBytes interruptedFrames ++ [0x4F, 0x46, 0x46]

/-- A snapshot and the journal that was interrupted after it. -/
def interruptedDirectory : Directory :=
  { Directory.setJournal {} 2 interruptedJournal with
    snapshots := OrderedMap.insert .empty 2 (buildSnapshotFrame [7, 7]) }

/-- An interrupted journal beside a snapshot opens with the records of its complete groups. -/
theorem open_fragment : ∃ opened frames,
    Store.open {} interruptedDirectory = .ok opened ∧ opened.snapshot = [7, 7] ∧
      opened.records = [{ kind := .epochAdvanced, payload := [1] },
        { kind := .epochAdvanced, payload := [2] }, { kind := .epochAdvanced, payload := [3, 4] }] ∧
      WellFormed {} interruptedJournal frames opened.records := by
  have hfound : (Store.open {} interruptedDirectory).toOption.map
      (fun opened => (opened.snapshot, opened.records)) =
        some ([7, 7], [{ kind := .epochAdvanced, payload := [1] },
          { kind := .epochAdvanced, payload := [2] },
          { kind := .epochAdvanced, payload := [3, 4] }]) := by
    decide +kernel
  have hjournal : interruptedDirectory.journals.last? = some (2, interruptedJournal) := rfl
  have hsnapshot : SnapshotUsable interruptedDirectory 2 := by
    intro generation frame hlast
    cases hlast
    exact ⟨le_rfl, [7, 7], by decide +kernel⟩
  cases hopen : Store.open {} interruptedDirectory with
  | error report =>
    rw [hopen] at hfound
    cases hfound
  | ok opened =>
    rw [hopen] at hfound
    obtain ⟨hpayload, hrecords⟩ := Prod.mk.inj (Option.some.inj hfound)
    obtain ⟨frames, hwell⟩ := (open_iff_wellFormed hjournal hsnapshot).1 opened hopen
    exact ⟨opened, frames, rfl, hpayload, hrecords, hwell⟩

end OffloadFabric
