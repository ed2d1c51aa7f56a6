import OffloadFabric.Checksums
import OffloadFabric.Idempotence

/-!
Damaged files. A change of at most four adjacent bytes in the newest journal or snapshot is
refused by the next open, as long as it keeps to one side of a checksum and spares the length
field of a frame. A damaged length field is the gap: when it points past the end of the file,
the open takes the rest of the journal for a torn tail and cuts it off.
-/
namespace OffloadFabric

/-! ### Fields under a burst -/

theorem readField_append {data : Bytes} (rest : Bytes) {offset width : Nat}
    (h : offset + width ≤ data.length) :
    readField (data ++ rest) offset width = readField data offset width := by
  unfold readField
  have hwidth : width ≤ (data.drop offset).length := by
    rw [List.length_drop]
    omega
  rw [List.drop_append_of_le_length (by omega), List.take_append_of_le_length hwidth]

namespace Burst

variable {offset width : Nat} {data data' : Bytes}

/-- A burst on one side of a field leaves the field alone. -/
theorem field_eq (h : Burst offset width data data') {start size : Nat}
    (hapart : start + size ≤ offset ∨ offset + width ≤ start) :
    readField data' start size = readField data start size := by
  unfold readField
  rcases hapart with hbefore | hafter
  · have htake := h.take_eq hbefore
    rw [List.take_drop, List.take_drop, htake]
  · rw [h.drop_eq hafter]

end Burst

/-! ### Frames -/

section Frames

variable {options : StoreOptions} {frame frame' : RawFrame} {changed after : Bytes}
  {offset width : Nat}

/-- The part of a frame that its checksum covers. -/
def RawFrame.body (frame : RawFrame) : Bytes :=
  recordHeader frame.kind frame.sequence frame.payload ++ frame.payload

theorem RawFrame.length_body (frame : RawFrame) :
    frame.body.length = kFrameHeaderBytes + frame.payload.length := by
  rw [RawFrame.body, List.length_append, length_recordHeader]

theorem RawFrame.take_bytes (frame : RawFrame) :
    frame.bytes.take (kFrameHeaderBytes + frame.payload.length) = frame.body := by
  rw [← frame.length_body]
  exact List.take_left

theorem RawFrame.drop_bytes (frame : RawFrame) :
    frame.bytes.drop (kFrameHeaderBytes + frame.payload.length) =
      BigEndian.ofNat 4 (crc32c frame.body).toNat := by
  rw [← frame.length_body]
  exact List.drop_left

/-- The window keeps clear of the length field, and to one side of the frame's checksum. -/
structure Clear (frame : RawFrame) (offset width : Nat) : Prop where
  narrow : width ≤ 4
  length : offset + width ≤ 8 ∨ 12 ≤ offset
  border : offset + width ≤ kFrameHeaderBytes + frame.payload.length ∨
    kFrameHeaderBytes + frame.payload.length ≤ offset

/-- No frame is a narrow burst away from another one. -/
theorem Clear.not_burst (h : Clear frame offset width) :
    ¬Burst offset width frame.bytes frame'.bytes := by
  intro hburst
  have hlength : frame'.payload.length = frame.payload.length := by
    have := hburst.length_eq
    rw [RawFrame.length_bytes, RawFrame.length_bytes] at this
    omega
  rcases h.border with hbody | htrailer
  · have hbodies := hburst.take hbody
    rw [frame.take_bytes, ← hlength, frame'.take_bytes] at hbodies
    have htrailers := hburst.drop_eq hbody
    rw [frame.drop_bytes, ← hlength, frame'.drop_bytes] at htrailers
    have hcrc := congrArg BigEndian.toNat htrailers
    rw [BigEndian.toNat_ofNat_of_lt (UInt32.toNat_lt _),
      BigEndian.toNat_ofNat_of_lt (UInt32.toNat_lt _)] at hcrc
    exact hbodies.crc32c_ne h.narrow 0 (UInt32.toNat_inj.mp hcrc)
  · have hbodies := hburst.take_eq htrailer
    rw [frame.take_bytes, ← hlength, frame'.take_bytes] at hbodies
    apply hburst.ne
    rw [← List.take_append_drop (kFrameHeaderBytes + frame.payload.length) frame.bytes,
      ← List.take_append_drop (kFrameHeaderBytes + frame'.payload.length) frame'.bytes,
      frame.take_bytes, frame'.take_bytes, frame.drop_bytes, frame'.drop_bytes, hbodies]

/-- The length field of data that starts with a frame. -/
theorem readField_length (frame : RawFrame) (hsized : Sized frame) (rest : Bytes) :
    readField (frame.bytes ++ rest) 8 4 = frame.payload.length :=
  (frame.startsFrame rest).payloadLength hsized

theorem Sized.of_le (h : frame.payload.length ≤ options.maxRecordPayloadBytes.toNat) :
    Sized frame := by
  have := options.maxRecordPayloadBytes.toNat_lt
  unfold Sized
  omega

/-- A damaged frame is not read. -/
theorem readFrame_damaged (hsized : Sized frame) (hclear : Clear frame offset width)
    (hburst : Burst offset width frame.bytes changed) :
    readFrame options (changed ++ after) = .error .corrupt ∨
      readFrame options (changed ++ after) = .error .versionIncompatible := by
  have hlength := hburst.length_eq
  have hframe := frame.length_bytes
  simp only [kFrameHeaderBytes, kFrameTrailerBytes] at hframe
  have hfield : readField (changed ++ after) 8 4 = frame.payload.length := by
    have hapart : 8 + 4 ≤ offset ∨ offset + width ≤ 8 := by
      have := hclear.length
      omega
    rw [readField_append after (by omega), hburst.field_eq hapart,
      ← readField_append [] (by omega), readField_length frame hsized]
  cases hread : readFrame options (changed ++ after) with
  | error status =>
    rcases readFrame_error hread with rfl | rfl | ⟨rfl, -, hshort⟩
    · exact Or.inl rfl
    · exact Or.inr rfl
    · rw [announcedBytes, hfield, List.length_append] at hshort
      simp only [kFrameHeaderBytes, kFrameTrailerBytes] at hshort
      omega
  | ok found =>
    obtain ⟨frame', size⟩ := found
    have hroom : kFrameHeaderBytes + kFrameTrailerBytes ≤ (changed ++ after).length := by
      rw [List.length_append]
      simp only [kFrameHeaderBytes, kFrameTrailerBytes]
      omega
    obtain ⟨hdata, hpayload⟩ := readFrame_ok hroom hread
    have hsame : frame'.payload.length = frame.payload.length := by
      rw [hdata, readField_length frame' (.of_le hpayload)] at hfield
      exact hfield
    obtain ⟨rfl, -⟩ := List.append_inj hdata (by
      rw [frame'.length_bytes]
      simp only [kFrameHeaderBytes, kFrameTrailerBytes]
      omega)
    exact absurd hburst hclear.not_burst

end Frames

/-! ### Journals -/

section Journals

variable {options : StoreOptions} {dir : Directory}

/-- A scan after which an open gives up. -/
def ScanStatus.refused : ScanStatus → Bool
  | .clean | .tornTail => false
  | .corrupt | .versionIncompatible | .tooLarge => true

/-- Whole frames in front of bytes that are refused do not make them acceptable. -/
theorem scanFrames_refused {before : List RawFrame} {rest : Bytes}
    (hsized : ∀ frame ∈ before, Sized frame)
    (h : (scanFrames options rest).status.refused = true) :
    (scanFrames options (framesBytes before ++ rest)).status.refused = true := by
  induction before with
  | nil => exact h
  | cons frame before ih =>
    have hrest := ih fun frame hframe => hsized frame (List.mem_cons_of_mem _ hframe)
    rw [framesBytes_cons, List.append_assoc]
    by_cases hfits : frame.payload.length ≤ options.maxRecordPayloadBytes.toNat
    · rw [scanFrames_bytes options frame _ hfits]
      exact hrest
    · have hread := readFrame_oversized options frame
        (frame.startsFrame (framesBytes before ++ rest))
        (hsized frame List.mem_cons_self) (by omega)
      rw [scanFrames_error options _ hread]
      · rfl
      · rw [List.length_append, frame.length_bytes]
        omega

/-- How an open refuses a store that was damaged. -/
def Refuses (options : StoreOptions) (dir : Directory) : Prop :=
  ∃ report, Store.open options dir = .error report ∧
    (report.classification = .corrupt ∨ report.classification = .versionIncompatible)

theorem loadSnapshot_refuses {found report : RecoveryReport}
    (h : Store.loadSnapshot dir found = .error report) :
    report.classification = .corrupt ∨ report.classification = .versionIncompatible := by
  unfold Store.loadSnapshot at h
  split at h
  · cases h
  · rename_i generation frame hlast
    split at h
    · rename_i classification reason version hread
      cases h
      unfold readSnapshotFrame at hread
      simp only at hread
      split_ifs at hread <;> cases hread <;> simp
    · cases h

/-- An open refuses a journal whose scan is refused, unless a snapshot has superseded it. -/
theorem refuses_of_scan {generation : Nat} {data : Bytes}
    (hlast : dir.journals.last? = some (generation, data))
    (hcurrent : ∀ newer frame, dir.snapshots.last? = some (newer, frame) → newer ≤ generation)
    (h : (scanJournal options data).status.refused = true) : Refuses options dir := by
  unfold Refuses Store.open
  simp only
  split
  · rename_i report hload
    exact ⟨report, rfl, loadSnapshot_refuses hload⟩
  · rename_i snapshot hload
    have hnotOld : ¬generation < (snapshot.map Prod.fst).getD 0 := by
      unfold Store.loadSnapshot at hload
      split at hload
      · cases hload
        exact Nat.not_lt_zero generation
      · rename_i newer frame hnewest
        split at hload
        · cases hload
        · cases hload
          exact Nat.not_lt.mpr (hcurrent newer frame hnewest)
    simp only [Store.loadJournal, hlast, if_neg hnotOld]
    cases hstatus : (scanJournal options data).status <;> rw [hstatus] at h
    · cases h
    · cases h
    · exact ⟨_, rfl, Or.inl rfl⟩
    · exact ⟨_, rfl, Or.inr rfl⟩
    · exact ⟨_, rfl, Or.inl rfl⟩

theorem scanJournal_refused {data : Bytes}
    (h : (scanFrames options data).status.refused = true) :
    (scanJournal options data).status.refused = true := by
  unfold scanJournal
  split
  · rfl
  · exact h

/-- The newest journal starts with whole frames, and no snapshot supersedes it. -/
structure Journaled (dir : Directory) (generation : Nat) (before : List RawFrame)
    (frame : RawFrame) (after : Bytes) : Prop where
  newest : dir.journals.last? = some (generation, framesBytes before ++ (frame.bytes ++ after))
  current : ∀ newer file, dir.snapshots.last? = some (newer, file) → newer ≤ generation
  sized : ∀ other ∈ before, Sized other
  frameSized : Sized frame

theorem Journaled.refuses {generation offset width : Nat} {before : List RawFrame}
    {frame : RawFrame} {changed after : Bytes} (h : Journaled dir generation before frame after)
    (hclear : Clear frame offset width) (hburst : Burst offset width frame.bytes changed) :
    Refuses options
      (dir.setJournal generation (framesBytes before ++ (changed ++ after))) := by
  apply refuses_of_scan (Directory.last?_setJournal _ h.newest) h.current
  apply scanJournal_refused
  apply scanFrames_refused h.sized
  have hroom : kFrameHeaderBytes + kFrameTrailerBytes ≤ (changed ++ after).length := by
    rw [List.length_append, hburst.length_eq, frame.length_bytes]
    omega
  rcases @readFrame_damaged options _ _ after _ _ h.frameSized hclear hburst with
    hread | hread
  · rw [scanFrames_error options hroom hread]
    rfl
  · rw [scanFrames_error options hroom hread]
    rfl

end Journals

/-! ### Snapshots -/

section Snapshots

variable {snapshot changed : Bytes} {offset width : Nat}

end Snapshots

/-! ### Damage -/

/-- The Begin frame of a first transaction. -/
def firstMarker : RawFrame :=
  { kind := .beginTransaction, sequence := 1, payload := BigEndian.ofNat 8 1 }

theorem sized_firstMarker : Sized firstMarker := by
  unfold Sized
  decide

/-- A directory whose journal holds one transaction. -/
def probeDirectory : Directory :=
  ⟨.empty, OrderedMap.empty.insert 1 (framesBytes (Store.transactionFrames 1 probe))⟩

theorem length_probeDirectory : (framesBytes (Store.transactionFrames 1 probe)).length = 100 := by
  simp [Store.transactionFrames, Store.recordFrames, probe, RawFrame.length_bytes,
    kFrameHeaderBytes, kFrameTrailerBytes]

theorem journaled_probeDirectory : ∃ after, Journaled probeDirectory 1 [] firstMarker after ∧
    (firstMarker.bytes ++ after).length = 100 := by
  obtain ⟨others, hframes⟩ : ∃ others, Store.transactionFrames 1 probe = firstMarker :: others :=
    ⟨_, rfl⟩
  have hbytes : framesBytes (Store.transactionFrames 1 probe) =
      firstMarker.bytes ++ framesBytes others := by
    rw [hframes, framesBytes_cons]
  refine ⟨framesBytes others, ⟨?_, ?_, ?_, sized_firstMarker⟩, ?_⟩
  · rw [framesBytes_nil, List.nil_append, ← hbytes]
    rfl
  · intro newer file hnewer
    cases hnewer
  · intro other hother
    cases hother
  · rw [← hbytes]
    exact length_probeDirectory

/-- It opens, and returns the transaction. -/
theorem open_probeDirectory : ∃ opened, Store.open {} probeDirectory = .ok opened ∧
    opened.records = probe := by
  have husable : ∀ record ∈ probe, record.Usable := by
    intro record hrecord
    rw [List.mem_singleton.mp hrecord]
    decide
  have hgrouped : Grouped (Store.transactionFrames 1 probe) probe false :=
    .complete .empty husable
  have hsized : ∀ frame ∈ Store.transactionFrames 1 probe, Sized frame := by
    intro frame hframe
    fin_cases hframe <;> (unfold Sized; decide)
  have hlayout : Layout probeDirectory [] (Store.transactionFrames 1 probe) none := by
    refine ⟨⟨0, Or.inl ⟨rfl, rfl, rfl⟩, ?_⟩, IsTorn.none, hsized, ?_⟩
    · exact (List.append_nil _).symm
    · rintro frame ⟨count, hnone, -⟩
      cases hnone
  have hlimits : Limits {} [] (Store.transactionFrames 1 probe) none := by
    refine ⟨by decide, ?_, ?_, by decide⟩
    · rw [tornBytes, List.append_nil, length_probeDirectory]
      decide
    · rintro frame (hframe | ⟨count, hnone, -⟩)
      · fin_cases hframe <;> decide
      · cases hnone
  obtain ⟨opened, hopen⟩ := hlayout.open_ok hgrouped hlimits
  obtain ⟨-, -, ⟨assembly, hassemble, hrecords, -⟩, -⟩ := hlayout.open rfl hopen
  refine ⟨opened, hopen, ?_⟩
  rw [hrecords]
  exact hgrouped.replays assembly hassemble

section Lengths

variable {options : StoreOptions} {dir : Directory} {generation : Nat}
  {before : List RawFrame} {frame : RawFrame} {after changed : Bytes}

/-- The assembly never takes a record back. -/
theorem Assembly.recovered_prefix {frames : List RawFrame} {assembly final : Assembly}
    (h : frames.foldlM step assembly = .ok final) :
    assembly.recoveredRecords <+: final.recoveredRecords := by
  induction frames generalizing assembly with
  | nil =>
    cases h
    exact List.prefix_refl _
  | cons frame frames ih =>
    obtain ⟨next, hstep, hrest⟩ := foldlM_cons_ok h
    refine List.IsPrefix.trans ?_ (ih hrest)
    obtain ⟨-, htakes⟩ := step_takes hstep
    cases htakes with
    | begin => exact List.prefix_refl _
    | commit => exact List.prefix_append _ _
    | record => exact List.prefix_refl _

/-- The whole frames in front of what a scan accepts are within the payload bound. -/
theorem payloads_of_scanFrames {rest : Bytes} (hsized : ∀ other ∈ before, Sized other)
    (h : (scanFrames options (framesBytes before ++ rest)).status.refused = false) :
    ∀ other ∈ before, other.payload.length ≤ options.maxRecordPayloadBytes.toNat := by
  intro other hother
  by_contra hlarge
  obtain ⟨front, back, rfl⟩ := List.append_of_mem hother
  have hread := readFrame_oversized options other
    (other.startsFrame (framesBytes back ++ rest)) (hsized other hother) (by omega)
  have hroom : kFrameHeaderBytes + kFrameTrailerBytes ≤
      (other.bytes ++ (framesBytes back ++ rest)).length := by
    rw [List.length_append, other.length_bytes]
    omega
  have hscan := scanFrames_error options hroom hread
  have hrefused := @scanFrames_refused options front (other.bytes ++ (framesBytes back ++ rest))
    (fun frame hframe => hsized frame (List.mem_append_left _ hframe)) (by rw [hscan]; rfl)
  rw [framesBytes_append, framesBytes_cons, List.append_assoc, List.append_assoc, hrefused] at h
  cases h

theorem loaded_le {found : RecoveryReport} {loaded : Option (Nat × Bytes)}
    (hload : Store.loadSnapshot dir found = .ok loaded)
    (hcurrent : ∀ newer file, dir.snapshots.last? = some (newer, file) → newer ≤ generation) :
    (loaded.map Prod.fst).getD 0 ≤ generation := by
  unfold Store.loadSnapshot at hload
  split at hload
  · cases hload
    exact Nat.zero_le generation
  · rename_i newer file hnewest
    split at hload
    · cases hload
    · cases hload
      exact hcurrent newer file hnewest

/-- What an open of the intact journal has made of the frames before the damaged one. -/
theorem Journaled.opened {opened : Store.Opened} (h : Journaled dir generation before frame after)
    (hopen : Store.open options dir = .ok opened) : ∃ loaded assembly,
      (∀ found, Store.loadSnapshot dir found = .ok loaded) ∧
      (loaded.map Prod.fst).getD 0 ≤ generation ∧
      opened.snapshot = (loaded.map Prod.snd).getD [] ∧
      assemble before = .ok assembly ∧ assembly.recoveredRecords <+: opened.records ∧
      (∀ other ∈ before, other.payload.length ≤ options.maxRecordPayloadBytes.toNat) ∧
      (framesBytes before ++ (frame.bytes ++ after)).length ≤ (readBound options).toNat := by
  obtain ⟨loaded, frames, fragment, assembly, journal, found, hholds, hreads, heq⟩ :=
    Store.holds_of_open hopen
  have hle := loaded_le (hholds.snapshot {}) h.current
  have hassembles := hholds.assembles
  cases hreads with
  | superseded hold => exact absurd (hold _ _ h.newest) (Nat.not_lt.mpr hle)
  | framed hlast hcurrent hframed hbound =>
    have hbytes : framesBytes before ++ (frame.bytes ++ after) = framesBytes frames ++ fragment :=
      (Prod.mk.inj (Option.some.inj (h.newest.symm.trans hlast))).2
    have hscan := hframed.scan
    rw [← hbytes] at hscan
    have haccepted :
      (scanFrames options (framesBytes before ++ (frame.bytes ++ after))).status.refused
        = false := by
      rw [hscan]
      cases fragment.isEmpty <;> rfl
    have hpayloads := payloads_of_scanFrames h.sized haccepted
    rw [scanFrames_journal options before _ hpayloads] at hscan
    have hframes := congrArg ScanResult.frames hscan
    simp only at hframes
    rw [← hframes] at hassembles
    obtain ⟨middle, hbefore, hrest⟩ := Assembly.foldlM_append_ok hassembles
    refine ⟨loaded, middle, hholds.snapshot, hle, ?_, hbefore, ?_, hpayloads, ?_⟩
    · rw [heq]
      rfl
    · rw [heq]
      exact Assembly.recovered_prefix hrest
    · rw [hbytes]
      exact hbound

/-- The frames before the damaged one are all that an open has found, and all that it leaves. -/
def CutsOff (options : StoreOptions) (dir : Directory) (before : List RawFrame)
    (opened : Store.Opened) : Prop :=
  ∃ cut assembly, Store.open options dir = .ok cut ∧ cut.snapshot = opened.snapshot ∧
    assemble before = .ok assembly ∧ cut.records = assembly.recoveredRecords ∧
    cut.records <+: opened.records ∧
    ∃ journal, (dir.performAll cut.ops).journals.last? = some (journal, framesBytes before)

/-- Another frame, of another length, passes the payload checksum of this one. -/
def Collides (frame : RawFrame) (data : Bytes) : Prop :=
  ∃ other : RawFrame, other.bytes <+: data ∧ other.payload.length ≠ frame.payload.length ∧
    payloadCrc other.payload = payloadCrc frame.payload

/-- Only the length that it announces can make the damaged frame a fragment. -/
theorem fragment_of_length (hburst : Burst 8 4 frame.bytes changed)
    (hceiling : readField (changed ++ after) 8 4 ≤ options.maxRecordPayloadBytes.toNat)
    (hpast : (changed ++ after).length < announcedBytes (changed ++ after)) :
    Fragment options (changed ++ after) := by
  have hlength := hburst.length_eq
  have hframe := frame.length_bytes
  simp only [kFrameHeaderBytes, kFrameTrailerBytes] at hframe
  have hfield {start size : Nat} (h : start + size ≤ 8) :
      readField (changed ++ after) start size = readField (frame.bytes ++ []) start size := by
    rw [readField_append after (by omega), hburst.field_eq (Or.inl h), List.append_nil]
  have hstarts := frame.startsFrame []
  refine Or.inr ⟨⟨?_, ?_, ?_, hceiling⟩, hpast⟩
  · rw [hfield (by omega), hstarts.magic]
  · rw [hfield (by omega), hstarts.version]
  · rw [hfield (by omega), hstarts.kind, RecordKind.ofCode?_code]
    rfl

/-- A length that points past the end of the file is taken for a torn tail. -/
theorem Journaled.cutsOff {opened : Store.Opened} (h : Journaled dir generation before frame after)
    (hwritable : options.readOnly = false) (hopen : Store.open options dir = .ok opened)
    (hburst : Burst 8 4 frame.bytes changed) (hfragment : Fragment options (changed ++ after)) :
    CutsOff options (dir.setJournal generation (framesBytes before ++ (changed ++ after))) before
      opened := by
  obtain ⟨loaded, assembly, hload, hle, hsnapshot, hassemble, hprefix, hpayloads, hbound⟩ :=
    h.opened hopen
  have hsize : (framesBytes before ++ (changed ++ after)).length ≤ (readBound options).toNat := by
    rw [List.length_append, List.length_append] at hbound ⊢
    rw [hburst.length_eq]
    exact hbound
  have hframed : Framed options (framesBytes before ++ (changed ++ after)) before
      (changed ++ after) := ⟨rfl, hpayloads, hfragment⟩
  have hreads := Store.Reads.framed
    (Directory.last?_setJournal (framesBytes before ++ (changed ++ after)) h.newest) hle hframed
    hsize
  have hsame : ∀ found, Store.loadSnapshot
      (dir.setJournal generation (framesBytes before ++ (changed ++ after))) found = .ok loaded :=
    fun found => Store.loadSnapshot_same (hload found) rfl found
  obtain ⟨found, hcut⟩ := Store.open_of_reads hsame hreads hassemble
  obtain ⟨journal, -, hlast⟩ := hreads.settles.current
  refine ⟨_, assembly, hcut, hsnapshot.symm, hassemble, rfl, hprefix, journal, ?_⟩
  rw [Store.conclude_ops _ _ _ _ _ hwritable]
  exact hlast

/-- A damaged length field differs from the length of the payload. -/
theorem readField_ne_of_burst (hsized : Sized frame) (hburst : Burst 8 4 frame.bytes changed) :
    readField (changed ++ after) 8 4 ≠ frame.payload.length := by
  intro hsame
  have hlength := hburst.length_eq
  have hframe := frame.length_bytes
  simp only [kFrameHeaderBytes, kFrameTrailerBytes] at hframe
  rw [readField_append after (by omega), ← readField_length frame hsized [], List.append_nil]
    at hsame
  have hfield : (changed.drop 8).take 4 = (frame.bytes.drop 8).take 4 := by
    rw [← ofNat_readField (by omega), ← ofNat_readField (by omega), hsame]
  have hparts (bytes : Bytes) :
      bytes = bytes.take 8 ++ ((bytes.drop 8).take 4 ++ bytes.drop (8 + 4)) := by
    rw [← List.drop_drop, List.take_append_drop, List.take_append_drop]
  apply hburst.ne
  rw [hparts changed, hfield, hburst.take_eq (Nat.le_refl 8), hburst.drop_eq (Nat.le_refl (8 + 4)),
    ← hparts]

/-- A length that stays within the file is refused, unless the payload checksum collides. -/
theorem Journaled.refuses_or_collides (h : Journaled dir generation before frame after)
    (hburst : Burst 8 4 frame.bytes changed) (hfragment : ¬Fragment options (changed ++ after)) :
    Refuses options (dir.setJournal generation (framesBytes before ++ (changed ++ after))) ∨
      Collides frame (changed ++ after) := by
  have hlength := hburst.length_eq
  have hframe := frame.length_bytes
  have hroom : kFrameHeaderBytes + kFrameTrailerBytes ≤ (changed ++ after).length := by
    rw [List.length_append]
    omega
  cases hread : readFrame options (changed ++ after) with
  | error status =>
    left
    apply refuses_of_scan (Directory.last?_setJournal _ h.newest) h.current
    apply scanJournal_refused
    apply scanFrames_refused h.sized
    rw [scanFrames_error options hroom hread]
    rcases readFrame_error hread with rfl | rfl | ⟨rfl, hheader, hshort⟩
    · rfl
    · rfl
    · exact absurd (Or.inr ⟨hheader, hshort⟩) hfragment
  | ok found =>
    right
    obtain ⟨other, size⟩ := found
    obtain ⟨hdata, hpayload⟩ := readFrame_ok hroom hread
    refine ⟨other, ⟨_, hdata.symm⟩, ?_, ?_⟩
    · rw [← readField_length other (.of_le hpayload) ((changed ++ after).drop size), ← hdata]
      exact readField_ne_of_burst h.frameSized hburst
    · rw [← (other.startsFrame ((changed ++ after).drop size)).crc, ← hdata,
        ← (frame.startsFrame []).crc, List.append_nil]
      simp only [kFrameHeaderBytes, kFrameTrailerBytes] at hframe
      rw [readField_append after (by omega), hburst.field_eq (Or.inr (by omega))]

/-- What becomes of a journal that opened before one of its length fields was damaged: either
the rest of the journal passes for a torn tail and is cut off, or the damage is noticed, short
of a collision of the checksum. -/
theorem length_damage {opened : Store.Opened} (h : Journaled dir generation before frame after)
    (hwritable : options.readOnly = false) (hopen : Store.open options dir = .ok opened)
    (hburst : Burst 8 4 frame.bytes changed) :
    (Fragment options (changed ++ after) →
      CutsOff options (dir.setJournal generation (framesBytes before ++ (changed ++ after))) before
        opened) ∧
    (¬Fragment options (changed ++ after) →
      Refuses options (dir.setJournal generation (framesBytes before ++ (changed ++ after))) ∨
        Collides frame (changed ++ after)) :=
  ⟨h.cutsOff hwritable hopen hburst, h.refuses_or_collides hburst⟩

end Lengths

/-- A first length field that was overwritten with a large one: the transaction is gone. -/
theorem length_damage_lost : ∃ (dir : Directory) (changed after : Bytes) (opened : Store.Opened),
    Store.open {} dir = .ok opened ∧ opened.records = probe ∧
      CutsOff {} (dir.setJournal 1 (framesBytes [] ++ (changed ++ after))) [] opened := by
  obtain ⟨opened, hopen, hrecords⟩ := open_probeDirectory
  obtain ⟨after, hjournaled, hlength⟩ := journaled_probeDirectory
  obtain ⟨rest, hbytes⟩ : ∃ rest, firstMarker.bytes =
      [0x4F, 0x46, 0x41, 0x4A, 0, 1, 0, 1] ++ [0, 0, 0, 8] ++ rest := ⟨_, rfl⟩
  have hburst : Burst 8 4 firstMarker.bytes
      ([0x4F, 0x46, 0x41, 0x4A, 0, 1, 0, 1] ++ [0, 0, 0, 200] ++ rest) := by
    rw [hbytes]
    exact @Burst.splice [0x4F, 0x46, 0x41, 0x4A, 0, 1, 0, 1] rest [0, 0, 0, 8] [0, 0, 0, 200]
      rfl (by decide)
  rw [List.length_append, ← hburst.length_eq] at hlength
  have hfield : readField ([0x4F, 0x46, 0x41, 0x4A, 0, 1, 0, 1] ++ [0, 0, 0, 200] ++ rest ++
      after) 8 4 = 200 := rfl
  have hfragment : Fragment {} ([0x4F, 0x46, 0x41, 0x4A, 0, 1, 0, 1] ++ [0, 0, 0, 200] ++ rest ++
      after) := by
    apply fragment_of_length hburst
    · rw [hfield]
      decide
    · rw [announcedBytes, hfield, List.length_append]
      omega
  exact ⟨probeDirectory, _, after, opened, hopen, hrecords,
    (length_damage hjournaled rfl hopen hburst).1 hfragment⟩

end OffloadFabric
