import OffloadFabric.Digest
import OffloadFabric.OrderedMap
import OffloadFabric.Reason

/-!
The durable store: an append-only journal of checksummed frames, grouped into
transactions, and snapshots that replace it generation by generation. The
directory is a pair of generation-indexed files; every operation also returns
the file operations it performs, in order, so that a crash can cut them short.
-/
namespace OffloadFabric

/-! ### Records and options -/

inductive RecordKind where
  | beginTransaction | commitTransaction | serviceRegistered | targetUpserted
  | topologyGenerationSet | policySet | capabilityIngested | failureIngested
  | dependencyIngested | attemptCommitted | attemptAcknowledged | effectRecorded
  | ambiguityResolved | failbackCommitted | epochAdvanced | serviceWithdrawn | sourceRegistered
  | recoveryResumed | targetRetired
  deriving DecidableEq, Inhabited, Repr

namespace RecordKind

def all : List RecordKind :=
  [.beginTransaction, .commitTransaction, .serviceRegistered, .targetUpserted,
   .topologyGenerationSet, .policySet, .capabilityIngested, .failureIngested,
   .dependencyIngested, .attemptCommitted, .attemptAcknowledged, .effectRecorded,
   .ambiguityResolved, .failbackCommitted, .epochAdvanced, .serviceWithdrawn, .sourceRegistered,
   .recoveryResumed, .targetRetired]

/-- The number on disk: kinds are numbered from one, in order. -/
def code (kind : RecordKind) : Nat := all.idxOf kind + 1

def ofCode? (raw : Nat) : Option RecordKind := if raw = 0 then none else all[raw - 1]?

theorem ofCode?_code (kind : RecordKind) : ofCode? kind.code = some kind := by
  cases kind <;> rfl

theorem code_lt (kind : RecordKind) : kind.code < 256 ^ 2 := by
  cases kind <;> decide

end RecordKind

structure Record where
  kind : RecordKind := .beginTransaction
  payload : Bytes := []
  deriving DecidableEq, Inhabited

structure StoreOptions where
  maxJournalBytes : UInt64 := 8388608
  retainedGenerations : Nat := 2
  maxRecordPayloadBytes : UInt32 := 1048576
  readOnly : Bool := false

inductive RecoveryClass where
  | empty | cleanReopen | tornTailRepaired | transactionDropped | corrupt | versionIncompatible
  | unavailable
  deriving DecidableEq, Inhabited, Repr

/-- How the previous contents of the store were classified on open. -/
structure RecoveryReport where
  classification : RecoveryClass := .empty
  reason : Reason := .ok
  formatVersion : Nat := 0
  bytesAccepted : Nat := 0
  bytesDiscarded : Nat := 0
  transactionsApplied : Nat := 0
  transactionsDropped : Nat := 0
  recordsReplayed : Nat := 0
  snapshotGeneration : Nat := 0
  journalGeneration : Nat := 0
  truncatedTailRepaired : Bool := false
  replayedDigest : Digest := {}
  deriving DecidableEq, Inhabited

/-! ### Files -/

/-- The files of a store directory by generation. -/
structure Directory where
  snapshots : OrderedMap Nat Bytes := .empty
  journals : OrderedMap Nat Bytes := .empty
  deriving DecidableEq, Inhabited

inductive DiskOp where
  /-- Open for appending: the file exists afterwards. -/
  | touchJournal (generation : Nat)
  | appendJournal (generation : Nat) (bytes : Bytes)
  | truncateJournal (generation : Nat) (size : Nat)
  /-- Open for writing: the file is empty afterwards. -/
  | resetJournal (generation : Nat)
  /-- Write a temporary file and rename it over the snapshot. -/
  | replaceSnapshot (generation : Nat) (bytes : Bytes)
  /-- Remove every file of a generation below the bound. -/
  | removeBelow (bound : Nat)
  deriving DecidableEq

namespace Directory

def journal (dir : Directory) (generation : Nat) : Bytes :=
  (dir.journals.find? generation).getD []

def setJournal (dir : Directory) (generation : Nat) (bytes : Bytes) : Directory :=
  { dir with journals := dir.journals.insert generation bytes }

/-- The files of generation `bound` and later. -/
def filterFrom (bound : Nat) (files : OrderedMap Nat Bytes) : OrderedMap Nat Bytes :=
  files.filterKeys fun generation => bound ≤ generation

def perform (dir : Directory) : DiskOp → Directory
  | .touchJournal generation => dir.setJournal generation (dir.journal generation)
  | .appendJournal generation bytes =>
    dir.setJournal generation (dir.journal generation ++ bytes)
  | .truncateJournal generation size =>
    dir.setJournal generation ((dir.journal generation).take size)
  | .resetJournal generation => dir.setJournal generation []
  | .replaceSnapshot generation bytes =>
    { dir with snapshots := dir.snapshots.insert generation bytes }
  | .removeBelow bound =>
    { snapshots := filterFrom bound dir.snapshots, journals := filterFrom bound dir.journals }

def performAll (dir : Directory) (ops : List DiskOp) : Directory := ops.foldl perform dir

/-- Every file of `dir` is as in `full`, except that files below `bound` may be gone. -/
def RemovedSome (bound : Nat) (full dir : OrderedMap Nat Bytes) : Prop :=
  ∀ generation, dir.find? generation = full.find? generation ∨
    generation < bound ∧ dir.find? generation = none

/-- What a crash during one file operation can leave behind: an append cut at any
byte, a removal that reached some of the files, any other operation not at all. -/
def Interrupted (dir : Directory) : DiskOp → Directory → Prop
  | .appendJournal generation bytes, dir' =>
    ∃ count, dir' = dir.setJournal generation (dir.journal generation ++ bytes.take count)
  | .removeBelow bound, dir' =>
    RemovedSome bound dir.snapshots dir'.snapshots ∧ RemovedSome bound dir.journals dir'.journals
  | _, dir' => dir' = dir

/-- What a crash at any point of a sequence of file operations can leave behind. -/
def CrashImage (dir : Directory) (ops : List DiskOp) (dir' : Directory) : Prop :=
  dir' = dir.performAll ops ∨
    ∃ done op rest, ops = done ++ op :: rest ∧ Interrupted (dir.performAll done) op dir'

end Directory

/-! ### Frames -/

def kStoreFormatVersion : Nat := 1
def kFrameMagic : Nat := 0x4F46414A
def kFrameHeaderBytes : Nat := 24
def kFrameTrailerBytes : Nat := 4
def kMaxReplayRecords : Nat := 1048576
def kJournalSlackBytes : UInt64 := 1048576

/-- The fixed header of a frame: magic, version, kind, length, sequence, payload CRC. -/
def recordHeader (kind : RecordKind) (sequence : UInt64) (payload : Bytes) : Bytes :=
  BigEndian.ofNat 4 kFrameMagic ++ BigEndian.ofNat 2 kStoreFormatVersion ++
    BigEndian.ofNat 2 kind.code ++ BigEndian.ofNat 4 payload.length ++
    BigEndian.ofNat 8 sequence.toNat ++
    BigEndian.ofNat 4 (if payload.isEmpty then 0 else (crc32c payload).toNat)

def buildRecordFrame (kind : RecordKind) (sequence : UInt64) (payload : Bytes) : Bytes :=
  let body := recordHeader kind sequence payload ++ payload
  body ++ BigEndian.ofNat 4 (crc32c body).toNat

structure RawFrame where
  kind : RecordKind
  sequence : UInt64
  payload : Bytes
  deriving DecidableEq

def RawFrame.bytes (frame : RawFrame) : Bytes :=
  buildRecordFrame frame.kind frame.sequence frame.payload

/-- The bytes of a journal that holds the frames. -/
def framesBytes (frames : List RawFrame) : Bytes := (frames.map RawFrame.bytes).flatten

inductive ScanStatus where
  | clean | tornTail | corrupt | versionIncompatible | tooLarge
  deriving DecidableEq, Repr

/-- The big-endian number in the `width` bytes at `offset`. -/
def readField (data : Bytes) (offset width : Nat) : Nat :=
  BigEndian.toNat ((data.drop offset).take width)

/-- The frame at the start of `data` with its size, or why there is none. -/
def readFrame (options : StoreOptions) (data : Bytes) : Except ScanStatus (RawFrame × Nat) :=
  if readField data 0 4 ≠ kFrameMagic then .error .corrupt
  else if readField data 4 2 ≠ kStoreFormatVersion then .error .versionIncompatible
  else
    match RecordKind.ofCode? (readField data 6 2) with
    | none => .error .corrupt
    | some kind =>
      let payloadLength := readField data 8 4
      if options.maxRecordPayloadBytes.toNat < payloadLength then .error .corrupt
      else
        let frameBytes := kFrameHeaderBytes + payloadLength + kFrameTrailerBytes
        if data.length < frameBytes then .error .tornTail
        else
          let header := data.take kFrameHeaderBytes
          let payload := (data.drop kFrameHeaderBytes).take payloadLength
          let payloadCrc := if payload.isEmpty then 0 else (crc32c payload).toNat
          if readField data 20 4 ≠ payloadCrc then .error .corrupt
          else if (crc32c payload (crc32c header)).toNat ≠
              readField data (kFrameHeaderBytes + payloadLength) 4 then .error .corrupt
          else .ok ({ kind, sequence := UInt64.ofNat (readField data 12 8), payload }, frameBytes)

structure ScanResult where
  status : ScanStatus
  frames : List RawFrame
  /-- Bytes before the first one that is not part of a good frame. -/
  badOffset : Nat
  deriving DecidableEq

theorem readFrame_size {options : StoreOptions} {data : Bytes} {frame : RawFrame} {size : Nat}
    (h : readFrame options data = .ok (frame, size)) : 28 ≤ size := by
  unfold readFrame at h
  split at h
  · cases h
  split at h
  · cases h
  split at h
  · cases h
  simp only at h
  split_ifs at h
  all_goals
    obtain ⟨-, rfl⟩ := Prod.mk.inj (Except.ok.inj h)
    unfold kFrameHeaderBytes kFrameTrailerBytes
    omega

/-- Frame by frame from the start of `data`, until it ends or a frame is unusable. -/
def scanFrames (options : StoreOptions) (data : Bytes) : ScanResult :=
  if _hlen : kFrameHeaderBytes + kFrameTrailerBytes ≤ data.length then
    match _hread : readFrame options data with
    | .error status => { status, frames := [], badOffset := 0 }
    | .ok (frame, size) =>
      let rest := scanFrames options (data.drop size)
      { rest with frames := frame :: rest.frames, badOffset := size + rest.badOffset }
  else
    { status := if data.isEmpty then .clean else .tornTail, frames := [], badOffset := 0 }
termination_by data.length
decreasing_by
  have hsize := readFrame_size _hread
  simp only [kFrameHeaderBytes, kFrameTrailerBytes] at _hlen
  simp only [List.length_drop]
  omega

/-- The largest journal that is read at all. -/
def readBound (options : StoreOptions) : UInt64 :=
  options.maxJournalBytes + kJournalSlackBytes + 4 * options.maxRecordPayloadBytes.toUInt64

def scanJournal (options : StoreOptions) (data : Bytes) : ScanResult :=
  if (readBound options).toNat < data.length then
    { status := .tooLarge, frames := [], badOffset := 0 }
  else scanFrames options data

/-! ### Transactions -/

/-- Progress of assembling frames into transactions. -/
structure Assembly where
  inTransaction : Bool := false
  transactionId : UInt64 := 0
  pending : List Record := []
  previousSequence : UInt64 := 0
  havePreviousSequence : Bool := false
  recoveredRecords : List Record := []
  transactionsApplied : Nat := 0
  deriving DecidableEq, Inhabited

def payloadU64 (payload : Bytes) : Option UInt64 :=
  if payload.length = 8 then some (UInt64.ofNat (BigEndian.toNat payload)) else none

/-- One frame of the assembly; only a complete Begin..Commit group is applied. A
refusal carries the progress made before the frame. -/
def Assembly.step (assembly : Assembly) (frame : RawFrame) : Except (Reason × Assembly) Assembly :=
  if assembly.havePreviousSequence && frame.sequence ≤ assembly.previousSequence then
    .error (.corrupt, assembly)
  else
    let next := { assembly with previousSequence := frame.sequence, havePreviousSequence := true }
    if frame.kind = .beginTransaction then
      if assembly.inTransaction then .error (.corrupt, assembly)
      else
        match payloadU64 frame.payload with
        | none => .error (.malformed, assembly)
        | some id => .ok { next with inTransaction := true, transactionId := id, pending := [] }
    else if frame.kind = .commitTransaction then
      if !assembly.inTransaction then .error (.corrupt, assembly)
      else if payloadU64 frame.payload ≠ some assembly.transactionId then
        .error (.corrupt, assembly)
      else
        .ok { next with
          inTransaction := false
          transactionsApplied := assembly.transactionsApplied + 1
          recoveredRecords := assembly.recoveredRecords ++ assembly.pending
          pending := [] }
    else if !assembly.inTransaction then .error (.corrupt, assembly)
    else if kMaxReplayRecords ≤ assembly.recoveredRecords.length + assembly.pending.length then
      .error (.journalCapacityExceeded, assembly)
    else
      .ok { next with
        pending := assembly.pending ++ [{ kind := frame.kind, payload := frame.payload }] }

def assemble (frames : List RawFrame) : Except (Reason × Assembly) Assembly :=
  frames.foldlM Assembly.step {}

/-! ### Snapshots -/

def kSnapshotMagic : Nat := 0x4F464153
def kSnapshotHeaderBytes : Nat := 20
def kMaxSnapshotBytes : Nat := 536870912

def snapshotHeader (payload : Bytes) : Bytes :=
  BigEndian.ofNat 4 kSnapshotMagic ++ BigEndian.ofNat 2 kStoreFormatVersion ++
    BigEndian.ofNat 2 0 ++ BigEndian.ofNat 4 payload.length ++
    BigEndian.ofNat 4 (if payload.isEmpty then 0 else (crc32c payload).toNat)

def buildSnapshotFrame (payload : Bytes) : Bytes :=
  let header := snapshotHeader payload
  header ++ BigEndian.ofNat 4 (crc32c header).toNat ++ payload

/-- The payload of a snapshot file, or the class, reason and version of its refusal. -/
def readSnapshotFrame (frame : Bytes) : Except (RecoveryClass × Reason × Nat) Bytes :=
  if kMaxSnapshotBytes < frame.length then .error (.corrupt, .snapshotCorrupt, 0)
  else if frame.length < kSnapshotHeaderBytes then .error (.corrupt, .snapshotCorrupt, 0)
  else if readField frame 0 4 ≠ kSnapshotMagic then .error (.corrupt, .snapshotCorrupt, 0)
  else if (crc32c (frame.take 16)).toNat ≠ readField frame 16 4 then
    .error (.corrupt, .snapshotCorrupt, 0)
  else if readField frame 4 2 ≠ kStoreFormatVersion then
    .error (.versionIncompatible, .storeVersionIncompatible, readField frame 4 2)
  else if kMaxSnapshotBytes < readField frame 8 4 ∨
      kSnapshotHeaderBytes + readField frame 8 4 ≠ frame.length then
    .error (.corrupt, .snapshotCorrupt, 0)
  else
    let payload := frame.drop kSnapshotHeaderBytes
    if !payload.isEmpty && (crc32c payload).toNat != readField frame 12 4 then
      .error (.corrupt, .snapshotCorrupt, 0)
    else .ok payload

/-! ### The store -/

/-- An open store. The journal file of a writable store is open for appending. -/
structure Store where
  options : StoreOptions := {}
  journalBytes : Nat := 0
  nextSequence : UInt64 := 1
  journalGeneration : Nat := 0
  snapshotGeneration : Nat := 0

namespace Store

def rotationDue (store : Store) : Bool :=
  store.options.maxJournalBytes.toNat ≤ store.journalBytes

/-- Everything a successful open hands to its caller. -/
structure Opened where
  store : Store
  report : RecoveryReport
  snapshot : Bytes
  records : List Record
  ops : List DiskOp

/-- The newest snapshot, if there is one: its generation, size and payload. -/
def loadSnapshot (dir : Directory) (report : RecoveryReport) :
    Except RecoveryReport (Option (Nat × Bytes)) :=
  match dir.snapshots.last? with
  | none => .ok none
  | some (generation, frame) =>
    match readSnapshotFrame frame with
    | .error (classification, reason, version) =>
      .error { report with classification, reason, formatVersion := version }
    | .ok payload => .ok (some (generation, payload))

/-- Scan the newest journal, unless a newer snapshot has superseded it. -/
def loadJournal (options : StoreOptions) (dir : Directory) (snapshot : Option (Nat × Bytes))
    (report : RecoveryReport) : Except RecoveryReport (Option (ScanResult × Nat)) :=
  match dir.journals.last? with
  | none => .ok none
  | some (generation, data) =>
    if generation < ((snapshot.map Prod.fst).getD 0) then .ok none
    else
      let scan := scanJournal options data
      match scan.status with
      | .corrupt => .error { report with classification := .corrupt, reason := .storeCorrupt }
      | .versionIncompatible =>
        .error { report with
          classification := .versionIncompatible, reason := .storeVersionIncompatible }
      | .tooLarge => .error { report with classification := .corrupt, reason := .oversized }
      | .tornTail | .clean => .ok (some (scan, data.length))

/-- Generation that the journal is appended to after an open. -/
def journalGenerationOf (dir : Directory) (snapshot : Option (Nat × Bytes)) : Nat :=
  match snapshot, dir.journals.last? with
  | none, none => 1
  | none, some (journal, _) => journal
  | some (best, _), none => best
  | some (best, _), some (journal, _) => if best < journal then journal else best

/-- The repair of a torn tail: the journal is cut back to its last good frame. -/
def repairs (dir : Directory) (snapshot : Option (Nat × Bytes))
    (journal : Option (ScanResult × Nat)) : List DiskOp :=
  match journal with
  | some (scan, _) =>
    if scan.status = .tornTail then
      [.truncateJournal (journalGenerationOf dir snapshot) scan.badOffset]
    else []
  | none => []

/-- The digest of what was replayed. A kind is hashed as it lies in memory, low byte first. -/
def replayedDigest (records : List Record) : Digest :=
  let builder : DigestBuilder := records.foldl (fun builder record =>
    (builder.update (BigEndian.ofNat 2 record.kind.code).reverse).update record.payload) {}
  builder.value

/-- The report, the store and the repairs of an open whose frames assembled. -/
def conclude (options : StoreOptions) (dir : Directory) (snapshot : Option (Nat × Bytes))
    (journal : Option (ScanResult × Nat)) (found : RecoveryReport) (assembly : Assembly) :
    Opened :=
  let generation := journalGenerationOf dir snapshot
  let torn := journal.any fun j => j.1.status = .tornTail
  let fileSize := (journal.map fun j => j.2).getD 0
  let badOffset := (journal.map fun j => j.1.badOffset).getD 0
  let accepted := if torn then badOffset else fileSize
  let found : RecoveryReport :=
    if torn then
      { found with
        classification := .tornTailRepaired, reason := .tornTailTruncated
        bytesDiscarded := fileSize - badOffset, truncatedTailRepaired := true }
    else found
  let found : RecoveryReport := { found with
    bytesAccepted := found.bytesAccepted + accepted
    transactionsApplied := assembly.transactionsApplied
    recordsReplayed := assembly.recoveredRecords.length
    replayedDigest := replayedDigest assembly.recoveredRecords }
  let found : RecoveryReport :=
    if assembly.inTransaction then
      { found with
        transactionsDropped := 1, reason := .incompleteTransactionDropped
        classification :=
          if found.classification = .empty then .transactionDropped else found.classification }
    else found
  let found : RecoveryReport :=
    if found.classification = .empty ∧ (snapshot.isSome ∨ journal.isSome) then
      { found with classification := .cleanReopen }
    else found
  { store :=
      { options, journalGeneration := generation
        snapshotGeneration := (snapshot.map Prod.fst).getD 0
        journalBytes := if options.readOnly then 0 else accepted
        nextSequence := if options.readOnly then 1 else assembly.previousSequence + 1 }
    report := found
    snapshot := (snapshot.map Prod.snd).getD []
    records := assembly.recoveredRecords
    ops := if options.readOnly then [] else
      repairs dir snapshot journal ++ [.touchJournal generation] }

/-- Open the store: validate the snapshot and the journal, assemble the committed
records and repair a torn tail. -/
def «open» (options : StoreOptions) (dir : Directory) : Except RecoveryReport Opened :=
  let found : RecoveryReport :=
    { snapshotGeneration := (dir.snapshots.last?.map Prod.fst).getD 0
      journalGeneration := (dir.journals.last?.map Prod.fst).getD 0 }
  match loadSnapshot dir found with
  | .error report => .error report
  | .ok snapshot =>
    let found : RecoveryReport := { found with
      bytesAccepted := (snapshot.map fun s => kSnapshotHeaderBytes + s.2.length).getD 0 }
    match loadJournal options dir snapshot found with
    | .error report => .error report
    | .ok journal =>
      match assemble ((journal.map fun j => j.1.frames).getD []) with
      | .error (reason, assembly) =>
        let found : RecoveryReport :=
          if journal.any fun j => j.1.status = .tornTail then
            { found with
              bytesDiscarded := (journal.map fun j => j.2 - j.1.badOffset).getD 0
              truncatedTailRepaired := true }
          else found
        .error { found with
          classification := .corrupt, reason
          transactionsApplied := assembly.transactionsApplied
          recordsReplayed := assembly.recoveredRecords.length }
      | .ok assembly => .ok (conclude options dir snapshot journal found assembly)

/-- One frame a record, numbered upwards from `sequence`. -/
def recordFrames (sequence : UInt64) : List Record → List RawFrame
  | [] => []
  | record :: rest =>
    { kind := record.kind, sequence, payload := record.payload } ::
      recordFrames (sequence + 1) rest

/-- The frames of one transaction, from the sequence number it starts at. -/
def transactionFrames (first : UInt64) (records : List Record) : List RawFrame :=
  let marker := BigEndian.ofNat 8 first.toNat
  { kind := .beginTransaction, sequence := first, payload := marker } ::
    (recordFrames (first + 1) records ++
      [{ kind := .commitTransaction, sequence := first + 1 + UInt64.ofNat records.length
         payload := marker }])

/-- Why a record cannot be part of a transaction. -/
def refuseRecord (options : StoreOptions) (record : Record) : Option Reason :=
  if record.kind = .beginTransaction ∨ record.kind = .commitTransaction then some .malformed
  else if options.maxRecordPayloadBytes.toNat < record.payload.length then some .payloadTooLarge
  else none

/-- Why a transaction is refused before anything is written. -/
def refuseTransaction (store : Store) (records : List Record) : Option Reason :=
  if store.options.readOnly then some .storeUnavailable
  else if records.isEmpty then some .malformed
  else
    match records.findSome? (refuseRecord store.options) with
    | some reason => some reason
    | none =>
      if 2 ^ 64 ≤ store.nextSequence.toNat + (records.length + 1) then some .generationExhausted
      else none

/-- Durably commit one transaction: its frames, then a sync. -/
def commitTransaction (store : Store) (records : List Record) : Reason × Store × List DiskOp :=
  match store.refuseTransaction records with
  | some reason => (reason, store, [])
  | none =>
    let bytes := framesBytes (transactionFrames store.nextSequence records)
    (.ok,
     { store with
       journalBytes := store.journalBytes + bytes.length
       nextSequence := store.nextSequence + 1 + UInt64.ofNat records.length + 1 },
     [.appendJournal store.journalGeneration bytes])

/-- Write a new snapshot generation and start a fresh journal. -/
def compact (store : Store) (snapshot : Bytes) : Reason × Store × List DiskOp :=
  if store.options.readOnly then (.storeUnavailable, store, [])
  else if kMaxSnapshotBytes < snapshot.length then (.oversized, store, [])
  else if store.journalGeneration = 2 ^ 32 - 1 then (.generationExhausted, store, [])
  else
    let next := store.journalGeneration + 1
    let retain := max 1 store.options.retainedGenerations
    (.ok,
     { store with
       journalBytes := 0, nextSequence := 1, snapshotGeneration := next
       journalGeneration := next },
     [.replaceSnapshot next (buildSnapshotFrame snapshot), .resetJournal next] ++
       if retain < next then [.removeBelow (next - retain)] else [])

end Store

end OffloadFabric
