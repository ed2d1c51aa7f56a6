import OffloadFabric.StoreRecovery

/-!
The limits of the write side against those of the read side. A journal grows by whole
transactions until a compaction starts it again. A later open with the same options
checks the size of the whole file, the number of records and every payload, and for the
snapshot the size of the file with its header; commits and compactions check single
payloads only. What an open refuses is stated by the sizes of what was accepted.
-/
namespace OffloadFabric

open Store (recordFrames transactionFrames)

/-! ### Volumes -/

/-- A store directory and the store that is open on it, with the last snapshot that a
compaction accepted and the transactions that were accepted since. -/
structure Volume where
  dir : Directory := {}
  store : Option Store := none
  snapshot : Bytes := []
  transactions : List (List Record) := []
  /-- The last commit made a rotation due, and `compact` was not called yet. -/
  rotationOwed : Bool := false

inductive VolumeCall where
  | «open»
  | commit (records : List Record)
  | compact (snapshot : Bytes)
  | close

/-- The calls on a store whose owner compacts after every commit that makes a rotation due. -/
inductive Volume.Step (options : StoreOptions) : Volume → VolumeCall → Volume → Prop
  | «open» {volume : Volume} {opened : Store.Opened} (hclosed : volume.store = none)
      (hopen : Store.open options volume.dir = .ok opened) :
      Step options volume .open
        { volume with dir := volume.dir.performAll opened.ops, store := some opened.store }
  | commit {volume : Volume} {store store' : Store} {records : List Record} {ops : List DiskOp}
      (hstore : volume.store = some store) (hsettled : volume.rotationOwed = false)
      (hcommit : store.commitTransaction records = (.ok, store', ops)) :
      Step options volume (.commit records)
        { volume with
          dir := volume.dir.performAll ops, store := some store'
          transactions := volume.transactions ++ [records], rotationOwed := store'.rotationDue }
  | refuseCommit {volume : Volume} {store store' : Store} {records : List Record}
      {reason : Reason} {ops : List DiskOp} (hstore : volume.store = some store)
      (hreason : reason ≠ .ok)
      (hcommit : store.commitTransaction records = (reason, store', ops)) :
      Step options volume (.commit records)
        { volume with dir := volume.dir.performAll ops, store := some store' }
  | compact {volume : Volume} {store store' : Store} {snapshot : Bytes} {ops : List DiskOp}
      (hstore : volume.store = some store)
      (hcompact : store.compact snapshot = (.ok, store', ops)) :
      Step options volume (.compact snapshot)
        { dir := volume.dir.performAll ops, store := some store', snapshot }
  | refuseCompact {volume : Volume} {store store' : Store} {snapshot : Bytes} {reason : Reason}
      {ops : List DiskOp} (hstore : volume.store = some store) (hreason : reason ≠ .ok)
      (hcompact : store.compact snapshot = (reason, store', ops)) :
      Step options volume (.compact snapshot)
        { volume with
          dir := volume.dir.performAll ops, store := some store', rotationOwed := false }
  | close {volume : Volume} {store : Store} (hstore : volume.store = some store)
      (hsettled : volume.rotationOwed = false) :
      Step options volume .close { volume with store := none }

/-- The volumes that calls with these options reach from an empty directory. -/
inductive Volume.Run (options : StoreOptions) : List VolumeCall → Volume → Prop
  | start : Run options [] {}
  | step {calls : List VolumeCall} {call : VolumeCall} {volume volume' : Volume}
      (h : Run options calls volume) (hstep : Step options volume call volume') :
      Run options (calls ++ [call]) volume'

/-- A later open with the same options returns everything that was accepted. -/
def Volume.Returned (options : StoreOptions) (volume : Volume) : Prop :=
  ∃ opened, Store.open options volume.dir = .ok opened ∧
    opened.records = volume.transactions.flatten ∧ opened.snapshot = volume.snapshot

/-! ### Sizes -/

/-- The bytes that a record adds to the journal. -/
def recordBytes (record : Record) : Nat :=
  kFrameHeaderBytes + record.payload.length + kFrameTrailerBytes

/-- The bytes of a transaction: a marker, its records and another marker. -/
def transactionBytes (records : List Record) : Nat :=
  kBeginFrameBytes + (records.map recordBytes).sum + kBeginFrameBytes

def journalBytes (transactions : List (List Record)) : Nat :=
  (transactions.map transactionBytes).sum

/-- What the read side needs of the accepted snapshot and transactions. -/
structure Agree (options : StoreOptions) (snapshot : Bytes) (transactions : List (List Record)) :
    Prop where
  snapshot : kSnapshotHeaderBytes + snapshot.length ≤ kMaxSnapshotBytes
  journal : journalBytes transactions ≤ (readBound options).toNat
  markers : transactions ≠ [] → 8 ≤ options.maxRecordPayloadBytes.toNat
  records : transactions.flatten.length ≤ kMaxReplayRecords

theorem length_recordFramesBytes (first : UInt64) (records : List Record) :
    (framesBytes (recordFrames first records)).length = (records.map recordBytes).sum := by
  induction records generalizing first with
  | nil => rfl
  | cons record rest ih =>
    rw [recordFrames, framesBytes_cons, List.length_append, RawFrame.length_bytes, ih,
      List.map_cons, List.sum_cons, recordBytes]

theorem length_transactionFramesBytes (first : UInt64) (records : List Record) :
    (framesBytes (transactionFrames first records)).length = transactionBytes records := by
  rw [transactionFrames, framesBytes_cons, framesBytes_append, framesBytes_cons, framesBytes_nil,
    List.append_nil, List.length_append, List.length_append, RawFrame.length_bytes,
    RawFrame.length_bytes, length_recordFramesBytes, BigEndian.length_ofNat, transactionBytes,
    kBeginFrameBytes]
  omega

/-- Records that a store takes as one transaction. -/
def Committable (records : List Record) : Prop :=
  records ≠ [] ∧ ∀ record ∈ records, record.Usable

/-- The frames of these transactions, one after the other. -/
def journalFrames (transactions : List (List Record)) : List RawFrame :=
  transactions.foldl (fun frames records =>
    frames ++ transactionFrames (1 + UInt64.ofNat frames.length) records) []

theorem journalFrames_append (transactions : List (List Record)) (records : List Record) :
    journalFrames (transactions ++ [records]) = journalFrames transactions ++
      transactionFrames (1 + UInt64.ofNat (journalFrames transactions).length) records := by
  rw [journalFrames, List.foldl_append]
  rfl

/-- The frames hold exactly these transactions. -/
structure Filled (options : StoreOptions) (transactions : List (List Record))
    (frames : List RawFrame) : Prop where
  written : frames = journalFrames transactions
  committable : ∀ records ∈ transactions, Committable records
  grouped : Grouped frames transactions.flatten false
  size : (framesBytes frames).length = journalBytes transactions
  payloads : ∀ frame ∈ frames, frame.payload.length = 8 ∨
    frame.payload.length ≤ options.maxRecordPayloadBytes.toNat
  marked : transactions ≠ [] → ∃ frame ∈ frames, frame.payload.length = 8

theorem Filled.nil (options : StoreOptions) : Filled options [] [] :=
  ⟨rfl, by simp, Grouped.empty, rfl, by simp, by simp⟩

theorem Filled.append {options : StoreOptions} {transactions : List (List Record)}
    {frames : List RawFrame} {records : List Record} (h : Filled options transactions frames)
    (hsome : records ≠ []) (hrecords : ∀ record ∈ records, record.Usable ∧
      record.payload.length ≤ options.maxRecordPayloadBytes.toNat) :
    Filled options (transactions ++ [records])
      (frames ++ transactionFrames (1 + UInt64.ofNat frames.length) records) where
  written := by rw [journalFrames_append, h.written]
  committable := by
    intro other hother
    rcases List.mem_append.mp hother with hother | hother
    · exact h.committable other hother
    · rw [List.mem_singleton.mp hother]
      exact ⟨hsome, fun record hrecord => (hrecords record hrecord).1⟩
  grouped := by
    rw [List.flatten_append, List.flatten_singleton]
    exact h.grouped.complete fun record hrecord => (hrecords record hrecord).1
  size := by
    rw [framesBytes_append, List.length_append, h.size, length_transactionFramesBytes,
      journalBytes, journalBytes, List.map_append, List.sum_append]
    simp
  payloads := by
    intro frame hframe
    rcases List.mem_append.mp hframe with hframe | hframe
    · exact h.payloads frame hframe
    · have hmem (sequence : UInt64) (more : List Record) (hmore : ∀ record ∈ more,
          record.payload.length ≤ options.maxRecordPayloadBytes.toNat) :
          ∀ frame ∈ recordFrames sequence more,
            frame.payload.length ≤ options.maxRecordPayloadBytes.toNat := by
        induction more generalizing sequence with
        | nil => simp [recordFrames]
        | cons record rest ih =>
          intro frame hframe
          rcases List.mem_cons.mp hframe with rfl | hframe
          · exact hmore record List.mem_cons_self
          · exact ih _ (fun r hr => hmore r (List.mem_cons_of_mem _ hr)) frame hframe
      rcases List.mem_cons.mp hframe with rfl | hframe
      · exact Or.inl (BigEndian.length_ofNat _ _)
      · rcases List.mem_append.mp hframe with hframe | hframe
        · exact Or.inr (hmem _ records (fun r hr => (hrecords r hr).2) frame hframe)
        · rw [List.mem_singleton.mp hframe]
          exact Or.inl (BigEndian.length_ofNat _ _)
  marked := by
    intro _
    exact ⟨_, List.mem_append_right _ List.mem_cons_self, BigEndian.length_ofNat _ _⟩

/-- The limits of an open, in terms of what the frames hold. -/
theorem Filled.limits_iff {options : StoreOptions} {transactions : List (List Record)}
    {frames : List RawFrame} (h : Filled options transactions frames) (snapshot : Bytes) :
    Limits options snapshot frames none ↔ Agree options snapshot transactions := by
  have hcount := h.grouped.durable_eq
  have hsize := h.size
  constructor
  · intro hlimits
    have hjournal := hlimits.size
    simp only [tornBytes, List.append_nil] at hjournal
    refine ⟨hlimits.snapshot, by omega, ?_, ?_⟩
    · intro hsome
      obtain ⟨frame, hframe, hmarker⟩ := h.marked hsome
      rw [← hmarker]
      exact hlimits.payloads frame (Or.inl hframe)
    · rw [hcount]
      exact hlimits.records
  · intro hagree
    refine ⟨hagree.snapshot, ?_, ?_, ?_⟩
    · simp only [tornBytes, List.append_nil]
      rw [hsize]
      exact hagree.journal
    · rintro frame (hframe | ⟨count, hnone, -⟩)
      · rcases h.payloads frame hframe with hmarker | hpayload
        · rw [hmarker]
          refine hagree.markers fun hnil => ?_
          rw [hnil] at hsize
          rw [framesBytes_eq_nil (List.eq_nil_of_length_eq_zero hsize)] at hframe
          cases hframe
        · exact hpayload
      · cases hnone
    · rw [← hcount]
      exact hagree.records

/-! ### The invariant of a run -/

/-- The volume holds what was accepted. -/
structure Volume.Kept (options : StoreOptions) (volume : Volume) (frames : List RawFrame) :
    Prop where
  filled : Filled options volume.transactions frames
  layout : Layout volume.dir volume.snapshot frames none
  configured : ∀ store, volume.store = some store → store.options = options
  attached : ∀ store, volume.store = some store → options.readOnly = false →
    Attached store volume.dir volume.snapshot frames ∧
      store.nextSequence = 1 + UInt64.ofNat frames.length

theorem Volume.Kept.start (options : StoreOptions) : Kept options {} [] where
  filled := Filled.nil options
  layout := Layout.empty
  configured := by simp
  attached := by simp

theorem Store.compact_writable {store store' : Store} {snapshot : Bytes} {ops : List DiskOp}
    (h : store.compact snapshot = (.ok, store', ops)) : store.options.readOnly = false := by
  by_contra hreadOnly
  rw [Store.compact, if_pos (by simpa using hreadOnly)] at h
  cases h

theorem Volume.Kept.step {options : StoreOptions} {volume volume' : Volume} {call : VolumeCall}
    {frames : List RawFrame} (h : Kept options volume frames)
    (hstep : Step options volume call volume') : ∃ frames', Kept options volume' frames' := by
  cases hstep with
  | @«open» opened hclosed hopen =>
    have hoptions : opened.store.options = options := by
      obtain ⟨_, _, _, _, _, -, -, -, rfl⟩ := Store.open_ok hopen
      rfl
    by_cases hreadOnly : options.readOnly
    · have hops : opened.ops = [] := by
        obtain ⟨_, _, _, _, _, -, -, -, rfl⟩ := Store.open_ok hopen
        simp [Store.conclude, hreadOnly]
      refine ⟨frames, h.filled, by rw [hops]; exact h.layout, ?_, ?_⟩
      · intro store hstore
        cases hstore
        exact hoptions
      · intro store hstore hwritable
        rw [hreadOnly] at hwritable
        cases hwritable
    · have hwritable : options.readOnly = false := by simpa using hreadOnly
      obtain ⟨-, -, ⟨assembly, hassembly, -, hnext⟩, hattached, -⟩ :=
        h.layout.open hwritable hopen
      refine ⟨frames, h.filled, hattached.layout, ?_, ?_⟩
      · intro store hstore
        cases hstore
        exact hoptions
      · intro store hstore _
        cases hstore
        refine ⟨hattached, ?_⟩
        rw [hnext, assemble_previousSequence h.filled.grouped.numbered hassembly, UInt64.add_comm]
  | @commit store store' records ops hstore hsettled hcommit =>
    obtain ⟨hnone, hoptions, -, hnext', -⟩ := Store.commitTransaction_ok hcommit
    obtain ⟨hwritable, hsome, hrecords, -⟩ := Store.accepted hnone
    have hconfigured := h.configured store hstore
    rw [hconfigured] at hwritable hrecords
    obtain ⟨hattached, hnext⟩ := h.attached store hstore hwritable
    have hcommitted := hattached.commit hcommit
    rw [hnext] at hcommitted
    refine ⟨_, h.filled.append hsome hrecords, hcommitted.layout, ?_, ?_⟩
    · intro other hother
      cases hother
      rw [hoptions, hconfigured]
    · intro other hother _
      cases hother
      refine ⟨hcommitted, ?_⟩
      rw [hnext', hnext]
      exact nextSequence_append frames _ records
  | refuseCommit hstore hreason hcommit =>
    obtain ⟨rfl, rfl⟩ := Store.commitTransaction_refused hreason hcommit
    refine ⟨frames, h.filled, h.layout, ?_, ?_⟩
    · intro other hother
      cases hother
      exact h.configured _ hstore
    · intro other hother hwritable
      cases hother
      exact h.attached _ hstore hwritable
  | @compact store store' snapshot ops hstore hcompact =>
    have hconfigured := h.configured store hstore
    have hwritable := Store.compact_writable hcompact
    rw [hconfigured] at hwritable
    obtain ⟨hattached, -⟩ := h.attached store hstore hwritable
    have hcompacted := hattached.compact hcompact
    obtain ⟨hoptions, -, hnext, -⟩ := Store.compact_ok hcompact
    refine ⟨[], Filled.nil options, hcompacted.layout, ?_, ?_⟩
    · intro other hother
      cases hother
      rw [hoptions, hconfigured]
    · intro other hother _
      cases hother
      exact ⟨hcompacted, by rw [hnext]; rfl⟩
  | refuseCompact hstore hreason hcompact =>
    obtain ⟨rfl, rfl⟩ := Store.compact_refused hreason hcompact
    refine ⟨frames, h.filled, h.layout, ?_, ?_⟩
    · intro other hother
      cases hother
      exact h.configured _ hstore
    · intro other hother hwritable
      cases hother
      exact h.attached _ hstore hwritable
  | close hstore hsettled =>
    refine ⟨frames, h.filled, h.layout, ?_, ?_⟩
    · intro other hother
      cases hother
    · intro other hother
      cases hother

theorem Volume.Run.kept {options : StoreOptions} {calls : List VolumeCall} {volume : Volume}
    (h : Run options calls volume) : ∃ frames, Kept options volume frames := by
  induction h with
  | start => exact ⟨[], Kept.start options⟩
  | step h hstep ih =>
    obtain ⟨frames, hkept⟩ := ih
    exact hkept.step hstep

/-- What an open of the volume returns, if it succeeds. -/
theorem Volume.Kept.open {options : StoreOptions} {volume : Volume} {frames : List RawFrame}
    {opened : Store.Opened} (h : Kept options volume frames)
    (hopen : Store.open options volume.dir = .ok opened) :
    opened.records = volume.transactions.flatten ∧ opened.snapshot = volume.snapshot := by
  obtain ⟨generation, hsnapshot, hjournal⟩ := h.layout.files
  obtain ⟨found, found', loaded, journal, assembly, hloaded, hscanned, hassembly, rfl⟩ :=
    Store.open_ok hopen
  obtain ⟨hpayload, hgeneration⟩ := loadSnapshot_layout hsnapshot hloaded
  rw [(loadJournal_layout h.layout hjournal hgeneration hscanned).frames_eq] at hassembly
  exact ⟨h.filled.grouped.replays assembly hassembly, hpayload⟩

theorem Volume.Kept.returned_iff {options : StoreOptions} {volume : Volume}
    {frames : List RawFrame} (h : Kept options volume frames) :
    Returned options volume ↔ Agree options volume.snapshot volume.transactions := by
  rw [← h.filled.limits_iff]
  constructor
  · rintro ⟨opened, hopen, -⟩
    exact h.layout.limits h.filled.grouped hopen
  · intro hlimits
    obtain ⟨opened, hopen⟩ := h.layout.open_ok h.filled.grouped hlimits
    exact ⟨opened, hopen, h.open hopen⟩

/-- In every run, a later open returns everything that was accepted exactly when the sizes
of the snapshot and of the transactions since it agree with the limits of the read side. -/
theorem Volume.returned_iff_agree {options : StoreOptions} {calls : List VolumeCall}
    {volume : Volume} (h : Run options calls volume) :
    Returned options volume ↔ Agree options volume.snapshot volume.transactions := by
  obtain ⟨frames, hkept⟩ := h.kept
  exact hkept.returned_iff

/-- A commit goes through that the store does not refuse and that makes no rotation due. -/
theorem Volume.Run.commit {options : StoreOptions} {calls : List VolumeCall} {dir : Directory}
    {store : Store} {snapshot : Bytes} {transactions : List (List Record)}
    (h : Run options calls { dir, store := some store, snapshot, transactions })
    (records : List Record) (size : Nat) (next : UInt64)
    (hok : store.refuseTransaction records = none)
    (hsize : (framesBytes (Store.transactionFrames store.nextSequence records)).length = size)
    (hnext : store.nextSequence + 1 + UInt64.ofNat records.length + 1 = next)
    (hshort : store.journalBytes + size < store.options.maxJournalBytes.toNat) :
    ∃ dir', Run options (calls ++ [.commit records])
      { dir := dir'
        store := some { store with journalBytes := store.journalBytes + size, nextSequence := next }
        snapshot, transactions := transactions ++ [records] } := by
  have hcommit : store.commitTransaction records =
      (.ok, { store with journalBytes := store.journalBytes + size, nextSequence := next },
        [.appendJournal store.journalGeneration
          (framesBytes (Store.transactionFrames store.nextSequence records))]) := by
    unfold Store.commitTransaction
    rw [hok, ← hsize, ← hnext]
  have hrun := h.step (Step.commit rfl rfl hcommit)
  have hdue : Store.rotationDue
      { store with journalBytes := store.journalBytes + size, nextSequence := next } = false :=
    decide_eq_false (Nat.not_le.mpr hshort)
  rw [hdue] at hrun
  exact ⟨_, hrun⟩

/-- The store that an open of an empty directory returns. -/
theorem Volume.run_open :
    ∃ dir, Run {} [.open] { dir, store := some { journalGeneration := 1 } } := by
  have hopen : ∃ opened, Store.open {} {} = .ok opened ∧
      opened.store = { journalGeneration := 1 } := ⟨_, rfl, rfl⟩
  obtain ⟨opened, hopen, hstore⟩ := hopen
  have hstep := @Step.open {} {} opened rfl hopen
  rw [hstore] at hstep
  exact ⟨_, Run.start.step hstep⟩

/-- A transaction of two records. -/
def pair : List Record :=
  [{ kind := .epochAdvanced, payload := [1] }, { kind := .epochAdvanced, payload := [2, 3] }]

/-- A snapshot and the transactions since are returned. -/
theorem Volume.returned_probe : ∃ volume,
    Run {} [.open, .commit probe, .compact [7, 7], .commit pair, .commit probe] volume ∧
    volume.snapshot = [7, 7] ∧ volume.transactions = [pair, probe] ∧ Returned {} volume := by
  obtain ⟨dir, hopened⟩ := run_open
  obtain ⟨_, hfirst⟩ := hopened.commit probe 100 4 (by decide) (by decide +kernel) rfl (by decide)
  have hcompacted := hfirst.step (@Step.compact _ _ _ _ [7, 7] _ rfl rfl)
  obtain ⟨_, hsecond⟩ :=
    hcompacted.commit pair 131 5 (by decide) (by decide +kernel) rfl (by decide)
  obtain ⟨_, hrun⟩ :=
    hsecond.commit probe 100 8 (by decide) (by decide +kernel) rfl (by decide)
  have hagree : Agree {} [7, 7] [pair, probe] :=
    ⟨by decide, by decide, fun _ => by decide, by decide⟩
  exact ⟨_, hrun, rfl, rfl, (returned_iff_agree hrun).mpr hagree⟩

/-- A compaction accepts the largest snapshot, and no later open reads its file. -/
theorem Volume.not_returned_largest :
    ∃ volume, Run {} [.open, .compact (List.replicate kMaxSnapshotBytes 0)] volume ∧
      volume.snapshot = List.replicate kMaxSnapshotBytes 0 ∧ ¬ Returned {} volume := by
  obtain ⟨dir, hopened⟩ := run_open
  generalize hsnapshot : List.replicate kMaxSnapshotBytes (0 : UInt8) = snapshot
  have hlength : snapshot.length = kMaxSnapshotBytes := by
    rw [← hsnapshot, List.length_replicate]
  have hcompact : ∃ store ops, Store.compact { journalGeneration := 1 } snapshot =
      (.ok, store, ops) := by
    unfold Store.compact
    rw [if_neg (by decide), if_neg (by omega), if_neg (by decide)]
    exact ⟨_, _, rfl⟩
  obtain ⟨store, ops, hcompact⟩ := hcompact
  have hrun := hopened.step (Step.compact rfl hcompact)
  refine ⟨_, hrun, rfl, ?_⟩
  rintro ⟨opened, hopen, -⟩
  obtain ⟨frames, hkept⟩ := hrun.kept
  have hfits := (hkept.layout.limits hkept.filled.grouped hopen).snapshot
  have hheader : 0 < kSnapshotHeaderBytes := by decide
  change kSnapshotHeaderBytes + snapshot.length ≤ kMaxSnapshotBytes at hfits
  omega

end OffloadFabric
