import OffloadFabric.StoreDurability

/-!
Recovery over any number of sessions. A session opens the store, commits
transactions and ends by closing it or by a crash inside one more commit. As long
as nothing is written behind a transaction whose Begin frame a crash left without
its Commit frame, and the journal stays within the bounds of the open, every open
returns exactly the acknowledged transactions and the crashed ones that were
complete on disk.
-/
namespace OffloadFabric

open Store (recordFrames transactionFrames)

/-! ### Numbering -/

/-- The frames carry consecutive numbers from `first`. -/
def NumberedFrom (first : UInt64) (frames : List RawFrame) : Prop :=
  ∀ index frame, frames[index]? = some frame → frame.sequence = first + UInt64.ofNat index

theorem NumberedFrom.cons {first : UInt64} {frame : RawFrame} {rest : List RawFrame}
    (hframe : frame.sequence = first) (hrest : NumberedFrom (first + 1) rest) :
    NumberedFrom first (frame :: rest) := by
  intro index other hget
  cases index with
  | zero =>
    cases hget
    simp [hframe]
  | succ index =>
    rw [List.getElem?_cons_succ] at hget
    rw [hrest index other hget, Nat.succ_eq_add_one, Nat.add_comm index 1, UInt64.ofNat_add,
      UInt64.add_assoc]
    rfl

theorem NumberedFrom.append {first : UInt64} {frames more : List RawFrame}
    (hframes : NumberedFrom first frames)
    (hmore : NumberedFrom (first + UInt64.ofNat frames.length) more) :
    NumberedFrom first (frames ++ more) := by
  intro index frame hget
  by_cases hindex : index < frames.length
  · rw [List.getElem?_append_left hindex] at hget
    exact hframes index frame hget
  · rw [List.getElem?_append_right (by omega)] at hget
    have hsum : index = frames.length + (index - frames.length) := by omega
    rw [hmore _ frame hget, hsum, UInt64.ofNat_add, Nat.add_sub_cancel_left, UInt64.add_assoc]

theorem NumberedFrom.take {first : UInt64} {frames : List RawFrame}
    (h : NumberedFrom first frames) (count : Nat) : NumberedFrom first (frames.take count) := by
  intro index frame hget
  exact h index frame (by
    rw [List.getElem?_take] at hget
    split at hget
    · exact hget
    · cases hget)

theorem numberedFrom_recordFrames (first : UInt64) (records : List Record) :
    NumberedFrom first (recordFrames first records) := by
  induction records generalizing first with
  | nil =>
    intro index frame hget
    simp [recordFrames] at hget
  | cons record rest ih => exact NumberedFrom.cons rfl (ih _)

theorem numberedFrom_transactionFrames (first : UInt64) (records : List Record) :
    NumberedFrom first (transactionFrames first records) := by
  refine NumberedFrom.cons rfl (NumberedFrom.append (numberedFrom_recordFrames _ _) ?_)
  refine NumberedFrom.cons ?_ ?_
  · rw [Assembly.length_recordFrames]
  · intro index frame hget
    simp at hget

theorem Assembly.foldlM_previousSequence {frames : List RawFrame} {assembly final : Assembly}
    (h : frames.foldlM step assembly = .ok final) :
    (frames = [] → final = assembly) ∧
      ∀ last, frames.getLast? = some last → final.previousSequence = last.sequence := by
  induction frames generalizing assembly with
  | nil =>
    cases h
    simp
  | cons frame rest ih =>
    obtain ⟨next, hstep, hrest⟩ := foldlM_cons_ok h
    refine ⟨by simp, ?_⟩
    intro last hlast
    cases rest with
    | nil =>
      cases hlast
      rw [(ih hrest).1 rfl]
      exact (step_before hstep).2
    | cons second rest =>
      rw [List.getLast?_cons_cons] at hlast
      exact (ih hrest).2 last hlast

/-- The last number of a numbered journal. -/
theorem assemble_previousSequence {frames : List RawFrame} {assembly : Assembly}
    (hnumbered : NumberedFrom 1 frames) (h : assemble frames = .ok assembly) :
    assembly.previousSequence = UInt64.ofNat frames.length := by
  obtain ⟨hempty, hlast⟩ := Assembly.foldlM_previousSequence h
  cases hget : frames.getLast? with
  | none =>
    have hnil : frames = [] := List.getLast?_eq_none_iff.mp hget
    rw [hempty hnil, hnil]
    rfl
  | some last =>
    rw [List.getLast?_eq_getElem?] at hget
    have hpositive : frames.length ≠ 0 := by
      intro hzero
      rw [List.eq_nil_of_length_eq_zero hzero] at hget
      simp at hget
    rw [hlast last (by rw [List.getLast?_eq_getElem?]; exact hget), hnumbered _ _ hget,
      show frames.length = 1 + (frames.length - 1) by omega, UInt64.ofNat_add]
    simp

/-! ### Journals that assemble -/

/-- The frames of complete transactions, then perhaps the start of one more. -/
inductive Grouped : List RawFrame → List Record → Bool → Prop
  | empty : Grouped [] [] false
  | complete {frames : List RawFrame} {durable records : List Record}
      (h : Grouped frames durable false) (husable : ∀ record ∈ records, record.Usable) :
      Grouped (frames ++ transactionFrames (1 + UInt64.ofNat frames.length) records)
        (durable ++ records) false
  | unfinished {frames : List RawFrame} {durable records : List Record} {kept : Nat}
      (h : Grouped frames durable false) (husable : ∀ record ∈ records, record.Usable)
      (hkept : kept ≤ records.length) :
      Grouped (frames ++
        (transactionFrames (1 + UInt64.ofNat frames.length) records).take (kept + 1)) durable true

theorem Grouped.numbered {frames : List RawFrame} {durable : List Record} {unfinished : Bool}
    (h : Grouped frames durable unfinished) : NumberedFrom 1 frames := by
  induction h with
  | empty =>
    intro index frame hget
    simp at hget
  | complete h husable ih => exact ih.append (numberedFrom_transactionFrames _ _)
  | unfinished h husable hkept ih =>
    exact ih.append ((numberedFrom_transactionFrames _ _).take _)

theorem Grouped.replays {frames : List RawFrame} {durable : List Record} {unfinished : Bool}
    (h : Grouped frames durable unfinished) : Replays frames durable := by
  induction h with
  | empty => exact Replays.nil
  | complete h husable ih => exact ih.append _ husable
  | unfinished h husable hkept ih =>
    refine ih.append_cut _ husable ?_
    rw [Assembly.length_transactionFrames]
    omega

/-- The frames that carry a record. -/
def recordCount (frames : List RawFrame) : Nat :=
  frames.countP fun frame =>
    frame.kind ≠ .beginTransaction ∧ frame.kind ≠ .commitTransaction

theorem recordCount_recordFrames (first : UInt64) {records : List Record}
    (husable : ∀ record ∈ records, record.Usable) :
    recordCount (recordFrames first records) = records.length := by
  induction records generalizing first with
  | nil => rfl
  | cons record rest ih =>
    have hrest := ih (first + 1) fun r hr => husable r (List.mem_cons_of_mem _ hr)
    unfold recordCount at hrest ⊢
    rw [recordFrames, List.countP_cons_of_pos, hrest, List.length_cons]
    simpa [Record.Usable] using husable record List.mem_cons_self

theorem recordCount_transactionFrames (first : UInt64) {records : List Record}
    (husable : ∀ record ∈ records, record.Usable) :
    recordCount (transactionFrames first records) = records.length := by
  have hrecords := recordCount_recordFrames (first + 1) husable
  unfold recordCount at hrecords ⊢
  unfold transactionFrames
  rw [List.countP_cons_of_neg (by simp), List.countP_append, hrecords]
  simp

theorem recordCount_take_transactionFrames (first : UInt64) {records : List Record} {kept : Nat}
    (husable : ∀ record ∈ records, record.Usable) (hkept : kept ≤ records.length) :
    recordCount ((transactionFrames first records).take (kept + 1)) = kept := by
  have hrecords := recordCount_recordFrames (first + 1)
    fun r (hr : r ∈ records.take kept) => husable r (List.mem_of_mem_take hr)
  rw [Assembly.take_transactionFrames _ _ hkept]
  unfold recordCount at hrecords ⊢
  rw [List.countP_cons_of_neg (by simp), hrecords, List.length_take, Nat.min_eq_left hkept]

theorem recordCount_append (frames more : List RawFrame) :
    recordCount (frames ++ more) = recordCount frames + recordCount more := by
  simp [recordCount]

namespace Assembly

theorem foldlM_append_of {first second : List RawFrame} {assembly middle final : Assembly}
    (hfirst : first.foldlM step assembly = .ok middle)
    (hsecond : second.foldlM step middle = .ok final) :
    (first ++ second).foldlM step assembly = .ok final := by
  rw [List.foldlM_append, hfirst]
  exact hsecond

/-- A Begin frame and records after a finished transaction assemble. -/
theorem foldlM_opening_ok {records : List Record} {first : UInt64} {assembly : Assembly}
    (husable : ∀ record ∈ records, record.Usable) (hbefore : assembly.Before first)
    (hout : assembly.inTransaction = false) (hroom : first.toNat + 1 + records.length < 2 ^ 64)
    (hcapacity : assembly.recoveredRecords.length + records.length ≤ kMaxReplayRecords) :
    ∃ filled,
      ({ kind := .beginTransaction, sequence := first
         payload := BigEndian.ofNat 8 first.toNat } ::
        recordFrames (first + 1) records).foldlM step assembly = .ok filled ∧
      filled.Before (first + 1 + UInt64.ofNat records.length) ∧
      filled.inTransaction = true ∧ filled.transactionId = first := by
  obtain ⟨began, hbegin, hid⟩ := step_begin_ok hbefore hout
  obtain ⟨-, hin, hpending, hrecovered⟩ := step_begin rfl hbegin
  have hprevious : began.previousSequence = first := (step_before hbegin).2
  have hsuccessor : (first + 1).toNat = first.toNat + 1 := by
    rw [UInt64.toNat_add]
    exact Nat.mod_eq_of_lt (by simp; omega)
  have hnext : began.Before (first + 1) := by
    intro _
    rw [hprevious, UInt64.lt_iff_toNat_lt, hsuccessor]
    exact Nat.lt_succ_self _
  obtain ⟨filled, hfill, hafter, hsame⟩ := foldlM_recordFrames_ok husable hnext hin (by omega)
    (by rw [hrecovered, hpending]; simpa using hcapacity)
  refine ⟨filled, ?_, hafter, ?_, by rw [hsame, hid]⟩
  · rw [List.foldlM_cons, hbegin]
    exact hfill
  · rw [(foldlM_recordFrames husable hfill).1, hin]

/-- The frames of one commit after a finished transaction assemble. -/
theorem foldlM_transactionFrames_ok {records : List Record} {first : UInt64}
    {assembly : Assembly} (husable : ∀ record ∈ records, record.Usable)
    (hbefore : assembly.Before first) (hout : assembly.inTransaction = false)
    (hroom : first.toNat + 1 + records.length < 2 ^ 64)
    (hcapacity : assembly.recoveredRecords.length + records.length ≤ kMaxReplayRecords) :
    ∃ final, (transactionFrames first records).foldlM step assembly = .ok final := by
  obtain ⟨filled, hfill, hafter, hin, hid⟩ :=
    foldlM_opening_ok husable hbefore hout hroom hcapacity
  have hcommit : ∃ final, filled.step
      { kind := .commitTransaction, sequence := first + 1 + UInt64.ofNat records.length
        payload := BigEndian.ofNat 8 first.toNat } = .ok final := by
    simp [step, not_stale hafter, hin, payloadU64_marker, hid]
  obtain ⟨final, hcommit⟩ := hcommit
  refine ⟨final, ?_⟩
  exact foldlM_append_of hfill (by rw [List.foldlM_cons, hcommit]; rfl)

end Assembly

theorem Grouped.durable_le {frames : List RawFrame} {durable : List Record} {unfinished : Bool}
    (h : Grouped frames durable unfinished) : durable.length ≤ recordCount frames := by
  induction h with
  | empty => exact Nat.zero_le _
  | complete h husable ih =>
    rw [recordCount_append, recordCount_transactionFrames _ husable, List.length_append]
    omega
  | unfinished h husable hkept ih =>
    rw [recordCount_append]
    omega

/-- A journal of grouped frames assembles within the bounds of the replay. -/
theorem Grouped.assembles {frames : List RawFrame} {durable : List Record} {unfinished : Bool}
    (h : Grouped frames durable unfinished) (hlength : frames.length + 1 < 2 ^ 64)
    (hcapacity : recordCount frames ≤ kMaxReplayRecords) :
    ∃ assembly, assemble frames = .ok assembly ∧ assembly.inTransaction = unfinished := by
  -- Where the next transaction starts, given that the frames so far assemble.
  have hnext {frames : List RawFrame} {durable : List Record} {assembly : Assembly}
      (hgrouped : Grouped frames durable false) (hlength : frames.length + 1 < 2 ^ 64)
      (hassembly : assemble frames = .ok assembly) :
      assembly.Before (1 + UInt64.ofNat frames.length) ∧
        (1 + UInt64.ofNat frames.length).toNat = 1 + frames.length := by
    have hnumber : (1 + UInt64.ofNat frames.length).toNat = 1 + frames.length := by
      rw [UInt64.toNat_add, UInt64.toNat_ofNat_of_lt' (by simp [UInt64.size]; omega)]
      exact Nat.mod_eq_of_lt (by simp; omega)
    refine ⟨fun _ => ?_, hnumber⟩
    rw [assemble_previousSequence hgrouped.numbered hassembly, UInt64.lt_iff_toNat_lt, hnumber,
      UInt64.toNat_ofNat_of_lt' (by simp [UInt64.size]; omega)]
    omega
  induction h with
  | empty => exact ⟨{}, rfl, rfl⟩
  | @complete frames durable records hgrouped husable ih =>
    rw [recordCount_append, recordCount_transactionFrames _ husable] at hcapacity
    rw [List.length_append, Assembly.length_transactionFrames] at hlength
    obtain ⟨assembly, hassembly, hout⟩ := ih (by omega) (by omega)
    obtain ⟨hbefore, hnumber⟩ := hnext hgrouped (by omega) hassembly
    have hrecovered := hgrouped.replays assembly hassembly
    have hdurable := hgrouped.durable_le
    obtain ⟨final, hfold⟩ := Assembly.foldlM_transactionFrames_ok husable hbefore hout
      (by omega) (by rw [hrecovered]; omega)
    exact ⟨final, Assembly.foldlM_append_of hassembly hfold,
      (Assembly.foldlM_transactionFrames husable hfold).2.1⟩
  | @unfinished frames durable records kept hgrouped husable hkept ih =>
    have husable' : ∀ record ∈ records.take kept, record.Usable :=
      fun r hr => husable r (List.mem_of_mem_take hr)
    rw [recordCount_append, recordCount_take_transactionFrames _ husable hkept] at hcapacity
    rw [Assembly.take_transactionFrames _ _ hkept] at hlength ⊢
    rw [List.length_append, List.length_cons, Assembly.length_recordFrames,
      List.length_take, Nat.min_eq_left hkept] at hlength
    obtain ⟨assembly, hassembly, hout⟩ := ih (by omega) (by omega)
    obtain ⟨hbefore, hnumber⟩ := hnext hgrouped (by omega) hassembly
    have hrecovered := hgrouped.replays assembly hassembly
    have hdurable := hgrouped.durable_le
    have hcount : (records.take kept).length = kept := by
      rw [List.length_take, Nat.min_eq_left hkept]
    obtain ⟨filled, hfill, -, hin, -⟩ := Assembly.foldlM_opening_ok husable' hbefore hout
      (by omega) (by rw [hrecovered]; omega)
    exact ⟨filled, Assembly.foldlM_append_of hassembly hfill, hin⟩

/-! ### Sessions -/

/-- A store directory between and during sessions, with what was written to it: the
frames that are whole on disk, the frame cut short by the last crash, and the records
that every later open has to return. -/
structure World where
  dir : Directory := {}
  store : Option Store := none
  durable : List Record := []
  frames : List RawFrame := []
  torn : Option (RawFrame × Nat) := none

inductive SessionEvent where
  | «open» (options : StoreOptions)
  | commit (records : List Record)
  | close
  /-- The process dies in a commit of which `count` bytes reached the journal. -/
  | crash (records : List Record) (count : Nat)

inductive SessionStep : World → SessionEvent → World → Prop
  | «open» {world : World} {options : StoreOptions} {opened : Store.Opened}
      (hclosed : world.store = none) (hwritable : options.readOnly = false)
      (hopen : Store.open options world.dir = .ok opened) :
      SessionStep world (.open options)
        { world with
          dir := world.dir.performAll opened.ops, store := some opened.store, torn := none }
  | commit {world : World} {store store' : Store} {records : List Record} {ops : List DiskOp}
      (hstore : world.store = some store)
      (hcommit : store.commitTransaction records = (.ok, store', ops)) :
      SessionStep world (.commit records)
        { world with
          dir := world.dir.performAll ops, store := some store'
          durable := world.durable ++ records
          frames := world.frames ++ transactionFrames store.nextSequence records }
  | refuse {world : World} {store store' : Store} {records : List Record} {reason : Reason}
      {ops : List DiskOp} (hstore : world.store = some store) (hreason : reason ≠ .ok)
      (hcommit : store.commitTransaction records = (reason, store', ops)) :
      SessionStep world (.commit records)
        { world with dir := world.dir.performAll ops, store := some store' }
  | close {world : World} {store : Store} (hstore : world.store = some store) :
      SessionStep world .close { world with store := none }
  | crash {world : World} {store store' : Store} {records : List Record} {ops : List DiskOp}
      {written : List RawFrame} {count : Nat} (hstore : world.store = some store)
      (hcommit : store.commitTransaction records = (.ok, store', ops))
      (hwritten : written = transactionFrames store.nextSequence records) :
      SessionStep world (.crash records count)
        { dir := world.dir.setJournal store.journalGeneration
            (world.dir.journal store.journalGeneration ++ (framesBytes written).take count)
          store := none
          durable := world.durable ++ if (framesBytes written).length ≤ count then records else []
          frames := world.frames ++ (landed written count).1
          torn := (landed written count).2 }

/-- The worlds that sessions reach from an empty directory by steps that `guard` admits. -/
inductive Sessions (guard : World → SessionEvent → Prop) : List SessionEvent → World → Prop
  | start : Sessions guard [] {}
  | step {world world' : World} {events : List SessionEvent} {event : SessionEvent}
      (h : Sessions guard events world) (hguard : guard world event)
      (hstep : SessionStep world event world') : Sessions guard (events ++ [event]) world'

/-- The store can be opened and returns exactly the durable records. -/
def Recovers (options : StoreOptions) (world : World) : Prop :=
  ∃ opened, Store.open options world.dir = .ok opened ∧ opened.records = world.durable

/-- The last transaction on disk has its Begin frame but no Commit frame. -/
def Unfinished (frames : List RawFrame) : Prop :=
  ∃ before frame after, frames = before ++ frame :: after ∧ frame.kind = .beginTransaction ∧
    ∀ later ∈ after, later.kind ≠ .commitTransaction

/-- The journal is within the bounds that an open with these options checks. -/
structure WithinBounds (options : StoreOptions) (world : World) : Prop where
  size : ∀ generation data, world.dir.journals.last? = some (generation, data) →
    data.length ≤ (readBound options).toNat
  payloads : ∀ frame, frame ∈ world.frames ∨ Seen world.torn frame →
    frame.payload.length ≤ options.maxRecordPayloadBytes.toNat
  records : recordCount world.frames ≤ kMaxReplayRecords

/-- The size of a Begin frame. -/
def kBeginFrameBytes : Nat := kFrameHeaderBytes + 8 + kFrameTrailerBytes

/-- Nothing is written behind an unfinished transaction. -/
def Careful (world : World) : SessionEvent → Prop
  | .open _ => True
  | .commit records => Unfinished world.frames →
      ∀ store, world.store = some store → store.refuseTransaction records ≠ none
  | .close => True
  | .crash _ count => Unfinished world.frames → count < kBeginFrameBytes

/-! ### The invariant of a careful run -/

structure Recoverable (world : World) : Prop where
  noSnapshot : world.dir.snapshots.last? = none
  grouped : ∃ unfinished, Grouped world.frames world.durable unfinished
  layout : Layout world.dir [] world.frames world.torn
  attached : ∀ store, world.store = some store →
    Attached store world.dir [] world.frames ∧
      store.nextSequence = 1 + UInt64.ofNat world.frames.length ∧ world.torn = none

theorem Grouped.isUnfinished {frames : List RawFrame} {durable : List Record}
    (h : Grouped frames durable true) : Unfinished frames := by
  cases h with
  | @unfinished frames _ records kept h husable hkept =>
    rw [Assembly.take_transactionFrames _ _ hkept]
    refine ⟨frames, _, _, rfl, rfl, ?_⟩
    have hkinds (first : UInt64) (records : List Record)
        (husable : ∀ record ∈ records, record.Usable) :
        ∀ frame ∈ recordFrames first records, frame.kind ≠ .commitTransaction := by
      induction records generalizing first with
      | nil => simp [recordFrames]
      | cons record rest ih =>
        intro frame hframe
        rcases List.mem_cons.mp hframe with rfl | hframe
        · exact (husable record List.mem_cons_self).2
        · exact ih _ (fun r hr => husable r (List.mem_cons_of_mem _ hr)) frame hframe
    exact hkinds _ _ fun r hr => husable r (List.mem_of_mem_take hr)

/-- Fewer bytes than a Begin frame land no frame. -/
theorem landed_begin {first : UInt64} {records : List Record} {count : Nat}
    (h : count < kBeginFrameBytes) : (landed (transactionFrames first records) count).1 = [] := by
  unfold transactionFrames landed
  rw [if_neg]
  rw [RawFrame.length_bytes, BigEndian.length_ofNat]
  unfold kBeginFrameBytes at h
  omega

/-- What a commit of which `count` bytes reached the disk adds. -/
theorem Grouped.crash {frames : List RawFrame} {durable records : List Record}
    {unfinished : Bool} {count : Nat} (h : Grouped frames durable unfinished)
    (husable : ∀ record ∈ records, record.Usable)
    (hcareful : unfinished = true → count < kBeginFrameBytes) :
    let written := transactionFrames (1 + UInt64.ofNat frames.length) records
    ∃ unfinished', Grouped (frames ++ (landed written count).1)
      (durable ++ if (framesBytes written).length ≤ count then records else []) unfinished' := by
  intro written
  obtain ⟨kept, hkept, htake, hall⟩ := landed_take written count
  have hlength : written.length = records.length + 2 := Assembly.length_transactionFrames _ _
  rw [htake]
  by_cases hwhole : kept = written.length
  · rw [if_pos (hall.mp hwhole), hwhole, List.take_length]
    cases unfinished with
    | false => exact ⟨false, Grouped.complete h husable⟩
    | true =>
      have hnone : written.take kept = [] := htake ▸ landed_begin (hcareful rfl)
      rw [hwhole, List.take_length] at hnone
      rw [hnone] at hlength
      simp at hlength
  · rw [if_neg (fun hle => hwhole (hall.mpr hle)), List.append_nil]
    cases kept with
    | zero => exact ⟨unfinished, by simpa using h⟩
    | succ kept =>
      cases unfinished with
      | false => exact ⟨true, Grouped.unfinished h husable (by omega)⟩
      | true =>
        have hnone : written.take (kept + 1) = [] := htake ▸ landed_begin (hcareful rfl)
        have hcount := congrArg List.length hnone
        rw [List.length_take, hlength] at hcount
        simp at hcount

theorem DiskOp.snapshots_performAll {dir : Directory} {ops : List DiskOp}
    (h : ∀ op ∈ ops, ∃ generation, op = .touchJournal generation ∨
      ∃ size, op = .truncateJournal generation size) :
    (dir.performAll ops).snapshots = dir.snapshots := by
  induction ops generalizing dir with
  | nil => rfl
  | cons op rest ih =>
    have hrest := @ih (dir.perform op) fun o ho => h o (List.mem_cons_of_mem _ ho)
    obtain ⟨generation, rfl | ⟨size, rfl⟩⟩ := h op List.mem_cons_self
    · exact hrest
    · exact hrest

theorem Store.open_snapshots {options : StoreOptions} {dir : Directory} {opened : Store.Opened}
    (hwritable : options.readOnly = false) (h : Store.open options dir = .ok opened) :
    (dir.performAll opened.ops).snapshots = dir.snapshots := by
  obtain ⟨found, found', loaded, journal, assembly, -, -, -, rfl⟩ := Store.open_ok h
  refine DiskOp.snapshots_performAll ?_
  rw [Store.conclude_ops _ _ _ _ _ hwritable]
  intro op hop
  rcases List.mem_append.mp hop with hop | hop
  · unfold Store.repairs at hop
    split at hop
    · split at hop
      · exact ⟨_, Or.inr ⟨_, List.mem_singleton.mp hop⟩⟩
      · cases hop
    · cases hop
  · exact ⟨_, Or.inl (List.mem_singleton.mp hop)⟩

theorem Recoverable.start : Recoverable {} where
  noSnapshot := rfl
  grouped := ⟨false, Grouped.empty⟩
  layout := Layout.empty
  attached := by
    intro store h
    cases h

/-- A commit moves the next number past its frames. -/
theorem nextSequence_append (frames : List RawFrame) (first : UInt64) (records : List Record) :
    1 + UInt64.ofNat frames.length + 1 + UInt64.ofNat records.length + 1 =
      1 + UInt64.ofNat (frames ++ transactionFrames first records).length := by
  rw [List.length_append, Assembly.length_transactionFrames, UInt64.ofNat_add, UInt64.ofNat_add]
  simp only [UInt64.add_assoc]
  congr 2
  rw [UInt64.add_comm, UInt64.add_assoc]
  rfl

theorem Recoverable.step {world world' : World} {event : SessionEvent}
    (h : Recoverable world) (hcareful : Careful world event)
    (hstep : SessionStep world event world') : Recoverable world' := by
  obtain ⟨unfinished, hgrouped⟩ := h.grouped
  cases hstep with
  | «open» hclosed hwritable hopen =>
    obtain ⟨-, -, ⟨assembly, hassembly, -, hnext⟩, hattached, -⟩ :=
      h.layout.open hwritable hopen
    refine ⟨by rw [Store.open_snapshots hwritable hopen]; exact h.noSnapshot, h.grouped,
      hattached.layout, ?_⟩
    intro store hstore
    cases hstore
    refine ⟨hattached, ?_, rfl⟩
    rw [hnext, assemble_previousSequence hgrouped.numbered hassembly, UInt64.add_comm]
  | @commit store store' records ops hstore hcommit =>
    obtain ⟨hattached, hnext, htorn⟩ := h.attached store hstore
    obtain ⟨hnone, hoptions, hgeneration, hnext', hops⟩ := Store.commitTransaction_ok hcommit
    obtain ⟨-, -, husable, -⟩ := Store.accepted hnone
    have hfinished : unfinished = false := by
      cases unfinished with
      | false => rfl
      | true => exact absurd hnone (hcareful hgrouped.isUnfinished store hstore)
    subst hfinished
    have hattached' := hattached.commit hcommit
    refine ⟨?_, ⟨false, ?_⟩, ?_, ?_⟩
    · rw [hops]
      exact h.noSnapshot
    · rw [hnext]
      exact hgrouped.complete fun r hr => (husable r hr).1
    · rw [htorn]
      exact hattached'.layout
    · intro other hother
      cases hother
      refine ⟨hattached', ?_, htorn⟩
      rw [hnext', hnext]
      exact nextSequence_append world.frames _ records
  | @refuse store store' records reason ops hstore hreason hcommit =>
    obtain ⟨rfl, rfl⟩ := Store.commitTransaction_refused hreason hcommit
    refine ⟨h.noSnapshot, h.grouped, h.layout, ?_⟩
    intro other hother
    cases hother
    exact h.attached _ hstore
  | close hstore =>
    refine ⟨h.noSnapshot, h.grouped, h.layout, ?_⟩
    intro other hother
    cases hother
  | @crash store store' records ops written count hstore hcommit hwritten =>
    obtain ⟨hattached, hnext, -⟩ := h.attached store hstore
    obtain ⟨-, -, husable, -⟩ := Store.accepted (Store.commitTransaction_ok hcommit).1
    have hmax := store.options.maxRecordPayloadBytes.toNat_lt
    have hsized : ∀ frame ∈ written, Sized frame := by
      rw [hwritten]
      refine sized_transactionFrames _ fun record hrecord => ?_
      have hpayload := (husable record hrecord).2
      omega
    refine ⟨h.noSnapshot, ?_, hattached.append hsized count, ?_⟩
    · rw [hwritten, hnext]
      refine hgrouped.crash (fun r hr => (husable r hr).1) ?_
      rintro rfl
      exact hcareful hgrouped.isUnfinished
    · intro other hother
      cases hother

theorem recoverable {events : List SessionEvent} {world : World}
    (h : Sessions Careful events world) : Recoverable world := by
  induction h with
  | start => exact Recoverable.start
  | step h hcareful hstep ih => exact ih.step hcareful hstep

/-! ### When an open succeeds -/

theorem length_framesBytes (frames : List RawFrame) :
    28 * frames.length ≤ (framesBytes frames).length := by
  induction frames with
  | nil => exact Nat.le_refl 0
  | cons frame rest ih =>
    rw [framesBytes_cons, List.length_append, List.length_cons, frame.length_bytes]
    unfold kFrameHeaderBytes kFrameTrailerBytes
    omega

/-- The newest snapshot and journal are within the bounds that an open checks. -/
structure Limits (options : StoreOptions) (snapshot : Bytes) (frames : List RawFrame)
    (torn : Option (RawFrame × Nat)) : Prop where
  snapshot : kSnapshotHeaderBytes + snapshot.length ≤ kMaxSnapshotBytes
  size : (framesBytes frames ++ tornBytes torn).length ≤ (readBound options).toNat
  payloads : ∀ frame, frame ∈ frames ∨ Seen torn frame →
    frame.payload.length ≤ options.maxRecordPayloadBytes.toNat
  records : recordCount frames ≤ kMaxReplayRecords

section Opening

variable {options : StoreOptions} {dir : Directory} {snapshot : Bytes}
  {frames : List RawFrame} {torn : Option (RawFrame × Nat)}

theorem length_buildSnapshotFrame (snapshot : Bytes) :
    (buildSnapshotFrame snapshot).length = kSnapshotHeaderBytes + snapshot.length := by
  simp [buildSnapshotFrame, snapshotHeader, kSnapshotHeaderBytes]
  omega

/-- A snapshot is read back as long as its file, header included, is within the bound. -/
theorem readSnapshotFrame_build_ok
    (h : kSnapshotHeaderBytes + snapshot.length ≤ kMaxSnapshotBytes) :
    readSnapshotFrame (buildSnapshotFrame snapshot) = .ok snapshot := by
  have hlength := length_buildSnapshotFrame snapshot
  have hmagic : readField (buildSnapshotFrame snapshot) 0 4 = kSnapshotMagic := by
    refine readField_of_isPrefix [] (by decide) ?_
    simp [buildSnapshotFrame, snapshotHeader]
  have hversion : readField (buildSnapshotFrame snapshot) 4 2 = kStoreFormatVersion := by
    refine readField_of_isPrefix (BigEndian.ofNat 4 kSnapshotMagic) (by decide) ?_
    simp [buildSnapshotFrame, snapshotHeader]
  have hsize : readField (buildSnapshotFrame snapshot) 8 4 = snapshot.length := by
    refine readField_of_isPrefix (BigEndian.ofNat 4 kSnapshotMagic ++
      BigEndian.ofNat 2 kStoreFormatVersion ++ BigEndian.ofNat 2 0) ?_ ?_
    · unfold kMaxSnapshotBytes at h
      omega
    · simp [buildSnapshotFrame, snapshotHeader]
  have hcrc : readField (buildSnapshotFrame snapshot) 12 4 = payloadCrc snapshot := by
    refine readField_of_isPrefix (BigEndian.ofNat 4 kSnapshotMagic ++
      BigEndian.ofNat 2 kStoreFormatVersion ++ BigEndian.ofNat 2 0 ++
      BigEndian.ofNat 4 snapshot.length) (payloadCrc_lt _) ?_
    simp [buildSnapshotFrame, snapshotHeader, payloadCrc]
  have hsixteen : (snapshotHeader snapshot).length = 16 := by simp [snapshotHeader]
  have hheader : (buildSnapshotFrame snapshot).take 16 = snapshotHeader snapshot := by
    rw [← hsixteen, buildSnapshotFrame, List.append_assoc, List.take_left]
  have htrailer : readField (buildSnapshotFrame snapshot) 16 4 =
      (crc32c (snapshotHeader snapshot)).toNat := by
    have hlt : (crc32c (snapshotHeader snapshot)).toNat < 256 ^ 4 := UInt32.toNat_lt _
    have hread := readField_of_isPrefix (snapshotHeader snapshot) hlt
      (List.prefix_append _ snapshot)
    rwa [hsixteen] at hread
  have hdrop : (buildSnapshotFrame snapshot).drop kSnapshotHeaderBytes = snapshot := by
    have htwenty : (snapshotHeader snapshot ++
        BigEndian.ofNat 4 (crc32c (snapshotHeader snapshot)).toNat).length =
          kSnapshotHeaderBytes := by simp [snapshotHeader, kSnapshotHeaderBytes]
    rw [← htwenty, buildSnapshotFrame, List.drop_left]
  unfold readSnapshotFrame
  rw [if_neg (by omega), if_neg (by omega), hmagic, hheader, htrailer, hversion, hsize, hcrc, hdrop]
  simp only [ne_eq, not_true_eq_false, if_false]
  rw [if_neg (by omega)]
  unfold payloadCrc
  cases snapshot.isEmpty <;> simp

theorem fits_of_readSnapshotFrame {payload : Bytes}
    (h : readSnapshotFrame (buildSnapshotFrame snapshot) = .ok payload) :
    kSnapshotHeaderBytes + snapshot.length ≤ kMaxSnapshotBytes := by
  rw [← length_buildSnapshotFrame]
  by_contra hlarge
  rw [readSnapshotFrame, if_pos (Nat.lt_of_not_le hlarge)] at h
  cases h

theorem SnapshotFile.load {generation : Nat} (h : SnapshotFile dir generation snapshot)
    (hfits : kSnapshotHeaderBytes + snapshot.length ≤ kMaxSnapshotBytes) :
    ∃ loaded, (loaded.map Prod.fst).getD 0 = generation ∧
      ∀ found, Store.loadSnapshot dir found = .ok loaded := by
  rcases h with ⟨hnone, rfl, -⟩ | hsome
  · refine ⟨none, rfl, fun found => ?_⟩
    rw [Store.loadSnapshot, hnone]
  · refine ⟨some (generation, snapshot), rfl, fun found => ?_⟩
    rw [Store.loadSnapshot, hsome]
    simp only [readSnapshotFrame_build_ok hfits]

theorem SnapshotFile.fits {generation : Nat} {found : RecoveryReport}
    {loaded : Option (Nat × Bytes)} (h : SnapshotFile dir generation snapshot)
    (hload : Store.loadSnapshot dir found = .ok loaded) :
    kSnapshotHeaderBytes + snapshot.length ≤ kMaxSnapshotBytes := by
  rcases h with ⟨-, -, rfl⟩ | hsome
  · decide
  · rw [Store.loadSnapshot, hsome] at hload
    simp only at hload
    split at hload
    · cases hload
    · rename_i hread
      exact fits_of_readSnapshotFrame hread

theorem Layout.loadJournal {generation : Nat} {loaded : Option (Nat × Bytes)}
    (h : Layout dir snapshot frames torn)
    (hfile : JournalFile dir generation (framesBytes frames ++ tornBytes torn))
    (hloaded : (loaded.map Prod.fst).getD 0 = generation)
    (hlimits : Limits options snapshot frames torn) :
    ∃ journal, (journal.map fun j => j.1.frames).getD [] = frames ∧
      ∀ found, Store.loadJournal options dir loaded found = .ok journal := by
  subst hloaded
  unfold JournalFile at hfile
  cases hlast : dir.journals.last? with
  | none =>
    rw [hlast] at hfile
    refine ⟨none, (framesBytes_eq_nil (List.append_eq_nil_iff.mp hfile).1).symm, fun found => ?_⟩
    rw [Store.loadJournal, hlast]
  | some entry =>
    obtain ⟨journal, data⟩ := entry
    rw [hlast] at hfile
    simp only at hfile
    by_cases hold : journal < (loaded.map Prod.fst).getD 0
    · rw [if_pos hold] at hfile
      refine ⟨none, (framesBytes_eq_nil (List.append_eq_nil_iff.mp hfile).1).symm,
        fun found => ?_⟩
      rw [Store.loadJournal, hlast]
      simp only [if_pos hold]
    · rw [if_neg hold] at hfile
      have hscan : scanJournal options data =
          { status := if (tornBytes torn).isEmpty then .clean else .tornTail
            frames, badOffset := (framesBytes frames).length } := by
        rw [scanJournal, hfile, if_neg (Nat.not_lt.mpr hlimits.size)]
        exact scanFrames_found options _ h.isTorn hlimits.payloads
      refine ⟨some (scanJournal options data, data.length), by rw [hscan]; rfl, fun found => ?_⟩
      rw [Store.loadJournal, hlast]
      simp only [if_neg hold, hscan]
      split <;> rename_i hstatus <;> split at hstatus <;> first | rfl | cases hstatus

/-- Within the bounds the open succeeds. -/
theorem Layout.open_ok (h : Layout dir snapshot frames torn) {durable : List Record}
    {unfinished : Bool} (hgrouped : Grouped frames durable unfinished)
    (hlimits : Limits options snapshot frames torn) :
    ∃ opened, Store.open options dir = .ok opened := by
  obtain ⟨generation, hsnapshot, hjournal⟩ := h.files
  obtain ⟨loaded, hloaded, hload⟩ := hsnapshot.load hlimits.snapshot
  obtain ⟨journal, hframes, hscan⟩ := h.loadJournal hjournal hloaded hlimits
  have hlength := length_framesBytes frames
  have hsize := hlimits.size
  have hbound := (readBound options).toNat_lt
  rw [List.length_append] at hsize
  obtain ⟨assembly, hassembly, -⟩ := hgrouped.assembles (by omega) hlimits.records
  unfold Store.open
  simp only [hload, hscan, hframes, hassembly]
  exact ⟨_, rfl⟩

end Opening

/-- The records of assembled frames, applied and pending, are within the replay bound. -/
theorem Assembly.step_capacity {assembly next : Assembly} {frame : RawFrame}
    (hcapacity : assembly.recoveredRecords.length + assembly.pending.length ≤ kMaxReplayRecords)
    (h : assembly.step frame = .ok next) :
    next.recoveredRecords.length + next.pending.length ≤ kMaxReplayRecords := by
  unfold step at h
  split_ifs at h with hstale hbegin hin hcommit hout hid hout hfull
  · split at h
    · cases h
    · cases h
      simp
      omega
  · cases h
    simpa using hcapacity
  · cases h
    simp only [List.length_append, List.length_singleton]
    omega

theorem Assembly.foldlM_capacity {frames : List RawFrame} {assembly final : Assembly}
    (hcapacity : assembly.recoveredRecords.length + assembly.pending.length ≤ kMaxReplayRecords)
    (h : frames.foldlM step assembly = .ok final) :
    final.recoveredRecords.length + final.pending.length ≤ kMaxReplayRecords := by
  induction frames generalizing assembly with
  | nil =>
    cases h
    exact hcapacity
  | cons frame rest ih =>
    obtain ⟨next, hstep, hrest⟩ := foldlM_cons_ok h
    exact ih (step_capacity hcapacity hstep) hrest

theorem Grouped.durable_eq {frames : List RawFrame} {durable : List Record}
    (h : Grouped frames durable false) : durable.length = recordCount frames := by
  generalize hfinished : false = unfinished at h
  induction h with
  | empty => rfl
  | complete h husable ih =>
    rw [recordCount_append, recordCount_transactionFrames _ husable, List.length_append,
      ih rfl]
  | unfinished h husable hkept ih => cases hfinished

/-- Every record on disk is applied or pending. -/
theorem Grouped.assembled_count {frames : List RawFrame} {durable : List Record}
    {unfinished : Bool} {assembly : Assembly} (h : Grouped frames durable unfinished)
    (hassembly : assemble frames = .ok assembly) :
    recordCount frames ≤ assembly.recoveredRecords.length + assembly.pending.length := by
  cases h with
  | empty => exact Nat.zero_le _
  | @complete frames durable records h husable =>
    obtain ⟨middle, hmiddle, hrest⟩ := Assembly.foldlM_append_ok hassembly
    have hall := (Assembly.foldlM_transactionFrames husable hrest).2.2.2
    rw [recordCount_append, recordCount_transactionFrames _ husable, hall, List.length_append,
      h.replays middle hmiddle, h.durable_eq]
    omega
  | @unfinished frames durable records kept h husable hkept =>
    obtain ⟨middle, hmiddle, hrest⟩ := Assembly.foldlM_append_ok hassembly
    rw [Assembly.take_transactionFrames _ _ hkept] at hrest
    obtain ⟨began, hbegin, hrecords⟩ := Assembly.foldlM_cons_ok hrest
    obtain ⟨-, -, hempty, hrecovered⟩ := Assembly.step_begin rfl hbegin
    obtain ⟨-, hpending, hsame⟩ :=
      Assembly.foldlM_recordFrames (fun r hr => husable r (List.mem_of_mem_take hr)) hrecords
    rw [recordCount_append, recordCount_take_transactionFrames _ husable hkept, hsame, hpending,
      hrecovered, hempty, h.replays middle hmiddle, h.durable_eq, List.nil_append,
      List.length_take, Nat.min_eq_left hkept]

/-- An open that succeeds was within the bounds. -/
theorem Layout.limits {options : StoreOptions} {dir : Directory} {snapshot : Bytes}
    {frames : List RawFrame} {torn : Option (RawFrame × Nat)} {durable : List Record}
    {unfinished : Bool} {opened : Store.Opened} (h : Layout dir snapshot frames torn)
    (hgrouped : Grouped frames durable unfinished)
    (hopen : Store.open options dir = .ok opened) : Limits options snapshot frames torn := by
  obtain ⟨generation, hsnapshot, hjournal⟩ := h.files
  obtain ⟨found, found', loaded, journal, assembly, hloaded, hscanned, hassembly, -⟩ :=
    Store.open_ok hopen
  obtain ⟨-, hgeneration⟩ := loadSnapshot_layout hsnapshot hloaded
  have hfound := loadJournal_layout h hjournal hgeneration hscanned
  rw [hfound.frames_eq] at hassembly
  have hrecords : recordCount frames ≤ kMaxReplayRecords :=
    Nat.le_trans (hgrouped.assembled_count hassembly)
      (Assembly.foldlM_capacity (by simp) hassembly)
  have hnothing (hempty : framesBytes frames ++ tornBytes torn = []) :
      Limits options snapshot frames torn := by
    obtain ⟨hframes, htorn⟩ := List.append_eq_nil_iff.mp hempty
    refine ⟨hsnapshot.fits hloaded, by rw [hempty]; exact Nat.zero_le _, ?_, hrecords⟩
    rintro frame (hframe | ⟨count, hseen, hcount⟩)
    · rw [framesBytes_eq_nil hframes] at hframe
      cases hframe
    · have hcut := h.isTorn frame count hseen
      rw [hseen] at htorn
      have hlength := congrArg List.length htorn
      simp only [tornBytes, List.length_take, List.length_nil] at hlength
      unfold kFrameHeaderBytes at hcount
      omega
  unfold JournalFile at hjournal
  cases hlast : dir.journals.last? with
  | none =>
    rw [hlast] at hjournal
    exact hnothing hjournal
  | some entry =>
    obtain ⟨last, data⟩ := entry
    rw [hlast] at hjournal
    simp only at hjournal
    by_cases hold : last < generation
    · rw [if_pos hold] at hjournal
      exact hnothing hjournal
    · rw [if_neg hold] at hjournal
      obtain ⟨-, haccepted, hfits⟩ :=
        loadJournal_current hlast (by rw [hgeneration]; exact hold) hscanned
      unfold scanJournal at haccepted hfits
      have hsize : data.length ≤ (readBound options).toNat := by
        by_contra hlarge
        rw [if_pos (Nat.lt_of_not_le hlarge)] at hfits
        exact hfits rfl
      rw [if_neg (Nat.not_lt.mpr hsize), hjournal] at haccepted
      exact ⟨hsnapshot.fits hloaded, by rw [← hjournal]; exact hsize,
        payloads_of_accepted options _ h.isTorn h.all_sized haccepted, hrecords⟩

/-- Without a snapshot the bounds are those of the journal. -/
theorem Recoverable.limits_iff {world : World} (h : Recoverable world) {options : StoreOptions} :
    Limits options [] world.frames world.torn ↔ WithinBounds options world := by
  obtain ⟨generation, hsnapshot, hjournal⟩ := h.layout.files
  have hzero : generation = 0 := by
    rcases hsnapshot with ⟨-, hzero, -⟩ | hsome
    · exact hzero
    · rw [h.noSnapshot] at hsome
      cases hsome
  subst hzero
  unfold JournalFile at hjournal
  constructor
  · intro hlimits
    refine ⟨?_, hlimits.payloads, hlimits.records⟩
    intro last data hlast
    rw [hlast] at hjournal
    simp only [Nat.not_lt_zero, if_false] at hjournal
    rw [hjournal]
    exact hlimits.size
  · intro hbounds
    refine ⟨by decide, ?_, hbounds.payloads, hbounds.records⟩
    cases hlast : world.dir.journals.last? with
    | none =>
      rw [hlast] at hjournal
      rw [hjournal]
      exact Nat.zero_le _
    | some entry =>
      rw [hlast] at hjournal
      simp only [Nat.not_lt_zero, if_false] at hjournal
      rw [← hjournal]
      exact hbounds.size entry.1 entry.2 hlast

/-- After any number of careful sessions the store opens, with exactly the durable
records, as long as the journal is within the bounds that the open checks. -/
theorem recovers_iff_withinBounds {events : List SessionEvent} {world : World}
    (h : Sessions Careful events world) (options : StoreOptions)
    (hwritable : options.readOnly = false) :
    Recovers options world ↔ WithinBounds options world := by
  have hrecoverable := recoverable h
  obtain ⟨unfinished, hgrouped⟩ := hrecoverable.grouped
  constructor
  · rintro ⟨opened, hopen, -⟩
    exact hrecoverable.limits_iff.mp (hrecoverable.layout.limits hgrouped hopen)
  · intro hbounds
    obtain ⟨opened, hopen⟩ :=
      hrecoverable.layout.open_ok hgrouped (hrecoverable.limits_iff.mpr hbounds)
    obtain ⟨-, -, ⟨assembly, hassembly, hrecords, -⟩, -⟩ :=
      hrecoverable.layout.open hwritable hopen
    exact ⟨opened, hopen, by rw [hrecords, hgrouped.replays assembly hassembly]⟩

/-! ### Writing behind an unfinished transaction -/

theorem Grouped.inTransaction {frames : List RawFrame} {durable : List Record}
    {assembly : Assembly} (h : Grouped frames durable true)
    (hassembly : assemble frames = .ok assembly) : assembly.inTransaction = true := by
  cases h with
  | @unfinished frames durable records kept h husable hkept =>
    obtain ⟨middle, -, hrest⟩ := Assembly.foldlM_append_ok hassembly
    rw [Assembly.take_transactionFrames _ _ hkept] at hrest
    obtain ⟨began, hbegin, hrecords⟩ := Assembly.foldlM_cons_ok hrest
    rw [(Assembly.foldlM_recordFrames (fun r hr => husable r (List.mem_of_mem_take hr))
      hrecords).1]
    exact (Assembly.step_begin rfl hbegin).2.1

/-- A commit accepted behind an unfinished transaction leaves a store that no open accepts. -/
theorem Recoverable.commit_unfinished {world world' : World} {records : List Record}
    (h : Recoverable world) (hunfinished : Grouped world.frames world.durable true)
    {store store' : Store} {ops : List DiskOp} (hstore : world.store = some store)
    (hcommit : store.commitTransaction records = (.ok, store', ops))
    (hdir : world'.dir = world.dir.performAll ops) {options : StoreOptions}
    (hwritable : options.readOnly = false) : ¬ Recovers options world' := by
  rintro ⟨opened, hopen, -⟩
  obtain ⟨hattached, -, -⟩ := h.attached store hstore
  obtain ⟨-, -, husable, -⟩ := Store.accepted (Store.commitTransaction_ok hcommit).1
  rw [hdir] at hopen
  obtain ⟨-, -, ⟨assembly, hassembly, -⟩, -⟩ :=
    (hattached.commit hcommit).layout.open hwritable hopen
  obtain ⟨middle, hmiddle, hrest⟩ := Assembly.foldlM_append_ok hassembly
  have hout := (Assembly.foldlM_transactionFrames (fun r hr => (husable r hr).1) hrest).1
  rw [hunfinished.inTransaction hmiddle] at hout
  cases hout

/-- A transaction of one record without payload. -/
def probe : List Record := [{ kind := .epochAdvanced }]

theorem Store.accepts_probe {store : Store} {count : Nat} (hoptions : store.options = {})
    (hnext : store.nextSequence = 1 + UInt64.ofNat count) (hshort : count ≤ 1024) :
    ∃ store' ops, store.commitTransaction probe = (.ok, store', ops) := by
  have hnumber : store.nextSequence.toNat = 1 + count := by
    rw [hnext, UInt64.toNat_add, UInt64.toNat_ofNat_of_lt' (by simp [UInt64.size]; omega)]
    exact Nat.mod_eq_of_lt (by simp; omega)
  have hnone : store.refuseTransaction probe = none := by
    have hrecords : probe.findSome? (Store.refuseRecord store.options) = none := by
      rw [hoptions]
      decide
    unfold Store.refuseTransaction
    rw [hrecords, if_neg (by rw [hoptions]; decide), if_neg (by decide),
      if_neg (by rw [hnumber]; simp [probe]; omega)]
  unfold Store.commitTransaction
  rw [hnone]
  exact ⟨_, _, rfl⟩

theorem Recoverable.accepts_probe {world : World} (h : Recoverable world) {store : Store}
    (hstore : world.store = some store) (hoptions : store.options = {})
    (hshort : world.frames.length ≤ 1024) :
    ∃ store' ops, store.commitTransaction probe = (.ok, store', ops) :=
  Store.accepts_probe hoptions (h.attached store hstore).2.1 hshort

/-- The open of a small journal, as a step of a run. -/
theorem Recoverable.open_step {world : World} (h : Recoverable world)
    (hclosed : world.store = none) (hbounds : WithinBounds {} world) :
    ∃ world' store, SessionStep world (.open {}) world' ∧ world'.store = some store ∧
      store.options = {} ∧ world'.frames = world.frames ∧ world'.durable = world.durable := by
  obtain ⟨unfinished, hgrouped⟩ := h.grouped
  obtain ⟨opened, hopen⟩ := h.layout.open_ok hgrouped (h.limits_iff.mpr hbounds)
  obtain ⟨-, hoptions, -⟩ := h.layout.open rfl hopen
  exact ⟨_, opened.store, SessionStep.open hclosed rfl hopen, rfl, hoptions, rfl, rfl⟩

theorem Recoverable.withinBounds_of_length {world : World} (h : Recoverable world)
    (hsize : (framesBytes world.frames ++ tornBytes world.torn).length ≤ 4096)
    (hpayloads : ∀ frame, frame ∈ world.frames ∨ Seen world.torn frame →
      frame.payload.length ≤ 1048576) : WithinBounds {} world := by
  refine ⟨?_, hpayloads, ?_⟩
  · intro generation data hlast
    obtain ⟨snapshot, hsnapshot, hjournal⟩ := h.layout.files
    have hzero : snapshot = 0 := by
      rcases hsnapshot with ⟨-, hzero, -⟩ | hsome
      · exact hzero
      · rw [h.noSnapshot] at hsome
        cases hsome
    unfold JournalFile at hjournal
    rw [hlast, hzero] at hjournal
    simp only [Nat.not_lt_zero, if_false] at hjournal
    rw [hjournal]
    exact Nat.le_trans hsize (by decide)
  · have hcount : recordCount world.frames ≤ world.frames.length := List.countP_le_length
    have hlength := length_framesBytes world.frames
    rw [List.length_append] at hsize
    unfold kMaxReplayRecords
    omega

theorem withinBounds_start : WithinBounds {} {} :=
  Recoverable.start.withinBounds_of_length (by decide) (by simp [Seen])

theorem Sessions.mono {guard guard' : World → SessionEvent → Prop}
    (hguard : ∀ world event, guard world event → guard' world event)
    {events : List SessionEvent} {world : World} (h : Sessions guard events world) :
    Sessions guard' events world := by
  induction h with
  | start => exact Sessions.start
  | step h hevent hstep ih => exact ih.step (hguard _ _ hevent) hstep

/-- The first 36 bytes of a commit are its Begin frame. -/
theorem landed_probe (first : UInt64) :
    (landed (transactionFrames first probe) 36).1 =
      [{ kind := .beginTransaction, sequence := first
         payload := BigEndian.ofNat 8 first.toNat }] ∧
    ∀ frame, ¬ Seen (landed (transactionFrames first probe) 36).2 frame := by
  have hbegin : (RawFrame.bytes { kind := .beginTransaction, sequence := first
                                  payload := BigEndian.ofNat 8 first.toNat }).length = 36 := by
    rw [RawFrame.length_bytes, BigEndian.length_ofNat]
    rfl
  have hrecord : ¬ (RawFrame.bytes { kind := .epochAdvanced, sequence := first + 1
                                     payload := [] }).length ≤ 0 := by
    rw [RawFrame.length_bytes]
    unfold kFrameHeaderBytes
    omega
  unfold transactionFrames probe recordFrames
  simp only [List.cons_append, landed, hbegin, Nat.le_refl, if_true, Nat.sub_self,
    if_neg hrecord]
  refine ⟨trivial, ?_⟩
  rintro frame ⟨count, heq, hcount⟩
  cases heq
  unfold kFrameHeaderBytes at hcount
  omega

/-- A complete transaction is not unfinished. -/
theorem not_unfinished (frames : List RawFrame) (first : UInt64) (records : List Record) :
    ¬ Unfinished (frames ++ transactionFrames first records) := by
  rintro ⟨before, frame, after, hsplit, hbegin, hafter⟩
  have hlast := congrArg List.getLast? hsplit
  unfold transactionFrames at hlast
  rw [← List.cons_append, ← List.append_assoc, List.getLast?_concat] at hlast
  rcases List.eq_nil_or_concat' after with rfl | ⟨init, last, rfl⟩
  · rw [List.getLast?_concat] at hlast
    cases hlast
    cases hbegin
  · have heq := hafter last (by simp)
    rw [← List.cons_append, ← List.append_assoc, List.getLast?_concat] at hlast
    cases hlast
    exact heq rfl

theorem length_probeBytes (first : UInt64) :
    (framesBytes (transactionFrames first probe)).length = 100 := by
  simp [transactionFrames, recordFrames, probe, RawFrame.length_bytes, kFrameHeaderBytes,
    kFrameTrailerBytes]

/-- A session that commits one transaction and crashes inside the next. -/
theorem recovers_after_cut_commit :
    ∃ world, Sessions Careful [.open {}, .commit probe, .crash probe 36] world ∧
      world.durable = probe ∧ Recovers {} world := by
  obtain ⟨opened, store, hopen, hstore, hoptions, hframes, hdurable⟩ :=
    Recoverable.start.open_step rfl withinBounds_start
  have hrunOpened : Sessions Careful [.open {}] opened := Sessions.start.step trivial hopen
  have hfinished : ¬ Unfinished opened.frames := by
    rintro ⟨before, frame, after, hsplit, -⟩
    simp [hframes] at hsplit
  obtain ⟨store', ops, hcommit⟩ :=
    (recoverable hrunOpened).accepts_probe hstore hoptions (by simp [hframes])
  have hcareful : Careful opened (.commit probe) := fun h => absurd h hfinished
  have hrunCommitted := hrunOpened.step hcareful (SessionStep.commit hstore hcommit)
  have hoptions' : store'.options = {} := by
    rw [(Store.commitTransaction_ok hcommit).2.1, hoptions]
  obtain ⟨store'', ops', hcommit'⟩ := (recoverable hrunCommitted).accepts_probe rfl hoptions'
    (by simp [hframes, Assembly.length_transactionFrames, probe])
  have hcrash := fun world hstore => @SessionStep.crash world store' store'' probe ops' _ 36
    hstore hcommit' rfl
  have hrunCrashed := hrunCommitted.step
    (show Careful _ (.crash probe 36) from fun h => absurd h (not_unfinished _ _ _))
    (hcrash _ rfl)
  have hcrashed := recoverable hrunCrashed
  obtain ⟨hlanded, hunseen⟩ := landed_probe store'.nextSequence
  have hbounds : WithinBounds {} _ := hcrashed.withinBounds_of_length
    (by
      simp only [hframes, List.nil_append]
      rw [framesBytes_append, List.append_assoc, ← take_framesBytes, List.length_append,
        length_probeBytes, List.length_take]
      omega)
    (by
      rintro frame (hframe | hseen)
      · simp only [hframes, hlanded, List.nil_append, List.mem_append, List.mem_singleton]
          at hframe
        rcases hframe with hframe | rfl
        · simp [transactionFrames, probe, recordFrames] at hframe
          rcases hframe with rfl | rfl | rfl <;> simp
        · simp
      · exact absurd hseen (hunseen frame))
  refine ⟨_, hrunCrashed, ?_, (recovers_iff_withinBounds hrunCrashed {} rfl).mpr hbounds⟩
  simp [hdurable, length_probeBytes]

/-- A crash right after a Begin frame; the next session's commit is acknowledged, and then
the store does not open any more. -/
theorem acknowledged_commit_lost :
    ∃ world, Sessions (fun _ _ => True)
        [.open {}, .crash probe 36, .open {}, .commit probe, .close] world ∧
      world.store = none ∧ world.durable = probe ∧ ¬ Recovers {} world := by
  obtain ⟨opened, store, hopen, hstore, hoptions, hframes, hdurable⟩ :=
    Recoverable.start.open_step rfl withinBounds_start
  have hrunOpened : Sessions Careful [.open {}] opened := Sessions.start.step trivial hopen
  have hfinished : ¬ Unfinished opened.frames := by
    rintro ⟨before, frame, after, hsplit, -⟩
    simp [hframes] at hsplit
  obtain ⟨store', ops, hcommit⟩ :=
    (recoverable hrunOpened).accepts_probe hstore hoptions (by simp [hframes])
  have hcrash : SessionStep opened (.crash probe 36) _ := SessionStep.crash hstore hcommit rfl
  have hcareful : Careful opened (.crash probe 36) := fun h => absurd h hfinished
  have hrunCrashed := hrunOpened.step hcareful hcrash
  have hcrashed := recoverable hrunCrashed
  obtain ⟨hlanded, hunseen⟩ := landed_probe store.nextSequence
  -- One Begin frame is on disk, so the second open succeeds.
  have hsmall : WithinBounds {} _ := hcrashed.withinBounds_of_length
    (by
      simp only [hframes, List.nil_append]
      rw [← take_framesBytes, List.length_take]
      omega)
    (by
      rintro frame (hframe | hseen)
      · simp only [hframes, hlanded, List.nil_append, List.mem_singleton] at hframe
        simp [hframe]
      · exact absurd hseen (hunseen frame))
  obtain ⟨reopened, restored, hreopen, hrestored, hoptions', hframes', hdurable'⟩ :=
    hcrashed.open_step rfl hsmall
  have hrunReopened := hrunCrashed.step (show Careful _ (.open {}) from trivial) hreopen
  have hreopened := recoverable hrunReopened
  obtain ⟨last, lastOps, hcommit'⟩ := hreopened.accepts_probe hrestored hoptions'
    (by simp [hframes', hframes, hlanded])
  have hcommitted := SessionStep.commit hrestored hcommit'
  refine ⟨_, ((hrunReopened.mono fun _ _ _ => trivial).step trivial hcommitted).step trivial
    (SessionStep.close rfl), rfl, ?_, ?_⟩
  · simp [hdurable', hdurable, length_probeBytes]
  · refine hreopened.commit_unfinished ?_ hrestored hcommit' rfl rfl
    have hnext := ((recoverable hrunOpened).attached store hstore).2.1
    have hgrouped : Grouped ([] ++ (transactionFrames (1 + UInt64.ofNat 0) probe).take (0 + 1))
        [] true := Grouped.unfinished Grouped.empty (by decide) (Nat.zero_le _)
    have hkept : (transactionFrames (1 + UInt64.ofNat 0) probe).take (0 + 1) =
        reopened.frames := by
      rw [hframes']
      simp only [hframes, List.nil_append, hnext]
      rfl
    have hlost : reopened.durable = [] := by
      rw [hdurable']
      simp [hdurable, length_probeBytes]
    rw [hlost, ← hkept]
    exact hgrouped

end OffloadFabric
