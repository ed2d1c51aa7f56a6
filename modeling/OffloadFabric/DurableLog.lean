import OffloadFabric.Machine
import OffloadFabric.StoreLimits

/-!
The store as a durable log. The log holds a snapshot and the transactions since; a commit
appends one and a compaction starts over, each of them whole or not at all. A crash may leave
a transaction half written behind the others, and an open reports it. The store refines this
log, crashes during opens, commits and compactions included, and an open that the log does not
allow to fail succeeds.
-/
namespace OffloadFabric

open Store (recordFrames transactionFrames)

/-! ### Events -/

/-- What the process was doing when it died. -/
inductive LogCall where
  | idle
  | «open» (options : StoreOptions)
  | commit (records : List Record)
  | compact (snapshot : Bytes)

inductive LogEvent where
  /-- An open that succeeded, with what it returned; `dropped` if it reported an unfinished
  transaction. -/
  | opened (options : StoreOptions) (snapshot : Bytes) (records : List Record) (dropped : Bool)
  | refused (options : StoreOptions)
  | committed (records : List Record) (reply : Reason)
  | compacted (snapshot : Bytes) (reply : Reason)
  | closed
  | crashed (call : LogCall)

/-! ### The log -/

/-- What is durable. -/
structure Log where
  snapshot : Bytes := []
  transactions : List (List Record) := []
  /-- A transaction that may be half written behind the others. -/
  half : Option (List Record) := none
  /-- Something was written behind a half-written transaction. -/
  buried : Bool := false
  opened : Bool := false

namespace Log

/-- Everything that may be in the journal. -/
def written (log : Log) : List (List Record) := log.transactions ++ log.half.toList

/-- The sizes of what was written agree with the limits of an open. -/
structure Fits (options : StoreOptions) (log : Log) : Prop where
  snapshot : kSnapshotHeaderBytes + log.snapshot.length ≤ kMaxSnapshotBytes
  journal : journalBytes log.written ≤ (readBound options).toNat
  markers : log.written ≠ [] → 8 ≤ options.maxRecordPayloadBytes.toNat
  payloads : ∀ record ∈ log.written.flatten,
    record.payload.length ≤ options.maxRecordPayloadBytes.toNat
  records : log.written.flatten.length ≤ kMaxReplayRecords

/-- A transaction was appended. -/
def append (log : Log) (records : List Record) : Log :=
  { log with
    transactions := log.transactions ++ [records], half := none
    buried := log.buried || log.half.isSome }

inductive Step : Log → LogEvent → Log → Prop where
  | opened {log : Log} {options : StoreOptions} {dropped : Bool} (hclosed : log.opened = false)
      (hdropped : dropped = true → log.half ≠ none ∨ log.buried = true) :
      Step log (.opened options log.snapshot log.transactions.flatten dropped)
        { log with opened := true, half := if dropped then log.half else none }
  /-- An open fails only if something was buried, or is too large. -/
  | refused {log : Log} {options : StoreOptions} (hclosed : log.opened = false)
      (hcause : log.buried = true ∨ ¬log.Fits options) : Step log (.refused options) log
  | committed {log : Log} {records : List Record} (hopened : log.opened = true) :
      Step log (.committed records .ok) (log.append records)
  | uncommitted {log : Log} {records : List Record} {reply : Reason} (hopened : log.opened = true)
      (hreply : reply ≠ .ok) : Step log (.committed records reply) log
  | compacted {log : Log} {snapshot : Bytes} (hopened : log.opened = true) :
      Step log (.compacted snapshot .ok) { snapshot, opened := true }
  | uncompacted {log : Log} {snapshot : Bytes} {reply : Reason} (hopened : log.opened = true)
      (hreply : reply ≠ .ok) : Step log (.compacted snapshot reply) log
  | closed {log : Log} (hopened : log.opened = true) : Step log .closed { log with opened := false }
  /-- A crash that changed nothing. -/
  | crashed {log : Log} {call : LogCall} : Step log (.crashed call) { log with opened := false }
  /-- A crash after the last frame of a commit was written. -/
  | crashedBehind {log : Log} {records : List Record} (hopened : log.opened = true) :
      Step log (.crashed (.commit records)) { log.append records with opened := false }
  /-- A crash in the middle of a commit. -/
  | crashedWithin {log : Log} {records : List Record} (hopened : log.opened = true) :
      Step log (.crashed (.commit records))
        { log with
          half := some records, buried := log.buried || log.half.isSome, opened := false }
  /-- A crash after the snapshot of a compaction was in place. -/
  | crashedCompacted {log : Log} {snapshot : Bytes} (hopened : log.opened = true) :
      Step log (.crashed (.compact snapshot)) { snapshot }

def machine : Machine Log LogEvent where
  Starts log := log = {}
  Step := Step

end Log

/-! ### The store -/

/-- A store directory, and the store that is open on it. -/
structure Site where
  dir : Directory := {}
  store : Option Store := none

namespace Site

inductive Step : Site → LogEvent → Site → Prop where
  | opened {dir : Directory} {options : StoreOptions} {opened : Store.Opened}
      (hwritable : options.readOnly = false) (hopen : Store.open options dir = .ok opened) :
      Step { dir }
        (.opened options opened.snapshot opened.records (opened.report.transactionsDropped ≠ 0))
        { dir := dir.performAll opened.ops, store := some opened.store }
  | refused {dir : Directory} {options : StoreOptions} {report : RecoveryReport}
      (hopen : Store.open options dir = .error report) : Step { dir } (.refused options) { dir }
  | committed {dir : Directory} {store store' : Store} {records : List Record} {reply : Reason}
      {ops : List DiskOp} (hcommit : store.commitTransaction records = (reply, store', ops)) :
      Step { dir, store := some store } (.committed records reply)
        { dir := dir.performAll ops, store := some store' }
  | compacted {dir : Directory} {store store' : Store} {snapshot : Bytes} {reply : Reason}
      {ops : List DiskOp} (hcompact : store.compact snapshot = (reply, store', ops)) :
      Step { dir, store := some store } (.compacted snapshot reply)
        { dir := dir.performAll ops, store := some store' }
  | closed {dir : Directory} {store : Store} : Step { dir, store := some store } .closed { dir }
  | crashedIdle {site : Site} : Step site (.crashed .idle) { dir := site.dir }
  | crashedOpen {dir dir' : Directory} {options : StoreOptions} {opened : Store.Opened}
      (hwritable : options.readOnly = false) (hopen : Store.open options dir = .ok opened)
      (hcrash : dir.CrashImage opened.ops dir') :
      Step { dir } (.crashed (.open options)) { dir := dir' }
  | crashedCommit {dir dir' : Directory} {store store' : Store} {records : List Record}
      {reply : Reason} {ops : List DiskOp}
      (hcommit : store.commitTransaction records = (reply, store', ops))
      (hcrash : dir.CrashImage ops dir') :
      Step { dir, store := some store } (.crashed (.commit records)) { dir := dir' }
  | crashedCompact {dir dir' : Directory} {store store' : Store} {snapshot : Bytes}
      {reply : Reason} {ops : List DiskOp}
      (hcompact : store.compact snapshot = (reply, store', ops))
      (hcrash : dir.CrashImage ops dir') :
      Step { dir, store := some store } (.crashed (.compact snapshot)) { dir := dir' }

def machine : Machine Site LogEvent where
  Starts site := site = {}
  Step := Step

end Site

/-! ### Journals of the log -/

/-- The frames hold exactly these transactions, one behind the other. -/
structure Holding (transactions : List (List Record)) (frames : List RawFrame) : Prop where
  grouped : Grouped frames transactions.flatten false
  size : (framesBytes frames).length = journalBytes transactions
  payloads : ∀ frame ∈ frames, frame.payload.length = 8 ∧ transactions ≠ [] ∨
    ∃ record ∈ transactions.flatten, frame.payload = record.payload

theorem Holding.nil : Holding [] [] :=
  ⟨Grouped.empty, rfl, by simp⟩

theorem payload_of_recordFrames {first : UInt64} {records : List Record} {frame : RawFrame}
    (h : frame ∈ recordFrames first records) :
    ∃ record ∈ records, frame.payload = record.payload := by
  induction records generalizing first with
  | nil => cases h
  | cons record rest ih =>
    rcases List.mem_cons.mp h with rfl | hrest
    · exact ⟨record, List.mem_cons_self, rfl⟩
    · obtain ⟨other, hother, heq⟩ := ih hrest
      exact ⟨other, List.mem_cons_of_mem _ hother, heq⟩

theorem payload_of_transactionFrames {first : UInt64} {records : List Record} {frame : RawFrame}
    (h : frame ∈ transactionFrames first records) :
    frame.payload.length = 8 ∨ ∃ record ∈ records, frame.payload = record.payload := by
  rcases List.mem_cons.mp h with rfl | h
  · exact Or.inl (BigEndian.length_ofNat _ _)
  rcases List.mem_append.mp h with h | h
  · exact Or.inr (payload_of_recordFrames h)
  · rw [List.mem_singleton.mp h]
    exact Or.inl (BigEndian.length_ofNat _ _)

theorem journalBytes_append (transactions more : List (List Record)) :
    journalBytes (transactions ++ more) = journalBytes transactions + journalBytes more := by
  simp [journalBytes]

theorem Holding.append {transactions : List (List Record)} {frames : List RawFrame}
    {records : List Record} (h : Holding transactions frames)
    (husable : ∀ record ∈ records, record.Usable) :
    Holding (transactions ++ [records])
      (frames ++ transactionFrames (1 + UInt64.ofNat frames.length) records) where
  grouped := by
    rw [List.flatten_append, List.flatten_singleton]
    exact h.grouped.complete husable
  size := by
    rw [framesBytes_append, List.length_append, h.size, length_transactionFramesBytes,
      journalBytes_append]
    simp [journalBytes]
  payloads := by
    intro frame hframe
    rw [List.flatten_append, List.flatten_singleton]
    rcases List.mem_append.mp hframe with hold | hnew
    · rcases h.payloads frame hold with ⟨hlength, -⟩ | ⟨record, hrecord, heq⟩
      · exact Or.inl ⟨hlength, by simp⟩
      · exact Or.inr ⟨record, List.mem_append_left _ hrecord, heq⟩
    · rcases payload_of_transactionFrames hnew with hlength | ⟨record, hrecord, heq⟩
      · exact Or.inl ⟨hlength, by simp⟩
      · exact Or.inr ⟨record, List.mem_append_right _ hrecord, heq⟩

theorem recordCount_half (first : UInt64) {records : List Record} {kept : Nat}
    (husable : ∀ record ∈ records, record.Usable) (hkept : kept ≤ records.length + 1) :
    recordCount ((transactionFrames first records).take kept) ≤ records.length := by
  cases kept with
  | zero => exact Nat.zero_le _
  | succ kept =>
    rw [recordCount_take_transactionFrames first husable (by omega)]
    omega

/-- What a crash may have left of a transaction behind the whole ones. -/
structure HalfWritten (records : List Record) (whole rest : List RawFrame)
    (torn : Option (RawFrame × Nat)) : Prop where
  usable : ∀ record ∈ records, record.Usable
  frames : ∃ kept ≤ records.length + 1,
    rest = (transactionFrames (1 + UInt64.ofNat whole.length) records).take kept
  size : (framesBytes rest ++ tornBytes torn).length ≤ transactionBytes records
  seen : ∀ frame, Seen torn frame →
    frame ∈ transactionFrames (1 + UInt64.ofNat whole.length) records

/-- What stands behind the whole transactions. -/
def Behind (half : Option (List Record)) (whole rest : List RawFrame)
    (torn : Option (RawFrame × Nat)) : Prop :=
  match half with
  | none => rest = [] ∧ torn = none
  | some records => HalfWritten records whole rest torn

/-- The journal is the transactions of the log and perhaps half of one more. -/
def Sound (log : Log) (frames : List RawFrame) (torn : Option (RawFrame × Nat)) : Prop :=
  ∃ whole rest, frames = whole ++ rest ∧ Holding log.transactions whole ∧
    Behind log.half whole rest torn

section Sound

variable {log : Log} {frames : List RawFrame} {torn : Option (RawFrame × Nat)}

theorem HalfWritten.cut {records : List Record} {whole rest : List RawFrame}
    (h : HalfWritten records whole rest torn) : HalfWritten records whole rest none where
  usable := h.usable
  frames := h.frames
  size := by
    have := h.size
    rw [List.length_append] at this
    rw [tornBytes, List.append_nil]
    omega
  seen := by
    rintro frame ⟨count, hnone, -⟩
    cases hnone

/-- Cutting a torn frame off leaves a sound journal. -/
theorem Sound.cut (h : Sound log frames torn) : Sound log frames none := by
  obtain ⟨whole, rest, hframes, hholding, hbehind⟩ := h
  refine ⟨whole, rest, hframes, hholding, ?_⟩
  cases hhalf : log.half with
  | none =>
    rw [hhalf] at hbehind
    exact ⟨hbehind.1, rfl⟩
  | some records =>
    rw [hhalf] at hbehind
    exact hbehind.cut

/-- A sound journal is groups; the last one is unfinished only if there may be half of one. -/
theorem Sound.grouped (h : Sound log frames torn) :
    Grouped frames log.transactions.flatten false ∧ Holding log.transactions frames ∨
      Grouped frames log.transactions.flatten true ∧ log.half ≠ none := by
  obtain ⟨whole, rest, rfl, hholding, hbehind⟩ := h
  cases hhalf : log.half with
  | none =>
    rw [hhalf] at hbehind
    rw [hbehind.1, List.append_nil]
    exact Or.inl ⟨hholding.grouped, hholding⟩
  | some records =>
    rw [hhalf] at hbehind
    obtain ⟨kept, hkept, hrest⟩ := hbehind.frames
    cases kept with
    | zero =>
      rw [List.take_zero] at hrest
      rw [hrest, List.append_nil]
      exact Or.inl ⟨hholding.grouped, hholding⟩
    | succ kept =>
      right
      rw [hrest]
      refine ⟨hholding.grouped.unfinished hbehind.usable (by omega), ?_⟩
      intro hnone
      cases hnone

/-- What fits the limits of an open as a log fits them as a journal. -/
theorem Sound.limits {options : StoreOptions} (h : Sound log frames torn)
    (hfits : log.Fits options) : Limits options log.snapshot frames torn := by
  obtain ⟨whole, rest, rfl, hholding, hbehind⟩ := h
  have hjournal := hfits.journal
  have hmarkers := hfits.markers
  have hpayloads := hfits.payloads
  have hrecords := hfits.records
  unfold Log.written at hjournal hmarkers hpayloads hrecords
  have hcount := hholding.grouped.durable_eq.symm
  have hwhole : ∀ frame ∈ whole, frame.payload.length ≤ options.maxRecordPayloadBytes.toNat := by
    intro frame hframe
    rcases hholding.payloads frame hframe with ⟨hlength, hsome⟩ | ⟨record, hrecord, heq⟩
    · rw [hlength]
      exact hmarkers (by simp [hsome])
    · rw [heq]
      apply hpayloads
      rw [List.flatten_append]
      exact List.mem_append_left _ hrecord
  cases hhalf : log.half with
  | none =>
    rw [hhalf] at hbehind hjournal hrecords
    obtain ⟨rfl, rfl⟩ := hbehind
    simp only [Option.toList_none, List.append_nil] at hjournal hrecords
    refine ⟨hfits.snapshot, ?_, ?_, ?_⟩
    · rw [tornBytes, List.append_nil, List.append_nil, hholding.size]
      exact hjournal
    · rintro frame (hframe | ⟨count, hnone, -⟩)
      · rw [List.append_nil] at hframe
        exact hwhole frame hframe
      · cases hnone
    · rw [List.append_nil, hcount]
      exact hrecords
  | some records =>
    rw [hhalf] at hbehind hjournal hmarkers hpayloads hrecords
    simp only [Option.toList_some] at hjournal hmarkers hpayloads hrecords
    have hlast : ∀ frame ∈ transactionFrames (1 + UInt64.ofNat whole.length) records,
        frame.payload.length ≤ options.maxRecordPayloadBytes.toNat := by
      intro frame hframe
      rcases payload_of_transactionFrames hframe with hlength | ⟨record, hrecord, heq⟩
      · rw [hlength]
        exact hmarkers (by simp)
      · rw [heq]
        apply hpayloads
        rw [List.flatten_append, List.flatten_singleton]
        exact List.mem_append_right _ hrecord
    obtain ⟨kept, hkept, rfl⟩ := hbehind.frames
    refine ⟨hfits.snapshot, ?_, ?_, ?_⟩
    · have hsize := hbehind.size
      rw [journalBytes_append] at hjournal
      simp only [journalBytes, List.map_cons, List.map_nil, List.sum_cons, List.sum_nil,
        Nat.add_zero] at hjournal
      rw [framesBytes_append, List.append_assoc, List.length_append, hholding.size]
      simp only [journalBytes]
      omega
    · rintro frame (hframe | hseen)
      · rcases List.mem_append.mp hframe with hframe | hframe
        · exact hwhole frame hframe
        · exact hlast frame (List.mem_of_mem_take hframe)
      · exact hlast frame (hbehind.seen frame hseen)
    · rw [recordCount_append, hcount]
      rw [List.flatten_append, List.flatten_singleton, List.length_append] at hrecords
      have hrest := recordCount_half (1 + UInt64.ofNat whole.length) hbehind.usable hkept
      omega

end Sound

/-! ### Refinement -/

/-- The directory holds the log, and the store is open on it exactly when the log is. -/
inductive Represents : Site → Log → Prop where
  | closed {dir : Directory} {log : Log} {frames : List RawFrame}
      {torn : Option (RawFrame × Nat)} (hclosed : log.opened = false)
      (hlayout : Layout dir log.snapshot frames torn)
      (hreplays : Replays frames log.transactions.flatten)
      (hsound : log.buried = false → Sound log frames torn) : Represents { dir } log
  | opened {dir : Directory} {store : Store} {log : Log} {frames : List RawFrame}
      (hopened : log.opened = true) (hattached : Attached store dir log.snapshot frames)
      (hreplays : Replays frames log.transactions.flatten)
      (hsound : log.buried = false → Sound log frames none ∧
        store.nextSequence = 1 + UInt64.ofNat frames.length) :
      Represents { dir, store := some store } log

theorem Grouped.outside {frames : List RawFrame} {durable : List Record} {assembly : Assembly}
    (h : Grouped frames durable false) (hassembly : assemble frames = .ok assembly) :
    assembly.inTransaction = false := by
  cases h with
  | empty =>
    cases hassembly
    rfl
  | complete h husable =>
    obtain ⟨middle, -, hrest⟩ := Assembly.foldlM_append_ok hassembly
    exact (Assembly.foldlM_transactionFrames husable hrest).2.1

theorem Holding.sound {log : Log} {frames : List RawFrame} (hhalf : log.half = none)
    (h : Holding log.transactions frames) : Sound log frames none := by
  refine ⟨frames, [], (List.append_nil _).symm, h, ?_⟩
  rw [hhalf]
  exact ⟨rfl, rfl⟩

theorem Represents.start : Represents {} {} := by
  apply Represents.closed rfl Layout.empty Replays.nil
  intro hwhole
  exact Holding.nil.sound rfl

section Simulation

variable {dir dir' : Directory} {store store' : Store} {log : Log} {options : StoreOptions}
  {opened : Store.Opened} {records : List Record} {snapshot : Bytes} {reply : Reason}
  {ops : List DiskOp} {frames : List RawFrame} {torn : Option (RawFrame × Nat)}

theorem dropped_conclude {loaded : Option (Nat × Bytes)} {journal : Option (ScanResult × Nat)}
    {found : RecoveryReport} (assembly : Assembly) (hfound : found.transactionsDropped = 0) :
    (Store.conclude options dir loaded journal found assembly).report.transactionsDropped =
      if assembly.inTransaction then 1 else 0 := by
  unfold Store.conclude
  simp only
  split_ifs <;> simp [hfound]

/-- An open reports a dropped transaction exactly if the assembly ended inside one. -/
theorem Layout.open_dropped {assembly : Assembly} (h : Layout dir snapshot frames torn)
    (hopen : Store.open options dir = .ok opened) (hassemble : assemble frames = .ok assembly) :
    opened.report.transactionsDropped = if assembly.inTransaction then 1 else 0 := by
  obtain ⟨generation, hsnapshot, hjournal⟩ := h.files
  unfold Store.open at hopen
  simp only at hopen
  split at hopen
  · cases hopen
  rename_i loaded hloaded
  split at hopen
  · cases hopen
  rename_i journal hscanned
  obtain ⟨-, hgeneration⟩ := loadSnapshot_layout hsnapshot hloaded
  have hfound := loadJournal_layout h hjournal hgeneration hscanned
  rw [hfound.frames_eq, hassemble] at hopen
  cases hopen
  exact dropped_conclude assembly rfl

theorem represents_opened (h : Represents { dir } log) (hwritable : options.readOnly = false)
    (hopen : Store.open options dir = .ok opened) : ∃ log',
      Log.Step log (.opened options opened.snapshot opened.records
        (opened.report.transactionsDropped ≠ 0)) log' ∧
      Represents { dir := dir.performAll opened.ops, store := some opened.store } log' := by
  cases h with
  | closed hclosed hlayout hreplays hsound =>
    rename_i frames torn
    obtain ⟨hsnapshot, -, ⟨assembly, hassemble, hrecords, hnext⟩, hattached, -⟩ :=
      hlayout.open hwritable hopen
    have hdropped : decide (opened.report.transactionsDropped ≠ 0) = assembly.inTransaction := by
      rw [hlayout.open_dropped hopen hassemble]
      cases assembly.inTransaction <;> rfl
    rw [hsnapshot, hrecords, hreplays assembly hassemble, hdropped]
    have hnumber : log.buried = false →
        opened.store.nextSequence = 1 + UInt64.ofNat frames.length := by
      intro hclear
      rcases (hsound hclear).grouped with ⟨hgrouped, -⟩ | ⟨hgrouped, -⟩
      · rw [hnext, assemble_previousSequence hgrouped.numbered hassemble, UInt64.add_comm]
      · rw [hnext, assemble_previousSequence hgrouped.numbered hassemble, UInt64.add_comm]
    cases hgroup : assembly.inTransaction with
    | false =>
      refine ⟨_, .opened hclosed (by intro h; cases h), .opened rfl hattached hreplays ?_⟩
      intro hclear
      refine ⟨?_, hnumber hclear⟩
      rcases (hsound hclear).grouped with ⟨-, hholding⟩ | ⟨hgrouped, -⟩
      · exact Holding.sound rfl hholding
      · rw [hgrouped.inTransaction hassemble] at hgroup
        cases hgroup
    | true =>
      refine ⟨_, .opened hclosed ?_, .opened rfl hattached hreplays ?_⟩
      · intro _
        by_cases hclear : log.buried = true
        · exact Or.inr hclear
        · left
          rcases (hsound (by simpa using hclear)).grouped with ⟨hgrouped, -⟩ | ⟨-, hhalf⟩
          · have := hgrouped.outside hassemble
            rw [hgroup] at this
            cases this
          · exact hhalf
      · intro hclear
        exact ⟨(hsound hclear).cut, hnumber hclear⟩

theorem represents_refused {report : RecoveryReport} (h : Represents { dir } log)
    (hopen : Store.open options dir = .error report) :
    Log.Step log (.refused options) log := by
  cases h with
  | closed hclosed hlayout hreplays hsound =>
    apply Log.Step.refused hclosed
    by_contra hcause
    rw [not_or, not_not] at hcause
    have hclear : log.buried = false := by simpa using hcause.1
    have hlimits := (hsound hclear).limits hcause.2
    have hopens : ∃ opened, Store.open options dir = .ok opened := by
      rcases (hsound hclear).grouped with ⟨hgrouped, -⟩ | ⟨hgrouped, -⟩
      · exact hlayout.open_ok hgrouped hlimits
      · exact hlayout.open_ok hgrouped hlimits
    obtain ⟨opened, hopened⟩ := hopens
    rw [hopen] at hopened
    cases hopened

/-- A commit behind whole transactions makes one more of them. -/
theorem Sound.append (hsound : Sound log frames none) (hhalf : log.half = none)
    (husable : ∀ record ∈ records, record.Usable) :
    Sound (log.append records)
      (frames ++ transactionFrames (1 + UInt64.ofNat frames.length) records) none := by
  obtain ⟨whole, rest, rfl, hholding, hbehind⟩ := hsound
  rw [hhalf] at hbehind
  rw [hbehind.1, List.append_nil]
  exact (hholding.append husable).sound rfl

theorem buried_append (records : List Record) (h : (log.append records).buried = false) :
    log.buried = false ∧ log.half = none := by
  simp only [Log.append, Bool.or_eq_false_iff, Option.isSome_eq_false_iff,
    Option.isNone_iff_eq_none] at h
  exact h

theorem flatten_append (log : Log) (records : List Record) :
    (log.append records).transactions.flatten = log.transactions.flatten ++ records := by
  simp [Log.append]

theorem represents_committed (h : Represents { dir, store := some store } log)
    (hcommit : store.commitTransaction records = (reply, store', ops)) : ∃ log',
      Log.Step log (.committed records reply) log' ∧
      Represents { dir := dir.performAll ops, store := some store' } log' := by
  cases h with
  | opened hopened hattached hreplays hsound =>
    rename_i frames
    by_cases hreply : reply = .ok
    · subst hreply
      obtain ⟨hnone, -, -, hnext, -⟩ := Store.commitTransaction_ok hcommit
      have husable : ∀ record ∈ records, record.Usable := by
        intro record hrecord
        exact ((Store.accepted hnone).2.2.1 record hrecord).1
      refine ⟨_, .committed hopened, .opened hopened (hattached.commit hcommit) ?_ ?_⟩
      · rw [flatten_append]
        exact hreplays.append store.nextSequence husable
      · intro hclear
        obtain ⟨hclear, hhalf⟩ := buried_append records hclear
        obtain ⟨hsound, hnumber⟩ := hsound hclear
        rw [hnext, hnumber]
        exact ⟨hsound.append hhalf husable, nextSequence_append frames _ records⟩
    · obtain ⟨rfl, rfl⟩ := Store.commitTransaction_refused hreply hcommit
      exact ⟨log, .uncommitted hopened hreply, .opened hopened hattached hreplays hsound⟩

theorem represents_compacted (h : Represents { dir, store := some store } log)
    (hcompact : store.compact snapshot = (reply, store', ops)) : ∃ log',
      Log.Step log (.compacted snapshot reply) log' ∧
      Represents { dir := dir.performAll ops, store := some store' } log' := by
  cases h with
  | opened hopened hattached hreplays hsound =>
    by_cases hreply : reply = .ok
    · subst hreply
      refine ⟨_, .compacted hopened, .opened rfl (hattached.compact hcompact) Replays.nil ?_⟩
      intro _
      refine ⟨Holding.nil.sound rfl, ?_⟩
      rw [(Store.compact_ok hcompact).2.2.1]
      rfl
    · obtain ⟨rfl, rfl⟩ := Store.compact_refused hreply hcompact
      exact ⟨log, .uncompacted hopened hreply, .opened hopened hattached hreplays hsound⟩

/-- Without its process an open store is a closed one. -/
theorem Represents.close (h : Represents { dir, store := some store } log) :
    log.opened = true ∧ Represents { dir } { log with opened := false } := by
  cases h with
  | opened hopened hattached hreplays hsound =>
    refine ⟨hopened, .closed rfl hattached.layout hreplays ?_⟩
    intro hclear
    exact (hsound hclear).1

theorem Represents.idle {site : Site} (h : Represents site log) :
    Represents { dir := site.dir } { log with opened := false } := by
  cases h with
  | closed hclosed hlayout hreplays hsound => exact .closed rfl hlayout hreplays hsound
  | opened hopened hattached hreplays hsound =>
    exact (Represents.opened hopened hattached hreplays hsound).close.2

theorem represents_crashedOpen (h : Represents { dir } log) (hwritable : options.readOnly = false)
    (hopen : Store.open options dir = .ok opened) (hcrash : dir.CrashImage opened.ops dir') :
    Represents { dir := dir' } { log with opened := false } := by
  cases h with
  | closed hclosed hlayout hreplays hsound =>
    obtain ⟨-, -, -, -, hcrashed⟩ := hlayout.open hwritable hopen
    rcases hcrashed dir' hcrash with hlayout' | hlayout'
    · exact .closed rfl hlayout' hreplays hsound
    · exact .closed rfl hlayout' hreplays fun hclear => (hsound hclear).cut

theorem landed_whole {frames : List RawFrame} {count : Nat}
    (h : (framesBytes frames).length ≤ count) : landed frames count = (frames, none) := by
  induction frames generalizing count with
  | nil => rfl
  | cons frame rest ih =>
    rw [framesBytes_cons, List.length_append] at h
    unfold landed
    rw [if_pos (by omega), ih (by omega)]

/-- What a crash in the middle of a commit leaves behind whole transactions. -/
theorem Sound.crash {count : Nat} (hsound : Sound log frames none) (hhalf : log.half = none)
    (husable : ∀ record ∈ records, record.Usable)
    (hcut : count < (framesBytes
      (transactionFrames (1 + UInt64.ofNat frames.length) records)).length) :
    Sound { log with half := some records }
      (frames ++ (landed (transactionFrames (1 + UInt64.ofNat frames.length) records) count).1)
      (landed (transactionFrames (1 + UInt64.ofNat frames.length) records) count).2 := by
  obtain ⟨whole, rest, rfl, hholding, hbehind⟩ := hsound
  rw [hhalf] at hbehind
  rw [hbehind.1, List.append_nil] at hcut ⊢
  refine ⟨whole, _, rfl, hholding, husable, ?_, ?_, ?_⟩
  · obtain ⟨kept, hkept, htake, hall⟩ :=
      landed_take (transactionFrames (1 + UInt64.ofNat whole.length) records) count
    rw [Assembly.length_transactionFrames] at hkept hall
    refine ⟨kept, ?_, htake⟩
    omega
  · rw [← take_framesBytes, ← length_transactionFramesBytes (1 + UInt64.ofNat whole.length),
      List.length_take]
    omega
  · intro frame hseen
    exact mem_of_landed (Or.inr hseen)

theorem represents_crashedCommit (h : Represents { dir, store := some store } log)
    (hcommit : store.commitTransaction records = (reply, store', ops))
    (hcrash : dir.CrashImage ops dir') : ∃ log',
      Log.Step log (.crashed (.commit records)) log' ∧ Represents { dir := dir' } log' := by
  cases h with
  | opened hopened hattached hreplays hsound =>
    rename_i frames
    have hclosed := Represents.opened hopened hattached hreplays hsound |>.close.2
    by_cases hreply : reply = .ok
    · subst hreply
      obtain ⟨hnone, -⟩ := Store.commitTransaction_ok hcommit
      have husable : ∀ record ∈ records, record.Usable := by
        intro record hrecord
        exact ((Store.accepted hnone).2.2.1 record hrecord).1
      obtain ⟨count, hlayout⟩ := hattached.crash_commit hcommit hcrash
      by_cases hall : (framesBytes (transactionFrames store.nextSequence records)).length ≤ count
      · rw [landed_whole hall] at hlayout
        refine ⟨_, .crashedBehind hopened, .closed rfl hlayout ?_ ?_⟩
        · rw [flatten_append]
          exact hreplays.append store.nextSequence husable
        · intro hclear
          obtain ⟨hclear, hhalf⟩ := buried_append records hclear
          obtain ⟨hsound, hnumber⟩ := hsound hclear
          rw [hnumber]
          exact hsound.append hhalf husable
      · refine ⟨_, .crashedWithin hopened, .closed rfl hlayout ?_ ?_⟩
        · obtain ⟨kept, hkept, htake, hlanded⟩ :=
            landed_take (transactionFrames store.nextSequence records) count
          rw [htake]
          exact hreplays.append_cut store.nextSequence husable (by omega)
        · intro hclear
          simp only [Bool.or_eq_false_iff, Option.isSome_eq_false_iff,
            Option.isNone_iff_eq_none] at hclear
          obtain ⟨hsound, hnumber⟩ := hsound hclear.1
          rw [hnumber] at hall ⊢
          exact hsound.crash hclear.2 husable (by omega)
    · obtain ⟨rfl, rfl⟩ := Store.commitTransaction_refused hreply hcommit
      rw [crashImage_nil hcrash]
      exact ⟨_, .crashed, hclosed⟩

theorem represents_crashedCompact (h : Represents { dir, store := some store } log)
    (hcompact : store.compact snapshot = (reply, store', ops))
    (hcrash : dir.CrashImage ops dir') : ∃ log',
      Log.Step log (.crashed (.compact snapshot)) log' ∧ Represents { dir := dir' } log' := by
  cases h with
  | opened hopened hattached hreplays hsound =>
    rename_i frames
    have hclosed := Represents.opened hopened hattached hreplays hsound |>.close.2
    by_cases hreply : reply = .ok
    · subst hreply
      rcases hattached.crash_compact hcompact hcrash with hlayout | hlayout
      · exact ⟨_, .crashed, .closed rfl hlayout hreplays fun hclear => (hsound hclear).1⟩
      · exact ⟨_, .crashedCompacted hopened,
          .closed rfl hlayout Replays.nil fun _ => Holding.nil.sound rfl⟩
    · obtain ⟨rfl, rfl⟩ := Store.compact_refused hreply hcompact
      rw [crashImage_nil hcrash]
      exact ⟨_, .crashed, hclosed⟩

end Simulation

/-- The store simulates the log. -/
theorem site_simulates_log : Site.machine.Simulates Log.machine Represents where
  start := by
    rintro site rfl
    exact ⟨{}, rfl, Represents.start⟩
  step := by
    intro site next event log hrelated hstep
    cases hstep with
    | opened hwritable hopen => exact represents_opened hrelated hwritable hopen
    | refused hopen => exact ⟨log, represents_refused hrelated hopen, hrelated⟩
    | committed hcommit => exact represents_committed hrelated hcommit
    | compacted hcompact => exact represents_compacted hrelated hcompact
    | closed =>
      obtain ⟨hopened, hclosed⟩ := hrelated.close
      exact ⟨_, .closed hopened, hclosed⟩
    | crashedIdle => exact ⟨_, .crashed, hrelated.idle⟩
    | crashedOpen hwritable hopen hcrash =>
      exact ⟨_, .crashed, represents_crashedOpen hrelated hwritable hopen hcrash⟩
    | crashedCommit hcommit hcrash => exact represents_crashedCommit hrelated hcommit hcrash
    | crashedCompact hcompact hcrash => exact represents_crashedCompact hrelated hcompact hcrash

/-- Every history of a store, however often its process died, is one of the durable log. -/
theorem store_refines_log {events : List LogEvent} (h : Site.machine.Accepts events) :
    Log.machine.Accepts events :=
  site_simulates_log.accepts h

/-- A store that was opened, committed to, and lost its process. -/
theorem log_accepts_probe :
    Log.machine.Accepts [.opened {} [] [] false, .committed probe .ok, .crashed .idle] := by
  obtain ⟨opened, hopen, hstore, hsnapshot, hrecords, hdropped⟩ : ∃ opened : Store.Opened,
      Store.open {} {} = .ok opened ∧ opened.store = { journalGeneration := 1 } ∧
      opened.snapshot = [] ∧ opened.records = [] ∧ opened.report.transactionsDropped = 0 :=
    ⟨_, rfl, rfl, rfl, rfl, rfl⟩
  have hfirst := Site.Step.opened rfl hopen
  rw [hsnapshot, hrecords, hdropped, hstore] at hfirst
  have hnext : ({ journalGeneration := 1 } : Store).nextSequence = 1 + UInt64.ofNat 0 := rfl
  obtain ⟨store, ops, hcommit⟩ := Store.accepts_probe rfl hnext (by decide)
  have hrun : Site.machine.Run [] {} := .start rfl
  exact store_refines_log
    ⟨_, ((hrun.step hfirst).step (.committed hcommit)).step .crashedIdle⟩

end OffloadFabric
