import OffloadFabric.StoreFrames

/-!
What the assembly of frames into transactions makes of the frames that one commit
writes: all of its records when every frame is there, none of them before the last
frame, and a refusal when an earlier transaction was left open.
-/
namespace OffloadFabric

/-- A record a transaction may carry. -/
def Record.Usable (record : Record) : Prop :=
  record.kind ≠ .beginTransaction ∧ record.kind ≠ .commitTransaction

instance (record : Record) : Decidable record.Usable :=
  inferInstanceAs (Decidable (_ ∧ _))

namespace Assembly

open Store (recordFrames transactionFrames)

/-! ### One frame -/

/-- The next frame may carry the number `sequence`. -/
def Before (assembly : Assembly) (sequence : UInt64) : Prop :=
  assembly.havePreviousSequence = true → assembly.previousSequence < sequence

theorem step_before {assembly next : Assembly} {frame : RawFrame}
    (h : assembly.step frame = .ok next) :
    next.havePreviousSequence = true ∧ next.previousSequence = frame.sequence := by
  unfold step at h
  split at h
  · cases h
  split_ifs at h
  · split at h
    · cases h
    · cases h
      exact ⟨rfl, rfl⟩
  all_goals
    cases h
    exact ⟨rfl, rfl⟩

theorem step_begin {assembly next : Assembly} {frame : RawFrame}
    (hkind : frame.kind = .beginTransaction) (h : assembly.step frame = .ok next) :
    assembly.inTransaction = false ∧ next.inTransaction = true ∧ next.pending = [] ∧
      next.recoveredRecords = assembly.recoveredRecords := by
  unfold step at h
  split_ifs at h with hstale hin
  split at h
  · cases h
  · cases h
    exact ⟨by simpa using hin, rfl, rfl, rfl⟩

theorem step_commit {assembly next : Assembly} {frame : RawFrame}
    (hkind : frame.kind = .commitTransaction) (h : assembly.step frame = .ok next) :
    assembly.inTransaction = true ∧ next.inTransaction = false ∧ next.pending = [] ∧
      next.recoveredRecords = assembly.recoveredRecords ++ assembly.pending := by
  have hother : frame.kind ≠ .beginTransaction := by
    rw [hkind]
    decide
  unfold step at h
  split_ifs at h with hstale hout hid
  cases h
  exact ⟨by simpa using hout, rfl, rfl, rfl⟩

theorem step_record {assembly next : Assembly} {record : Record} {sequence : UInt64}
    (husable : record.Usable)
    (h : assembly.step { kind := record.kind, sequence, payload := record.payload } = .ok next) :
    assembly.inTransaction = true ∧ next.inTransaction = true ∧
      next.pending = assembly.pending ++ [record] ∧
      next.recoveredRecords = assembly.recoveredRecords := by
  obtain ⟨hbegin, hcommit⟩ := husable
  unfold step at h
  split_ifs at h with hstale hout hfull
  cases h
  have hin : assembly.inTransaction = true := by simpa using hout
  exact ⟨hin, hin, rfl, rfl⟩

/-! ### The frames of one commit -/

theorem foldlM_recordFrames {records : List Record} {sequence : UInt64}
    {assembly final : Assembly} (husable : ∀ record ∈ records, record.Usable)
    (h : (recordFrames sequence records).foldlM step assembly = .ok final) :
    final.inTransaction = assembly.inTransaction ∧
      final.pending = assembly.pending ++ records ∧
      final.recoveredRecords = assembly.recoveredRecords := by
  induction records generalizing sequence assembly with
  | nil =>
    cases h
    simp
  | cons record rest ih =>
    simp only [recordFrames, List.foldlM_cons] at h
    cases hstep : assembly.step { kind := record.kind, sequence, payload := record.payload } with
    | error reason =>
      rw [hstep] at h
      cases h
    | ok next =>
      rw [hstep] at h
      obtain ⟨hin, hin', hpending, hrecovered⟩ :=
        step_record (husable record List.mem_cons_self) hstep
      obtain ⟨htail, hall, hsame⟩ :=
        ih (fun r hr => husable r (List.mem_cons_of_mem _ hr)) h
      refine ⟨by rw [htail, hin', hin], ?_, by rw [hsame, hrecovered]⟩
      rw [hall, hpending, List.append_assoc]
      rfl

theorem foldlM_append_ok {first second : List RawFrame} {assembly final : Assembly}
    (h : (first ++ second).foldlM step assembly = .ok final) :
    ∃ middle, first.foldlM step assembly = .ok middle ∧
      second.foldlM step middle = .ok final := by
  rw [List.foldlM_append] at h
  cases hfirst : first.foldlM step assembly with
  | error reason =>
    rw [hfirst] at h
    cases h
  | ok middle =>
    rw [hfirst] at h
    exact ⟨middle, rfl, h⟩

theorem foldlM_cons_ok {frame : RawFrame} {rest : List RawFrame} {assembly final : Assembly}
    (h : (frame :: rest).foldlM step assembly = .ok final) :
    ∃ next, assembly.step frame = .ok next ∧ rest.foldlM step next = .ok final := by
  rw [List.foldlM_cons] at h
  cases hstep : assembly.step frame with
  | error reason =>
    rw [hstep] at h
    cases h
  | ok next =>
    rw [hstep] at h
    exact ⟨next, rfl, h⟩

/-- A complete transaction adds exactly its records. -/
theorem foldlM_transactionFrames {records : List Record} {first : UInt64}
    {assembly final : Assembly} (husable : ∀ record ∈ records, record.Usable)
    (h : (transactionFrames first records).foldlM step assembly = .ok final) :
    assembly.inTransaction = false ∧ final.inTransaction = false ∧ final.pending = [] ∧
      final.recoveredRecords = assembly.recoveredRecords ++ records := by
  obtain ⟨began, hbegin, h⟩ := foldlM_cons_ok h
  obtain ⟨hout, hin, hempty, hrecovered⟩ := step_begin rfl hbegin
  obtain ⟨filled, hrecords, h⟩ := foldlM_append_ok h
  obtain ⟨-, hpending, hsame⟩ := foldlM_recordFrames husable hrecords
  obtain ⟨closed, hcommit, h⟩ := foldlM_cons_ok h
  cases h
  obtain ⟨-, hout', hempty', hall⟩ := step_commit rfl hcommit
  refine ⟨hout, hout', hempty', ?_⟩
  rw [hall, hsame, hpending, hrecovered, hempty, List.nil_append]

theorem length_recordFrames (sequence : UInt64) (records : List Record) :
    (recordFrames sequence records).length = records.length := by
  induction records generalizing sequence with
  | nil => rfl
  | cons record rest ih => simp [recordFrames, ih]

theorem take_recordFrames (sequence : UInt64) (records : List Record) (count : Nat) :
    (recordFrames sequence records).take count = recordFrames sequence (records.take count) := by
  induction records generalizing sequence count with
  | nil => simp [recordFrames]
  | cons record rest ih =>
    cases count with
    | zero => rfl
    | succ count => simp [recordFrames, ih]

theorem length_transactionFrames (first : UInt64) (records : List Record) :
    (transactionFrames first records).length = records.length + 2 := by
  simp [transactionFrames, length_recordFrames]

/-- An unfinished transaction: its Begin frame and some of its records. -/
theorem take_transactionFrames (first : UInt64) (records : List Record) {count : Nat}
    (h : count ≤ records.length) :
    (transactionFrames first records).take (count + 1) =
      { kind := .beginTransaction, sequence := first
        payload := BigEndian.ofNat 8 first.toNat } ::
        recordFrames (first + 1) (records.take count) := by
  unfold transactionFrames
  rw [List.take_succ_cons, List.take_append_of_le_length (by rw [length_recordFrames]; exact h),
    take_recordFrames]

/-- An unfinished transaction adds nothing. -/
theorem foldlM_take_transactionFrames {records : List Record} {first : UInt64} {count : Nat}
    {assembly final : Assembly} (husable : ∀ record ∈ records, record.Usable)
    (hcut : count < (transactionFrames first records).length)
    (h : ((transactionFrames first records).take count).foldlM step assembly = .ok final) :
    final.recoveredRecords = assembly.recoveredRecords := by
  rw [length_transactionFrames] at hcut
  cases count with
  | zero =>
    cases h
    rfl
  | succ count =>
    rw [take_transactionFrames first records (by omega)] at h
    obtain ⟨began, hbegin, h⟩ := foldlM_cons_ok h
    obtain ⟨-, -, -, hrecovered⟩ := step_begin rfl hbegin
    obtain ⟨-, -, hsame⟩ :=
      foldlM_recordFrames (fun r hr => husable r (List.mem_of_mem_take hr)) h
    rw [hsame, hrecovered]

/-! ### Frames that assemble -/

theorem payloadU64_marker (value : UInt64) :
    payloadU64 (BigEndian.ofNat 8 value.toNat) = some value := by
  unfold payloadU64
  rw [if_pos (BigEndian.length_ofNat 8 _), BigEndian.toNat_ofNat_of_lt value.toNat_lt,
    UInt64.ofNat_toNat]

theorem not_stale {assembly : Assembly} {sequence : UInt64} (h : assembly.Before sequence) :
    (assembly.havePreviousSequence && decide (sequence ≤ assembly.previousSequence)) = false := by
  cases hhave : assembly.havePreviousSequence with
  | false => rfl
  | true => simpa using h hhave

theorem step_begin_ok {assembly : Assembly} {first : UInt64} (hbefore : assembly.Before first)
    (hout : assembly.inTransaction = false) :
    ∃ next, assembly.step { kind := .beginTransaction, sequence := first
                            payload := BigEndian.ofNat 8 first.toNat } = .ok next ∧
      next.transactionId = first := by
  refine ⟨{ assembly with
    previousSequence := first, havePreviousSequence := true
    inTransaction := true, transactionId := first, pending := [] }, ?_, rfl⟩
  simp [step, not_stale hbefore, hout, payloadU64_marker]

theorem foldlM_recordFrames_ok {records : List Record} {sequence : UInt64} {assembly : Assembly}
    (husable : ∀ record ∈ records, record.Usable) (hbefore : assembly.Before sequence)
    (hin : assembly.inTransaction = true)
    (hroom : sequence.toNat + records.length < 2 ^ 64)
    (hcapacity : assembly.recoveredRecords.length + assembly.pending.length + records.length ≤
      kMaxReplayRecords) :
    ∃ final, (recordFrames sequence records).foldlM step assembly = .ok final ∧
      final.Before (sequence + UInt64.ofNat records.length) ∧
      final.transactionId = assembly.transactionId := by
  induction records generalizing sequence assembly with
  | nil => exact ⟨assembly, rfl, by simpa using hbefore, rfl⟩
  | cons record rest ih =>
    have hrecord := husable record List.mem_cons_self
    rw [List.length_cons] at hroom hcapacity
    let next : Assembly := { assembly with
      previousSequence := sequence, havePreviousSequence := true
      pending := assembly.pending ++ [record] }
    have hstep : assembly.step { kind := record.kind, sequence, payload := record.payload } =
        .ok next := by
      have hfits : ¬ kMaxReplayRecords ≤
          assembly.recoveredRecords.length + assembly.pending.length := by omega
      simp [step, not_stale hbefore, hrecord.1, hrecord.2, hin, hfits, next]
    have hsuccessor : (sequence + 1).toNat = sequence.toNat + 1 := by
      rw [UInt64.toNat_add]
      exact Nat.mod_eq_of_lt (by simp; omega)
    obtain ⟨final, hfold, hafter, hid⟩ :=
      @ih (sequence + 1) next
        (fun r hr => husable r (List.mem_cons_of_mem _ hr))
        (fun _ => by rw [UInt64.lt_iff_toNat_lt, hsuccessor]; exact Nat.lt_succ_self _)
        hin (by omega) (by simp [next]; omega)
    refine ⟨final, ?_, ?_, hid⟩
    · rw [recordFrames, List.foldlM_cons, hstep]
      exact hfold
    · have hsum : sequence + 1 + UInt64.ofNat rest.length =
          sequence + UInt64.ofNat (record :: rest).length := by
        rw [List.length_cons, Nat.add_comm rest.length 1, UInt64.ofNat_add, UInt64.add_assoc]
        rfl
      rwa [hsum] at hafter

end Assembly

end OffloadFabric
