import OffloadFabric.StoreLayout

/-!
What commits, compactions and crashes do to a store directory. The durable contents
are a snapshot and the records to replay on it; every operation moves them as a
whole, or not at all.
-/
namespace OffloadFabric

open Store (recordFrames transactionFrames)

/-! ### Committing -/

theorem sized_recordFrames {sequence : UInt64} {records : List Record}
    (h : ∀ record ∈ records, record.payload.length < 256 ^ 4) :
    ∀ frame ∈ recordFrames sequence records, Sized frame := by
  induction records generalizing sequence with
  | nil => simp [recordFrames]
  | cons record rest ih =>
    intro frame hframe
    rcases List.mem_cons.mp hframe with rfl | hframe
    · exact h record List.mem_cons_self
    · exact ih (fun r hr => h r (List.mem_cons_of_mem _ hr)) frame hframe

theorem sized_transactionFrames (first : UInt64) {records : List Record}
    (h : ∀ record ∈ records, record.payload.length < 256 ^ 4) :
    ∀ frame ∈ transactionFrames first records, Sized frame := by
  intro frame hframe
  unfold transactionFrames at hframe
  simp only [List.mem_cons, List.mem_append, List.not_mem_nil, or_false] at hframe
  rcases hframe with rfl | hframe | rfl
  · simp [Sized]
  · exact sized_recordFrames h frame hframe
  · simp [Sized]

/-- What an accepted transaction satisfies. -/
theorem Store.accepted {store : Store} {records : List Record}
    (h : store.refuseTransaction records = none) :
    store.options.readOnly = false ∧ records ≠ [] ∧
      (∀ record ∈ records, record.Usable ∧
        record.payload.length ≤ store.options.maxRecordPayloadBytes.toNat) ∧
      store.nextSequence.toNat + (records.length + 1) < 2 ^ 64 := by
  unfold Store.refuseTransaction at h
  split at h
  · cases h
  rename_i hreadOnly
  split at h
  · cases h
  rename_i hempty
  split at h
  · cases h
  rename_i husable
  split at h
  · cases h
  rename_i hroom
  rw [List.findSome?_eq_none_iff] at husable
  refine ⟨by simpa using hreadOnly, by simpa using hempty, ?_, by omega⟩
  intro record hrecord
  have hone := husable record hrecord
  unfold Store.refuseRecord at hone
  split_ifs at hone with hkind hlarge
  simp only [not_or] at hkind
  exact ⟨hkind, by omega⟩

theorem Store.refuseRecord_ne_ok {options : StoreOptions} {record : Record} :
    Store.refuseRecord options record ≠ some .ok := by
  unfold Store.refuseRecord
  split_ifs <;> simp

theorem Store.refuseTransaction_ne_ok {store : Store} {records : List Record} :
    store.refuseTransaction records ≠ some .ok := by
  unfold Store.refuseTransaction
  split
  · simp
  split
  · simp
  split
  · rename_i reason hunusable
    obtain ⟨record, -, hone⟩ := List.exists_of_findSome?_eq_some hunusable
    intro hok
    cases hok
    exact Store.refuseRecord_ne_ok hone
  · split <;> simp

theorem Store.commitTransaction_ok {store store' : Store} {records : List Record}
    {ops : List DiskOp} (h : store.commitTransaction records = (.ok, store', ops)) :
    store.refuseTransaction records = none ∧
      store'.options = store.options ∧ store'.journalGeneration = store.journalGeneration ∧
      store'.nextSequence = store.nextSequence + 1 + UInt64.ofNat records.length + 1 ∧
      ops = [.appendJournal store.journalGeneration
        (framesBytes (transactionFrames store.nextSequence records))] := by
  unfold Store.commitTransaction at h
  split at h
  · rename_i reason hrefused
    cases h
    exact absurd hrefused Store.refuseTransaction_ne_ok
  · rename_i hnone
    cases h
    exact ⟨hnone, rfl, rfl, rfl, rfl⟩

/-- A commit that was refused wrote nothing. -/
theorem Store.commitTransaction_refused {store store' : Store} {records : List Record}
    {reason : Reason} {ops : List DiskOp} (hreason : reason ≠ .ok)
    (h : store.commitTransaction records = (reason, store', ops)) :
    store' = store ∧ ops = [] := by
  unfold Store.commitTransaction at h
  split at h
  · cases h
    exact ⟨rfl, rfl⟩
  · cases h
    exact absurd rfl hreason

/-- A cut append, by the number of bytes that reached the disk. -/
theorem Directory.CrashImage.append {dir dir' : Directory} {generation : Nat} {bytes : Bytes}
    (h : dir.CrashImage [.appendJournal generation bytes] dir') :
    dir' = dir ∨
    ∃ count, dir' = dir.setJournal generation (dir.journal generation ++ bytes.take count) := by
  rcases h with rfl | ⟨done, op, rest, hparts, hcut⟩
  · refine Or.inr ⟨bytes.length, ?_⟩
    simp [performAll, perform]
  · rcases done with _ | ⟨first, done⟩
    · cases hparts
      exact Or.inr hcut
    · simp at hparts

theorem Attached.append {store : Store} {dir : Directory} {snapshot : Bytes}
    {frames : List RawFrame} (h : Attached store dir snapshot frames)
    {written : List RawFrame} (hsized : ∀ frame ∈ written, Sized frame) (count : Nat) :
    Layout (dir.setJournal store.journalGeneration
      (dir.journal store.journalGeneration ++ (framesBytes written).take count))
      snapshot (frames ++ (landed written count).1) (landed written count).2 := by
  obtain ⟨generation, hle, hsnapshot⟩ := h.snapshotFile
  have hjournal := Directory.journal_of_last? h.journalFile
  have hset := Directory.last?_setJournal
    (framesBytes frames ++ (framesBytes written).take count) h.journalFile
  refine ⟨⟨generation, hsnapshot.setJournal _ _, ?_⟩, landed_isTorn written count, ?_, ?_⟩
  · unfold JournalFile
    rw [hjournal, hset, take_framesBytes, framesBytes_append, List.append_assoc]
    simp only [if_neg (Nat.not_lt.mpr hle)]
  · intro frame hframe
    rcases List.mem_append.mp hframe with hframe | hframe
    · exact h.sized frame hframe
    · exact hsized frame (mem_of_landed (Or.inl hframe))
  · intro frame hseen
    exact hsized frame (mem_of_landed (Or.inr hseen))

/-- A commit appends the frames of its transaction. -/
theorem Attached.commit {store store' : Store} {dir : Directory} {snapshot : Bytes}
    {frames : List RawFrame} {records : List Record} {ops : List DiskOp}
    (h : Attached store dir snapshot frames)
    (hcommit : store.commitTransaction records = (.ok, store', ops)) :
    Attached store' (dir.performAll ops) snapshot
      (frames ++ transactionFrames store.nextSequence records) := by
  obtain ⟨hnone, hoptions, hgeneration, -, rfl⟩ := Store.commitTransaction_ok hcommit
  obtain ⟨-, -, hrecords, -⟩ := Store.accepted hnone
  obtain ⟨generation, hle, hsnapshot⟩ := h.snapshotFile
  have hjournal := Directory.journal_of_last? h.journalFile
  have hset := Directory.last?_setJournal
    (framesBytes frames ++ framesBytes (transactionFrames store.nextSequence records))
    h.journalFile
  have hmax := store.options.maxRecordPayloadBytes.toNat_lt
  have hsized := sized_transactionFrames store.nextSequence
    (fun record hrecord => by
      have := (hrecords record hrecord).2
      omega)
  refine ⟨by rw [hoptions]; exact h.writable, ⟨generation, by rw [hgeneration]; exact hle,
    hsnapshot.setJournal _ _⟩, ?_, ?_⟩
  · simpa [Directory.performAll, Directory.perform, hjournal, hgeneration] using hset
  · intro frame hframe
    rcases List.mem_append.mp hframe with hframe | hframe
    · exact h.sized frame hframe
    · exact hsized frame hframe

/-- A commit cut by a crash appends an initial segment of its frames. -/
theorem Attached.crash_commit {store store' : Store} {dir dir' : Directory} {snapshot : Bytes}
    {frames : List RawFrame} {records : List Record} {ops : List DiskOp}
    (h : Attached store dir snapshot frames)
    (hcommit : store.commitTransaction records = (.ok, store', ops))
    (hcrash : dir.CrashImage ops dir') :
    ∃ count, Layout dir' snapshot
      (frames ++ (landed (transactionFrames store.nextSequence records) count).1)
      (landed (transactionFrames store.nextSequence records) count).2 := by
  obtain ⟨hnone, hoptions, hgeneration, -, rfl⟩ := Store.commitTransaction_ok hcommit
  obtain ⟨-, -, hrecords, -⟩ := Store.accepted hnone
  have hmax := store.options.maxRecordPayloadBytes.toNat_lt
  have hsized := sized_transactionFrames store.nextSequence
    (fun record hrecord => by
      have := (hrecords record hrecord).2
      omega)
  rcases hcrash.append with rfl | ⟨count, rfl⟩
  · have hzero := h.append hsized 0
    rw [List.take_zero, List.append_nil, Directory.journal_of_last? h.journalFile] at hzero
    have hsame : dir'.setJournal store.journalGeneration (framesBytes frames) = dir' := by
      unfold Directory.setJournal
      rw [OrderedMap.insert_find?_self ((OrderedMap.last?_eq_some_iff _ _ _).mp h.journalFile).1]
    rw [hsame] at hzero
    exact ⟨0, hzero⟩
  · exact ⟨count, h.append hsized count⟩

/-! ### Compacting -/

theorem Store.compact_ok {store store' : Store} {snapshot : Bytes} {ops : List DiskOp}
    (h : store.compact snapshot = (.ok, store', ops)) :
    store'.options = store.options ∧
      store'.journalGeneration = store.journalGeneration + 1 ∧ store'.nextSequence = 1 ∧
      ∃ cleanup, ops = [.replaceSnapshot (store.journalGeneration + 1)
        (buildSnapshotFrame snapshot), .resetJournal (store.journalGeneration + 1)] ++ cleanup ∧
        (cleanup = [] ∨
          ∃ bound ≤ store.journalGeneration, cleanup = [.removeBelow bound]) := by
  unfold Store.compact at h
  split at h
  · cases h
  split at h
  · cases h
  split at h
  · cases h
  cases h
  refine ⟨rfl, rfl, rfl, _, rfl, ?_⟩
  split
  · exact Or.inr ⟨_, by omega, rfl⟩
  · exact Or.inl rfl

theorem Store.compact_refused {store store' : Store} {snapshot : Bytes} {reason : Reason}
    {ops : List DiskOp} (hreason : reason ≠ .ok)
    (h : store.compact snapshot = (reason, store', ops)) : store' = store ∧ ops = [] := by
  unfold Store.compact at h
  split_ifs at h <;> cases h
  · exact ⟨rfl, rfl⟩
  · exact ⟨rfl, rfl⟩
  · exact ⟨rfl, rfl⟩
  · exact absurd rfl hreason

/-- The newest files are those of generation `generation`, freshly compacted. -/
def Fresh (dir : Directory) (generation : Nat) (snapshot : Bytes) : Prop :=
  dir.snapshots.last? = some (generation, buildSnapshotFrame snapshot) ∧
    dir.journals.last? = some (generation, [])

theorem Fresh.layout {dir : Directory} {generation : Nat} {snapshot : Bytes}
    (h : Fresh dir generation snapshot) : Layout dir snapshot [] none := by
  refine ⟨⟨generation, Or.inr h.1, ?_⟩, IsTorn.none, by simp, by simp [Seen]⟩
  unfold JournalFile
  rw [h.2]
  simp [tornBytes]

/-- Removing old generations keeps the newest file. -/
theorem last?_of_removedSome {bound generation : Nat} {bytes : Bytes}
    {full remaining : OrderedMap Nat Bytes}
    (hremoved : Directory.RemovedSome bound full remaining)
    (hlast : full.last? = some (generation, bytes)) (hbound : bound ≤ generation) :
    remaining.last? = some (generation, bytes) := by
  obtain ⟨hfind, hmax⟩ := (OrderedMap.last?_eq_some_iff _ _ _).mp hlast
  refine (OrderedMap.last?_eq_some_iff _ _ _).mpr ⟨?_, ?_⟩
  · rcases hremoved generation with hsame | ⟨hlt, -⟩
    · rw [hsame, hfind]
    · omega
  · intro other data hother
    rcases hremoved other with hsame | ⟨-, hnone⟩
    · exact hmax other data (hsame ▸ hother)
    · rw [hnone] at hother
      cases hother

theorem removedSome_filterFrom (bound : Nat) (files : OrderedMap Nat Bytes) :
    Directory.RemovedSome bound files (Directory.filterFrom bound files) := by
  intro generation
  unfold Directory.filterFrom
  rw [OrderedMap.find?_filterKeys]
  by_cases hkeep : bound ≤ generation
  · simp [hkeep]
  · exact Or.inr ⟨by omega, by simp [hkeep]⟩

theorem Fresh.removed {dir dir' : Directory} {generation bound : Nat} {snapshot : Bytes}
    (h : Fresh dir generation snapshot) (hbound : bound ≤ generation)
    (hsnapshots : Directory.RemovedSome bound dir.snapshots dir'.snapshots)
    (hjournals : Directory.RemovedSome bound dir.journals dir'.journals) :
    Fresh dir' generation snapshot :=
  ⟨last?_of_removedSome hsnapshots h.1 hbound, last?_of_removedSome hjournals h.2 hbound⟩

section Compaction

variable {store : Store} {dir : Directory} {snapshot : Bytes} {frames : List RawFrame}

/-- After the first step of a compaction the journal is superseded. -/
theorem Attached.replaced (h : Attached store dir snapshot frames) (next : Bytes) :
    (dir.perform (.replaceSnapshot (store.journalGeneration + 1)
      (buildSnapshotFrame next))).snapshots.last? =
        some (store.journalGeneration + 1, buildSnapshotFrame next) := by
  refine OrderedMap.last?_insert _ ?_
  intro other data hfind
  obtain ⟨generation, hle, hnone | hsome⟩ := h.snapshotFile
  · rw [(OrderedMap.last?_eq_none_iff _).mp hnone.1] at hfind
    cases hfind
  · have hmax := ((OrderedMap.last?_eq_some_iff _ _ _).mp hsome).2 other data hfind
    omega

theorem Attached.superseded (h : Attached store dir snapshot frames) (next : Bytes) :
    Layout (dir.perform (.replaceSnapshot (store.journalGeneration + 1)
      (buildSnapshotFrame next))) next [] none := by
  refine ⟨⟨_, Or.inr (h.replaced next), ?_⟩, IsTorn.none, by simp, by simp [Seen]⟩
  have hjournal : (dir.perform (.replaceSnapshot (store.journalGeneration + 1)
      (buildSnapshotFrame next))).journals.last? =
        some (store.journalGeneration, framesBytes frames) := h.journalFile
  unfold JournalFile
  rw [hjournal]
  simp [tornBytes]

theorem Attached.fresh (h : Attached store dir snapshot frames) (next : Bytes) :
    Fresh ((dir.perform (.replaceSnapshot (store.journalGeneration + 1)
      (buildSnapshotFrame next))).perform (.resetJournal (store.journalGeneration + 1)))
      (store.journalGeneration + 1) next := by
  refine ⟨h.replaced next, ?_⟩
  have hjournal : (dir.perform (.replaceSnapshot (store.journalGeneration + 1)
      (buildSnapshotFrame next))).journals.last? =
        some (store.journalGeneration, framesBytes frames) := h.journalFile
  refine (Directory.last?_setJournal_new [] ?_).1
  intro last data hlast
  rw [hjournal] at hlast
  cases hlast
  omega

/-- A compaction leaves its snapshot and an empty journal. -/
theorem Attached.compact {store' : Store} {next : Bytes} {ops : List DiskOp}
    (h : Attached store dir snapshot frames)
    (hcompact : store.compact next = (.ok, store', ops)) :
    Attached store' (dir.performAll ops) next [] := by
  obtain ⟨hoptions, hgeneration, -, cleanup, rfl, hcleanup⟩ := Store.compact_ok hcompact
  have hfresh := h.fresh next
  have hattached {dir' : Directory} (hdir : Fresh dir' (store.journalGeneration + 1) next) :
      Attached store' dir' next [] :=
    ⟨by rw [hoptions]; exact h.writable,
      ⟨_, Nat.le_refl _, by rw [hgeneration]; exact Or.inr hdir.1⟩,
      by rw [hgeneration]; exact hdir.2, by simp⟩
  rcases hcleanup with rfl | ⟨bound, hbound, rfl⟩
  · exact hattached hfresh
  · exact hattached (hfresh.removed (Nat.le_succ_of_le hbound)
      (removedSome_filterFrom bound _) (removedSome_filterFrom bound _))

/-- A compaction cut by a crash leaves the directory alone, or its snapshot in place. -/
theorem Attached.cut_compact {store' : Store} {next : Bytes} {dir' : Directory}
    {ops : List DiskOp} (h : Attached store dir snapshot frames)
    (hcompact : store.compact next = (.ok, store', ops)) (hcrash : dir.CrashImage ops dir') :
    dir' = dir ∨
      dir'.snapshots.last? = some (store.journalGeneration + 1, buildSnapshotFrame next) ∧
        Layout dir' next [] none := by
  have hfresh := h.fresh next
  obtain ⟨-, -, -, cleanup, rfl, hcleanup⟩ := Store.compact_ok hcompact
  rcases hcrash with rfl | ⟨done, op, rest, hparts, hcut⟩
  · have hdone : Fresh (dir.performAll ([.replaceSnapshot (store.journalGeneration + 1)
        (buildSnapshotFrame next), .resetJournal (store.journalGeneration + 1)] ++ cleanup))
        (store.journalGeneration + 1) next := by
      rcases hcleanup with rfl | ⟨bound, hbound, rfl⟩
      · exact hfresh
      · exact hfresh.removed (Nat.le_succ_of_le hbound)
          (removedSome_filterFrom bound _) (removedSome_filterFrom bound _)
    exact Or.inr ⟨hdone.1, hdone.layout⟩
  rcases done with _ | ⟨first, _ | ⟨second, done⟩⟩
  · -- The snapshot was not replaced.
    cases hparts
    exact Or.inl hcut
  · -- The snapshot was replaced, the journal not started.
    cases hparts
    rw [show dir' = _ from hcut]
    exact Or.inr ⟨h.replaced next, h.superseded next⟩
  · -- Only the removal of old files was cut.
    rcases hcleanup with rfl | ⟨bound, hbound, rfl⟩
    · simp at hparts
    · have hnil : done = [] ∧ rest = [] := by
        have hlength := congrArg List.length hparts
        simp only [List.length_append, List.length_cons, List.length_nil] at hlength
        exact ⟨List.eq_nil_of_length_eq_zero (by omega),
          List.eq_nil_of_length_eq_zero (by omega)⟩
      obtain ⟨rfl, rfl⟩ := hnil
      cases hparts
      have hremoved := hfresh.removed (Nat.le_succ_of_le hbound) hcut.1 hcut.2
      exact Or.inr ⟨hremoved.1, hremoved.layout⟩

/-- A compaction cut by a crash leaves the old contents or its snapshot. -/
theorem Attached.crash_compact {store' : Store} {next : Bytes} {dir' : Directory}
    {ops : List DiskOp} (h : Attached store dir snapshot frames)
    (hcompact : store.compact next = (.ok, store', ops)) (hcrash : dir.CrashImage ops dir') :
    Layout dir' snapshot frames none ∨ Layout dir' next [] none := by
  rcases h.cut_compact hcompact hcrash with rfl | ⟨-, hlayout⟩
  · exact Or.inl h.layout
  · exact Or.inr hlayout

end Compaction

/-! ### Durable contents -/

/-- Whatever frames assemble, they give these records. -/
def Replays (frames : List RawFrame) (records : List Record) : Prop :=
  ∀ assembly, assemble frames = .ok assembly → assembly.recoveredRecords = records

theorem Replays.nil : Replays [] [] := by
  intro assembly h
  cases h
  rfl

theorem Replays.append {frames : List RawFrame} {records added : List Record}
    (h : Replays frames records) (first : UInt64) (husable : ∀ record ∈ added, record.Usable) :
    Replays (frames ++ transactionFrames first added) (records ++ added) := by
  intro assembly hassembly
  obtain ⟨middle, hmiddle, hrest⟩ := Assembly.foldlM_append_ok hassembly
  obtain ⟨-, -, -, hall⟩ := Assembly.foldlM_transactionFrames husable hrest
  rw [hall, h middle hmiddle]

theorem Replays.append_cut {frames : List RawFrame} {records added : List Record}
    (h : Replays frames records) (first : UInt64) (husable : ∀ record ∈ added, record.Usable)
    {count : Nat} (hcut : count < (transactionFrames first added).length) :
    Replays (frames ++ (transactionFrames first added).take count) records := by
  intro assembly hassembly
  obtain ⟨middle, hmiddle, hrest⟩ := Assembly.foldlM_append_ok hassembly
  rw [Assembly.foldlM_take_transactionFrames husable hcut hrest, h middle hmiddle]

/-- If the directory can be opened, it holds this snapshot and these records. -/
def Durable (dir : Directory) (snapshot : Bytes) (records : List Record) : Prop :=
  ∃ frames torn, Layout dir snapshot frames torn ∧ Replays frames records

/-- The store is open on a directory that holds this snapshot and these records. -/
def Connected (store : Store) (dir : Directory) (snapshot : Bytes) (records : List Record) :
    Prop :=
  ∃ frames, Attached store dir snapshot frames ∧ Replays frames records

theorem Durable.empty : Durable {} [] [] := ⟨[], none, Layout.empty, Replays.nil⟩

section Durability

variable {store store' : Store} {dir dir' : Directory} {snapshot next : Bytes}
  {records added : List Record} {ops : List DiskOp}

theorem Connected.durable (h : Connected store dir snapshot records) :
    Durable dir snapshot records := by
  obtain ⟨frames, hattached, hreplays⟩ := h
  exact ⟨frames, none, hattached.layout, hreplays⟩

theorem Durable.open {options : StoreOptions} {opened : Store.Opened}
    (h : Durable dir snapshot records) (hwritable : options.readOnly = false)
    (hopen : Store.open options dir = .ok opened) :
    opened.snapshot = snapshot ∧ opened.records = records ∧
      opened.store.options = options ∧
      Connected opened.store (dir.performAll opened.ops) snapshot records ∧
      ∀ dir', dir.CrashImage opened.ops dir' → Durable dir' snapshot records := by
  obtain ⟨frames, torn, hlayout, hreplays⟩ := h
  obtain ⟨hpayload, hoptions, ⟨assembly, hassembly, hrecords, -⟩, hattached, hcrashed⟩ :=
    hlayout.open hwritable hopen
  refine ⟨hpayload, by rw [hrecords, hreplays assembly hassembly], hoptions,
    ⟨frames, hattached, hreplays⟩, ?_⟩
  intro dir' hcrash
  rcases hcrashed dir' hcrash with hlayout' | hlayout'
  · exact ⟨frames, torn, hlayout', hreplays⟩
  · exact ⟨frames, none, hlayout', hreplays⟩

theorem Connected.commit (h : Connected store dir snapshot records)
    (hcommit : store.commitTransaction added = (.ok, store', ops)) :
    Connected store' (dir.performAll ops) snapshot (records ++ added) := by
  obtain ⟨frames, hattached, hreplays⟩ := h
  obtain ⟨-, -, husable, -⟩ := Store.accepted (Store.commitTransaction_ok hcommit).1
  exact ⟨_, hattached.commit hcommit, hreplays.append _ fun r hr => (husable r hr).1⟩

theorem Connected.crash_commit (h : Connected store dir snapshot records)
    (hcommit : store.commitTransaction added = (.ok, store', ops))
    (hcrash : dir.CrashImage ops dir') :
    Durable dir' snapshot records ∨ Durable dir' snapshot (records ++ added) := by
  obtain ⟨frames, hattached, hreplays⟩ := h
  obtain ⟨-, -, husable, -⟩ := Store.accepted (Store.commitTransaction_ok hcommit).1
  obtain ⟨count, hlayout⟩ := hattached.crash_commit hcommit hcrash
  obtain ⟨kept, hkept, htake, -⟩ := landed_take (transactionFrames store.nextSequence added) count
  rw [htake] at hlayout
  rcases Nat.lt_or_eq_of_le hkept with hcut | rfl
  · exact Or.inl ⟨_, _, hlayout,
      hreplays.append_cut _ (fun r hr => (husable r hr).1) hcut⟩
  · rw [List.take_length] at hlayout
    exact Or.inr ⟨_, _, hlayout, hreplays.append _ fun r hr => (husable r hr).1⟩

theorem Connected.compact (h : Connected store dir snapshot records)
    (hcompact : store.compact next = (.ok, store', ops)) :
    Connected store' (dir.performAll ops) next [] := by
  obtain ⟨frames, hattached, -⟩ := h
  exact ⟨[], hattached.compact hcompact, Replays.nil⟩

theorem Connected.crash_compact (h : Connected store dir snapshot records)
    (hcompact : store.compact next = (.ok, store', ops)) (hcrash : dir.CrashImage ops dir') :
    Durable dir' snapshot records ∨ Durable dir' next [] := by
  obtain ⟨frames, hattached, hreplays⟩ := h
  rcases hattached.crash_compact hcompact hcrash with hlayout | hlayout
  · exact Or.inl ⟨frames, none, hlayout, hreplays⟩
  · exact Or.inr ⟨[], none, hlayout, Replays.nil⟩

end Durability

end OffloadFabric
