import OffloadFabric.StoreAssembly

/-!
The contents of a store directory in terms of the frames and the snapshot that the
store wrote. Opening, committing, compacting and crashing move between such
layouts: a commit adds the frames of its transaction, a crash an initial segment of
them, and a compaction starts again from its snapshot.
-/
namespace OffloadFabric

open Store (recordFrames transactionFrames)

/-! ### Cut writes -/

/-- The frames that are whole in the first `count` bytes, and the one cut short. -/
def landed : List RawFrame → Nat → List RawFrame × Option (RawFrame × Nat)
  | [], _ => ([], none)
  | frame :: rest, count =>
    if frame.bytes.length ≤ count then
      let after := landed rest (count - frame.bytes.length)
      (frame :: after.1, after.2)
    else ([], some (frame, count))

theorem take_framesBytes (frames : List RawFrame) (count : Nat) :
    (framesBytes frames).take count =
      framesBytes (landed frames count).1 ++ tornBytes (landed frames count).2 := by
  induction frames generalizing count with
  | nil => simp [landed, tornBytes]
  | cons frame rest ih =>
    rw [framesBytes_cons]
    unfold landed
    split
    · rename_i hwhole
      rw [List.take_append, List.take_of_length_le hwhole, ih, framesBytes_cons,
        List.append_assoc]
    · rename_i hcut
      rw [List.take_append_of_le_length (by omega)]
      rfl

theorem landed_isTorn (frames : List RawFrame) (count : Nat) :
    IsTorn (landed frames count).2 := by
  induction frames generalizing count with
  | nil =>
    intro frame cut h
    cases h
  | cons frame rest ih =>
    unfold landed
    split
    · exact ih _
    · rename_i hcut
      intro other cut h
      cases h
      omega

theorem landed_take (frames : List RawFrame) (count : Nat) :
    ∃ kept, kept ≤ frames.length ∧ (landed frames count).1 = frames.take kept ∧
      (kept = frames.length ↔ (framesBytes frames).length ≤ count) := by
  induction frames generalizing count with
  | nil => exact ⟨0, Nat.le_refl 0, rfl, by simp⟩
  | cons frame rest ih =>
    obtain ⟨kept, hkept, htake, hall⟩ := ih (count - frame.bytes.length)
    unfold landed
    split
    · rename_i hwhole
      refine ⟨kept + 1, by simpa using hkept, by simp [htake], ?_⟩
      rw [framesBytes_cons, List.length_append, List.length_cons]
      omega
    · rename_i hcut
      refine ⟨0, Nat.zero_le _, rfl, ?_⟩
      rw [framesBytes_cons, List.length_append, List.length_cons]
      omega

theorem mem_of_landed {frames : List RawFrame} {count : Nat} {frame : RawFrame}
    (h : frame ∈ (landed frames count).1 ∨ Seen (landed frames count).2 frame) :
    frame ∈ frames := by
  induction frames generalizing count with
  | nil => simp [landed, Seen] at h
  | cons head rest ih =>
    unfold landed at h
    split at h
    · rcases h with hmem | hseen
      · rcases List.mem_cons.mp hmem with rfl | hmem
        · exact List.mem_cons_self
        · exact List.mem_cons_of_mem _ (ih (Or.inl hmem))
      · exact List.mem_cons_of_mem _ (ih (Or.inr hseen))
    · rcases h with hmem | ⟨cut, heq, -⟩
      · simp at hmem
      · cases heq
        exact List.mem_cons_self

/-! ### Layouts -/

/-- The payload of a frame can be written in the header's length field. -/
def Sized (frame : RawFrame) : Prop := frame.payload.length < 256 ^ 4

/-- The newest snapshot file holds `snapshot`; `generation` is zero without a file. -/
def SnapshotFile (dir : Directory) (generation : Nat) (snapshot : Bytes) : Prop :=
  dir.snapshots.last? = none ∧ generation = 0 ∧ snapshot = [] ∨
    dir.snapshots.last? = some (generation, buildSnapshotFrame snapshot)

/-- The newest journal file holds `bytes`, unless the snapshot has superseded it. -/
def JournalFile (dir : Directory) (generation : Nat) (bytes : Bytes) : Prop :=
  match dir.journals.last? with
  | none => bytes = []
  | some (journal, data) => if journal < generation then bytes = [] else data = bytes

/-- The directory holds a snapshot, whole frames after it and perhaps a torn one. -/
structure Layout (dir : Directory) (snapshot : Bytes) (frames : List RawFrame)
    (torn : Option (RawFrame × Nat)) : Prop where
  files : ∃ generation, SnapshotFile dir generation snapshot ∧
    JournalFile dir generation (framesBytes frames ++ tornBytes torn)
  isTorn : IsTorn torn
  sized : ∀ frame ∈ frames, Sized frame
  seen : ∀ frame, Seen torn frame → Sized frame

theorem Layout.all_sized {dir : Directory} {snapshot : Bytes} {frames : List RawFrame}
    {torn : Option (RawFrame × Nat)} (h : Layout dir snapshot frames torn) :
    ∀ frame, frame ∈ frames ∨ Seen torn frame → frame.payload.length < 256 ^ 4 := by
  rintro frame (hframe | hseen)
  · exact h.sized frame hframe
  · exact h.seen frame hseen

/-- A writable store that is open on the directory. -/
structure Attached (store : Store) (dir : Directory) (snapshot : Bytes)
    (frames : List RawFrame) : Prop where
  writable : store.options.readOnly = false
  snapshotFile : ∃ generation ≤ store.journalGeneration, SnapshotFile dir generation snapshot
  journalFile : dir.journals.last? = some (store.journalGeneration, framesBytes frames)
  sized : ∀ frame ∈ frames, Sized frame

theorem IsTorn.none : IsTorn none := by
  intro frame count h
  cases h

theorem Layout.empty : Layout {} [] [] none where
  files := ⟨0, Or.inl ⟨rfl, rfl, rfl⟩, rfl⟩
  isTorn := IsTorn.none
  sized := by simp
  seen := by simp [Seen]

/-- An open store leaves a directory that can be opened again. -/
theorem Attached.layout {store : Store} {dir : Directory} {snapshot : Bytes}
    {frames : List RawFrame} (h : Attached store dir snapshot frames) :
    Layout dir snapshot frames none := by
  obtain ⟨generation, hle, hsnapshot⟩ := h.snapshotFile
  refine ⟨⟨generation, hsnapshot, ?_⟩, IsTorn.none, h.sized, by simp [Seen]⟩
  unfold JournalFile
  rw [h.journalFile]
  simp only [if_neg (Nat.not_lt.mpr hle), tornBytes, List.append_nil]

/-! ### Opening -/

theorem readSnapshotFrame_build {snapshot payload : Bytes}
    (h : readSnapshotFrame (buildSnapshotFrame snapshot) = .ok payload) : payload = snapshot := by
  have hheader : (snapshotHeader snapshot ++
      BigEndian.ofNat 4 (crc32c (snapshotHeader snapshot)).toNat).length =
        kSnapshotHeaderBytes := by
    simp [snapshotHeader, kSnapshotHeaderBytes]
  have hdrop : (buildSnapshotFrame snapshot).drop kSnapshotHeaderBytes = snapshot := by
    unfold buildSnapshotFrame
    rw [← hheader, List.drop_left]
  unfold readSnapshotFrame at h
  rw [hdrop] at h
  simp only at h
  split_ifs at h
  exact (Except.ok.inj h).symm

theorem loadSnapshot_layout {dir : Directory} {generation : Nat} {snapshot : Bytes}
    {found : RecoveryReport} {loaded : Option (Nat × Bytes)}
    (hfile : SnapshotFile dir generation snapshot)
    (h : Store.loadSnapshot dir found = .ok loaded) :
    (loaded.map Prod.snd).getD [] = snapshot ∧ (loaded.map Prod.fst).getD 0 = generation := by
  unfold Store.loadSnapshot at h
  rcases hfile with ⟨hnone, rfl, rfl⟩ | hsome
  · rw [hnone] at h
    cases h
    exact ⟨rfl, rfl⟩
  · rw [hsome] at h
    simp only at h
    split at h
    · cases h
    · rename_i payload hread
      cases h
      exact ⟨readSnapshotFrame_build hread, rfl⟩

theorem framesBytes_eq_nil {frames : List RawFrame} (h : framesBytes frames = []) :
    frames = [] := by
  cases frames with
  | nil => rfl
  | cons frame rest =>
    have hlength := congrArg List.length h
    rw [framesBytes_cons, List.length_append, frame.length_bytes] at hlength
    simp [kFrameHeaderBytes] at hlength

/-- What the scan of the newest journal found, and in which file. -/
inductive Found (dir : Directory) (generation : Nat) (frames : List RawFrame)
    (torn : Option (RawFrame × Nat)) : Option (ScanResult × Nat) → Prop
  | superseded (hframes : frames = [])
      (hold : ∀ journal data, dir.journals.last? = some (journal, data) → journal < generation) :
      Found dir generation frames torn none
  | scanned (journal : Nat) (hcurrent : generation ≤ journal)
      (hfile : dir.journals.last? = some (journal, framesBytes frames ++ tornBytes torn)) :
      Found dir generation frames torn
        (some ({ status := if (tornBytes torn).isEmpty then .clean else .tornTail
                 frames, badOffset := (framesBytes frames).length },
               (framesBytes frames ++ tornBytes torn).length))

theorem Found.frames_eq {dir : Directory} {generation : Nat} {frames : List RawFrame}
    {torn : Option (RawFrame × Nat)} {journal : Option (ScanResult × Nat)}
    (h : Found dir generation frames torn journal) :
    (journal.map fun j => j.1.frames).getD [] = frames := by
  cases h with
  | superseded hframes hold => exact hframes.symm
  | scanned journal hcurrent hfile => rfl

theorem loadJournal_current {options : StoreOptions} {dir : Directory} {last : Nat}
    {data : Bytes} {loaded : Option (Nat × Bytes)} {found : RecoveryReport}
    {journal : Option (ScanResult × Nat)} (hlast : dir.journals.last? = some (last, data))
    (hcurrent : ¬ last < (loaded.map Prod.fst).getD 0)
    (h : Store.loadJournal options dir loaded found = .ok journal) :
    journal = some (scanJournal options data, data.length) ∧
      (scanJournal options data).status ≠ .corrupt ∧
      (scanJournal options data).status ≠ .tooLarge := by
  unfold Store.loadJournal at h
  rw [hlast] at h
  simp only [if_neg hcurrent] at h
  generalize scanJournal options data = scan at h
  cases hstatus : scan.status <;> rw [hstatus] at h <;> cases h <;> simp

theorem loadJournal_layout {options : StoreOptions} {dir : Directory} {snapshot : Bytes}
    {generation : Nat} {frames : List RawFrame} {torn : Option (RawFrame × Nat)}
    {loaded : Option (Nat × Bytes)} {found : RecoveryReport}
    {journal : Option (ScanResult × Nat)}
    (hlayout : Layout dir snapshot frames torn)
    (hfile : JournalFile dir generation (framesBytes frames ++ tornBytes torn))
    (hloaded : (loaded.map Prod.fst).getD 0 = generation)
    (h : Store.loadJournal options dir loaded found = .ok journal) :
    Found dir generation frames torn journal := by
  subst hloaded
  unfold JournalFile at hfile
  cases hlast : dir.journals.last? with
  | none =>
    unfold Store.loadJournal at h
    rw [hlast] at h hfile
    cases h
    exact Found.superseded (framesBytes_eq_nil (List.append_eq_nil_iff.mp hfile).1)
      (by simp [hlast])
  | some entry =>
    obtain ⟨last, data⟩ := entry
    rw [hlast] at hfile
    simp only at hfile
    by_cases hold : last < (loaded.map Prod.fst).getD 0
    · unfold Store.loadJournal at h
      rw [hlast] at h
      simp only [if_pos hold] at h
      rw [if_pos hold] at hfile
      cases h
      refine Found.superseded (framesBytes_eq_nil (List.append_eq_nil_iff.mp hfile).1) ?_
      intro journal' data' heq
      rw [hlast] at heq
      cases heq
      exact hold
    · rw [if_neg hold] at hfile
      subst hfile
      obtain ⟨rfl, haccepted, hfits⟩ := loadJournal_current hlast hold h
      have hscan : scanJournal options (framesBytes frames ++ tornBytes torn) =
          scanFrames options (framesBytes frames ++ tornBytes torn) := by
        unfold scanJournal at hfits ⊢
        split
        · rename_i hlarge
          exact absurd (by rw [if_pos hlarge]) hfits
        · rfl
      rw [hscan] at haccepted ⊢
      rw [scanFrames_found options frames hlayout.isTorn
        (payloads_of_accepted options frames hlayout.isTorn hlayout.all_sized haccepted)]
      exact Found.scanned last (Nat.le_of_not_lt hold) hlast

namespace Directory

theorem journal_of_last? {dir : Directory} {generation : Nat} {bytes : Bytes}
    (h : dir.journals.last? = some (generation, bytes)) : dir.journal generation = bytes := by
  unfold journal
  rw [((OrderedMap.last?_eq_some_iff _ _ _).mp h).1]
  rfl

/-- Rewriting the newest journal file. -/
theorem last?_setJournal {dir : Directory} {generation : Nat} {old : Bytes} (bytes : Bytes)
    (h : dir.journals.last? = some (generation, old)) :
    (dir.setJournal generation bytes).journals.last? = some (generation, bytes) :=
  OrderedMap.last?_insert bytes ((OrderedMap.last?_eq_some_iff _ _ _).mp h).2

/-- Starting a journal file newer than the others. -/
theorem last?_setJournal_new {dir : Directory} {generation : Nat} (bytes : Bytes)
    (h : ∀ last data, dir.journals.last? = some (last, data) → last < generation) :
    (dir.setJournal generation bytes).journals.last? = some (generation, bytes) ∧
      dir.journal generation = [] := by
  have hbelow : ∀ other data, dir.journals.find? other = some data → other < generation := by
    intro other data hfind
    cases hlast : dir.journals.last? with
    | none => simp [(OrderedMap.last?_eq_none_iff _).mp hlast] at hfind
    | some entry =>
      have hmax := ((OrderedMap.last?_eq_some_iff _ _ _).mp hlast).2 other data hfind
      exact Nat.lt_of_le_of_lt hmax (h entry.1 entry.2 hlast)
  refine ⟨OrderedMap.last?_insert bytes fun k v hfind => Nat.le_of_lt (hbelow k v hfind), ?_⟩
  unfold journal
  cases hfind : dir.journals.find? generation with
  | none => rfl
  | some data => exact absurd (hbelow generation data hfind) (Nat.lt_irrefl _)

end Directory

theorem Store.open_ok {options : StoreOptions} {dir : Directory} {opened : Store.Opened}
    (h : Store.open options dir = .ok opened) :
    ∃ found found' loaded journal assembly,
      Store.loadSnapshot dir found = .ok loaded ∧
      Store.loadJournal options dir loaded found' = .ok journal ∧
      assemble ((journal.map fun j => j.1.frames).getD []) = .ok assembly ∧
      opened = Store.conclude options dir loaded journal found' assembly := by
  unfold Store.open at h
  simp only at h
  split at h
  · cases h
  rename_i loaded hloaded
  split at h
  · cases h
  rename_i journal hjournal
  split at h
  · cases h
  rename_i assembly hassembly
  cases h
  exact ⟨_, _, loaded, journal, assembly, hloaded, hjournal, hassembly, rfl⟩

/-- A journal that is as new as the snapshot is appended to. -/
theorem Store.journalGenerationOf_current {dir : Directory} {loaded : Option (Nat × Bytes)}
    {last : Nat} {data : Bytes} (hlast : dir.journals.last? = some (last, data))
    (hcurrent : (loaded.map Prod.fst).getD 0 ≤ last) :
    Store.journalGenerationOf dir loaded = last := by
  unfold Store.journalGenerationOf
  rw [hlast]
  cases loaded with
  | none => rfl
  | some best =>
    have hle : best.1 ≤ last := hcurrent
    show (if best.1 < last then last else best.1) = last
    split_ifs with hlt
    · rfl
    · omega

/-- The journal that is started beside a newer snapshot is newer than every other. -/
theorem Store.journalGenerationOf_superseded {dir : Directory} {loaded : Option (Nat × Bytes)}
    (hold : ∀ last data, dir.journals.last? = some (last, data) →
      last < (loaded.map Prod.fst).getD 0) :
    (loaded.map Prod.fst).getD 0 ≤ Store.journalGenerationOf dir loaded ∧
      ∀ last data, dir.journals.last? = some (last, data) →
        last < Store.journalGenerationOf dir loaded := by
  unfold Store.journalGenerationOf
  cases loaded with
  | none =>
    cases hlast : dir.journals.last? with
    | none => simp
    | some entry => exact absurd (hold entry.1 entry.2 hlast) (Nat.not_lt_zero _)
  | some best =>
    cases hlast : dir.journals.last? with
    | none => simp
    | some entry =>
      have hlt : entry.1 < best.1 := hold entry.1 entry.2 hlast
      have hnot : ¬ best.1 < entry.1 := Nat.not_lt.mpr (Nat.le_of_lt hlt)
      refine ⟨by simp [hnot], ?_⟩
      intro last data heq
      cases heq
      simpa [hnot] using hlt

/-- Where the store appends after an open, and what is there already. -/
theorem Found.generation {dir : Directory} {generation : Nat}
    {frames : List RawFrame} {torn : Option (RawFrame × Nat)} {loaded : Option (Nat × Bytes)}
    {journal : Option (ScanResult × Nat)} (h : Found dir generation frames torn journal)
    (hloaded : (loaded.map Prod.fst).getD 0 = generation) :
    generation ≤ Store.journalGenerationOf dir loaded ∧
      (journal = none → ∀ last data, dir.journals.last? = some (last, data) →
        last < Store.journalGenerationOf dir loaded) ∧
      (journal.isSome → dir.journals.last? =
        some (Store.journalGenerationOf dir loaded, framesBytes frames ++ tornBytes torn)) := by
  subst hloaded
  cases h with
  | superseded hframes hold =>
    obtain ⟨hle, hnew⟩ := Store.journalGenerationOf_superseded hold
    exact ⟨hle, fun _ => hnew, by simp⟩
  | scanned last hcurrent hlast =>
    rw [Store.journalGenerationOf_current hlast hcurrent]
    exact ⟨hcurrent, by simp, fun _ => hlast⟩

theorem SnapshotFile.setJournal {dir : Directory} {generation : Nat} {snapshot : Bytes}
    (h : SnapshotFile dir generation snapshot) (journal : Nat) (bytes : Bytes) :
    SnapshotFile (dir.setJournal journal bytes) generation snapshot := h

/-- The repair cuts the torn frame off and leaves the rest. -/
theorem Found.repaired {dir : Directory} {generation : Nat} {snapshot : Bytes}
    {frames : List RawFrame} {torn : Option (RawFrame × Nat)} {loaded : Option (Nat × Bytes)}
    {journal : Option (ScanResult × Nat)} (h : Found dir generation frames torn journal)
    (hfile : SnapshotFile dir generation snapshot)
    (hloaded : (loaded.map Prod.fst).getD 0 = generation) :
    let repaired := dir.performAll (Store.repairs dir loaded journal)
    let target := Store.journalGenerationOf dir loaded
    SnapshotFile repaired generation snapshot ∧ generation ≤ target ∧
      (repaired.setJournal target (repaired.journal target)).journals.last? =
        some (target, framesBytes frames) ∧
      JournalFile repaired generation (framesBytes frames) := by
  obtain ⟨hle, hnew, hcurrent⟩ := h.generation hloaded
  cases h with
  | superseded hframes hold =>
    subst hframes
    obtain ⟨hlast, hempty⟩ := Directory.last?_setJournal_new [] (hnew rfl)
    refine ⟨hfile, hle, ?_, ?_⟩
    · simpa [Store.repairs, Directory.performAll, hempty] using hlast
    · unfold JournalFile
      cases hlast : dir.journals.last? with
      | none => simp [Store.repairs, Directory.performAll, hlast]
      | some entry =>
        simp [Store.repairs, Directory.performAll, hlast, hold entry.1 entry.2 hlast]
  | scanned last hscanned hlast =>
    have hcurrent := hcurrent rfl
    have hjournal := Directory.journal_of_last? hcurrent
    have hkeep : JournalFile dir generation (framesBytes frames ++ tornBytes torn) := by
      unfold JournalFile
      rw [hcurrent]
      simp only [if_neg (Nat.not_lt.mpr hle)]
    by_cases hclean : (tornBytes torn).isEmpty = true
    · have hnil : tornBytes torn = [] := List.isEmpty_iff.mp hclean
      rw [hnil, List.append_nil] at hcurrent hjournal hkeep
      have hset := Directory.last?_setJournal (framesBytes frames) hcurrent
      refine ⟨?_, hle, ?_, ?_⟩
      · simpa [Store.repairs, Directory.performAll, hclean] using hfile
      · simpa [Store.repairs, Directory.performAll, hclean, hjournal] using hset
      · simpa [Store.repairs, Directory.performAll, hclean] using hkeep
    · have hset := Directory.last?_setJournal (framesBytes frames) hcurrent
      have htwice := Directory.last?_setJournal (framesBytes frames) hset
      have hjournal' := Directory.journal_of_last? hset
      refine ⟨?_, hle, ?_, ?_⟩
      · simpa [Store.repairs, Directory.performAll, Directory.perform, hclean] using
          hfile.setJournal _ _
      · simpa [Store.repairs, Directory.performAll, Directory.perform, hclean, hjournal,
          hjournal'] using htwice
      · unfold JournalFile
        simp [Store.repairs, Directory.performAll, Directory.perform, hclean, hjournal, hset,
          Nat.not_lt.mpr hle]

theorem Store.conclude_ops {options : StoreOptions} (dir : Directory)
    (loaded : Option (Nat × Bytes)) (journal : Option (ScanResult × Nat))
    (found : RecoveryReport) (assembly : Assembly) (hwritable : options.readOnly = false) :
    (Store.conclude options dir loaded journal found assembly).ops =
      Store.repairs dir loaded journal ++
        [.touchJournal (Store.journalGenerationOf dir loaded)] := by
  simp [Store.conclude, hwritable]

/-- After the repairs of an open the store is attached to the whole frames. -/
theorem Found.attached {options : StoreOptions} {dir : Directory} {generation : Nat}
    {snapshot : Bytes} {frames : List RawFrame} {torn : Option (RawFrame × Nat)}
    {loaded : Option (Nat × Bytes)} {journal : Option (ScanResult × Nat)}
    (found : RecoveryReport) (assembly : Assembly)
    (h : Found dir generation frames torn journal)
    (hsized : ∀ frame ∈ frames, Sized frame)
    (hfile : SnapshotFile dir generation snapshot)
    (hloaded : (loaded.map Prod.fst).getD 0 = generation)
    (hwritable : options.readOnly = false) :
    let opened := Store.conclude options dir loaded journal found assembly
    Attached opened.store (dir.performAll opened.ops) snapshot frames := by
  intro opened
  obtain ⟨hsnapshot, hle, hlast, -⟩ := h.repaired hfile hloaded
  have hops : dir.performAll opened.ops =
      (dir.performAll (Store.repairs dir loaded journal)).perform
        (.touchJournal (Store.journalGenerationOf dir loaded)) := by
    rw [Store.conclude_ops _ _ _ _ _ hwritable]
    simp [Directory.performAll]
  rw [hops]
  exact ⟨hwritable, ⟨generation, hle, hsnapshot.setJournal _ _⟩, hlast, hsized⟩

/-- A file operation that a crash leaves done or not done. -/
def DiskOp.Atomic : DiskOp → Prop
  | .appendJournal _ _ => False
  | .removeBelow _ => False
  | _ => True

theorem Directory.CrashImage.atomic {dir dir' : Directory} {ops : List DiskOp}
    (hops : ∀ op ∈ ops, op.Atomic) (h : dir.CrashImage ops dir') :
    ∃ done rest, ops = done ++ rest ∧ dir' = dir.performAll done := by
  rcases h with rfl | ⟨done, op, rest, rfl, hcut⟩
  · exact ⟨ops, [], by simp, rfl⟩
  · have hatomic := hops op (by simp)
    refine ⟨done, op :: rest, rfl, ?_⟩
    cases op with
    | appendJournal generation bytes => exact absurd hatomic id
    | removeBelow bound => exact absurd hatomic id
    | _ => exact hcut

/-- A crash during a call that performed no file operation leaves the directory alone. -/
theorem crashImage_nil {dir dir' : Directory} (h : dir.CrashImage [] dir') : dir' = dir := by
  rcases h with rfl | ⟨done, op, rest, hsplit, -⟩
  · rfl
  · simp at hsplit

/-- A crash during the repairs of an open loses nothing. -/
theorem Found.crash {options : StoreOptions} {dir dir' : Directory} {generation : Nat}
    {snapshot : Bytes} {frames : List RawFrame} {torn : Option (RawFrame × Nat)}
    {loaded : Option (Nat × Bytes)} {journal : Option (ScanResult × Nat)}
    {found : RecoveryReport} {assembly : Assembly}
    (h : Found dir generation frames torn journal)
    (hlayout : Layout dir snapshot frames torn)
    (hfile : SnapshotFile dir generation snapshot)
    (hloaded : (loaded.map Prod.fst).getD 0 = generation)
    (hcrash : dir.CrashImage (Store.conclude options dir loaded journal found assembly).ops
      dir') :
    Layout dir' snapshot frames torn ∨ Layout dir' snapshot frames none := by
  by_cases hwritable : options.readOnly = false
  · have hattached := Found.attached found assembly h hlayout.sized hfile hloaded
      hwritable
    have hops := Store.conclude_ops dir loaded journal found assembly hwritable
    have hatomic : ∀ op ∈ Store.repairs dir loaded journal, op.Atomic := by
      intro op hop
      unfold Store.repairs at hop
      split at hop
      · split at hop
        · rw [List.mem_singleton.mp hop]
          trivial
        · cases hop
      · cases hop
    obtain ⟨done, rest, hparts, rfl⟩ := hcrash.atomic (by
      rw [hops]
      intro op hop
      rcases List.mem_append.mp hop with hop | hop
      · exact hatomic op hop
      · rw [List.mem_singleton.mp hop]
        trivial)
    rcases List.eq_nil_or_concat' rest with rfl | ⟨init, last, rfl⟩
    · rw [List.append_nil] at hparts
      rw [← hparts]
      exact Or.inr hattached.layout
    · -- The journal was not touched yet: the repair is done or it is not.
      rw [hops, ← List.append_assoc] at hparts
      have hdone := (List.append_inj' hparts rfl).1
      obtain ⟨hsnapshot, -, -, hjournal⟩ := h.repaired hfile hloaded
      rcases done with _ | ⟨op, done⟩
      · exact Or.inl hlayout
      · have hshort : (Store.repairs dir loaded journal).length ≤ 1 := by
          unfold Store.repairs
          split
          · split <;> simp
          · simp
        have hall : op :: done = Store.repairs dir loaded journal := by
          rw [hdone] at hshort ⊢
          simp only [List.length_append, List.length_cons] at hshort
          have hinit : init = [] := List.eq_nil_of_length_eq_zero (by omega)
          rw [hinit, List.append_nil]
        rw [hall]
        exact Or.inr ⟨⟨generation, hsnapshot, by simpa [tornBytes] using hjournal⟩,
          IsTorn.none, hlayout.sized, by simp [Seen]⟩
  · have hnone : (Store.conclude options dir loaded journal found assembly).ops = [] := by
      simp [Store.conclude, hwritable]
    obtain ⟨done, rest, hparts, rfl⟩ := hcrash.atomic (by simp [hnone])
    rw [hnone] at hparts
    obtain ⟨rfl, -⟩ := List.append_eq_nil_iff.mp hparts.symm
    exact Or.inl hlayout

/-- Opening a layout: what comes back, what the store is attached to, and what a
crash during the repairs leaves. -/
theorem Layout.open {options : StoreOptions} {dir : Directory} {snapshot : Bytes}
    {frames : List RawFrame} {torn : Option (RawFrame × Nat)} {opened : Store.Opened}
    (h : Layout dir snapshot frames torn) (hwritable : options.readOnly = false)
    (hopen : Store.open options dir = .ok opened) :
    opened.snapshot = snapshot ∧ opened.store.options = options ∧
      (∃ assembly, assemble frames = .ok assembly ∧
        opened.records = assembly.recoveredRecords ∧
        opened.store.nextSequence = assembly.previousSequence + 1) ∧
      Attached opened.store (dir.performAll opened.ops) snapshot frames ∧
      ∀ dir', dir.CrashImage opened.ops dir' →
        Layout dir' snapshot frames torn ∨ Layout dir' snapshot frames none := by
  obtain ⟨generation, hsnapshot, hjournal⟩ := h.files
  obtain ⟨found, found', loaded, journal, assembly, hloaded, hscanned, hassembly, rfl⟩ :=
    Store.open_ok hopen
  obtain ⟨hpayload, hgeneration⟩ := loadSnapshot_layout hsnapshot hloaded
  have hfound := loadJournal_layout h hjournal hgeneration hscanned
  rw [hfound.frames_eq] at hassembly
  refine ⟨hpayload, rfl, ⟨assembly, hassembly, rfl, ?_⟩,
    Found.attached _ _ hfound h.sized hsnapshot hgeneration hwritable,
    fun dir' hcrash => hfound.crash h hsnapshot hgeneration hcrash⟩
  simp [Store.conclude, hwritable]

end OffloadFabric
