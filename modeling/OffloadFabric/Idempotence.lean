import OffloadFabric.StoreParsing

/-!
Opening a store again. An open may cut a torn tail off the newest journal, start a journal
beside a newer snapshot, or leave an unfinished group where it is. Each repair leaves a
journal in which the next scan finds the same frames and nothing behind them, so every
further open, in whatever mode, returns what the first one returned and changes no file.
-/
namespace OffloadFabric

namespace Store

/-! ### What an open reads -/

/-- The frames that an open takes from the newest journal, the bytes that it leaves behind
them, and the scan it has of the file; a journal that the snapshot `best` has superseded is
not scanned. -/
inductive Reads (options : StoreOptions) (dir : Directory) (best : Nat) :
    List RawFrame → Bytes → Option (ScanResult × Nat) → Prop
  | superseded
      (hold : ∀ journal data, dir.journals.last? = some (journal, data) → journal < best) :
      Reads options dir best [] [] none
  | framed {journal : Nat} {frames : List RawFrame} {fragment : Bytes}
      (hlast : dir.journals.last? = some (journal, framesBytes frames ++ fragment))
      (hcurrent : best ≤ journal)
      (hframed : Framed options (framesBytes frames ++ fragment) frames fragment)
      (hbound : (framesBytes frames ++ fragment).length ≤ (readBound options).toNat) :
      Reads options dir best frames fragment
        (some ({ status := if fragment.isEmpty then .clean else .tornTail
                 frames, badOffset := (framesBytes frames).length },
               (framesBytes frames ++ fragment).length))

section Reads

variable {options : StoreOptions} {dir : Directory} {loaded : Option (Nat × Bytes)}
  {frames : List RawFrame} {fragment : Bytes} {journal : Option (ScanResult × Nat)}

theorem Reads.frames_eq {best : Nat} (h : Reads options dir best frames fragment journal) :
    (journal.map fun j => j.1.frames).getD [] = frames := by
  cases h with
  | superseded hold => rfl
  | framed hlast hcurrent hframed hbound => rfl

/-- What the scan of an open finds does not depend on the report it is started with. -/
theorem Reads.load (h : Reads options dir ((loaded.map Prod.fst).getD 0) frames fragment journal)
    (found : RecoveryReport) : loadJournal options dir loaded found = .ok journal := by
  unfold loadJournal
  cases h with
  | superseded hold =>
    cases hlast : dir.journals.last? with
    | none => rfl
    | some entry =>
      dsimp only
      rw [if_pos (hold entry.1 entry.2 hlast)]
  | framed hlast hcurrent hframed hbound =>
    rw [hlast]
    dsimp only
    rw [if_neg (Nat.not_lt.mpr hcurrent), scanJournal_of_le hbound, hframed.scan]
    cases fragment <;> rfl

theorem reads_of_loadJournal {found : RecoveryReport}
    (h : loadJournal options dir loaded found = .ok journal) :
    ∃ frames fragment,
      Reads options dir ((loaded.map Prod.fst).getD 0) frames fragment journal := by
  cases hlast : dir.journals.last? with
  | none =>
    unfold loadJournal at h
    rw [hlast] at h
    cases h
    exact ⟨[], [], .superseded fun journal data hsome => by
      rw [hlast] at hsome
      cases hsome⟩
  | some entry =>
    obtain ⟨last, data⟩ := entry
    by_cases hold : last < (loaded.map Prod.fst).getD 0
    · unfold loadJournal at h
      rw [hlast] at h
      dsimp only at h
      rw [if_pos hold] at h
      cases h
      refine ⟨[], [], .superseded fun journal data' hsome => ?_⟩
      rw [hlast] at hsome
      cases hsome
      exact hold
    · have hcurrent := Nat.le_of_not_lt hold
      rcases @loadJournal_scan options dir last data loaded found hlast hcurrent with
        ⟨haccepted, hcorrupt, hversion, hlarge⟩ | ⟨report, hrefused, -⟩
      · have hbound := le_of_scanJournal hlarge
        rw [scanJournal_of_le hbound] at haccepted hcorrupt hversion
        obtain ⟨fragment, hframed⟩ := framed_of_scan hcorrupt hversion
        have hbytes := hframed.bytes
        rw [haccepted, hframed.scan] at h
        cases h
        generalize (scanFrames options data).frames = frames at hframed hbytes ⊢
        subst hbytes
        exact ⟨_, _, .framed hlast hcurrent hframed hbound⟩
      · rw [hrefused] at h
        cases h

/-- The mode of an open has no part in what it reads. -/
theorem Reads.mode {best : Nat} (h : Reads options dir best frames fragment journal)
    (readOnly : Bool) : Reads { options with readOnly } dir best frames fragment journal := by
  cases h with
  | superseded hold => exact .superseded hold
  | framed hlast hcurrent hframed hbound =>
    refine .framed hlast hcurrent ⟨rfl, hframed.payloads, ?_⟩ hbound
    rcases hframed.fragment with hshort | ⟨hheader, hannounced⟩
    · exact Or.inl hshort
    · exact Or.inr ⟨⟨hheader.magic, hheader.version, hheader.kind, hheader.payload⟩, hannounced⟩

end Reads

/-! ### What a repair leaves -/

/-- The newest journal is `frames` and nothing else, and no snapshot supersedes it. -/
structure Settled (options : StoreOptions) (dir : Directory) (best : Nat)
    (frames : List RawFrame) : Prop where
  current : ∃ journal ≥ best, dir.journals.last? = some (journal, framesBytes frames)
  payloads : ∀ frame ∈ frames, frame.payload.length ≤ options.maxRecordPayloadBytes.toNat
  bound : (framesBytes frames).length ≤ (readBound options).toNat

section Settled

variable {options : StoreOptions} {dir : Directory} {loaded : Option (Nat × Bytes)}
  {frames : List RawFrame} {fragment : Bytes} {journal : Option (ScanResult × Nat)}

theorem Settled.reads {best : Nat} (h : Settled options dir best frames) :
    ∃ journal, Reads options dir best frames [] journal := by
  obtain ⟨generation, hcurrent, hlast⟩ := h.current
  have hbytes : framesBytes frames = framesBytes frames ++ [] := (List.append_nil _).symm
  rw [hbytes] at hlast
  refine ⟨_, .framed hlast hcurrent ⟨rfl, h.payloads, Or.inl (by decide)⟩ ?_⟩
  rw [← hbytes]
  exact h.bound

/-- The repairs of an open leave exactly the frames that it has read. -/
theorem Reads.settles
    (h : Reads options dir ((loaded.map Prod.fst).getD 0) frames fragment journal) :
    Settled options
      (dir.performAll
        (repairs dir loaded journal ++ [.touchJournal (journalGenerationOf dir loaded)]))
      ((loaded.map Prod.fst).getD 0) frames := by
  cases h with
  | superseded hold =>
    obtain ⟨hle, hnew⟩ := journalGenerationOf_superseded hold
    obtain ⟨hlast, hempty⟩ := Directory.last?_setJournal_new [] hnew
    refine ⟨⟨_, hle, ?_⟩, by simp, Nat.zero_le _⟩
    show ((dir.setJournal _ (dir.journal _)).journals.last?) = _
    rw [hempty]
    exact hlast
  | framed hlast hcurrent hframed hbound =>
    rw [journalGenerationOf_current hlast hcurrent]
    rw [List.length_append] at hbound
    refine ⟨⟨_, hcurrent, ?_⟩, hframed.payloads, by omega⟩
    have hjournal := Directory.journal_of_last? hlast
    have hset := Directory.last?_setJournal (framesBytes frames) hlast
    by_cases hclean : fragment = []
    · subst hclean
      rw [List.append_nil] at hjournal
      show ((dir.setJournal _ (dir.journal _)).journals.last?) = _
      rw [hjournal]
      exact hset
    · have htorn : fragment.isEmpty = false := by simpa using hclean
      have htwice := Directory.last?_setJournal (framesBytes frames) hset
      have hjournal' := Directory.journal_of_last? hset
      simpa [repairs, journalGenerationOf_current hlast hcurrent, htorn, Directory.performAll,
        Directory.perform, hjournal, hjournal'] using htwice

/-- There is nothing to repair once the journal is settled. -/
theorem Settled.unchanged (h : Settled options dir ((loaded.map Prod.fst).getD 0) frames)
    (hreads : Reads options dir ((loaded.map Prod.fst).getD 0) frames [] journal) :
    dir.performAll
      (repairs dir loaded journal ++ [.touchJournal (journalGenerationOf dir loaded)]) = dir := by
  obtain ⟨generation, hcurrent, hlast⟩ := h.current
  cases hreads with
  | superseded hold => exact absurd (hold _ _ hlast) (Nat.not_lt.mpr hcurrent)
  | framed hlast' hcurrent' hframed hbound =>
    rw [journalGenerationOf_current hlast hcurrent]
    show dir.setJournal generation (dir.journal generation) = dir
    rw [Directory.journal_of_last? hlast]
    unfold Directory.setJournal
    rw [OrderedMap.insert_find?_self ((OrderedMap.last?_eq_some_iff _ _ _).mp hlast).1]

end Settled

/-! ### Opening again -/

theorem loadSnapshot_same {dir dir' : Directory} {found : RecoveryReport}
    {loaded : Option (Nat × Bytes)} (h : loadSnapshot dir found = .ok loaded)
    (hsame : dir'.snapshots = dir.snapshots) (found' : RecoveryReport) :
    loadSnapshot dir' found' = .ok loaded := by
  unfold loadSnapshot at h ⊢
  rw [hsame]
  cases hlast : dir.snapshots.last? with
  | none =>
    rw [hlast] at h
    exact h
  | some entry =>
    rw [hlast] at h
    dsimp only at h ⊢
    cases hread : readSnapshotFrame entry.2 with
    | error failure =>
      rw [hread] at h
      cases h
    | ok payload =>
      rw [hread] at h
      exact h

/-- The snapshot, the frames and the transactions that an open makes of the files. -/
structure Holds (options : StoreOptions) (dir : Directory) (loaded : Option (Nat × Bytes))
    (frames : List RawFrame) (fragment : Bytes) (assembly : Assembly) : Prop where
  snapshot : ∀ found, loadSnapshot dir found = .ok loaded
  reads : ∃ journal, Reads options dir ((loaded.map Prod.fst).getD 0) frames fragment journal
  assembles : assemble frames = .ok assembly

/-- Opens that hand the same snapshot and the same records to their callers. -/
def Opened.Same (opened other : Opened) : Prop :=
  other.snapshot = opened.snapshot ∧ other.records = opened.records

section Open

variable {options : StoreOptions} {dir : Directory} {loaded : Option (Nat × Bytes)}
  {frames : List RawFrame} {fragment : Bytes} {assembly : Assembly} {opened : Opened}

theorem open_of_reads {journal : Option (ScanResult × Nat)}
    (hsnapshot : ∀ found, loadSnapshot dir found = .ok loaded)
    (hreads : Reads options dir ((loaded.map Prod.fst).getD 0) frames fragment journal)
    (hassembles : assemble frames = .ok assembly) :
    ∃ found, Store.open options dir =
      .ok (conclude options dir loaded journal found assembly) := by
  have hload := hreads.load
  rw [← hreads.frames_eq] at hassembles
  unfold Store.open
  simp only [hsnapshot, hload, hassembles]
  exact ⟨_, rfl⟩

/-- An open in either mode concludes from the same files. -/
theorem Holds.open (h : Holds options dir loaded frames fragment assembly) (readOnly : Bool) :
    ∃ journal found,
      Reads options dir ((loaded.map Prod.fst).getD 0) frames fragment journal ∧
      Store.open { options with readOnly } dir =
        .ok (conclude { options with readOnly } dir loaded journal found assembly) := by
  obtain ⟨journal, hreads⟩ := h.reads
  obtain ⟨found, hopen⟩ := open_of_reads h.snapshot (hreads.mode readOnly) h.assembles
  exact ⟨journal, found, hreads, hopen⟩

theorem holds_of_open (h : Store.open options dir = .ok opened) :
    ∃ loaded frames fragment assembly journal found,
      Holds options dir loaded frames fragment assembly ∧
      Reads options dir ((loaded.map Prod.fst).getD 0) frames fragment journal ∧
      opened = conclude options dir loaded journal found assembly := by
  obtain ⟨found, found', loaded, journal, assembly, hloaded, hjournal, hassembly, heq⟩ :=
    Store.open_ok h
  obtain ⟨frames, fragment, hreads⟩ := reads_of_loadJournal hjournal
  rw [hreads.frames_eq] at hassembly
  exact ⟨loaded, frames, fragment, assembly, journal, found',
    ⟨loadSnapshot_same hloaded rfl, ⟨journal, hreads⟩, hassembly⟩, hreads, heq⟩

/-- An open of a settled directory leaves every file as it is. -/
theorem Holds.reopen (h : Holds options dir loaded frames [] assembly)
    (hsettled : Settled options dir ((loaded.map Prod.fst).getD 0) frames) (readOnly : Bool) :
    ∃ opened, Store.open { options with readOnly } dir = .ok opened ∧
      opened.snapshot = (loaded.map Prod.snd).getD [] ∧
      opened.records = assembly.recoveredRecords ∧ dir.performAll opened.ops = dir := by
  obtain ⟨journal, found, hreads, hopen⟩ := h.open readOnly
  refine ⟨_, hopen, rfl, rfl, ?_⟩
  cases readOnly with
  | true => rfl
  | false =>
    rw [conclude_ops _ _ _ _ _ rfl]
    exact hsettled.unchanged hreads

/-- The repairs of a writable open settle the directory. -/
theorem Holds.settles (h : Holds options dir loaded frames fragment assembly)
    (hwritable : options.readOnly = false) (hopen : Store.open options dir = .ok opened)
    {journal : Option (ScanResult × Nat)} {found : RecoveryReport}
    (hreads : Reads options dir ((loaded.map Prod.fst).getD 0) frames fragment journal)
    (heq : opened = conclude options dir loaded journal found assembly) :
    Settled options (dir.performAll opened.ops) ((loaded.map Prod.fst).getD 0) frames ∧
      Holds options (dir.performAll opened.ops) loaded frames [] assembly := by
  have hsettled := hreads.settles
  rw [← conclude_ops dir loaded journal found assembly hwritable, ← heq] at hsettled
  have hsame := Store.open_snapshots hwritable hopen
  exact ⟨hsettled, loadSnapshot_same (h.snapshot {}) hsame, hsettled.reads, h.assembles⟩

end Open

/-- Opens one after the other, each in its own mode and on the files that the one before it
has left. -/
def openAll (options : StoreOptions) :
    List Bool → Directory → Except RecoveryReport (List Opened × Directory)
  | [], dir => .ok ([], dir)
  | readOnly :: modes, dir => do
    let opened ← Store.open { options with readOnly } dir
    let (others, last) ← openAll options modes (dir.performAll opened.ops)
    .ok (opened :: others, last)

/-- Any number of opens of a settled directory return the same and leave it as it is. -/
theorem Holds.openAll {options : StoreOptions} {dir : Directory}
    {loaded : Option (Nat × Bytes)} {frames : List RawFrame} {assembly : Assembly}
    (h : Holds options dir loaded frames [] assembly)
    (hsettled : Settled options dir ((loaded.map Prod.fst).getD 0) frames) (modes : List Bool) :
    ∃ others, Store.openAll options modes dir = .ok (others, dir) ∧
      others.length = modes.length ∧ ∀ other ∈ others,
        other.snapshot = (loaded.map Prod.snd).getD [] ∧
          other.records = assembly.recoveredRecords := by
  induction modes with
  | nil => exact ⟨[], rfl, rfl, by simp⟩
  | cons readOnly modes ih =>
    obtain ⟨others, hothers, hlength, hsame⟩ := ih
    obtain ⟨opened, hopen, hsnapshot, hrecords, hunchanged⟩ := h.reopen hsettled readOnly
    refine ⟨opened :: others, ?_, by rw [List.length_cons, hlength, List.length_cons], ?_⟩
    · unfold Store.openAll
      rw [hopen]
      show (Store.openAll options modes (dir.performAll opened.ops) >>= _) = _
      rw [hunchanged, hothers]
      rfl
    · intro other hother
      rcases List.mem_cons.mp hother with rfl | hother
      · exact ⟨hsnapshot, hrecords⟩
      · exact hsame other hother

/-- Once a writable open has succeeded, any further opens succeed, hand out the same snapshot
and the same records, and change no file. A read-only open in its place would have handed
out the same, without a change to any file. -/
theorem recovery_idempotent {options : StoreOptions} {dir : Directory} {opened : Opened}
    (hwritable : options.readOnly = false) (hopen : Store.open options dir = .ok opened) :
    (∀ modes, ∃ others,
      Store.openAll options modes (dir.performAll opened.ops) =
          .ok (others, dir.performAll opened.ops) ∧
        others.length = modes.length ∧ ∀ other ∈ others, opened.Same other) ∧
    ∃ viewed, Store.open { options with readOnly := true } dir = .ok viewed ∧
      opened.Same viewed ∧ dir.performAll viewed.ops = dir := by
  obtain ⟨loaded, frames, fragment, assembly, journal, found, hholds, hreads, heq⟩ :=
    holds_of_open hopen
  obtain ⟨hsettled, hagain⟩ := hholds.settles hwritable hopen hreads heq
  have hsnapshot : opened.snapshot = (loaded.map Prod.snd).getD [] := by rw [heq]; rfl
  have hrecords : opened.records = assembly.recoveredRecords := by rw [heq]; rfl
  constructor
  · intro modes
    obtain ⟨others, hothers, hlength, hsame⟩ := hagain.openAll hsettled modes
    refine ⟨others, hothers, hlength, fun other hother => ?_⟩
    obtain ⟨hsnapshot', hrecords'⟩ := hsame other hother
    exact ⟨by rw [hsnapshot', hsnapshot], by rw [hrecords', hrecords]⟩
  · obtain ⟨journal', found', -, hviewed⟩ := hholds.open true
    exact ⟨_, hviewed, ⟨hsnapshot.symm, hrecords.symm⟩, rfl⟩

/-- The frames of a committed transaction and the first two of one that was interrupted. -/
def interruptedFrames : List RawFrame :=
  transactionFrames 1 [{ kind := .serviceRegistered, payload := [7] }] ++
    (transactionFrames 4 [{ kind := .policySet, payload := [8, 9] }]).take 2

/-- The interrupted transaction stays in the journal, the torn tail behind it does not, and
opening again finds the committed record every time. -/
theorem recovery_idempotent_interrupted :
    let dir := Directory.setJournal {} 1 (framesBytes interruptedFrames ++ [0x4F, 0x46])
    ∃ opened, Store.open {} dir = .ok opened ∧
      opened.records = [{ kind := .serviceRegistered, payload := [7] }] ∧
      opened.ops = [.truncateJournal 1 (framesBytes interruptedFrames).length, .touchJournal 1] ∧
      ∀ modes, ∃ others,
        Store.openAll {} modes (dir.performAll opened.ops) =
            .ok (others, dir.performAll opened.ops) ∧
          others.length = modes.length ∧ ∀ other ∈ others, opened.Same other := by
  intro dir
  have hbound : (framesBytes interruptedFrames ++ [0x4F, 0x46]).length ≤
      (readBound {}).toNat := by decide +kernel
  have hframed : Framed {} (framesBytes interruptedFrames ++ [0x4F, 0x46]) interruptedFrames
      [0x4F, 0x46] := ⟨rfl, by decide, Or.inl (by decide)⟩
  have hreads : Reads {} dir (((none : Option (Nat × Bytes)).map Prod.fst).getD 0)
      interruptedFrames [0x4F, 0x46] _ := .framed rfl (Nat.zero_le 1) hframed hbound
  have hassembles : ∃ assembly, assemble interruptedFrames = .ok assembly ∧
      assembly.recoveredRecords = [{ kind := .serviceRegistered, payload := [7] }] :=
    ⟨_, rfl, rfl⟩
  obtain ⟨assembly, hassembles, hrecords⟩ := hassembles
  obtain ⟨found, hopen⟩ := open_of_reads (fun _ => rfl) hreads hassembles
  exact ⟨_, hopen, hrecords, rfl, (recovery_idempotent rfl hopen).1⟩

end Store
end OffloadFabric
