import OffloadFabric.Grounding
import OffloadFabric.StoreRecovery

/-!
What an open reads back from a journal that the store itself wrote. Every checksum of such a
journal is right, so the lengths in the frame headers alone say what its frames are. A running
coordinator that closes and opens again therefore resumes from a state that can be computed
without a checksum.
-/
namespace OffloadFabric

/-! ### Frames by their lengths -/

/-- The frame at the start of `data` according to its header, and the bytes after it. -/
def frameAt (data : Bytes) : Option (RawFrame × Bytes) :=
  (RecordKind.ofCode? (readField data 6 2)).map fun kind =>
    let size := readField data 8 4
    ({ kind, sequence := UInt64.ofNat (readField data 12 8)
       payload := (data.drop kFrameHeaderBytes).take size },
     data.drop (kFrameHeaderBytes + size + kFrameTrailerBytes))

/-- Up to `count` frames at the start of `data`. -/
def framesIn : Nat → Bytes → List RawFrame
  | 0, _ => []
  | count + 1, data =>
    if data.isEmpty then []
    else
      match frameAt data with
      | none => []
      | some (frame, rest) => frame :: framesIn count rest

theorem frameAt_bytes (frame : RawFrame) (rest : Bytes) (hsized : Sized frame) :
    frameAt (frame.bytes ++ rest) = some (frame, rest) := by
  have hstarts := frame.startsFrame rest
  have hlength := frame.length_bytes
  have hpayload : ((frame.bytes ++ rest).drop kFrameHeaderBytes).take frame.payload.length =
      frame.payload := by
    simp [RawFrame.bytes, buildRecordFrame, List.append_assoc, length_recordHeader,
      List.drop_left']
  have hrest : (frame.bytes ++ rest).drop
      (kFrameHeaderBytes + frame.payload.length + kFrameTrailerBytes) = rest := by
    rw [← hlength, List.drop_left]
  unfold frameAt
  rw [hstarts.kind, RecordKind.ofCode?_code, hstarts.payloadLength hsized, hstarts.sequence]
  simp [hpayload, hrest]

theorem framesIn_framesBytes {frames : List RawFrame} {count : Nat}
    (hsized : ∀ frame ∈ frames, Sized frame) (hcount : frames.length ≤ count) :
    framesIn count (framesBytes frames) = frames := by
  induction frames generalizing count with
  | nil => cases count <;> rfl
  | cons frame rest ih =>
    cases count with
    | zero => cases hcount
    | succ count =>
      have hrest : framesIn count (framesBytes rest) = rest :=
        ih (fun next hnext => hsized next (List.mem_cons_of_mem _ hnext)) (by simpa using hcount)
      have hsome : (framesBytes (frame :: rest)).isEmpty = false := by
        have hlength := frame.length_bytes
        have hpositive : 0 < kFrameHeaderBytes := by decide
        rw [framesBytes_cons, List.isEmpty_eq_false_iff, ← List.length_pos_iff, List.length_append]
        omega
      rw [framesIn, hsome, framesBytes_cons,
        frameAt_bytes frame _ (hsized frame List.mem_cons_self)]
      simp [hrest]

/-! ### What an open finds -/

namespace Store

/-- What an open finds in a directory that holds a clean journal and no snapshot. -/
def reading (options : StoreOptions) (dir : Directory) : Option Opened :=
  match dir.snapshots.last?, dir.journals.last? with
  | none, some (generation, data) =>
    let frames := framesIn data.length data
    if (readBound options).toNat < data.length ||
        frames.any fun frame => options.maxRecordPayloadBytes.toNat < frame.payload.length then
      none
    else
      match assemble frames with
      | .ok assembly =>
        let scan : ScanResult := { status := .clean, frames, badOffset := data.length }
        some (conclude options dir none (some (scan, data.length))
          { journalGeneration := generation } assembly)
      | .error _ => none
  | _, _ => none

/-- An open reads back what the store wrote. -/
theorem open_of_reading {options : StoreOptions} {store : Store} {dir : Directory}
    {snapshot : Bytes} {frames : List RawFrame} {found : Opened}
    (hattached : Attached store dir snapshot frames) (hread : reading options dir = some found) :
    Store.open options dir = .ok found := by
  have hjournal := hattached.journalFile
  have hlength := length_framesBytes frames
  have hframes : framesIn (framesBytes frames).length (framesBytes frames) = frames :=
    framesIn_framesBytes hattached.sized (by omega)
  unfold reading at hread
  rw [hjournal] at hread
  cases hnone : dir.snapshots.last? with
  | some entry => simp [hnone] at hread
  | none =>
    simp only [hnone, hframes] at hread
    split at hread
    · cases hread
    · rename_i hbounds
      simp only [Bool.or_eq_true, decide_eq_true_eq, List.any_eq_true, not_or, not_exists, not_and,
        Nat.not_lt] at hbounds
      obtain ⟨hsize, hpayloads⟩ := hbounds
      have hscan : scanJournal options (framesBytes frames) =
          { status := .clean, frames, badOffset := (framesBytes frames).length } := by
        have hfound := scanFrames_found options frames IsTorn.none
          (fun frame hframe => hframe.elim (hpayloads frame) fun ⟨_, hseen, _⟩ => by cases hseen)
        unfold scanJournal
        rw [if_neg (Nat.not_lt.mpr hsize)]
        simpa [tornBytes] using hfound
      split at hread
      · rename_i assembly hassembly
        cases hread
        unfold Store.open loadSnapshot loadJournal
        simp [hnone, hjournal, hscan, hassembly]
      · cases hread

end Store

/-! ### Closing and opening again -/

namespace Fabric

variable {config : FabricConfig} {moments : List Moment} {fabric fabric' : Fabric}

/-- The coordinator after it closed and opened again. -/
def reopening (fabric : Fabric) : Option Fabric :=
  if fabric.opened && fabric.config.storeDirectory then
    (Store.reading (storeOptions fabric.config) fabric.disk).map fun found =>
      (((fabric.call .closeFabric).2.entered.cleared.attach found).recover found).2
  else none

/-- The coordinator that a new process opens on the directory of this one. -/
def rebooting (fabric : Fabric) : Option Fabric :=
  if fabric.opened && fabric.config.storeDirectory then
    (Store.reading (storeOptions fabric.config) fabric.disk).map fun found =>
      (((create fabric.config fabric.disk).entered.cleared.attach found).recover found).2
  else none

/-- The store of an open coordinator is attached to frames that it wrote. -/
theorem Run.attached (hrun : Run config moments fabric) (hopened : fabric.opened = true)
    (hstore : fabric.config.storeDirectory = true) :
    ∃ store snapshot frames, Attached store fabric.disk snapshot frames := by
  obtain ⟨history, memory, -, hchronicled⟩ := hrun.chronicled
    (preserved_true config fun _ _ => True).stable fun _ _ => trivial
  have hsome := hchronicled.attached hopened (hchronicled.configured ▸ hstore)
  obtain ⟨store, hattached⟩ := Option.ne_none_iff_exists'.mp hsome
  obtain ⟨snapshot, base, changes, ⟨frames, hframes, -⟩, -⟩ :=
    hchronicled.linked hopened store hattached
  exact ⟨store, snapshot, frames, hframes⟩

/-- A closed process opens on what the frames of an open coordinator say. -/
theorem Run.opens_reading (hrun : Run config moments fabric) (hopened : fabric.opened = true)
    (hstore : fabric.config.storeDirectory = true) {found : Store.Opened}
    (hread : Store.reading (storeOptions fabric.config) fabric.disk = some found)
    (process : Fabric) (hclosed : process.opened = false)
    (hconfig : process.config = fabric.config) (hdisk : process.disk = fabric.disk) :
    (process.call .openFabric).2 = ((process.entered.cleared.attach found).recover found).2 := by
  obtain ⟨store, snapshot, frames, hattached⟩ := hrun.attached hopened hstore
  have hopen : Store.open (storeOptions process.entered.config) process.entered.disk =
      .ok found := by
    show Store.open (storeOptions process.config) process.disk = .ok found
    rw [hconfig, hdisk]
    exact Store.open_of_reading hattached hread
  exact congrArg Prod.snd (open_found (by exact hclosed) (by exact hconfig ▸ hstore) hopen)

/-- What a process reads back on these frames. -/
theorem Run.rereads_reading (hrun : Run config moments fabric) (hopened : fabric.opened = true)
    (hstore : fabric.config.storeDirectory = true) {found : Store.Opened}
    (hread : Store.reading (storeOptions fabric.config) fabric.disk = some found)
    {process : Fabric} (hconfig : process.config = fabric.config)
    (hdisk : process.disk = fabric.disk) {old : State} : process.Rereads old ↔
      ∃ base, loadBase fabric.config found.snapshot = .ok base ∧
        replay fabric.config base found.records = (old, true) := by
  obtain ⟨store, snapshot, frames, hattached⟩ := hrun.attached hopened hstore
  have hopen := Store.open_of_reading hattached hread
  unfold Rereads
  rw [hconfig, hdisk, hopen]
  constructor
  · rintro ⟨_, base, ⟨⟩, hload, hreplay⟩
    exact ⟨base, hload, hreplay⟩
  · rintro ⟨base, hload, hreplay⟩
    exact ⟨found, base, rfl, hload, hreplay⟩

theorem Run.after_reopening (hrun : Run config moments fabric)
    (h : fabric.reopening = some fabric') : fabric.after [.closeFabric, .openFabric] = fabric' := by
  unfold reopening at h
  split at h
  · rename_i hrunning
    obtain ⟨hopened, hstore⟩ := Bool.and_eq_true_iff.mp hrunning
    obtain ⟨found, hread, hfound⟩ := Option.map_eq_some_iff.mp h
    have hclosed : (fabric.call .closeFabric).2 = { fabric.entered with
        opened := false, intents := { fabric.intents with closed := true }, store := none } := by
      simp [Fabric.call, dispatch, replyCode, close, entered, hopened]
    rw [← hfound]
    show ((fabric.call .closeFabric).2.call .openFabric).2 = _
    exact hrun.opens_reading hopened hstore hread _ (by rw [hclosed]) (by rw [hclosed]; rfl)
      (by rw [hclosed]; rfl)
  · cases h

theorem Run.after_rebooting (hrun : Run config moments fabric)
    (h : fabric.rebooting = some fabric') (rest : List Op) :
    (create fabric.config fabric.disk).after (.openFabric :: rest) = fabric'.after rest := by
  unfold rebooting at h
  split at h
  · rename_i hrunning
    obtain ⟨hopened, hstore⟩ := Bool.and_eq_true_iff.mp hrunning
    obtain ⟨found, hread, hfound⟩ := Option.map_eq_some_iff.mp h
    have hopens : ((create fabric.config fabric.disk).call .openFabric).2 = fabric' :=
      (hrun.opens_reading hopened hstore hread (create fabric.config fabric.disk) rfl rfl
        rfl).trans hfound
    exact congrArg (·.after rest) hopens
  · cases h

/-- A process may die between two calls, and leaves its directory behind. -/
theorem Run.dies (hrun : Run config moments fabric) :
    Run config (moments ++ [{ before := fabric, event := .crash .waitForIntent }])
      (create fabric.config fabric.disk) := by
  refine hrun.step (.crash fabric .waitForIntent fabric.disk (Or.inl ?_))
  have hquiet : (fabric.call .waitForIntent).2.log = [] := by
    simp only [call, dispatch, replyIntent, waitForIntent]
    split <;> rfl
  rw [hquiet]
  rfl

end Fabric

namespace Fleet

open Fabric (Op)

/-- The coordinator with a store after some calls. -/
def keeping (ops : List Op) : Fabric :=
  (Fabric.create { storeDirectory := true } {}).after ops

theorem run_keeping (ops : List Op) :
    Fabric.Run { storeDirectory := true }
      ((Fabric.create { storeDirectory := true } {}).momentsOf ops) (keeping ops) :=
  Fabric.Run.of_calls _ ops

/-- What the coordinator does after it was opened again. -/
theorem keeping_reopening {ops rest : List Op} {fabric : Fabric}
    (h : (keeping ops).reopening = some fabric) :
    keeping (ops ++ [.closeFabric, .openFabric] ++ rest) = fabric.after rest := by
  rw [← (run_keeping ops).after_reopening h]
  simp only [keeping, Fabric.after_append]

end Fleet

end OffloadFabric
