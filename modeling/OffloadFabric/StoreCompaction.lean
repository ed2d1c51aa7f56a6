import OffloadFabric.StoreLimits

/-!
Compactions that a crash cuts short. Whatever the crash leaves of the new snapshot, the new
journal and the old generations, the directory holds the contents before the compaction or
those after it, and later commits are added to these. A later open returns them within the
limits of the read side.
-/
namespace OffloadFabric

open Store (transactionFrames)

namespace Volume

/-- The contents that survive a crash inside a compaction: those after it once the new
snapshot is in place, those before it until then. -/
def crashed (volume : Volume) (store : Store) (snapshot : Bytes) (dir : Directory) : Volume :=
  if dir.snapshots.contains (store.journalGeneration + 1) then { dir, snapshot }
  else { volume with dir, store := none }

/-- The calls on a store, in any order, and crashes inside its compactions. -/
inductive Move (options : StoreOptions) (volume : Volume) : Volume → Prop
  | «open» {opened : Store.Opened} (hclosed : volume.store = none)
      (hopen : Store.open options volume.dir = .ok opened) :
      Move options volume
        { volume with dir := volume.dir.performAll opened.ops, store := some opened.store }
  | commit {store store' : Store} {records : List Record} {ops : List DiskOp}
      (hstore : volume.store = some store)
      (hcommit : store.commitTransaction records = (.ok, store', ops)) :
      Move options volume
        { volume with
          dir := volume.dir.performAll ops, store := some store'
          transactions := volume.transactions ++ [records] }
  | compact {store store' : Store} {snapshot : Bytes} {ops : List DiskOp}
      (hstore : volume.store = some store)
      (hcompact : store.compact snapshot = (.ok, store', ops)) :
      Move options volume { dir := volume.dir.performAll ops, store := some store', snapshot }
  | crash {store store' : Store} {snapshot : Bytes} {ops : List DiskOp} {dir : Directory}
      (hstore : volume.store = some store)
      (hcompact : store.compact snapshot = (.ok, store', ops))
      (hcrash : volume.dir.CrashImage ops dir) :
      Move options volume (volume.crashed store snapshot dir)
  | close {store : Store} (hstore : volume.store = some store) :
      Move options volume { volume with store := none }

/-- The volumes that such calls and crashes reach from an empty directory. -/
inductive Moves (options : StoreOptions) : Volume → Prop
  | start : Moves options {}
  | step {volume volume' : Volume} (h : Moves options volume)
      (hmove : Move options volume volume') : Moves options volume'

end Volume

/-! ### What a crash leaves -/

section Crash

variable {store : Store} {dir : Directory} {snapshot : Bytes} {frames : List RawFrame}

/-- No snapshot is newer than the journal that is written. -/
theorem Attached.next_absent (h : Attached store dir snapshot frames) :
    dir.snapshots.contains (store.journalGeneration + 1) = false := by
  obtain ⟨generation, hle, hnone | hsome⟩ := h.snapshotFile
  · rw [OrderedMap.contains, (OrderedMap.last?_eq_none_iff _).mp hnone.1]
    rfl
  · rw [OrderedMap.contains, Option.isSome_eq_false_iff, Option.isNone_iff_eq_none]
    by_contra hsome'
    obtain ⟨data, hdata⟩ := Option.ne_none_iff_exists'.mp hsome'
    have hmax := ((OrderedMap.last?_eq_some_iff _ _ _).mp hsome).2 _ data hdata
    omega

/-- The contents that survive are those the crash left. -/
theorem Attached.survives {store' : Store} {next : Bytes} {dir' : Directory}
    {ops : List DiskOp} (h : Attached store dir snapshot frames)
    (hcompact : store.compact next = (.ok, store', ops)) (hcrash : dir.CrashImage ops dir') :
    if dir'.snapshots.contains (store.journalGeneration + 1) then Layout dir' next [] none
    else Layout dir' snapshot frames none := by
  rcases h.cut_compact hcompact hcrash with rfl | ⟨hlast, hlayout⟩
  · rw [h.next_absent]
    exact h.layout
  · rw [OrderedMap.contains, ((OrderedMap.last?_eq_some_iff _ _ _).mp hlast).1]
    exact hlayout

end Crash

namespace Volume

/-! ### The invariant of a run -/

section Kept

variable {options : StoreOptions} {volume volume' : Volume} {frames : List RawFrame}

/-- Whether a rotation is due is no part of the contents. -/
theorem Kept.rotation (h : Kept options volume frames) (owed : Bool) :
    Kept options { volume with rotationOwed := owed } frames :=
  ⟨h.filled, h.layout, h.configured, h.attached⟩

theorem Kept.crash {store store' : Store} {snapshot : Bytes} {ops : List DiskOp}
    {dir : Directory} (h : Kept options volume frames) (hstore : volume.store = some store)
    (hcompact : store.compact snapshot = (.ok, store', ops))
    (hcrash : volume.dir.CrashImage ops dir) :
    ∃ frames', Kept options (volume.crashed store snapshot dir) frames' := by
  have hwritable := Store.compact_writable hcompact
  rw [h.configured store hstore] at hwritable
  have hsurvives := (h.attached store hstore hwritable).1.survives hcompact hcrash
  unfold crashed
  split_ifs at hsurvives ⊢
  · exact ⟨[], Filled.nil options, hsurvives, by simp, by simp⟩
  · exact ⟨frames, h.filled, hsurvives, by simp, by simp⟩

theorem Kept.move (h : Kept options volume frames) (hmove : Move options volume volume') :
    ∃ frames', Kept options volume' frames' := by
  cases hmove with
  | «open» hclosed hopen => exact h.step (Step.open hclosed hopen)
  | commit hstore hcommit =>
    obtain ⟨frames', hkept⟩ := (h.rotation false).step (Step.commit hstore rfl hcommit)
    exact ⟨frames', hkept.rotation volume.rotationOwed⟩
  | compact hstore hcompact => exact h.step (Step.compact hstore hcompact)
  | crash hstore hcompact hcrash => exact h.crash hstore hcompact hcrash
  | close hstore =>
    obtain ⟨frames', hkept⟩ := (h.rotation false).step (Step.close hstore rfl)
    exact ⟨frames', hkept.rotation volume.rotationOwed⟩

theorem Moves.kept (h : Moves options volume) : ∃ frames, Kept options volume frames := by
  induction h with
  | start => exact ⟨[], Kept.start options⟩
  | step h hmove ih =>
    obtain ⟨frames, hkept⟩ := ih
    exact hkept.move hmove

end Kept

/-- Whatever compactions a crash cut short, a later open returns the surviving snapshot and
the transactions since exactly when their sizes agree with the limits of the read side. -/
theorem survivors_returned_iff {options : StoreOptions} {volume : Volume}
    (h : Moves options volume) :
    Returned options volume ↔ Agree options volume.snapshot volume.transactions := by
  obtain ⟨frames, hkept⟩ := h.kept
  exact hkept.returned_iff

/-- A transaction of one record more than an open replays. -/
def overlong : List Record := List.replicate (kMaxReplayRecords + 1) { kind := .epochAdvanced }

theorem accepts_replicate {count : Nat} (hsome : 0 < count) (hroom : count + 2 < 2 ^ 64) :
    ∃ store' ops, Store.commitTransaction { journalGeneration := 1 }
      (List.replicate count { kind := .epochAdvanced }) = (.ok, store', ops) := by
  have hrecords : (List.replicate count { kind := .epochAdvanced : Record }).findSome?
      (Store.refuseRecord {}) = none := by
    rw [List.findSome?_eq_none_iff]
    intro record hrecord
    rw [List.eq_of_mem_replicate hrecord]
    rfl
  have haccepted : Store.refuseTransaction { journalGeneration := 1 }
      (List.replicate count { kind := .epochAdvanced }) = none := by
    have hone : (1 : UInt64).toNat = 1 := rfl
    unfold Store.refuseTransaction
    rw [if_neg (by decide), if_neg (by simp; omega), hrecords]
    simp only [List.length_replicate, hone]
    rw [if_neg (by omega)]
  unfold Store.commitTransaction
  rw [haccepted]
  exact ⟨_, _, rfl⟩

theorem accepts_probe : ∃ store' ops,
    Store.commitTransaction { journalGeneration := 1 } probe = (.ok, store', ops) := by
  have hnext : (1 : UInt64) = 1 + UInt64.ofNat 0 := rfl
  exact Store.accepts_probe rfl hnext (Nat.zero_le _)

/-- A crash can stop a compaction before its snapshot is in place, or right after. -/
theorem interrupted {store store' : Store} {dir : Directory} {snapshot : Bytes}
    {ops : List DiskOp} (hcompact : store.compact snapshot = (.ok, store', ops)) :
    dir.CrashImage ops dir ∧ dir.CrashImage ops
      (dir.perform (.replaceSnapshot (store.journalGeneration + 1)
        (buildSnapshotFrame snapshot))) := by
  obtain ⟨-, -, -, cleanup, rfl, -⟩ := Store.compact_ok hcompact
  constructor
  · refine Or.inr ⟨[], .replaceSnapshot _ _, .resetJournal _ :: cleanup, rfl, ?_⟩
    rfl
  · refine Or.inr ⟨[.replaceSnapshot _ _], .resetJournal _, cleanup, rfl, ?_⟩
    rfl

/-- A volume with one transaction that the store accepted. -/
theorem Moves.committed {records : List Record}
    (haccepts : ∃ store' ops, Store.commitTransaction { journalGeneration := 1 } records =
      (.ok, store', ops)) :
    ∃ volume store, Moves {} volume ∧ volume.dir.snapshots = .empty ∧
      volume.transactions = [records] ∧ volume.store = some store ∧
      ∀ snapshot : Bytes, snapshot.length ≤ kMaxSnapshotBytes →
        ∃ store' ops, store.compact snapshot = (.ok, store', ops) := by
  obtain ⟨opened, hopen, hstore, hsnapshots⟩ : ∃ opened, Store.open {} {} = .ok opened ∧
      opened.store = { journalGeneration := 1 } ∧
      (({} : Directory).performAll opened.ops).snapshots = .empty := ⟨_, rfl, rfl, rfl⟩
  obtain ⟨store, ops, hcommit⟩ := haccepts
  rw [← hstore] at hcommit
  obtain ⟨-, hoptions, hgeneration, -, rfl⟩ := Store.commitTransaction_ok hcommit
  rw [hstore] at hoptions hgeneration
  refine ⟨_, store, (Moves.start.step (Move.open rfl hopen)).step (Move.commit rfl hcommit),
    hsnapshots, rfl, rfl, ?_⟩
  intro snapshot hsmall
  unfold Store.compact
  rw [hgeneration, hoptions, if_neg (by decide), if_neg (by omega), if_neg (by decide)]
  exact ⟨_, _, rfl⟩

/-- An empty journal takes another transaction after it is opened. -/
theorem Moves.reopened {volume : Volume} (h : Moves {} volume) (hclosed : volume.store = none)
    (hempty : volume.transactions = [])
    (hsnapshot : kSnapshotHeaderBytes + volume.snapshot.length ≤ kMaxSnapshotBytes) :
    ∃ after, Moves {} after ∧ after.snapshot = volume.snapshot ∧ after.transactions = [probe] := by
  obtain ⟨frames, hkept⟩ := h.kept
  have hagree : Agree {} volume.snapshot volume.transactions := by
    rw [hempty]
    exact ⟨hsnapshot, Nat.zero_le _, fun hne => absurd rfl hne, Nat.zero_le _⟩
  obtain ⟨opened, hopen, -⟩ := hkept.returned_iff.mpr hagree
  have hopened := h.step (Move.open hclosed hopen)
  obtain ⟨frames', hkept'⟩ := hopened.kept
  have hframes : frames' = [] := by
    have hsize := hkept'.filled.size
    rw [hempty] at hsize
    exact framesBytes_eq_nil (List.eq_nil_of_length_eq_zero hsize)
  have hnext := (hkept'.attached _ rfl rfl).2
  rw [hframes] at hnext
  obtain ⟨store, ops, hcommit⟩ :=
    Store.accepts_probe (hkept'.configured _ rfl) hnext (Nat.zero_le _)
  refine ⟨_, hopened.step (Move.commit rfl hcommit), rfl, ?_⟩
  rw [hempty]
  rfl

/-- The snapshot of a compaction that a crash stopped before its journal was created is
returned with the transaction after it. -/
theorem survivors_returned_replaced : ∃ before store dir after,
    Moves {} before ∧ before.transactions = [probe] ∧
      Move {} before (before.crashed store [7, 7] dir) ∧ dir.journals = before.dir.journals ∧
      Moves {} after ∧ after.snapshot = [7, 7] ∧ after.transactions = [probe] ∧
      Returned {} after := by
  obtain ⟨before, store, hrun, -, hbefore, hstore, haccepts⟩ := Moves.committed accepts_probe
  obtain ⟨store', ops, hcompact⟩ := haccepts [7, 7] (by decide)
  generalize hdir : before.dir.perform (.replaceSnapshot (store.journalGeneration + 1)
    (buildSnapshotFrame [7, 7])) = dir
  have hcrash : Move {} before (before.crashed store [7, 7] dir) := by
    rw [← hdir]
    exact Move.crash hstore hcompact (interrupted hcompact).2
  have hsurvivor : before.crashed store [7, 7] dir = { dir, snapshot := [7, 7] } := by
    rw [crashed, if_pos]
    rw [← hdir, OrderedMap.contains]
    exact Option.isSome_iff_exists.mpr ⟨_, OrderedMap.find?_insert_self _ _ _⟩
  have hcrashed := hrun.step hcrash
  rw [hsurvivor] at hcrashed
  have hsmall : kSnapshotHeaderBytes + [7, 7].length ≤ kMaxSnapshotBytes := by decide
  obtain ⟨after, hafter, hsnapshot, htransactions⟩ := hcrashed.reopened rfl rfl hsmall
  refine ⟨before, store, dir, after, hrun, hbefore, hcrash, by rw [← hdir]; rfl, hafter,
    hsnapshot, htransactions, ?_⟩
  have hagree : Agree {} [7, 7] [probe] :=
    ⟨by decide, by decide, fun _ => by decide, by decide⟩
  refine (survivors_returned_iff hafter).mpr ?_
  rw [hsnapshot, htransactions]
  exact hagree

/-- A compaction that a crash stops before its snapshot is in place leaves a journal that
was accepted and that no open reads. -/
theorem not_survivors_returned : ∃ volume store store' ops,
    Moves {} volume ∧ volume.transactions = [overlong] ∧ volume.store = some store ∧
      store.compact [7] = (.ok, store', ops) ∧ volume.dir.CrashImage ops volume.dir ∧
      ¬ Returned {} (volume.crashed store [7] volume.dir) := by
  have hroom : kMaxReplayRecords + 1 + 2 < 2 ^ 64 := by decide
  obtain ⟨volume, store, hrun, -, hvolume, hstore, haccepts⟩ :=
    Moves.committed (accepts_replicate (Nat.succ_pos kMaxReplayRecords) hroom)
  obtain ⟨store', ops, hcompact⟩ := haccepts [7] (by decide)
  have hcrash : volume.dir.CrashImage ops volume.dir := (interrupted hcompact).1
  refine ⟨volume, store, store', ops, hrun, hvolume, hstore, hcompact, hcrash, ?_⟩
  obtain ⟨frames, hkept⟩ := hrun.kept
  obtain ⟨frames', hsurvivor⟩ := hkept.crash hstore hcompact hcrash
  rw [hsurvivor.returned_iff, crashed, (hkept.attached store hstore rfl).1.next_absent,
    if_neg Bool.false_ne_true]
  intro hagree
  have hcount := hagree.records
  simp only [hvolume, List.flatten_singleton, List.length_replicate] at hcount
  omega

end Volume

end OffloadFabric
