import Mathlib

/-!
A log of bounded capacity whose entries stand in a ring: once it is full, the oldest entry
is overwritten and counted. What it shows is the latest part of all that was recorded.
-/

structure RingLog (α : Type*) where
  capacity : ℕ
  evicted : ℕ := 0
  next : ℕ := 0
  entries : List α := []

namespace RingLog

variable {α : Type*}

def record (ring : RingLog α) (entry : α) : RingLog α :=
  if ring.capacity = 0 then { ring with evicted := ring.evicted + 1 }
  else if ring.entries.length < ring.capacity then
    { ring with entries := ring.entries ++ [entry] }
  else
    { ring with
      entries := ring.entries.set ring.next entry
      next := (ring.next + 1) % ring.capacity
      evicted := ring.evicted + 1 }

/-- The entries, oldest first: the slot to be overwritten next holds the oldest. -/
def shown (ring : RingLog α) : List α :=
  if ring.entries.length < ring.capacity then ring.entries else ring.entries.rotate ring.next

/-- The ring holds the latest part of the history, and has counted the rest. -/
structure Holds (ring : RingLog α) (history : List α) : Prop where
  shown : ring.shown = history.drop (history.length - ring.capacity)
  evicted : ring.evicted = history.length - ring.capacity
  filled : ring.entries.length = min history.length ring.capacity
  next_le : ring.next ≤ ring.entries.length
  next_lt : ring.capacity ≠ 0 → ring.next < ring.capacity
  unwrapped : ring.entries.length < ring.capacity → ring.next = 0

theorem holds_nil (capacity : ℕ) : Holds ({ capacity } : RingLog α) [] := by
  refine ⟨?_, ?_, ?_, Nat.le_refl _, Nat.pos_of_ne_zero, fun _ => rfl⟩
  · simp [RingLog.shown]
  · simp
  · simp

/-- Overwriting the slot that a list is read from drops its first entry and adds a last one. -/
theorem rotate_set {slots : List α} {next : ℕ} (hnext : next < slots.length) (entry : α) :
    (slots.set next entry).rotate (next + 1) = (slots.rotate next).tail ++ [entry] := by
  have hlength : next + 1 ≤ (slots.set next entry).length := by
    rw [List.length_set]
    omega
  have hdrop : slots.drop next = slots[next] :: slots.drop (next + 1) := by
    rw [List.drop_eq_getElem_cons hnext]
  have htake : (slots.set next entry).take (next + 1) = slots.take next ++ [entry] := by
    rw [List.take_add_one, List.take_set_of_le (Nat.le_refl _), List.getElem?_set_self hnext]
    rfl
  rw [List.rotate_eq_drop_append_take hlength, List.rotate_eq_drop_append_take (by omega), htake,
    hdrop, List.drop_set_of_lt (Nat.lt_succ_self _), List.cons_append, List.tail_cons,
    List.append_assoc]

section Record

variable {ring : RingLog α} {history : List α}

/-- A log without slots shows nothing. -/
theorem Holds.record_zero (h : ring.Holds history) (hzero : ring.capacity = 0) (entry : α) :
    (ring.record entry).Holds (history ++ [entry]) := by
  have hentries : ring.entries = [] := by
    apply List.eq_nil_of_length_eq_zero
    rw [h.filled, hzero, Nat.min_zero]
  have hnext : ring.next = 0 := by
    have hle := h.next_le
    rw [hentries] at hle
    exact Nat.le_zero.mp hle
  rw [record, if_pos hzero]
  refine ⟨?_, ?_, ?_, h.next_le, fun hne => absurd hzero hne, fun _ => hnext⟩
  · simp [RingLog.shown, hentries, hzero]
  · have hevicted := h.evicted
    simp only [hzero, List.length_append, List.length_singleton] at hevicted ⊢
    omega
  · simp [hentries, hzero]

/-- A log with a free slot shows all that was recorded. -/
theorem Holds.record_free (h : ring.Holds history) (hfree : ring.entries.length < ring.capacity)
    (entry : α) : (ring.record entry).Holds (history ++ [entry]) := by
  have hlength : ring.entries.length = history.length := by
    have hfilled := h.filled
    omega
  have hnone : history.length - ring.capacity = 0 := by omega
  have hshown : ring.entries = history := by
    have hshown := h.shown
    rw [hnone, List.drop_zero, RingLog.shown, if_pos hfree] at hshown
    exact hshown
  rw [record, if_neg (by omega), if_pos hfree]
  refine ⟨?_, ?_, ?_, ?_, h.next_lt, fun _ => h.unwrapped hfree⟩
  · have hzero : (history ++ [entry]).length - ring.capacity = 0 := by
      rw [List.length_append, List.length_singleton]
      omega
    dsimp only [RingLog.shown]
    rw [hzero, h.unwrapped hfree, List.drop_zero, List.rotate_zero, ite_self, hshown]
  · have hevicted := h.evicted
    rw [List.length_append, List.length_singleton]
    dsimp only
    omega
  · simp only [List.length_append, List.length_singleton]
    omega
  · have hle := h.next_le
    simp only [List.length_append, List.length_singleton]
    omega

/-- A full log drops the oldest entry it shows. -/
theorem Holds.record_full (h : ring.Holds history) (hcapacity : ring.capacity ≠ 0)
    (hfull : ¬ring.entries.length < ring.capacity) (entry : α) :
    (ring.record entry).Holds (history ++ [entry]) := by
  have hlt := h.next_lt hcapacity
  have hfilled := h.filled
  have hlength : ring.entries.length = ring.capacity := by omega
  have hall : ring.capacity ≤ history.length := by omega
  have hshown := h.shown
  rw [RingLog.shown, if_neg hfull] at hshown
  rw [record, if_neg hcapacity, if_neg hfull]
  refine ⟨?_, ?_, ?_, ?_, fun _ => Nat.mod_lt _ (by omega), ?_⟩
  · have hrotate : (ring.entries.set ring.next entry).rotate ((ring.next + 1) % ring.capacity) =
        (ring.entries.set ring.next entry).rotate (ring.next + 1) := by
      rw [← hlength, ← @List.length_set _ ring.entries ring.next entry,
        List.rotate_mod]
    have hdropped : (history ++ [entry]).length - ring.capacity =
        history.length - ring.capacity + 1 := by
      rw [List.length_append, List.length_singleton]
      omega
    dsimp only [RingLog.shown]
    rw [if_neg (by rwa [List.length_set]), hrotate, rotate_set (by omega), hshown, List.tail_drop,
      hdropped, List.drop_append_of_le_length (by omega)]
  · have hevicted := h.evicted
    rw [List.length_append, List.length_singleton]
    dsimp only
    omega
  · simp only [List.length_append, List.length_singleton, List.length_set]
    omega
  · rw [List.length_set, hlength]
    exact (Nat.mod_lt _ (by omega)).le
  · intro hfree
    rw [List.length_set] at hfree
    exact absurd hfree hfull

/-- A ring that holds a history holds it with each entry that is recorded. -/
theorem Holds.record (h : ring.Holds history) (entry : α) :
    (ring.record entry).Holds (history ++ [entry]) := by
  by_cases hcapacity : ring.capacity = 0
  · exact h.record_zero hcapacity entry
  · by_cases hfree : ring.entries.length < ring.capacity
    · exact h.record_free hfree entry
    · exact h.record_full hcapacity hfree entry

end Record

theorem capacity_record (ring : RingLog α) (entry : α) :
    (ring.record entry).capacity = ring.capacity := by
  unfold RingLog.record
  split
  · rfl
  · split <;> rfl

end RingLog
