import OffloadFabric.OrderedMap
import Mathlib.Data.List.Dedup
import Mathlib.Data.List.Perm.Subperm

/-!
Finite maps within a ceiling. A map whose keys lie among those of another is no larger, and
evicting the oldest keys makes room below any positive ceiling, as long as the order of
insertion lists every key.
-/
namespace OffloadFabric

namespace OrderedMap

variable {κ ν μ : Type} [LinearOrder κ]

@[simp] theorem size_empty : (empty : OrderedMap κ ν).size = 0 := rfl

theorem nodup_keys (m : OrderedMap κ ν) : m.keys.Nodup := by
  have hsorted : m.keys.Pairwise (fun a b => a < b) := List.pairwise_map.mpr m.sorted
  exact hsorted.imp fun hlt => ne_of_lt hlt

theorem length_keys (m : OrderedMap κ ν) : m.keys.length = m.size := List.length_map _

theorem isSome_find?_insert {m : OrderedMap κ ν} {k k' : κ} {v : ν} :
    ((m.insert k v).find? k').isSome ↔ k' = k ∨ (m.find? k').isSome := by
  rw [find?_insert]
  by_cases hsame : k' = k
  · simp [hsame]
  · simp [hsame]

theorem erase_of_find?_none {m : OrderedMap κ ν} {k : κ} (h : m.find? k = none) :
    m.erase k = m := by
  ext k' v
  rw [find?_erase]
  split
  · rename_i hsame
    rw [hsame, h]
  · rfl

/-- A map with all its keys in a list has no more entries than the list has members. -/
theorem size_le_of_covered {m : OrderedMap κ ν} {keys : List κ}
    (h : ∀ k, (m.find? k).isSome → k ∈ keys) : m.size ≤ keys.dedup.length := by
  have hsubset : m.keys ⊆ keys.dedup := fun k hk =>
    List.mem_dedup.mpr (h k ((m.mem_keys_iff k).mp hk))
  rw [← m.length_keys]
  exact (List.subperm_of_subset m.nodup_keys hsubset).length_le

theorem size_le_of_find? {m : OrderedMap κ ν} {m' : OrderedMap κ μ}
    (h : ∀ k, (m.find? k).isSome → (m'.find? k).isSome) : m.size ≤ m'.size := by
  have hcovered := size_le_of_covered fun k hk => (m'.mem_keys_iff k).mpr (h k hk)
  rwa [List.dedup_eq_self.mpr m'.nodup_keys, m'.length_keys] at hcovered

/-- The order lists every key, the oldest first; it may list others. -/
def CoveredBy (m : OrderedMap κ ν) (order : List κ) : Prop :=
  ∀ k, (m.find? k).isSome → k ∈ order

theorem coveredBy_keys (m : OrderedMap κ ν) : m.CoveredBy m.keys :=
  fun k hfind => (m.mem_keys_iff k).mpr hfind

theorem CoveredBy.insert {m : OrderedMap κ ν} {order : List κ} (h : m.CoveredBy order) (k : κ)
    (v : ν) : (m.insert k v).CoveredBy (order ++ [k]) := by
  intro k' hfind
  by_cases hsame : k' = k
  · simp [hsame]
  · rw [find?_insert_ne _ _ hsame] at hfind
    exact List.mem_append_left _ (h k' hfind)

theorem CoveredBy.insert_mem {m : OrderedMap κ ν} {order : List κ} (h : m.CoveredBy order) {k : κ}
    (hmem : k ∈ order) (v : ν) : (m.insert k v).CoveredBy order := by
  intro k' hfind
  by_cases hsame : k' = k
  · exact hsame ▸ hmem
  · rw [find?_insert_ne _ _ hsame] at hfind
    exact h k' hfind

theorem CoveredBy.erase {m : OrderedMap κ ν} {order : List κ} {oldest : κ}
    (h : m.CoveredBy (oldest :: order)) : (m.erase oldest).CoveredBy order := by
  intro k hfind
  rw [find?_erase] at hfind
  split at hfind
  · cases hfind
  · rename_i hne
    exact (List.mem_cons.mp (h k hfind)).resolve_left hne

/-- Erase the oldest keys until there is room for one more. -/
def evictOldest (ceiling : Nat) : List κ → OrderedMap κ ν → OrderedMap κ ν × List κ
  | [], m => (m, [])
  | oldest :: order, m =>
    if ceiling ≤ m.size then evictOldest ceiling order (m.erase oldest) else (m, oldest :: order)

variable {ceiling : Nat} {order : List κ} {m : OrderedMap κ ν}

theorem size_evictOldest_lt (hceiling : 0 < ceiling) (h : m.CoveredBy order) :
    (evictOldest ceiling order m).1.size < ceiling := by
  induction order generalizing m with
  | nil =>
    have hempty : m.size ≤ 0 := size_le_of_covered h
    exact Nat.lt_of_le_of_lt hempty hceiling
  | cons oldest order ih =>
    unfold evictOldest
    split
    · exact ih h.erase
    · rename_i hroom
      exact Nat.lt_of_not_le hroom

theorem coveredBy_evictOldest (h : m.CoveredBy order) :
    (evictOldest ceiling order m).1.CoveredBy (evictOldest ceiling order m).2 := by
  induction order generalizing m with
  | nil => exact h
  | cons oldest order ih =>
    unfold evictOldest
    split
    · exact ih h.erase
    · exact h

theorem find?_evictOldest {k : κ} {v : ν} (h : (evictOldest ceiling order m).1.find? k = some v) :
    m.find? k = some v := by
  induction order generalizing m with
  | nil => exact h
  | cons oldest order ih =>
    unfold evictOldest at h
    split at h
    · have herased := ih h
      rw [find?_erase] at herased
      split at herased
      · cases herased
      · exact herased
    · exact h

/-- How many keys an eviction does not come to before it comes to this one, itself included. -/
def asYoungAs (m : OrderedMap κ ν) (order : List κ) (k : κ) : Nat :=
  (m.keys.filter fun key => key ∉ order.takeWhile (· ≠ k)).length

theorem asYoungAs_erase_le {oldest k : κ} (hne : oldest ≠ k) :
    (m.erase oldest).asYoungAs order k ≤ m.asYoungAs (oldest :: order) k := by
  have hsubset : ((m.erase oldest).keys.filter fun key => key ∉ order.takeWhile (· ≠ k)) ⊆
      m.keys.filter fun key => key ∉ (oldest :: order).takeWhile (· ≠ k) := by
    intro key hkey
    simp only [List.mem_filter, mem_keys_iff, find?_erase, decide_eq_true_eq] at hkey ⊢
    rw [List.takeWhile_cons_of_pos (by simpa using hne), List.mem_cons]
    obtain ⟨hsome, hnot⟩ := hkey
    by_cases heq : key = oldest
    · simp [heq] at hsome
    · rw [if_neg heq] at hsome
      exact ⟨hsome, not_or.mpr ⟨heq, hnot⟩⟩
  exact (List.subperm_of_subset ((nodup_keys _).filter _) hsubset).length_le

/-- A key stays as long as there is room for all keys that are as young as it is. -/
theorem find?_evictOldest_of_young {k : κ} (hyoung : m.asYoungAs order k < ceiling) :
    (evictOldest ceiling order m).1.find? k = m.find? k := by
  induction order generalizing m with
  | nil => rfl
  | cons oldest order ih =>
    unfold evictOldest
    split
    · rename_i hfull
      by_cases heq : oldest = k
      · have hall : m.asYoungAs (oldest :: order) k = m.size := by
          unfold asYoungAs
          rw [List.takeWhile_cons_of_neg (by simpa using heq)]
          simp [length_keys]
        omega
      · rw [ih (Nat.lt_of_le_of_lt (asYoungAs_erase_le heq) hyoung), find?_erase,
          if_neg (Ne.symm heq)]
    · rfl

/-- After an eviction there is room for one more entry. -/
theorem size_insert_evictOldest_le (hceiling : 0 < ceiling) (h : m.CoveredBy order) (k : κ)
    (v : ν) : ((evictOldest ceiling order m).1.insert k v).size ≤ ceiling :=
  Nat.le_trans (size_insert_le _ _ _) (size_evictOldest_lt hceiling h)

/-! ### Orders without gaps -/

/-- The order lists every key once, and nothing else. -/
structure ListedBy (m : OrderedMap κ ν) (order : List κ) : Prop where
  nodup : order.Nodup
  mem_iff : ∀ k, k ∈ order ↔ (m.find? k).isSome

theorem listedBy_empty : (empty : OrderedMap κ ν).ListedBy [] := ⟨List.nodup_nil, by simp⟩

theorem ListedBy.coveredBy (h : m.ListedBy order) : m.CoveredBy order :=
  fun k hfind => (h.mem_iff k).mpr hfind

theorem ListedBy.size_le (h : m.ListedBy order) : m.size ≤ order.length := by
  have hsize := size_le_of_covered h.coveredBy
  rwa [List.dedup_eq_self.mpr h.nodup] at hsize

theorem ListedBy.insert (h : m.ListedBy order) {k : κ} (hnew : k ∉ order) (v : ν) :
    (m.insert k v).ListedBy (order ++ [k]) where
  nodup := by
    rw [List.nodup_append]
    refine ⟨h.nodup, List.nodup_singleton k, ?_⟩
    intro k' hk' other hother heq
    rw [List.mem_singleton.mp hother] at heq
    exact hnew (heq ▸ hk')
  mem_iff k' := by
    rw [isSome_find?_insert, ← h.mem_iff, List.mem_append, List.mem_singleton, or_comm]

theorem ListedBy.insert_mem (h : m.ListedBy order) {k : κ} (hmem : k ∈ order) (v : ν) :
    (m.insert k v).ListedBy order where
  nodup := h.nodup
  mem_iff k' := by
    rw [isSome_find?_insert, ← h.mem_iff]
    by_cases hsame : k' = k
    · simp [hsame, hmem]
    · simp [hsame]

theorem ListedBy.erase {oldest : κ} (h : m.ListedBy (oldest :: order)) :
    (m.erase oldest).ListedBy order where
  nodup := (List.nodup_cons.mp h.nodup).2
  mem_iff k := by
    have hmem := h.mem_iff k
    rw [List.mem_cons] at hmem
    rw [find?_erase]
    by_cases hsame : k = oldest
    · simpa [hsame] using (List.nodup_cons.mp h.nodup).1
    · rw [if_neg hsame, ← hmem]
      simp [hsame]

theorem ListedBy.evictOldest (h : m.ListedBy order) :
    (evictOldest ceiling order m).1.ListedBy (evictOldest ceiling order m).2 := by
  induction order generalizing m with
  | nil => exact h
  | cons oldest order ih =>
    unfold OrderedMap.evictOldest
    split
    · exact ih h.erase
    · exact h

theorem evictOldest_suffix (ceiling : Nat) (order : List κ) (m : OrderedMap κ ν) :
    (evictOldest ceiling order m).2 <:+ order := by
  induction order generalizing m with
  | nil => exact List.suffix_refl []
  | cons oldest order ih =>
    unfold evictOldest
    split
    · exact (ih _).trans (List.suffix_cons oldest order)
    · exact List.suffix_refl _

/-- The youngest keys stay, as long as there are fewer of them than the ceiling allows. -/
theorem ListedBy.suffix_evictOldest (h : m.ListedBy order) {youngest : List κ}
    (hyoungest : youngest <:+ order) (hroom : youngest.length < ceiling) :
    youngest <:+ (OrderedMap.evictOldest ceiling order m).2 := by
  induction order generalizing m with
  | nil => exact hyoungest
  | cons oldest order ih =>
    unfold OrderedMap.evictOldest
    split
    · rename_i hfull
      rcases List.suffix_cons_iff.mp hyoungest with heq | hyoungest
      · have hsize := h.size_le
        rw [← heq] at hsize
        omega
      · exact ih h.erase hyoungest
    · exact hyoungest

theorem ListedBy.length_eq (h : m.ListedBy order) : order.length = m.size := by
  refine Nat.le_antisymm ?_ h.size_le
  rw [← m.length_keys]
  refine (List.subperm_of_subset h.nodup fun k hk => ?_).length_le
  exact (m.mem_keys_iff k).mpr ((h.mem_iff k).mp hk)

/-- Only the oldest entry goes, when there is no more than the ceiling allows. -/
theorem ListedBy.evictOldest_eq (h : m.ListedBy order) (hsize : m.size ≤ max 1 ceiling) :
    OrderedMap.evictOldest ceiling order m =
      if ceiling ≤ m.size then (order.head?.elim m m.erase, order.tail) else (m, order) := by
  cases order with
  | nil =>
    rw [OrderedMap.evictOldest]
    split <;> rfl
  | cons oldest rest =>
    rw [OrderedMap.evictOldest]
    split
    · have hlength := h.length_eq
      have hrest := h.erase.length_eq
      rw [List.length_cons] at hlength
      cases rest with
      | nil => rfl
      | cons next rest =>
        rw [List.length_cons] at hlength hrest
        rw [OrderedMap.evictOldest, if_neg (by omega)]
        rfl
    · rfl

end OrderedMap

end OffloadFabric
