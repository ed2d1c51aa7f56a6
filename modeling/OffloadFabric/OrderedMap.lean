import Mathlib

/-!
Finite maps kept as a strictly ascending association list.
The order of the keys is a field of the structure, so two maps with the same
lookups are the same value and iteration always visits the keys in order.
-/
namespace OffloadFabric

/-- A finite map; the entries are strictly ascending in their keys. -/
structure OrderedMap (κ ν : Type) [LinearOrder κ] where
  entries : List (κ × ν)
  sorted : entries.Pairwise (fun a b => a.1 < b.1)

namespace OrderedMap

variable {κ ν μ : Type} [LinearOrder κ]

def empty : OrderedMap κ ν := ⟨[], List.Pairwise.nil⟩

instance : Inhabited (OrderedMap κ ν) := ⟨empty⟩

instance [DecidableEq ν] : DecidableEq (OrderedMap κ ν) := fun a b =>
  decidable_of_iff (a.entries = b.entries) (by cases a; cases b; simp)

/-! ### Operations on the entry list -/

def findList (k : κ) : List (κ × ν) → Option ν
  | [] => none
  | (k', v) :: rest => if k = k' then some v else findList k rest

def insertList (k : κ) (v : ν) : List (κ × ν) → List (κ × ν)
  | [] => [(k, v)]
  | (k', v') :: rest =>
    if k < k' then (k, v) :: (k', v') :: rest
    else if k = k' then (k, v) :: rest
    else (k', v') :: insertList k v rest

def eraseList (k : κ) : List (κ × ν) → List (κ × ν)
  | [] => []
  | (k', v') :: rest => if k = k' then rest else (k', v') :: eraseList k rest

theorem mem_insertList {k : κ} {v : ν} {p : κ × ν} {l : List (κ × ν)}
    (h : p ∈ insertList k v l) : p = (k, v) ∨ p ∈ l := by
  induction l with
  | nil => exact Or.inl (by simpa [insertList] using h)
  | cons q rest ih =>
    obtain ⟨k', v'⟩ := q
    simp only [insertList] at h
    split_ifs at h with hlt heq
    · rcases List.mem_cons.mp h with rfl | h
      · exact Or.inl rfl
      · exact Or.inr h
    · rcases List.mem_cons.mp h with rfl | h
      · exact Or.inl rfl
      · exact Or.inr (List.mem_cons_of_mem _ h)
    · rcases List.mem_cons.mp h with rfl | h
      · exact Or.inr List.mem_cons_self
      · rcases ih h with h | h
        · exact Or.inl h
        · exact Or.inr (List.mem_cons_of_mem _ h)

theorem mem_of_mem_eraseList {k : κ} {p : κ × ν} {l : List (κ × ν)}
    (h : p ∈ eraseList k l) : p ∈ l := by
  induction l with
  | nil => exact h
  | cons q rest ih =>
    obtain ⟨k', v'⟩ := q
    simp only [eraseList] at h
    split_ifs at h with heq
    · exact List.mem_cons_of_mem _ h
    · rcases List.mem_cons.mp h with rfl | h
      · exact List.mem_cons_self
      · exact List.mem_cons_of_mem _ (ih h)

theorem insertList_sorted (k : κ) (v : ν) {l : List (κ × ν)}
    (h : l.Pairwise (fun a b => a.1 < b.1)) :
    (insertList k v l).Pairwise (fun a b => a.1 < b.1) := by
  induction l with
  | nil => simp [insertList]
  | cons q rest ih =>
    obtain ⟨k', v'⟩ := q
    rw [List.pairwise_cons] at h
    simp only [insertList]
    split_ifs with hlt heq
    · refine List.pairwise_cons.mpr ⟨?_, List.pairwise_cons.mpr h⟩
      intro p hp
      rcases List.mem_cons.mp hp with rfl | hp
      · exact hlt
      · exact lt_trans hlt (h.1 p hp)
    · subst heq
      exact List.pairwise_cons.mpr h
    · refine List.pairwise_cons.mpr ⟨?_, ih h.2⟩
      intro p hp
      rcases mem_insertList hp with rfl | hp
      · exact lt_of_le_of_ne (not_lt.mp hlt) (Ne.symm heq)
      · exact h.1 p hp

theorem eraseList_sorted (k : κ) {l : List (κ × ν)}
    (h : l.Pairwise (fun a b => a.1 < b.1)) :
    (eraseList k l).Pairwise (fun a b => a.1 < b.1) := by
  induction l with
  | nil => exact h
  | cons q rest ih =>
    obtain ⟨k', v'⟩ := q
    rw [List.pairwise_cons] at h
    simp only [eraseList]
    split_ifs with heq
    · exact h.2
    · exact List.pairwise_cons.mpr ⟨fun p hp => h.1 p (mem_of_mem_eraseList hp), ih h.2⟩

theorem findList_eq_none {k : κ} {l : List (κ × ν)} (h : ∀ p ∈ l, k < p.1) :
    findList k l = none := by
  induction l with
  | nil => rfl
  | cons q rest ih =>
    obtain ⟨k', v'⟩ := q
    have hne : k ≠ k' := ne_of_lt (h _ List.mem_cons_self)
    simp only [findList, if_neg hne]
    exact ih fun p hp => h p (List.mem_cons_of_mem _ hp)

theorem findList_insertList (k k' : κ) (v : ν) (l : List (κ × ν)) :
    findList k' (insertList k v l) = if k' = k then some v else findList k' l := by
  induction l with
  | nil => simp [insertList, findList]
  | cons q rest ih =>
    obtain ⟨a, b⟩ := q
    simp only [insertList]
    by_cases hlt : k < a
    · simp [hlt, findList]
    · by_cases heq : k = a
      · subst heq
        by_cases hk : k' = k <;> simp [findList, hk]
      · by_cases hk : k' = a
        · subst hk
          simp [hlt, heq, findList, Ne.symm heq]
        · simp [hlt, heq, hk, findList, ih]

theorem findList_eraseList (k k' : κ) {l : List (κ × ν)}
    (h : l.Pairwise (fun a b => a.1 < b.1)) :
    findList k' (eraseList k l) = if k' = k then none else findList k' l := by
  induction l with
  | nil => simp [eraseList, findList]
  | cons q rest ih =>
    obtain ⟨a, b⟩ := q
    rw [List.pairwise_cons] at h
    simp only [eraseList]
    split_ifs with heq hk hk
    · subst heq hk
      exact findList_eq_none h.1
    · subst heq
      simp [findList, hk]
    · subst hk
      simp [findList, heq, ih h.2]
    · simp [findList, ih h.2, hk]

theorem findList_eq_some_iff {k : κ} {v : ν} {l : List (κ × ν)}
    (h : l.Pairwise (fun a b => a.1 < b.1)) : findList k l = some v ↔ (k, v) ∈ l := by
  induction l with
  | nil => simp [findList]
  | cons q rest ih =>
    obtain ⟨a, b⟩ := q
    rw [List.pairwise_cons] at h
    by_cases hk : k = a
    · subst hk
      have hnot : (k, v) ∉ rest := fun hm => lt_irrefl k (h.1 (k, v) hm)
      simp [findList, hnot, eq_comm]
    · simp [findList, hk, ih h.2]

/-- Ascending lists with the same lookups are the same list. -/
theorem findList_ext {l l' : List (κ × ν)}
    (h : l.Pairwise (fun a b => a.1 < b.1)) (h' : l'.Pairwise (fun a b => a.1 < b.1))
    (heq : ∀ k, findList k l = findList k l') : l = l' := by
  induction l generalizing l' with
  | nil =>
    cases l' with
    | nil => rfl
    | cons q rest =>
      have hq := heq q.1
      simp [findList] at hq
  | cons p rest ih =>
    cases l' with
    | nil =>
      have hp := heq p.1
      simp [findList] at hp
    | cons q rest' =>
      obtain ⟨a, x⟩ := p
      obtain ⟨b, y⟩ := q
      rw [List.pairwise_cons] at h h'
      have hab : a = b := by
        rcases lt_trichotomy a b with hlt | heq' | hgt
        · have hnone : findList a ((b, y) :: rest') = none := by
            apply findList_eq_none
            intro r hr
            rcases List.mem_cons.mp hr with rfl | hr
            · exact hlt
            · exact lt_trans hlt (h'.1 r hr)
          have := heq a
          rw [hnone] at this
          simp [findList] at this
        · exact heq'
        · have hnone : findList b ((a, x) :: rest) = none := by
            apply findList_eq_none
            intro r hr
            rcases List.mem_cons.mp hr with rfl | hr
            · exact hgt
            · exact lt_trans hgt (h.1 r hr)
          have := heq b
          rw [hnone] at this
          simp [findList] at this
      subst hab
      have hxy : x = y := by simpa [findList] using heq a
      subst hxy
      have htail : rest = rest' := by
        apply ih h.2 h'.2
        intro k
        by_cases hk : k = a
        · subst hk
          rw [findList_eq_none h.1, findList_eq_none h'.1]
        · simpa [findList, hk] using heq k
      rw [htail]

theorem length_insertList (k : κ) (v : ν) {l : List (κ × ν)}
    (h : l.Pairwise (fun a b => a.1 < b.1)) :
    (insertList k v l).length = if findList k l = none then l.length + 1 else l.length := by
  induction l with
  | nil => simp [insertList, findList]
  | cons q rest ih =>
    obtain ⟨a, b⟩ := q
    rw [List.pairwise_cons] at h
    by_cases hlt : k < a
    · have hnone : findList k ((a, b) :: rest) = none := by
        apply findList_eq_none
        intro r hr
        rcases List.mem_cons.mp hr with rfl | hr
        · exact hlt
        · exact lt_trans hlt (h.1 r hr)
      simp [insertList, hlt, hnone]
    · by_cases heq : k = a
      · subst heq
        simp [insertList, findList]
      · simp only [insertList, if_neg hlt, if_neg heq, List.length_cons, ih h.2, findList]
        split_ifs <;> rfl

theorem length_eraseList_le (k : κ) (l : List (κ × ν)) : (eraseList k l).length ≤ l.length := by
  induction l with
  | nil => simp [eraseList]
  | cons q rest ih =>
    obtain ⟨a, b⟩ := q
    simp only [eraseList]
    split_ifs
    · exact Nat.le_succ _
    · exact Nat.succ_le_succ ih

/-! ### The map operations -/

def find? (m : OrderedMap κ ν) (k : κ) : Option ν := findList k m.entries

def contains (m : OrderedMap κ ν) (k : κ) : Bool := (m.find? k).isSome

def size (m : OrderedMap κ ν) : Nat := m.entries.length

def insert (m : OrderedMap κ ν) (k : κ) (v : ν) : OrderedMap κ ν :=
  ⟨insertList k v m.entries, insertList_sorted k v m.sorted⟩

def erase (m : OrderedMap κ ν) (k : κ) : OrderedMap κ ν :=
  ⟨eraseList k m.entries, eraseList_sorted k m.sorted⟩

def keys (m : OrderedMap κ ν) : List κ := m.entries.map Prod.fst

def values (m : OrderedMap κ ν) : List ν := m.entries.map Prod.snd

/-- Insertion that refuses a key already present. -/
def emplace (m : OrderedMap κ ν) (k : κ) (v : ν) : Option (OrderedMap κ ν) :=
  if m.contains k then none else some (m.insert k v)

/-- Rewrite every value in place. -/
def mapValues (f : ν → μ) (m : OrderedMap κ ν) : OrderedMap κ μ :=
  ⟨m.entries.map fun p => (p.1, f p.2), by
    rw [List.pairwise_map]
    exact m.sorted⟩

/-- The entry with the greatest key. -/
def last? (m : OrderedMap κ ν) : Option (κ × ν) := m.entries.getLast?

/-- The entries whose key satisfies `keep`. -/
def filterKeys (keep : κ → Bool) (m : OrderedMap κ ν) : OrderedMap κ ν :=
  ⟨m.entries.filter fun entry => keep entry.1, m.sorted.filter _⟩

@[simp] theorem find?_empty (k : κ) : (empty : OrderedMap κ ν).find? k = none := rfl

theorem find?_insert (m : OrderedMap κ ν) (k k' : κ) (v : ν) :
    (m.insert k v).find? k' = if k' = k then some v else m.find? k' :=
  findList_insertList k k' v m.entries

@[simp] theorem find?_insert_self (m : OrderedMap κ ν) (k : κ) (v : ν) :
    (m.insert k v).find? k = some v := by rw [find?_insert, if_pos rfl]

@[simp] theorem find?_insert_ne (m : OrderedMap κ ν) {k k' : κ} (v : ν) (h : k' ≠ k) :
    (m.insert k v).find? k' = m.find? k' := by rw [find?_insert, if_neg h]

theorem find?_erase (m : OrderedMap κ ν) (k k' : κ) :
    (m.erase k).find? k' = if k' = k then none else m.find? k' :=
  findList_eraseList k k' m.sorted

theorem find?_eq_some_iff (m : OrderedMap κ ν) (k : κ) (v : ν) :
    m.find? k = some v ↔ (k, v) ∈ m.entries := findList_eq_some_iff m.sorted

theorem mem_keys_iff (m : OrderedMap κ ν) (k : κ) : k ∈ m.keys ↔ (m.find? k).isSome := by
  constructor
  · intro h
    obtain ⟨p, hp, rfl⟩ := List.mem_map.mp h
    have hf : m.find? p.1 = some p.2 := (m.find?_eq_some_iff p.1 p.2).mpr hp
    simp [hf]
  · intro h
    obtain ⟨v, hv⟩ := Option.isSome_iff_exists.mp h
    exact List.mem_map.mpr ⟨(k, v), (m.find?_eq_some_iff k v).mp hv, rfl⟩

theorem find?_filterKeys (keep : κ → Bool) (m : OrderedMap κ ν) (k : κ) :
    (m.filterKeys keep).find? k = if keep k then m.find? k else none := by
  have hmem (v : ν) : (m.filterKeys keep).find? k = some v ↔ m.find? k = some v ∧ keep k := by
    rw [find?_eq_some_iff, find?_eq_some_iff]
    exact List.mem_filter
  split_ifs with hk
  · cases hf : m.find? k with
    | none =>
      by_contra hne
      obtain ⟨v, hv⟩ := Option.ne_none_iff_exists'.mp hne
      have hsome := ((hmem v).mp hv).1
      rw [hf] at hsome
      cases hsome
    | some v => exact (hmem v).mpr ⟨hf, hk⟩
  · by_contra hne
    obtain ⟨v, hv⟩ := Option.ne_none_iff_exists'.mp hne
    exact hk ((hmem v).mp hv).2

theorem last?_eq_some_iff (m : OrderedMap κ ν) (k : κ) (v : ν) :
    m.last? = some (k, v) ↔
      m.find? k = some v ∧ ∀ k' v', m.find? k' = some v' → k' ≤ k := by
  constructor
  · intro h
    obtain ⟨init, hinit⟩ := List.getLast?_eq_some_iff.mp h
    have hsorted := m.sorted
    rw [hinit, List.pairwise_append] at hsorted
    refine ⟨(m.find?_eq_some_iff k v).mpr (by simp [hinit]), ?_⟩
    intro k' v' hfind
    have hmem := (m.find?_eq_some_iff k' v').mp hfind
    rw [hinit, List.mem_append, List.mem_singleton] at hmem
    rcases hmem with hmem | heq
    · exact le_of_lt (hsorted.2.2 _ hmem (k, v) (List.mem_singleton_self _))
    · exact le_of_eq (congrArg Prod.fst heq)
  · rintro ⟨hfind, hmax⟩
    have hmem := (m.find?_eq_some_iff k v).mp hfind
    obtain ⟨last, hlast⟩ : ∃ last, m.entries.getLast? = some last :=
      Option.ne_none_iff_exists'.mp (by simp [List.ne_nil_of_mem hmem])
    obtain ⟨init, hinit⟩ := List.getLast?_eq_some_iff.mp hlast
    have hsorted := m.sorted
    rw [hinit, List.pairwise_append] at hsorted
    rw [hinit, List.mem_append, List.mem_singleton] at hmem
    rcases hmem with hmem | rfl
    · have hlt := hsorted.2.2 _ hmem last (List.mem_singleton_self _)
      have hle := hmax last.1 last.2 ((m.find?_eq_some_iff _ _).mpr (by simp [hinit]))
      exact absurd hlt (not_lt.mpr hle)
    · exact hlast

/-- Writing at or above the greatest key. -/
theorem last?_insert {m : OrderedMap κ ν} {k : κ} (v : ν)
    (h : ∀ k' v', m.find? k' = some v' → k' ≤ k) : (m.insert k v).last? = some (k, v) := by
  refine (last?_eq_some_iff _ _ _).mpr ⟨find?_insert_self m k v, ?_⟩
  intro k' v' hfind
  rw [find?_insert] at hfind
  split_ifs at hfind with hk
  · exact le_of_eq hk
  · exact h k' v' hfind

theorem last?_eq_none_iff (m : OrderedMap κ ν) : m.last? = none ↔ ∀ k, m.find? k = none := by
  constructor
  · intro h k
    have hnil : m.entries = [] := List.getLast?_eq_none_iff.mp h
    simp [find?, hnil, findList]
  · intro h
    refine List.getLast?_eq_none_iff.mpr (List.eq_nil_iff_forall_not_mem.mpr ?_)
    intro entry hmem
    have hfind := (m.find?_eq_some_iff entry.1 entry.2).mpr hmem
    simp [h] at hfind

theorem find?_mapValues (f : ν → μ) (m : OrderedMap κ ν) (k : κ) :
    (m.mapValues f).find? k = (m.find? k).map f := by
  obtain ⟨l, hl⟩ := m
  simp only [find?, mapValues]
  clear hl
  induction l with
  | nil => rfl
  | cons q rest ih =>
    obtain ⟨a, b⟩ := q
    by_cases hk : k = a <;> simp [findList, hk, ih]

/-- Maps with the same lookups are equal. -/
@[ext] theorem ext {m m' : OrderedMap κ ν} (h : ∀ k, m.find? k = m'.find? k) : m = m' := by
  obtain ⟨l, hl⟩ := m
  obtain ⟨l', hl'⟩ := m'
  have heq : l = l' := findList_ext hl hl' h
  subst heq
  rfl

theorem insert_find?_self {m : OrderedMap κ ν} {k : κ} {v : ν} (h : m.find? k = some v) :
    m.insert k v = m := by
  apply ext
  intro k'
  rw [find?_insert]
  split_ifs with hk
  · rw [hk, h]
  · rfl

theorem size_insert (m : OrderedMap κ ν) (k : κ) (v : ν) :
    (m.insert k v).size = if m.find? k = none then m.size + 1 else m.size :=
  length_insertList k v m.sorted

theorem size_insert_le (m : OrderedMap κ ν) (k : κ) (v : ν) :
    (m.insert k v).size ≤ m.size + 1 := by
  rw [size_insert]
  split_ifs <;> omega

theorem size_erase_le (m : OrderedMap κ ν) (k : κ) : (m.erase k).size ≤ m.size :=
  length_eraseList_le k m.entries

@[simp] theorem size_mapValues (f : ν → μ) (m : OrderedMap κ ν) :
    (m.mapValues f).size = m.size := by simp [size, mapValues]

theorem mapValues_insert (f : ν → μ) (m : OrderedMap κ ν) (k : κ) (v : ν) :
    (m.insert k v).mapValues f = (m.mapValues f).insert k (f v) := by
  apply ext
  intro k'
  rw [find?_mapValues, find?_insert, find?_insert, find?_mapValues]
  split_ifs <;> rfl

theorem mapValues_erase (f : ν → μ) (m : OrderedMap κ ν) (k : κ) :
    (m.erase k).mapValues f = (m.mapValues f).erase k := by
  apply ext
  intro k'
  rw [find?_mapValues, find?_erase, find?_erase, find?_mapValues]
  split_ifs <;> rfl

/-- Rewriting a value to one that looks the same changes nothing that is seen. -/
theorem mapValues_insert_same {f : ν → μ} {m : OrderedMap κ ν} {k : κ} {v w : ν}
    (hfind : m.find? k = some w) (hsame : f v = f w) :
    (m.insert k v).mapValues f = m.mapValues f := by
  rw [mapValues_insert, insert_find?_self]
  rw [find?_mapValues, hfind, hsame]
  rfl

theorem mapValues_mapValues {ρ : Type} (g : μ → ρ) (f : ν → μ) (m : OrderedMap κ ν) :
    (m.mapValues f).mapValues g = m.mapValues fun v => g (f v) := by
  apply ext
  intro k
  simp only [find?_mapValues, Option.map_map]
  rfl

@[simp] theorem mapValues_empty (f : ν → μ) :
    (empty : OrderedMap κ ν).mapValues f = empty := rfl

theorem foldl_insert_entries (m : OrderedMap κ ν) :
    m.entries.foldl (fun acc entry => acc.insert entry.1 entry.2) empty = m := by
  have hfind : ∀ (entries : List (κ × ν)), entries.Pairwise (fun a b => a.1 < b.1) →
      ∀ (acc : OrderedMap κ ν) (key : κ),
        (entries.foldl (fun acc entry => acc.insert entry.1 entry.2) acc).find? key =
          (findList key entries).or (acc.find? key) := by
    intro entries
    induction entries with
    | nil => intros; simp [findList]
    | cons entry rest ih =>
      intro hsorted acc key
      rw [List.pairwise_cons] at hsorted
      rw [List.foldl_cons, ih hsorted.2, find?_insert, findList]
      split_ifs with hkey
      · subst hkey
        rw [findList_eq_none hsorted.1]
        rfl
      · rfl
  apply ext
  intro key
  rw [hfind m.entries m.sorted, find?_empty, Option.or_none]
  rfl

end OrderedMap

end OffloadFabric
