import Mathlib.Data.List.Nodup

/-!
Breadth-first traversal of a directed graph, by layers. The edges of a layer are those out of
its vertices; the next layer holds the vertices they lead to that no earlier edge led to. The
edges examined in the first layers are the edges out of the vertices at a smaller distance.
-/
namespace OffloadFabric

/-- The edges out of every vertex, in their order, and where each of them leads. -/
structure Digraph (V E : Type) where
  out : V → List E
  head : E → V

namespace Digraph

variable {V E : Type} (graph : Digraph V E)

/-- A path from `root` with its number of edges. -/
inductive Path (root : V) : Nat → V → Prop where
  | root : Path root 0 root
  | edge {n : Nat} {v : V} {e : E} :
      Path root n v → e ∈ graph.out v → Path root (n + 1) (graph.head e)

/-- Some path from `root` leads into a directed cycle. -/
def Cyclic (root : V) : Prop :=
  ∃ v n m, graph.Path root n v ∧ graph.Path v (m + 1) v

/-- The edges out of some vertices, each with the vertex it leaves. -/
def leaving (vertices : List V) : List (V × E) :=
  vertices.flatMap fun v => (graph.out v).map fun e => (v, e)

/-- Where some edges lead. -/
def heads (edges : List (V × E)) : List V :=
  edges.map fun edge => graph.head edge.2

variable {graph}

theorem Path.rank_lt {root : V} {rank : V → Nat} {n : Nat} {v : V}
    (hrank : ∀ u, ∀ e ∈ graph.out u, rank (graph.head e) < rank u) (h : graph.Path root n v) :
    rank v + n ≤ rank root := by
  induction h with
  | root => omega
  | edge _ he ih =>
    have hlt := hrank _ _ he
    omega

/-- Edges that lead to ever smaller vertices make no cycle. -/
theorem not_cyclic_of_rank {root : V} (rank : V → Nat)
    (hrank : ∀ u, ∀ e ∈ graph.out u, rank (graph.head e) < rank u) : ¬graph.Cyclic root := by
  rintro ⟨v, n, m, -, hcycle⟩
  have hle := hcycle.rank_lt hrank
  omega

@[simp] theorem heads_append (edges more : List (V × E)) :
    graph.heads (edges ++ more) = graph.heads edges ++ graph.heads more := List.map_append

theorem mem_heads {edges : List (V × E)} {v : V} :
    v ∈ graph.heads edges ↔ ∃ edge ∈ edges, graph.head edge.2 = v := List.mem_map

theorem mem_leaving {vertices : List V} {edge : V × E} :
    edge ∈ graph.leaving vertices ↔ edge.1 ∈ vertices ∧ edge.2 ∈ graph.out edge.1 := by
  unfold leaving
  rw [List.mem_flatMap]
  constructor
  · rintro ⟨v, hv, hedge⟩
    obtain ⟨e, he, rfl⟩ := List.mem_map.mp hedge
    exact ⟨hv, he⟩
  · rintro ⟨hv, he⟩
    exact ⟨edge.1, hv, List.mem_map.mpr ⟨edge.2, he, rfl⟩⟩

section Traversal

variable [DecidableEq V]

/-- The vertices that were not seen, each once, in the order in which they are met. -/
def unseen (seen : List V) : List V → List V
  | [] => []
  | v :: rest => if v ∈ seen then unseen seen rest else v :: unseen (v :: seen) rest

theorem mem_unseen {seen vertices : List V} {v : V} :
    v ∈ unseen seen vertices ↔ v ∈ vertices ∧ v ∉ seen := by
  induction vertices generalizing seen with
  | nil => simp [unseen]
  | cons first rest ih =>
    unfold unseen
    by_cases hfirst : first ∈ seen
    · rw [if_pos hfirst, ih, List.mem_cons]
      constructor
      · rintro ⟨hv, hseen⟩
        exact ⟨Or.inr hv, hseen⟩
      · rintro ⟨rfl | hv, hseen⟩
        · exact absurd hfirst hseen
        · exact ⟨hv, hseen⟩
    · rw [if_neg hfirst, List.mem_cons, ih, List.mem_cons, List.mem_cons]
      by_cases heq : v = first
      · simp [heq, hfirst]
      · simp [heq]

theorem nodup_unseen (seen vertices : List V) : (unseen seen vertices).Nodup := by
  induction vertices generalizing seen with
  | nil => exact List.nodup_nil
  | cons first rest ih =>
    unfold unseen
    by_cases hfirst : first ∈ seen
    · rw [if_pos hfirst]
      exact ih seen
    · rw [if_neg hfirst, List.nodup_cons]
      refine ⟨fun hmem => ?_, ih _⟩
      exact (mem_unseen.mp hmem).2 List.mem_cons_self

theorem unseen_congr {seen seen' vertices : List V} (h : ∀ v, v ∈ seen ↔ v ∈ seen') :
    unseen seen vertices = unseen seen' vertices := by
  induction vertices generalizing seen seen' with
  | nil => rfl
  | cons first rest ih =>
    unfold unseen
    have hcons (v : V) : v ∈ first :: seen ↔ v ∈ first :: seen' := by
      rw [List.mem_cons, List.mem_cons, h]
    by_cases hfirst : first ∈ seen
    · rw [if_pos hfirst, if_pos ((h first).mp hfirst), ih h]
    · rw [if_neg hfirst, if_neg (mt (h first).mpr hfirst), ih hcons]

theorem unseen_append (seen vertices more : List V) :
    unseen seen (vertices ++ more) = unseen seen vertices ++ unseen (seen ++ vertices) more := by
  induction vertices generalizing seen with
  | nil => rw [List.nil_append, List.append_nil, unseen, List.nil_append]
  | cons first rest ih =>
    rw [List.cons_append, unseen, unseen]
    by_cases hfirst : first ∈ seen
    · rw [if_pos hfirst, if_pos hfirst, ih]
      refine congrArg (unseen seen rest ++ ·) (unseen_congr fun v => ?_)
      rw [List.mem_append, List.mem_append, List.mem_cons]
      constructor
      · rintro (hv | hv)
        · exact Or.inl hv
        · exact Or.inr (Or.inr hv)
      · rintro (hv | rfl | hv)
        · exact Or.inl hv
        · exact Or.inl hfirst
        · exact Or.inr hv
    · rw [if_neg hfirst, if_neg hfirst, ih, List.cons_append]
      refine congrArg (fun found => first :: (unseen (first :: seen) rest ++ found))
        (unseen_congr fun v => ?_)
      simp only [List.mem_append, List.mem_cons]
      tauto

/-- A layer of the traversal, with the edges examined before it. -/
structure Layer (V E : Type) where
  examined : List (V × E)
  frontier : List V

variable (graph)

/-- The layer at a distance from `root`. -/
def layer (root : V) : Nat → Layer V E
  | 0 => { examined := [], frontier := [root] }
  | n + 1 =>
    let last := layer root n
    let edges := graph.leaving last.frontier
    { examined := last.examined ++ edges
      frontier := unseen (root :: graph.heads last.examined) (graph.heads edges) }

/-- The edges examined when the first layers are worked off, in their order. -/
def examined (root : V) (depth : Nat) : List (V × E) := (graph.layer root depth).examined

/-- The vertices in the first layers. -/
def discovered (root : V) : Nat → List V
  | 0 => []
  | n + 1 => discovered root n ++ (graph.layer root n).frontier

/-- The edge leads to a vertex that an edge before it led to, or back to the root. -/
def Reenters (root : V) (edges : List (V × E)) (edge : V × E) : Prop :=
  ∃ earlier later, edges = earlier ++ edge :: later ∧
    graph.head edge.2 ∈ root :: graph.heads earlier

variable {graph} {root v : V} {n depth : Nat} {edge : V × E}

theorem path_of_mem_frontier (h : v ∈ (graph.layer root n).frontier) : graph.Path root n v := by
  induction n generalizing v with
  | zero =>
    obtain rfl := List.mem_singleton.mp h
    exact .root
  | succ n ih =>
    obtain ⟨hhead, -⟩ := mem_unseen.mp h
    obtain ⟨edge, hedge, rfl⟩ := mem_heads.mp hhead
    obtain ⟨hvertex, hout⟩ := mem_leaving.mp hedge
    exact .edge (ih hvertex) hout

theorem mem_discovered :
    v ∈ graph.discovered root n ↔ ∃ m < n, v ∈ (graph.layer root m).frontier := by
  induction n with
  | zero => simp [discovered]
  | succ n ih =>
    unfold discovered
    rw [List.mem_append, ih]
    constructor
    · rintro (⟨m, hm, hv⟩ | hv)
      · exact ⟨m, by omega, hv⟩
      · exact ⟨n, by omega, hv⟩
    · rintro ⟨m, hm, hv⟩
      by_cases heq : m = n
      · exact Or.inr (heq ▸ hv)
      · exact Or.inl ⟨m, by omega, hv⟩

/-- What the examined edges led to are the vertices up to the next layer. -/
theorem mem_discovered_succ :
    v ∈ graph.discovered root (n + 1) ↔ v ∈ root :: graph.heads (graph.examined root n) := by
  induction n with
  | zero => simp [discovered, layer, examined, heads]
  | succ n ih =>
    have hnext : graph.examined root (n + 1) =
        graph.examined root n ++ graph.leaving (graph.layer root n).frontier := rfl
    have hfrontier : v ∈ (graph.layer root (n + 1)).frontier ↔
        v ∈ graph.heads (graph.leaving (graph.layer root n).frontier) ∧
          v ∉ root :: graph.heads (graph.examined root n) := mem_unseen
    rw [discovered, List.mem_append, ih, hfrontier, hnext, heads_append]
    simp only [List.mem_cons, List.mem_append]
    tauto

theorem nodup_discovered : (graph.discovered root n).Nodup := by
  induction n with
  | zero => exact List.nodup_nil
  | succ n ih =>
    unfold discovered
    rw [List.nodup_append']
    cases n with
    | zero => simp [discovered, layer]
    | succ n =>
      refine ⟨ih, nodup_unseen _ _, ?_⟩
      intro v hearlier hfrontier
      exact (mem_unseen.mp hfrontier).2 (mem_discovered_succ.mp hearlier)

/-- Every vertex on a path lies in a layer at most as far away. -/
theorem Path.discovered (h : graph.Path root n v) : v ∈ graph.discovered root (n + 1) := by
  induction h with
  | root => simp [Digraph.discovered, layer]
  | @edge n v e hpath he ih =>
    obtain ⟨m, hm, hv⟩ := mem_discovered.mp ih
    have hhead : graph.head e ∈ root :: graph.heads (graph.examined root (m + 1)) := by
      refine List.mem_cons_of_mem _ (mem_heads.mpr ⟨(v, e), ?_, rfl⟩)
      exact List.mem_append_right _ (mem_leaving.mpr ⟨hv, he⟩)
    obtain ⟨k, hk, hmem⟩ := mem_discovered.mp (mem_discovered_succ.mpr hhead)
    exact mem_discovered.mpr ⟨k, by omega, hmem⟩

/-- The edges examined are those out of the vertices closer than `depth`. -/
theorem mem_examined :
    edge ∈ graph.examined root depth ↔
      edge.2 ∈ graph.out edge.1 ∧ ∃ n < depth, graph.Path root n edge.1 := by
  have hlayers : edge ∈ graph.examined root depth ↔
      ∃ n < depth, edge ∈ graph.leaving (graph.layer root n).frontier := by
    induction depth with
    | zero => simp [examined, layer]
    | succ depth ih =>
      have hnext : graph.examined root (depth + 1) =
          graph.examined root depth ++ graph.leaving (graph.layer root depth).frontier := rfl
      rw [hnext, List.mem_append, ih]
      constructor
      · rintro (⟨n, hn, hedge⟩ | hedge)
        · exact ⟨n, by omega, hedge⟩
        · exact ⟨depth, by omega, hedge⟩
      · rintro ⟨n, hn, hedge⟩
        by_cases heq : n = depth
        · exact Or.inr (heq ▸ hedge)
        · exact Or.inl ⟨n, by omega, hedge⟩
  rw [hlayers]
  constructor
  · rintro ⟨n, hn, hedge⟩
    obtain ⟨hvertex, hout⟩ := mem_leaving.mp hedge
    exact ⟨hout, n, hn, path_of_mem_frontier hvertex⟩
  · rintro ⟨hout, n, hn, hpath⟩
    obtain ⟨m, hm, hvertex⟩ := mem_discovered.mp hpath.discovered
    exact ⟨m, by omega, mem_leaving.mpr ⟨hvertex, hout⟩⟩

end Traversal

end Digraph

end OffloadFabric
