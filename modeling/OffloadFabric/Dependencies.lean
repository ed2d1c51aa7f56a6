import OffloadFabric.Breadth
import OffloadFabric.Ceilings

/-!
Dependencies of a service. The walk over them is the breadth-first traversal of the graph that
the registered services make, cut at the depth of the policy; every registered service is
worked off at most once. What it reports is the first hard edge that is not satisfied, or that
leads to a service that an edge before it led to. So it refuses a dependency that two services
share, although there is no cycle.
-/
namespace OffloadFabric

open Fabric (Op)

/-! ### The walk -/

/-- The dependencies of the registered services; a name that is not registered has none. -/
def State.dependencyGraph (state : State) : Digraph ServiceName DependencySpec where
  out name :=
    ((state.services.find? name).map fun runtime => runtime.descriptor.dependencies).getD []
  head spec := spec.service

/-- What the walk says of an edge when it has seen some names. -/
def State.verdict (state : State) (seen : List ServiceName) (edge : ServiceName × DependencySpec) :
    Reason :=
  if edge.2.service ∈ seen then .dependencyCycle else DependencyWalk.judge state edge.1 edge.2

/-- The first verdict on a hard edge that is not ok, unless something blocks already. -/
def State.blockedBy (state : State) :
    Reason → List ServiceName → List (ServiceName × DependencySpec) → Reason
  | blocking, _, [] => blocking
  | blocking, seen, edge :: rest =>
    state.blockedBy
      (if edge.2.kind = .hard ∧ blocking = .ok then state.verdict seen edge else blocking)
      (seen ++ [edge.2.service]) rest

section Blocking

variable {state : State} {blocking code : Reason} {seen : List ServiceName}
  {edges : List (ServiceName × DependencySpec)}

theorem State.blockedBy_append (blocking : Reason) (seen : List ServiceName)
    (edges more : List (ServiceName × DependencySpec)) :
    state.blockedBy blocking seen (edges ++ more) =
      state.blockedBy (state.blockedBy blocking seen edges)
        (seen ++ state.dependencyGraph.heads edges) more := by
  induction edges generalizing blocking seen with
  | nil =>
    rw [List.nil_append, State.blockedBy, Digraph.heads, List.map_nil, List.append_nil]
  | cons edge rest ih =>
    rw [List.cons_append, State.blockedBy, State.blockedBy, ih, List.append_assoc]
    rfl

theorem State.blockedBy_of_blocking (h : blocking ≠ .ok) :
    state.blockedBy blocking seen edges = blocking := by
  induction edges generalizing seen with
  | nil => rfl
  | cons edge rest ih =>
    rw [State.blockedBy, if_neg (fun hboth => h hboth.2), ih]

/-- The walk is not blocked if the verdict on every hard edge is ok when it is met. -/
theorem State.blockedBy_ok (h : ∀ earlier edge later, edges = earlier ++ edge :: later →
    edge.2.kind = .hard →
      state.verdict (seen ++ state.dependencyGraph.heads earlier) edge = .ok) :
    state.blockedBy .ok seen edges = .ok := by
  induction edges generalizing seen with
  | nil => rfl
  | cons edge rest ih =>
    rw [State.blockedBy]
    have hedge : (if edge.2.kind = .hard ∧ Reason.ok = .ok then state.verdict seen edge
        else .ok) = .ok := by
      split
      · rename_i hboth
        have hfirst := h [] edge rest rfl hboth.1
        rwa [Digraph.heads, List.map_nil, List.append_nil] at hfirst
      · rfl
    rw [hedge]
    refine ih fun earlier other later hsplit hhard => ?_
    have hother := h (edge :: earlier) other later (by rw [hsplit]; rfl) hhard
    rwa [List.append_assoc]

theorem State.verdict_of_blockedBy_ok {earlier later : List (ServiceName × DependencySpec)}
    {edge : ServiceName × DependencySpec}
    (h : state.blockedBy .ok seen (earlier ++ edge :: later) = .ok) (hhard : edge.2.kind = .hard) :
    state.verdict (seen ++ state.dependencyGraph.heads earlier) edge = .ok := by
  rw [State.blockedBy_append] at h
  have hearlier : state.blockedBy .ok seen earlier = .ok := by
    by_contra hblocked
    rw [State.blockedBy_of_blocking hblocked] at h
    exact hblocked h
  rw [hearlier, State.blockedBy, if_pos ⟨hhard, rfl⟩] at h
  by_contra hverdict
  rw [State.blockedBy_of_blocking hverdict] at h
  exact hverdict h

end Blocking

namespace DependencyWalk

/-- The walk as it sets out from a service. -/
def start (runtime : ServiceRuntime) : DependencyWalk where
  visited := [runtime.descriptor.name]
  queue := [{ owner := runtime.descriptor.name, descriptor := runtime.descriptor, depth := 0 }]

/-- A name as the walk queues it. -/
def nodeOf (state : State) (depth : Nat) (name : ServiceName) : Option WalkNode :=
  (state.services.find? name).map fun runtime =>
    { owner := name, descriptor := runtime.descriptor, depth }

/-- The walk has seen exactly these names. -/
def Sees (walk : DependencyWalk) (seen : List ServiceName) : Prop :=
  ∀ name, name ∈ walk.visited ↔ name ∈ seen

section Steps

variable {state : State} {walk : DependencyWalk} {node : WalkNode} {spec : DependencySpec}
  {specs : List DependencySpec} {seen : List ServiceName} {depth : Nat} {name : ServiceName}

@[simp] theorem visited_note (code : Reason) (subject : Bytes) (detail : String) (value : UInt64) :
    (walk.note code subject detail value).visited = walk.visited := rfl

@[simp] theorem queue_note (code : Reason) (subject : Bytes) (detail : String) (value : UInt64) :
    (walk.note code subject detail value).queue = walk.queue := rfl

@[simp] theorem blocking_note (code : Reason) (subject : Bytes) (detail : String)
    (value : UInt64) : (walk.note code subject detail value).blocking = walk.blocking := rfl

@[simp] theorem visited_block (kind : DependencyKind) (code : Reason) :
    (walk.block kind code).visited = walk.visited := by
  unfold block
  split <;> rfl

@[simp] theorem queue_block (kind : DependencyKind) (code : Reason) :
    (walk.block kind code).queue = walk.queue := by
  unfold block
  split <;> rfl

theorem blocking_block (kind : DependencyKind) (code : Reason) :
    (walk.block kind code).blocking =
      if kind = .hard ∧ walk.blocking = .ok then code else walk.blocking := by
  unfold block
  split <;> rfl

theorem run_empty (h : walk.queue = []) (nodes : Nat) : run state nodes walk = walk := by
  cases nodes with
  | zero => rfl
  | succ nodes =>
    unfold run
    rw [h]

theorem run_add (nodes more : Nat) (walk : DependencyWalk) :
    run state (nodes + more) walk = run state more (run state nodes walk) := by
  induction nodes generalizing walk with
  | zero => rw [Nat.zero_add, run]
  | succ nodes ih =>
    rw [Nat.add_right_comm, run, run]
    cases hqueue : walk.queue with
    | nil => exact (run_empty hqueue more).symm
    | cons node queue => exact ih _

/-- One edge of a node. -/
theorem edge_walk (hseen : walk.Sees seen) :
    (edge state node walk spec).Sees (seen ++ [spec.service]) ∧
      (edge state node walk spec).queue =
        walk.queue ++
          (Digraph.unseen seen [spec.service]).filterMap (nodeOf state (node.depth + 1)) ∧
      (edge state node walk spec).blocking =
        if spec.kind = .hard ∧ walk.blocking = .ok then state.verdict seen (node.owner, spec)
        else walk.blocking := by
  unfold edge
  by_cases hmem : spec.service ∈ walk.visited
  · have hseen' : spec.service ∈ seen := (hseen _).mp hmem
    rw [if_pos hmem]
    refine ⟨fun name => ?_, ?_, ?_⟩
    · rw [visited_block, visited_note, hseen, List.mem_append, List.mem_singleton]
      constructor
      · exact Or.inl
      · rintro (hname | rfl)
        · exact hname
        · exact hseen'
    · simp [Digraph.unseen, hseen']
    · rw [blocking_block, blocking_note, State.verdict, if_pos hseen']
  · have hseen' : spec.service ∉ seen := mt (hseen _).mpr hmem
    rw [if_neg hmem]
    have hnext : ∀ other : DependencyWalk, other.visited = spec.service :: walk.visited →
        other.Sees (seen ++ [spec.service]) := by
      intro other hother name
      rw [hother, List.mem_cons, hseen, List.mem_append, List.mem_singleton]
      tauto
    have hverdict : state.verdict seen (node.owner, spec) = judge state node.owner spec :=
      if_neg hseen'
    rw [hverdict]
    cases hfind : state.services.find? spec.service with
    | none =>
      by_cases hok : judge state node.owner spec = .ok
      · simp only [hok, if_true]
        refine ⟨hnext _ rfl, by simp [Digraph.unseen, hseen', nodeOf, hfind], ?_⟩
        by_cases hblocking : walk.blocking = .ok <;> simp [hblocking]
      · simp only [hok, if_false]
        refine ⟨hnext _ (by simp), by simp [Digraph.unseen, hseen', nodeOf, hfind], ?_⟩
        rw [blocking_block, blocking_note]
    | some runtime =>
      by_cases hok : judge state node.owner spec = .ok
      · simp only [hok, if_true]
        refine ⟨hnext _ rfl, by simp [Digraph.unseen, hseen', nodeOf, hfind], ?_⟩
        by_cases hblocking : walk.blocking = .ok <;> simp [hblocking]
      · simp only [hok, if_false]
        refine ⟨hnext _ (by simp), by simp [Digraph.unseen, hseen', nodeOf, hfind], ?_⟩
        rw [blocking_block, blocking_note]

/-- The edges out of one node. -/
theorem edges_walk (hseen : walk.Sees seen) :
    (specs.foldl (edge state node) walk).Sees (seen ++ specs.map DependencySpec.service) ∧
      (specs.foldl (edge state node) walk).queue =
        walk.queue ++ (Digraph.unseen seen (specs.map DependencySpec.service)).filterMap
          (nodeOf state (node.depth + 1)) ∧
      (specs.foldl (edge state node) walk).blocking =
        state.blockedBy walk.blocking seen (specs.map fun spec => (node.owner, spec)) := by
  induction specs generalizing walk seen with
  | nil => simp [Digraph.unseen, State.blockedBy, hseen]
  | cons spec rest ih =>
    obtain ⟨hsees, hqueue, hblocking⟩ := @edge_walk state walk node spec seen hseen
    obtain ⟨hsees', hqueue', hblocking'⟩ := ih hsees
    rw [List.foldl_cons, List.map_cons, List.map_cons]
    refine ⟨?_, ?_, ?_⟩
    · rwa [List.append_assoc] at hsees'
    · have happend := Digraph.unseen_append seen [spec.service] (rest.map DependencySpec.service)
      rw [List.singleton_append] at happend
      rw [hqueue', hqueue, happend, List.filterMap_append, List.append_assoc]
    · rw [hblocking', hblocking, State.blockedBy]

/-- The nodes of one layer above the depth ceiling are worked off, and the next layer is
queued. -/
theorem layer_walk {front : List ServiceName} {pending : List WalkNode}
    (hdepth : depth < state.policy.dependencyMaxDepth.toNat) (hseen : walk.Sees seen)
    (hqueue : walk.queue = front.filterMap (nodeOf state depth) ++ pending) :
    ∃ final, run state (front.filterMap (nodeOf state depth)).length walk = final ∧
      final.Sees (seen ++ state.dependencyGraph.heads (state.dependencyGraph.leaving front)) ∧
      final.queue = pending ++
        (Digraph.unseen seen
          (state.dependencyGraph.heads (state.dependencyGraph.leaving front))).filterMap
            (nodeOf state (depth + 1)) ∧
      final.blocking =
        state.blockedBy walk.blocking seen (state.dependencyGraph.leaving front) := by
  induction front generalizing walk seen pending with
  | nil =>
    refine ⟨walk, rfl, ?_, ?_, rfl⟩
    · intro name
      rw [hseen]
      simp [Digraph.leaving, Digraph.heads]
    · simpa [Digraph.leaving, Digraph.heads, Digraph.unseen] using hqueue
  | cons first rest ih =>
    cases hfind : state.services.find? first with
    | none =>
      have hnode : nodeOf state depth first = none := by simp [nodeOf, hfind]
      have hleaving : state.dependencyGraph.leaving (first :: rest) =
          state.dependencyGraph.leaving rest := by
        simp [Digraph.leaving, State.dependencyGraph, hfind]
      rw [List.filterMap_cons_none hnode] at hqueue ⊢
      rw [hleaving]
      exact ih hseen hqueue
    | some runtime =>
      let node : WalkNode := { owner := first, descriptor := runtime.descriptor, depth }
      have hnode : nodeOf state depth first = some node := by simp [nodeOf, hfind, node]
      have hleaving : state.dependencyGraph.leaving (first :: rest) =
          (runtime.descriptor.dependencies.map fun spec => (first, spec)) ++
            state.dependencyGraph.leaving rest := by
        simp [Digraph.leaving, State.dependencyGraph, hfind]
      have hheads : state.dependencyGraph.heads
          (runtime.descriptor.dependencies.map fun spec => (first, spec)) =
            runtime.descriptor.dependencies.map DependencySpec.service := by
        simp [Digraph.heads, State.dependencyGraph]
      rw [List.filterMap_cons_some hnode, List.cons_append] at hqueue
      let front' : DependencyWalk :=
        { walk with queue := rest.filterMap (nodeOf state depth) ++ pending }
      have hexpand : expand state front' node =
          runtime.descriptor.dependencies.foldl (edge state node) front' := by
        unfold expand
        rw [if_neg (not_le.mpr hdepth)]
      obtain ⟨hsees, hedges, hblocking⟩ :=
        @edges_walk state front' node runtime.descriptor.dependencies seen hseen
      rw [← hexpand] at hsees hedges hblocking
      rw [List.append_assoc] at hedges
      obtain ⟨final, hrun, hfinal, hnext, hblocked⟩ := ih hsees hedges
      refine ⟨final, ?_, ?_, ?_, ?_⟩
      · rw [List.filterMap_cons_some hnode, List.length_cons, run, hqueue]
        exact hrun
      · rw [hleaving, Digraph.heads_append, hheads]
        rwa [List.append_assoc] at hfinal
      · rw [hnext, hleaving, Digraph.heads_append, hheads, Digraph.unseen_append,
          List.filterMap_append, List.append_assoc]
      · rw [hblocked, hblocking, hleaving, State.blockedBy_append, hheads]

/-- Nodes at the depth ceiling are worked off without a look at their edges. -/
theorem drained {nodes : List WalkNode} (hqueue : walk.queue = nodes)
    (hdepth : ∀ node ∈ nodes, state.policy.dependencyMaxDepth.toNat ≤ node.depth) :
    (run state nodes.length walk).queue = [] ∧
      (run state nodes.length walk).blocking = walk.blocking := by
  induction nodes generalizing walk with
  | nil => exact ⟨hqueue, rfl⟩
  | cons node rest ih =>
    rw [List.length_cons, run, hqueue]
    have hexpand : (expand state { walk with queue := rest } node).queue = rest ∧
        (expand state { walk with queue := rest } node).blocking = walk.blocking := by
      unfold expand
      rw [if_pos (hdepth node List.mem_cons_self)]
      split <;> exact ⟨rfl, rfl⟩
    obtain ⟨hempty, hblocking⟩ :=
      ih hexpand.1 fun other hother => hdepth other (List.mem_cons_of_mem _ hother)
    exact ⟨hempty, hblocking.trans hexpand.2⟩

end Steps

/-- How many of some names are registered. -/
def registered (state : State) (names : List ServiceName) : Nat :=
  (names.filterMap (nodeOf state 0)).length

section Layers

variable {state : State} {root : ServiceName} {runtime : ServiceRuntime}
  {names more : List ServiceName}

theorem length_filterMap_nodeOf (depth : Nat) (names : List ServiceName) :
    (names.filterMap (nodeOf state depth)).length = registered state names := by
  unfold registered
  induction names with
  | nil => rfl
  | cons name rest ih =>
    cases hfind : state.services.find? name with
    | none =>
      have hnode (depth : Nat) : nodeOf state depth name = none := by simp [nodeOf, hfind]
      rw [List.filterMap_cons_none (hnode depth), List.filterMap_cons_none (hnode 0), ih]
    | some runtime =>
      have hnode (depth : Nat) : nodeOf state depth name =
          some { owner := name, descriptor := runtime.descriptor, depth } := by
        simp [nodeOf, hfind]
      rw [List.filterMap_cons_some (hnode depth), List.filterMap_cons_some (hnode 0),
        List.length_cons, List.length_cons, ih]

theorem registered_append : registered state (names ++ more) =
    registered state names + registered state more := by
  unfold registered
  rw [List.filterMap_append, List.length_append]

/-- Distinct names are registered at most as often as there are services. -/
theorem registered_le (h : names.Nodup) : registered state names ≤ state.services.size := by
  have hkeys : registered state names =
      (names.filter fun name => (state.services.find? name).isSome).length := by
    unfold registered
    rw [List.length_filterMap_eq_countP, List.countP_eq_length_filter]
    simp [nodeOf]
  have hsubset : names.filter (fun name => (state.services.find? name).isSome) ⊆
      state.services.keys := by
    intro name hname
    exact (state.services.mem_keys_iff name).mpr (List.mem_filter.mp hname).2
  rw [hkeys]
  have hle := (List.subperm_of_subset (h.filter _) hsubset).length_le
  simpa [OrderedMap.keys, OrderedMap.size] using hle

/-- The walk when it sets out for a layer that the depth ceiling lets it reach. -/
theorem walk_layer (hfind : state.services.find? root = some runtime)
    (hname : runtime.descriptor.name = root) {depth : Nat}
    (hdepth : depth ≤ state.policy.dependencyMaxDepth.toNat) :
    ∃ walk, run state (registered state (state.dependencyGraph.discovered root depth))
        (start runtime) = walk ∧
      walk.Sees (root :: state.dependencyGraph.heads (state.dependencyGraph.examined root depth)) ∧
      walk.queue = (state.dependencyGraph.layer root depth).frontier.filterMap
        (nodeOf state depth) ∧
      walk.blocking = state.blockedBy .ok [root] (state.dependencyGraph.examined root depth) := by
  induction depth with
  | zero =>
    refine ⟨start runtime, rfl, ?_, ?_, rfl⟩
    · intro name
      rw [start, hname]
      rfl
    · simp [start, Digraph.layer, nodeOf, hfind, hname]
  | succ depth ih =>
    obtain ⟨walk, hrun, hsees, hqueue, hblocking⟩ := ih (by omega)
    rw [← List.append_nil (List.filterMap _ _)] at hqueue
    obtain ⟨final, hfinal, hsees', hqueue', hblocking'⟩ :=
      layer_walk (by omega) hsees hqueue
    refine ⟨final, ?_, ?_, ?_, ?_⟩
    · rw [Digraph.discovered, registered_append, run_add, hrun, ← length_filterMap_nodeOf depth]
      exact hfinal
    · rw [List.cons_append, ← Digraph.heads_append] at hsees'
      exact hsees'
    · rw [hqueue', List.nil_append]
      rfl
    · rw [hblocking', hblocking]
      exact (state.blockedBy_append _ _ _ _).symm

/-- The walk works off each registered service at most once, and what it reports is the first
blocking verdict on the edges that the depth of the policy lets it examine. -/
theorem run_start (hfind : state.services.find? root = some runtime)
    (hname : runtime.descriptor.name = root) :
    ∃ nodes ≤ state.services.size, (run state nodes (start runtime)).queue = [] ∧
      (run state nodes (start runtime)).blocking = state.blockedBy .ok [root]
        (state.dependencyGraph.examined root state.policy.dependencyMaxDepth.toNat) := by
  obtain ⟨walk, hrun, -, hqueue, hblocking⟩ := walk_layer hfind hname le_rfl
  have hceiling : ∀ node ∈ (state.dependencyGraph.layer root
      state.policy.dependencyMaxDepth.toNat).frontier.filterMap
        (nodeOf state state.policy.dependencyMaxDepth.toNat),
      state.policy.dependencyMaxDepth.toNat ≤ node.depth := by
    intro node hnode
    obtain ⟨name, -, hnode⟩ := List.mem_filterMap.mp hnode
    obtain ⟨runtime, -, rfl⟩ := Option.map_eq_some_iff.mp hnode
    exact le_rfl
  obtain ⟨hempty, hkept⟩ := drained hqueue hceiling
  refine ⟨registered state (state.dependencyGraph.discovered root
    (state.policy.dependencyMaxDepth.toNat + 1)), registered_le Digraph.nodup_discovered, ?_⟩
  rw [Digraph.discovered, registered_append, run_add, hrun,
    ← length_filterMap_nodeOf state.policy.dependencyMaxDepth.toNat]
  exact ⟨hempty, hkept.trans hblocking⟩

end Layers

end DependencyWalk

/-! ### What qualification says -/

/-- The owner of an edge observed its dependency as healthy, in the present epoch, boot and
topology, and nothing asks it to confirm that. -/
def State.Satisfied (state : State) (edge : ServiceName × DependencySpec) : Prop :=
  (∃ dependency, state.services.find? edge.2.service = some dependency) ∧
    ∃ slot, (Change.dependencyBucket state edge.1).find? edge.2.service = some slot ∧
      slot.requiresReconfirmation = false ∧ slot.observation.provenance.epoch = state.epoch ∧
      slot.observation.provenance.boot = state.boot ∧
      slot.observation.topologyGeneration = state.topologyGeneration ∧
      slot.observation.health = .healthy

/-- A hard edge out of a service that a path shorter than the depth of the policy leads to. -/
structure State.HardWithin (state : State) (root : ServiceName)
    (edge : ServiceName × DependencySpec) : Prop where
  hard : edge.2.kind = .hard
  leaves : edge.2 ∈ state.dependencyGraph.out edge.1
  near : ∃ distance < state.policy.dependencyMaxDepth.toNat,
    state.dependencyGraph.Path root distance edge.1

/-- The edge leads to a service that an edge before it in breadth-first order led to, or back
to the root. -/
def State.Revisits (state : State) (root : ServiceName) (edge : ServiceName × DependencySpec) :
    Prop :=
  state.dependencyGraph.Reenters root
    (state.dependencyGraph.examined root state.policy.dependencyMaxDepth.toNat) edge

section Qualification

variable {config : FabricConfig} {fabric : Fabric} {state : State} {service root : ServiceName}
  {runtime : ServiceRuntime} {edge : ServiceName × DependencySpec}

theorem State.satisfied_of_judge (hhard : edge.2.kind = .hard)
    (h : DependencyWalk.judge state edge.1 edge.2 = .ok) : state.Satisfied edge := by
  unfold DependencyWalk.judge at h
  split at h
  · cases h
  · cases h
  · rename_i dependency slot hdependency hslot
    split_ifs at h with hconfirm hsession htopology hunknown hfailed hdegraded
    obtain ⟨hepoch, hboot⟩ := not_or.mp hsession
    refine ⟨⟨dependency, hdependency⟩, slot, hslot, by simpa using hconfirm, not_not.mp hepoch,
      not_not.mp hboot, not_not.mp htopology, ?_⟩
    cases hhealth : slot.observation.health with
    | unknown => exact absurd hhealth hunknown
    | failed => exact absurd hhealth hfailed
    | degraded => exact absurd ⟨hhealth, hhard⟩ hdegraded
    | healthy => rfl

theorem State.Satisfied.judge (h : state.Satisfied edge) :
    DependencyWalk.judge state edge.1 edge.2 = .ok := by
  obtain ⟨⟨dependency, hdependency⟩, slot, hslot, hconfirm, hepoch, hboot, htopology, hhealth⟩ := h
  simp [DependencyWalk.judge, hdependency, hslot, hconfirm, hepoch, hboot, htopology, hhealth]

theorem State.hardWithin_iff :
    state.HardWithin root edge ↔ edge.2.kind = .hard ∧
      edge ∈ state.dependencyGraph.examined root state.policy.dependencyMaxDepth.toNat := by
  rw [Digraph.mem_examined]
  constructor
  · rintro ⟨hhard, hleaves, hnear⟩
    exact ⟨hhard, hleaves, hnear⟩
  · rintro ⟨hhard, hleaves, hnear⟩
    exact ⟨hhard, hleaves, hnear⟩

/-- Qualification as one walk over all registered services. -/
theorem qualifyDependencies_walk (hfind : state.services.find? service = some runtime)
    (hname : runtime.descriptor.name = service) :
    ∃ nodes ≤ state.services.size, ∀ fuel ≥ nodes,
      DependencyWalk.run state fuel (DependencyWalk.start runtime) =
        qualifyDependencies state runtime ∧
      (qualifyDependencies state runtime).queue = [] ∧
      (qualifyDependencies state runtime).blocking = state.blockedBy .ok [service]
        (state.dependencyGraph.examined service state.policy.dependencyMaxDepth.toNat) := by
  obtain ⟨nodes, hnodes, hempty, hblocking⟩ := DependencyWalk.run_start hfind hname
  have hrun {fuel : Nat} (hfuel : nodes ≤ fuel) :
      DependencyWalk.run state fuel (DependencyWalk.start runtime) =
        DependencyWalk.run state nodes (DependencyWalk.start runtime) := by
    obtain ⟨more, rfl⟩ := Nat.exists_eq_add_of_le hfuel
    rw [DependencyWalk.run_add, DependencyWalk.run_empty hempty]
  have hqualify : qualifyDependencies state runtime =
      DependencyWalk.run state nodes (DependencyWalk.start runtime) :=
    @hrun (state.services.size + 1) (by omega)
  refine ⟨nodes, hnodes, fun fuel hfuel => ?_⟩
  rw [hqualify]
  exact ⟨hrun hfuel, hempty, hblocking⟩

theorem Fabric.Reachable.name_of_find (hreachable : Fabric.Reachable config fabric)
    (hfind : fabric.state.services.find? service = some runtime) :
    runtime.descriptor.name = service := by
  obtain ⟨moments, hrun⟩ := hreachable
  exact hrun.wellKeyed.services _ ((fabric.state.services.find?_eq_some_iff _ _).mp hfind)

theorem State.verdict_eq_ok {seen : List ServiceName} :
    state.verdict seen edge = .ok ↔
      edge.2.service ∉ seen ∧ DependencyWalk.judge state edge.1 edge.2 = .ok := by
  unfold State.verdict
  by_cases hseen : edge.2.service ∈ seen
  · simp [hseen]
  · simp [hseen]

/-- Nothing blocks the walk if and only if every hard edge within the depth is satisfied and
none leads to a service that was visited. -/
theorem State.blockedBy_ok_iff :
    state.blockedBy .ok [root]
        (state.dependencyGraph.examined root state.policy.dependencyMaxDepth.toNat) = .ok ↔
      (∀ edge, state.HardWithin root edge → state.Satisfied edge) ∧
        ∀ edge, state.HardWithin root edge → ¬state.Revisits root edge := by
  constructor
  · intro hok
    constructor
    · intro edge hwithin
      obtain ⟨hhard, hmem⟩ := State.hardWithin_iff.mp hwithin
      obtain ⟨earlier, later, hsplit⟩ := List.mem_iff_append.mp hmem
      rw [hsplit] at hok
      exact State.satisfied_of_judge hhard
        (State.verdict_eq_ok.mp (State.verdict_of_blockedBy_ok hok hhard)).2
    · rintro edge ⟨hhard, -, -⟩ ⟨earlier, later, hsplit, hvisited⟩
      rw [hsplit] at hok
      exact (State.verdict_eq_ok.mp (State.verdict_of_blockedBy_ok hok hhard)).1 hvisited
  · rintro ⟨hsatisfied, hfresh⟩
    refine State.blockedBy_ok fun earlier edge later hsplit hhard => ?_
    have hwithin : state.HardWithin root edge :=
      State.hardWithin_iff.mpr ⟨hhard, by rw [hsplit]; simp⟩
    refine State.verdict_eq_ok.mpr ⟨fun hvisited => ?_, (hsatisfied edge hwithin).judge⟩
    exact hfresh edge hwithin ⟨earlier, later, hsplit, hvisited⟩

/-- The walk over the dependencies of a registered service ends after at most as many nodes as
there are services. If it lets the service pass then every hard edge within the depth of the
policy is satisfied, and none leads to a service that was visited. -/
theorem qualifyDependencies_sound (hreachable : Fabric.Reachable config fabric)
    (hfind : fabric.state.services.find? service = some runtime) :
    (∃ nodes ≤ fabric.state.services.size, ∀ fuel ≥ nodes,
      DependencyWalk.run fabric.state fuel (DependencyWalk.start runtime) =
        qualifyDependencies fabric.state runtime ∧
      (qualifyDependencies fabric.state runtime).queue = []) ∧
    ((qualifyDependencies fabric.state runtime).blocking = .ok →
      (∀ edge, fabric.state.HardWithin service edge → fabric.state.Satisfied edge) ∧
        ∀ edge, fabric.state.HardWithin service edge → ¬fabric.state.Revisits service edge) := by
  obtain ⟨nodes, hnodes, hwalk⟩ := qualifyDependencies_walk hfind (hreachable.name_of_find hfind)
  obtain ⟨-, -, hblocking⟩ := hwalk nodes le_rfl
  refine ⟨⟨nodes, hnodes, fun fuel hfuel => ?_⟩, fun hok => ?_⟩
  · obtain ⟨hrun, hempty, -⟩ := hwalk fuel hfuel
    exact ⟨hrun, hempty⟩
  · rw [hblocking] at hok
    exact State.blockedBy_ok_iff.mp hok

/-- With every hard edge within the depth satisfied, qualification passes a service on an acyclic
graph and calls a graph cyclic only if it is, if and only if on an acyclic graph no hard edge
leads to a service that an edge before it in breadth-first order led to. -/
theorem qualifyDependencies_cause_iff (hreachable : Fabric.Reachable config fabric)
    (hfind : fabric.state.services.find? service = some runtime) :
    ((∀ edge, fabric.state.HardWithin service edge → fabric.state.Satisfied edge) →
      (¬fabric.state.dependencyGraph.Cyclic service →
        (qualifyDependencies fabric.state runtime).blocking = .ok) ∧
      ((qualifyDependencies fabric.state runtime).blocking = .dependencyCycle →
        fabric.state.dependencyGraph.Cyclic service)) ↔
    ((∀ edge, fabric.state.HardWithin service edge → fabric.state.Satisfied edge) →
      ¬fabric.state.dependencyGraph.Cyclic service →
        ∀ edge, fabric.state.HardWithin service edge → ¬fabric.state.Revisits service edge) := by
  obtain ⟨nodes, -, hwalk⟩ := qualifyDependencies_walk hfind (hreachable.name_of_find hfind)
  obtain ⟨-, -, hblocking⟩ := hwalk nodes le_rfl
  rw [hblocking]
  constructor
  · intro hcause hsatisfied hacyclic
    exact (State.blockedBy_ok_iff.mp ((hcause hsatisfied).1 hacyclic)).2
  · intro hfresh hsatisfied
    have hpasses (hacyclic : ¬fabric.state.dependencyGraph.Cyclic service) :=
      State.blockedBy_ok_iff.mpr ⟨hsatisfied, hfresh hsatisfied hacyclic⟩
    refine ⟨hpasses, fun hcycle => ?_⟩
    by_contra hacyclic
    rw [hpasses hacyclic] at hcycle
    cases hcycle

/-- No registered service depends on a service of at least its rank. -/
theorem State.not_cyclic_of_entries (rank : ServiceName → Nat)
    (h : ∀ entry ∈ state.services.entries, ∀ spec ∈ entry.2.descriptor.dependencies,
      rank spec.service < rank entry.1) : ¬state.dependencyGraph.Cyclic root := by
  refine Digraph.not_cyclic_of_rank rank fun name spec hspec => ?_
  cases hfind : state.services.find? name with
  | none => simp [State.dependencyGraph, hfind] at hspec
  | some runtime =>
    have hdepends : spec ∈ runtime.descriptor.dependencies := by
      simpa [State.dependencyGraph, hfind] using hspec
    exact h _ ((state.services.find?_eq_some_iff _ _).mp hfind) spec hdepends

end Qualification

namespace Fleet

def left : ServiceName := ⟨[108], by decide⟩
def right : ServiceName := ⟨[114], by decide⟩
def base : ServiceName := ⟨[98], secondary.valid⟩

/-- Register a service that cannot do without others. -/
def rely (name : ServiceName) (others : List ServiceName) : Op :=
  .registerService
    { name, scope, dependencies := others.map fun other => { service := other } } operator

/-- The operator observes a dependency as healthy. -/
def vouch (sequence : UInt64) (owner dependency : ServiceName) : Op :=
  .ingestDependency
    { service := owner, dependency, health := .healthy, topologyGeneration := ⟨1⟩
      provenance := { source := operator, epoch := ⟨1⟩, boot := ⟨1⟩, sequence := ⟨sequence⟩ } }

/-- A service relies on two others. -/
def supported : List Op :=
  [.openFabric, .enrollSource operator .operator, .setTopologyGeneration ⟨1⟩ operator,
   rely left [], rely right [], rely service [left, right],
   vouch 1 service left, vouch 2 service right]

/-- Both of the others rely on a third. -/
def diamond : List Op :=
  [.openFabric, .enrollSource operator .operator, .setTopologyGeneration ⟨1⟩ operator,
   rely base [], rely left [base], rely right [base], rely service [left, right],
   vouch 1 service left, vouch 2 service right, vouch 3 left base, vouch 4 right base]

/-- How far a name stands above what the others rely on. -/
def height (name : ServiceName) : Nat :=
  if name = service then 2 else if name = base then 0 else 1

end Fleet

theorem qualifyDependencies_sound_supported : ∃ runtime,
    (qualifyDependencies (Fleet.running Fleet.supported).state runtime).blocking = .ok ∧
      (∀ edge, (Fleet.running Fleet.supported).state.HardWithin Fleet.service edge →
        (Fleet.running Fleet.supported).state.Satisfied edge) ∧
      ∀ edge, (Fleet.running Fleet.supported).state.HardWithin Fleet.service edge →
        ¬(Fleet.running Fleet.supported).state.Revisits Fleet.service edge := by
  have hfind : ((Fleet.running Fleet.supported).state.services.find? Fleet.service).isSome := by
    decide +kernel
  have hok : ((Fleet.running Fleet.supported).state.services.find? Fleet.service).all fun runtime =>
      (qualifyDependencies (Fleet.running Fleet.supported).state runtime).blocking = .ok := by
    decide +kernel
  obtain ⟨runtime, hruntime⟩ := Option.isSome_iff_exists.mp hfind
  rw [hruntime] at hok
  have hblocking := of_decide_eq_true hok
  exact ⟨runtime, hblocking,
    (qualifyDependencies_sound (Fleet.reachable_running Fleet.supported) hruntime).2 hblocking⟩

theorem qualifyDependencies_cause_supported : ∃ runtime,
    ((∀ edge, (Fleet.running Fleet.supported).state.HardWithin Fleet.service edge →
      (Fleet.running Fleet.supported).state.Satisfied edge) →
      (¬(Fleet.running Fleet.supported).state.dependencyGraph.Cyclic Fleet.service →
        (qualifyDependencies (Fleet.running Fleet.supported).state runtime).blocking = .ok) ∧
      ((qualifyDependencies (Fleet.running Fleet.supported).state runtime).blocking =
          .dependencyCycle →
        (Fleet.running Fleet.supported).state.dependencyGraph.Cyclic Fleet.service)) ↔
    ((∀ edge, (Fleet.running Fleet.supported).state.HardWithin Fleet.service edge →
      (Fleet.running Fleet.supported).state.Satisfied edge) →
      ¬(Fleet.running Fleet.supported).state.dependencyGraph.Cyclic Fleet.service →
        ∀ edge, (Fleet.running Fleet.supported).state.HardWithin Fleet.service edge →
          ¬(Fleet.running Fleet.supported).state.Revisits Fleet.service edge) := by
  have hfind : ((Fleet.running Fleet.supported).state.services.find? Fleet.service).isSome := by
    decide +kernel
  obtain ⟨runtime, hruntime⟩ := Option.isSome_iff_exists.mp hfind
  exact ⟨runtime,
    qualifyDependencies_cause_iff (Fleet.reachable_running Fleet.supported) hruntime⟩

/-- Two services that a service relies on share one that they rely on. All of them are observed
as healthy and nothing goes round in a circle, and yet a cycle is reported. -/
theorem shared_dependency_refused : ∃ runtime,
    (Fleet.running Fleet.diamond).state.services.find? Fleet.service = some runtime ∧
      Fabric.Reachable {} (Fleet.running Fleet.diamond) ∧
      ¬((∀ edge, (Fleet.running Fleet.diamond).state.HardWithin Fleet.service edge →
          (Fleet.running Fleet.diamond).state.Satisfied edge) →
        (¬(Fleet.running Fleet.diamond).state.dependencyGraph.Cyclic Fleet.service →
          (qualifyDependencies (Fleet.running Fleet.diamond).state runtime).blocking = .ok) ∧
        ((qualifyDependencies (Fleet.running Fleet.diamond).state runtime).blocking =
            .dependencyCycle →
          (Fleet.running Fleet.diamond).state.dependencyGraph.Cyclic Fleet.service)) := by
  have hfind : ((Fleet.running Fleet.diamond).state.services.find? Fleet.service).isSome := by
    decide +kernel
  have hcycle :
      ((Fleet.running Fleet.diamond).state.services.find? Fleet.service).all fun runtime =>
      (qualifyDependencies (Fleet.running Fleet.diamond).state runtime).blocking =
        .dependencyCycle := by
    decide +kernel
  have hjudged : ∀ edge ∈ (Fleet.running Fleet.diamond).state.dependencyGraph.examined
      Fleet.service (Fleet.running Fleet.diamond).state.policy.dependencyMaxDepth.toNat,
      DependencyWalk.judge (Fleet.running Fleet.diamond).state edge.1 edge.2 = .ok := by
    decide +kernel
  have hacyclic : ¬(Fleet.running Fleet.diamond).state.dependencyGraph.Cyclic Fleet.service := by
    refine State.not_cyclic_of_entries Fleet.height ?_
    decide +kernel
  obtain ⟨runtime, hruntime⟩ := Option.isSome_iff_exists.mp hfind
  rw [hruntime] at hcycle
  refine ⟨runtime, hruntime, Fleet.reachable_running Fleet.diamond, fun hcause => ?_⟩
  refine hacyclic ((hcause fun edge hwithin => ?_).2 (of_decide_eq_true hcycle))
  obtain ⟨hhard, hmem⟩ := State.hardWithin_iff.mp hwithin
  exact State.satisfied_of_judge hhard (hjudged edge hmem)

end OffloadFabric
