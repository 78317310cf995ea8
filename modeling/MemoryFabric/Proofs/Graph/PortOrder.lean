import MemoryFabric.Proofs.Graph.Coherence

/-! Neighbours by the numbers of the ports. The list of neighbours on a side of a node goes
through the ports of the side in their order, and so through the edges at that side, each of
them once. -/

namespace MemoryFabric

namespace Edge

def ending (edge : Edge) : Side → Endpoint
  | .cpu => edge.cpu
  | .mem => edge.mem

def between (side : Side) (here there : Endpoint) : Edge :=
  match side with
  | .cpu => ⟨there, here⟩
  | .mem => ⟨here, there⟩

@[simp] theorem ending_between (side : Side) (here there : Endpoint) :
    (between side here there).ending side = here := by
  cases side <;> rfl

@[simp] theorem ending_opposite_between (side : Side) (here there : Endpoint) :
    (between side here there).ending side.opposite = there := by
  cases side <;> rfl

theorem eq_between (edge : Edge) (side : Side) :
    edge = between side (edge.ending side) (edge.ending side.opposite) := by
  cases side <;> rfl

end Edge

namespace Graph

variable {graph : Graph} {node : NodeId} {side : Side}

def edgesAt (graph : Graph) (node : NodeId) (side : Side) : List Edge :=
  graph.edges.toList.filter fun edge => (edge.ending side).node = node

/-- The nodes are those at the other ends of the edges at one side of a node, named once for
each of these edges and in the order of the ports. -/
def InPortOrder (graph : Graph) (node : NodeId) (side : Side) (neighbours : List NodeId) : Prop :=
  ∃ ordered : List Edge, ordered.Perm (graph.edgesAt node side) ∧
    (ordered.Pairwise fun first second =>
      (first.ending side).index < (second.ending side).index) ∧
    neighbours = ordered.map fun edge => (edge.ending side.opposite).node

theorem eq_of_side {endpoint : Endpoint} (onSide : endpoint.side = side) :
    endpoint = ⟨endpoint.node, side, endpoint.index⟩ := by
  rw [← onSide]

theorem Sound.mem_edges_iff (sound : graph.Sound) (side : Side) (edge : Edge) :
    edge ∈ graph.edges.toList ↔
      (edge.ending side).side = side ∧
        graph.peer? (edge.ending side) = some (edge.ending side.opposite) := by
  cases side with
  | mem => exact sound.mem_edges edge
  | cpu =>
      constructor
      · intro member
        have joined := ((sound.mem_edges edge).mp member).2
        exact ⟨sound.cpu_side_of_mem_edges member, sound.symmetric _ _ joined⟩
      · rintro ⟨onCpu, joined⟩
        have onMem := sound.opposite _ _ joined
        rw [onCpu] at onMem
        exact (sound.mem_edges edge).mpr ⟨onMem, sound.symmetric _ _ joined⟩

theorem mem_edgesAt_iff (edge : Edge) :
    edge ∈ graph.edgesAt node side ↔
      edge ∈ graph.edges.toList ∧ (edge.ending side).node = node := by
  rw [edgesAt, List.mem_filter, decide_eq_true_eq]

/-! ## Edges by the numbers of the ports -/

/-- The edges at the ports of one side of a node, in port order. -/
def edgesByPort (node : NodeId) (side : Side) (ports : List (Option Endpoint)) : List Edge :=
  ports.zipIdx.filterMap fun port => port.1.map (Edge.between side ⟨node, side, port.2⟩)

theorem mem_edgesByPort_iff (ports : List (Option Endpoint)) (edge : Edge) :
    edge ∈ edgesByPort node side ports ↔
      ∃ index, edge.ending side = ⟨node, side, index⟩ ∧
        ports[index]? = some (some (edge.ending side.opposite)) := by
  rw [edgesByPort, List.mem_filterMap]
  constructor
  · rintro ⟨⟨port, index⟩, member, made⟩
    rcases Option.map_eq_some_iff.mp made with ⟨peer, rfl, rfl⟩
    rw [Edge.ending_between, Edge.ending_opposite_between]
    exact ⟨index, rfl, List.mk_mem_zipIdx_iff_getElem?.mp member⟩
  · rintro ⟨index, here, joined⟩
    refine ⟨(some (edge.ending side.opposite), index),
      List.mk_mem_zipIdx_iff_getElem?.mpr joined, ?_⟩
    rw [Option.map_some, ← here, ← edge.eq_between side]

theorem pairwise_edgesByPort (ports : List (Option Endpoint)) :
    (edgesByPort node side ports).Pairwise fun first second =>
      (first.ending side).index < (second.ending side).index := by
  have numbered : ports.zipIdx.Pairwise fun first second => first.2 < second.2 := by
    rw [← List.pairwise_map, List.zipIdx_map_snd]
    exact List.pairwise_lt_range'
  rw [edgesByPort, List.pairwise_filterMap]
  apply numbered.imp
  intro first second ordered edge made other otherMade
  rcases Option.map_eq_some_iff.mp made with ⟨_, _, rfl⟩
  rcases Option.map_eq_some_iff.mp otherMade with ⟨_, _, rfl⟩
  rw [Edge.ending_between, Edge.ending_between]
  exact ordered

theorem map_edgesByPort (ports : List (Option Endpoint)) :
    (edgesByPort node side ports).map (fun edge => (edge.ending side.opposite).node) =
      ports.filterMap fun peer => peer.map (·.node) := by
  have numbered : ports.filterMap (fun peer => peer.map (·.node)) =
      ports.zipIdx.filterMap fun port => port.1.map (·.node) := by
    conv => lhs; rw [← List.zipIdx_map_fst 0 ports]
    exact List.filterMap_map
  rw [edgesByPort, List.map_filterMap, numbered]
  congr 1
  funext port
  rw [Option.map_map]
  congr 1
  funext peer
  exact congrArg Endpoint.node (Edge.ending_opposite_between _ _ _)

/-! ## Neighbours -/

theorem Sound.edgesByPort_perm (sound : graph.Sound) {vertex : Vertex}
    (found : graph.vertex? node = some vertex) :
    (edgesByPort node side (vertex.ports side).toList).Perm (graph.edgesAt node side) := by
  have listed : (edgesByPort node side (vertex.ports side).toList).Nodup := by
    apply (pairwise_edgesByPort _).imp
    rintro first second ordered rfl
    exact Nat.lt_irrefl _ ordered
  have nodup : (graph.edgesAt node side).Nodup := sound.edges_nodup.filter _
  rw [List.perm_ext_iff_of_nodup listed nodup]
  intro edge
  rw [mem_edgesByPort_iff, mem_edgesAt_iff, sound.mem_edges_iff side]
  constructor
  · rintro ⟨index, here, joined⟩
    rw [here, peer?_of_vertex? found, ← Array.getElem?_toList, joined]
    exact ⟨⟨rfl, rfl⟩, rfl⟩
  · rintro ⟨⟨onSide, joined⟩, rfl⟩
    refine ⟨(edge.ending side).index, eq_of_side onSide, ?_⟩
    rw [peer?_of_vertex? found, ← Array.getElem?_toList, Option.join_eq_some_iff, onSide] at joined
    exact joined

theorem Sound.inPortOrder_neighbours (sound : graph.Sound) (node : NodeId) (side : Side) :
    graph.InPortOrder node side (graph.neighbours node side) := by
  cases found : graph.vertex? node with
  | some vertex =>
      refine ⟨_, sound.edgesByPort_perm found, pairwise_edgesByPort _, ?_⟩
      rw [map_edgesByPort]
      exact neighbours_of_vertex? side found
  | none =>
      have unlisted : graph.edgesAt node side = [] := by
        rw [List.eq_nil_iff_forall_not_mem]
        intro edge member
        rcases (mem_edgesAt_iff edge).mp member with ⟨listed, here⟩
        have joined := ((sound.mem_edges_iff side edge).mp listed).2
        rw [peer?_eq, here, found] at joined
        cases joined
      refine ⟨[], by rw [unlisted], .nil, ?_⟩
      rw [neighbours, found]
      rfl

theorem Sound.neighbours_perm (sound : graph.Sound) (node : NodeId) (side : Side) :
    (graph.neighbours node side).Perm
      ((graph.edgesAt node side).map fun edge => (edge.ending side.opposite).node) := by
  rcases sound.inPortOrder_neighbours node side with ⟨ordered, perm, -, neighbours⟩
  rw [neighbours]
  exact perm.map _

theorem Sound.count_neighbours (sound : graph.Sound) (node other : NodeId) (side : Side) :
    (graph.neighbours node side).count other =
      graph.edges.toList.countP fun edge =>
        (edge.ending side.opposite).node = other ∧ (edge.ending side).node = node := by
  rw [(sound.neighbours_perm node side).count_eq, List.count, List.countP_map, edgesAt,
    List.countP_filter]
  congr 1
  funext edge
  rw [Bool.eq_iff_iff]
  simp

theorem Sound.count_downstream_eq (sound : graph.Sound) (upper lower : NodeId) :
    (graph.downstream upper).count lower = (graph.upstream lower).count upper := by
  rw [downstream, upstream, sound.count_neighbours, sound.count_neighbours]
  congr 1
  funext edge
  rw [decide_eq_decide]
  exact and_comm

end Graph

end MemoryFabric
