import MemoryFabric.Proofs.Graph.PortOrder

/-! Nodes below one another, counted. The list of nodes below a node holds another one
as often as edges lead down to it, in an order of its own. -/

namespace MemoryFabric.Graph

variable {graph : Graph} {upper lower : NodeId}

def edgesBelow (graph : Graph) (upper : NodeId) : List Edge :=
  graph.edges.toList.filter (·.mem.node = upper)

def edgeCount (graph : Graph) (upper lower : NodeId) : Nat :=
  (graph.edgesBelow upper).countP (·.cpu.node = lower)

theorem Sound.downstream_perm (sound : graph.Sound) (upper : NodeId) :
    (graph.downstream upper).Perm ((graph.edgesBelow upper).map (·.cpu.node)) :=
  sound.neighbours_perm upper .mem

theorem Sound.count_downstream (sound : graph.Sound) (upper lower : NodeId) :
    (graph.downstream upper).count lower = graph.edgeCount upper lower := by
  rw [(sound.downstream_perm upper).count_eq, List.count, List.countP_map, edgeCount]
  rfl

/-- Nodes that are no crossbars have one port on their processor side, so that a node
cannot be joined with any of them twice. -/
theorem Sound.nodup_downstream (sound : graph.Sound)
    (scalar : ∀ next ∈ graph.downstream upper, ∀ kind, graph.kind? next = some kind →
      kind.isBus = false) : (graph.downstream upper).Nodup := by
  rw [List.nodup_iff_count_le_one]
  intro lower
  by_cases below : lower ∈ graph.downstream upper
  · have onlyPort : ∀ edge ∈ graph.edgesBelow upper, edge.cpu.node = lower →
        edge.touches ⟨lower, .cpu, 0⟩ = true := by
      rintro edge member rfl
      have listed := (List.mem_filter.mp member).1
      have joined := sound.symmetric _ _ ((sound.mem_edges edge).mp listed).2
      rcases sound.hasPort (hasEndpoint_of_peer? joined) with ⟨kind, found, -, index⟩
      rw [scalar _ below kind found] at index
      have port : edge.cpu = ⟨edge.cpu.node, .cpu, 0⟩ := by
        rw [← sound.cpu_side_of_mem_edges listed, ← show edge.cpu.index = 0 from index]
      rw [Edge.touches, Bool.or_eq_true, decide_eq_true_eq, decide_eq_true_eq]
      exact Or.inr port
    calc (graph.downstream upper).count lower
        = (graph.edgesBelow upper).countP (·.cpu.node = lower) := sound.count_downstream upper lower
      _ ≤ (graph.edgesBelow upper).countP (·.touches ⟨lower, .cpu, 0⟩) :=
          List.countP_mono_left fun edge member here =>
            onlyPort edge member (of_decide_eq_true here)
      _ ≤ graph.edges.toList.countP (·.touches ⟨lower, .cpu, 0⟩) :=
          List.filter_sublist.countP_le
      _ ≤ 1 := sound.countP_touches_le_one _
  · rw [List.count_eq_zero.mpr below]
    exact Nat.zero_le 1

end MemoryFabric.Graph
