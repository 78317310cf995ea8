import MemoryFabric.Graph.Wiring

/-! What a change to a fabric does to the views of it: the vertices, the port at
the other end of a port, and the neighbours of a node. -/

namespace MemoryFabric

namespace Vertex

@[simp] theorem node_modifyPorts (vertex : Vertex) (side : Side)
    (change : Array (Option Endpoint) → Array (Option Endpoint)) :
    (vertex.modifyPorts side change).node = vertex.node := by
  cases side <;> rfl

@[simp] theorem ports_modifyPorts_same (vertex : Vertex) (side : Side)
    (change : Array (Option Endpoint) → Array (Option Endpoint)) :
    (vertex.modifyPorts side change).ports side = change (vertex.ports side) := by
  cases side <;> rfl

theorem ports_modifyPorts_other (vertex : Vertex) {side other : Side} (different : other ≠ side)
    (change : Array (Option Endpoint) → Array (Option Endpoint)) :
    (vertex.modifyPorts side change).ports other = vertex.ports other := by
  cases side <;> cases other <;> first | rfl | exact absurd rfl different

@[simp] theorem node_ofNode (node : Node) : (ofNode node).node = node := rfl

@[simp] theorem ports_ofNode (node : Node) (side : Side) :
    (ofNode node).ports side = firstPorts node.kind side := by
  cases side <;> rfl

def neighbours (vertex : Vertex) (side : Side) : List NodeId :=
  (vertex.ports side).toList.filterMap fun peer => peer.map (·.node)

theorem neighbours_ofNode (node : Node) (side : Side) : (ofNode node).neighbours side = [] := by
  rw [neighbours, ports_ofNode, firstPorts]
  split <;> rfl

end Vertex

namespace Graph

/-! ## Vertices -/

def withNode (graph : Graph) (node : Node) : Graph :=
  { graph with vertices := graph.vertices.push (Vertex.ofNode node) }

theorem vertex?_modify (graph : Graph) (changed node : NodeId) (change : Vertex → Vertex) :
    Graph.vertex? { graph with vertices := graph.vertices.modify changed.index change } node =
      if node = changed then (graph.vertex? node).map change else graph.vertex? node := by
  rw [vertex?, vertex?, Array.getElem?_modify]
  by_cases same : node = changed
  · simp [same]
  · have different : changed.index ≠ node.index := fun equal =>
      same (by cases node; cases changed; simp_all)
    simp [same, different]

theorem vertex?_withNode (graph : Graph) (added : Node) (node : NodeId) :
    (graph.withNode added).vertex? node =
      if node.index = graph.size then some (Vertex.ofNode added) else graph.vertex? node := by
  rw [vertex?, vertex?, withNode, Array.getElem?_push, size]

theorem index_lt_size_of_vertex? {graph : Graph} {node : NodeId} {vertex : Vertex}
    (found : graph.vertex? node = some vertex) : node.index < graph.size := by
  rw [vertex?] at found
  exact (Array.getElem?_eq_some_iff.mp found).1

theorem exists_vertex?_of_lt_size {graph : Graph} {node : NodeId}
    (inside : node.index < graph.size) : ∃ vertex, graph.vertex? node = some vertex :=
  ⟨graph.vertices[node.index], Array.getElem?_eq_getElem inside⟩

theorem vertex?_addPort (graph : Graph) (changed node : NodeId) (side : Side) :
    (graph.addPort changed side).vertex? node =
      if node = changed then (graph.vertex? node).map (·.modifyPorts side (·.push none))
      else graph.vertex? node :=
  vertex?_modify graph changed node _

theorem vertex?_attach (graph : Graph) (endpoint peer : Endpoint) (node : NodeId) :
    (graph.attach endpoint peer).vertex? node =
      if node = endpoint.node then
        (graph.vertex? node).map
          (·.modifyPorts endpoint.side (·.setIfInBounds endpoint.index (some peer)))
      else graph.vertex? node :=
  vertex?_modify graph endpoint.node node _

@[simp] theorem vertex?_addEdge (graph : Graph) (mem cpu : Endpoint) (node : NodeId) :
    (graph.addEdge mem cpu).vertex? node =
      ((graph.attach mem cpu).attach cpu mem).vertex? node := rfl

@[simp] theorem edges_addPort (graph : Graph) (node : NodeId) (side : Side) :
    (graph.addPort node side).edges = graph.edges := rfl

@[simp] theorem edges_withNode (graph : Graph) (node : Node) :
    (graph.withNode node).edges = graph.edges := rfl

@[simp] theorem edges_addEdge (graph : Graph) (mem cpu : Endpoint) :
    (graph.addEdge mem cpu).edges = graph.edges.push ⟨mem, cpu⟩ := rfl

@[simp] theorem size_withNode (graph : Graph) (node : Node) :
    (graph.withNode node).size = graph.size + 1 := by
  simp [withNode, size]

@[simp] theorem size_addPort (graph : Graph) (node : NodeId) (side : Side) :
    (graph.addPort node side).size = graph.size := by
  simp [addPort, size]

@[simp] theorem size_addEdge (graph : Graph) (mem cpu : Endpoint) :
    (graph.addEdge mem cpu).size = graph.size := by
  simp [addEdge, attach, size]

/-! ## Peers -/

theorem peer?_eq (graph : Graph) (endpoint : Endpoint) :
    graph.peer? endpoint = (graph.vertex? endpoint.node).bind fun vertex =>
      (vertex.ports endpoint.side)[endpoint.index]?.join := by
  rw [peer?]
  cases graph.vertex? endpoint.node with
  | none => rfl
  | some vertex =>
      rw [Option.bind_some]
      exact Option.bind_id_eq_join

theorem peer?_of_vertex? {graph : Graph} {endpoint : Endpoint} {vertex : Vertex}
    (found : graph.vertex? endpoint.node = some vertex) :
    graph.peer? endpoint = (vertex.ports endpoint.side)[endpoint.index]?.join := by
  rw [peer?_eq, found, Option.bind_some]

theorem hasEndpoint_eq_true_iff (graph : Graph) (endpoint : Endpoint) :
    graph.hasEndpoint endpoint = true ↔
      ∃ vertex, graph.vertex? endpoint.node = some vertex ∧
        endpoint.index < (vertex.ports endpoint.side).size := by
  rw [hasEndpoint]
  cases graph.vertex? endpoint.node <;> simp

theorem hasEndpoint_of_peer? {graph : Graph} {endpoint peer : Endpoint}
    (joined : graph.peer? endpoint = some peer) : graph.hasEndpoint endpoint = true := by
  rw [peer?_eq, Option.bind_eq_some_iff] at joined
  rcases joined with ⟨vertex, found, port⟩
  rw [hasEndpoint_eq_true_iff]
  refine ⟨vertex, found, ?_⟩
  rw [Option.join_eq_some_iff] at port
  exact (Array.getElem?_eq_some_iff.mp port).1

theorem peer?_withNode (graph : Graph) (added : Node) (endpoint : Endpoint) :
    (graph.withNode added).peer? endpoint = graph.peer? endpoint := by
  rw [peer?_eq, peer?_eq, vertex?_withNode]
  split
  case isTrue fresh =>
    have missing : graph.vertex? endpoint.node = none := by
      rw [vertex?, Array.getElem?_eq_none_iff]
      exact Nat.le_of_eq fresh.symm
    rw [missing]
    rw [Option.bind_some, Option.bind_none, Vertex.ports_ofNode, Vertex.firstPorts]
    split
    · cases endpoint.index <;> simp
    · simp
  case isFalse old => rfl

theorem peer?_addPort (graph : Graph) (changed : NodeId) (side : Side) (endpoint : Endpoint) :
    (graph.addPort changed side).peer? endpoint = graph.peer? endpoint := by
  rw [peer?_eq, peer?_eq, vertex?_addPort]
  split
  case isTrue same =>
    cases graph.vertex? endpoint.node with
    | none => rfl
    | some vertex =>
        by_cases sameSide : endpoint.side = side
        · simp only [Option.map_some, Option.bind_some, sameSide, Vertex.ports_modifyPorts_same,
            Array.getElem?_push]
          split
          case isTrue last => simp [last]
          case isFalse => rfl
        · simp only [Option.map_some, Option.bind_some,
            Vertex.ports_modifyPorts_other vertex sameSide]
  case isFalse => rfl

theorem peer?_attach (graph : Graph) (endpoint peer other : Endpoint) :
    (graph.attach endpoint peer).peer? other =
      if other = endpoint ∧ graph.hasEndpoint endpoint = true then some peer
      else graph.peer? other := by
  rw [peer?_eq, peer?_eq, vertex?_attach]
  by_cases sameNode : other.node = endpoint.node
  · rw [if_pos sameNode, sameNode]
    rw [hasEndpoint]
    cases graph.vertex? endpoint.node with
    | none => simp
    | some vertex =>
        by_cases sameSide : other.side = endpoint.side
        · simp only [Option.map_some, Option.bind_some, sameSide,
            Vertex.ports_modifyPorts_same, Array.getElem?_setIfInBounds, decide_eq_true_eq]
          by_cases sameIndex : endpoint.index = other.index
          · have same : other = endpoint := by cases other; cases endpoint; simp_all
            by_cases inside : endpoint.index < (vertex.ports endpoint.side).size
            · simp [same, inside]
            · simp [same, inside]
          · have different : other ≠ endpoint := fun equal => sameIndex (equal ▸ rfl)
            simp [different, sameIndex]
        · have different : other ≠ endpoint := fun equal => sameSide (equal ▸ rfl)
          simp [different, Vertex.ports_modifyPorts_other vertex sameSide]
  · have different : other ≠ endpoint := fun equal => sameNode (equal ▸ rfl)
    simp [different, sameNode]

theorem hasEndpoint_attach (graph : Graph) (endpoint peer other : Endpoint) :
    (graph.attach endpoint peer).hasEndpoint other = graph.hasEndpoint other := by
  rw [hasEndpoint, hasEndpoint, vertex?_attach]
  by_cases sameNode : other.node = endpoint.node
  · rw [if_pos sameNode]
    cases graph.vertex? other.node with
    | none => rfl
    | some vertex =>
        by_cases sameSide : other.side = endpoint.side
        · simp [sameSide]
        · simp [Vertex.ports_modifyPorts_other vertex sameSide]
  · rw [if_neg sameNode]

/-- Joining two ports changes the peers of these two ports only. -/
theorem peer?_addEdge (graph : Graph) {mem cpu : Endpoint} (hasMem : graph.hasEndpoint mem = true)
    (hasCpu : graph.hasEndpoint cpu = true) (other : Endpoint) :
    (graph.addEdge mem cpu).peer? other =
      if other = cpu then some mem else if other = mem then some cpu else graph.peer? other := by
  change ((graph.attach mem cpu).attach cpu mem).peer? other = _
  rw [peer?_attach, peer?_attach, hasEndpoint_attach]
  simp [hasMem, hasCpu]

/-! ## Neighbours -/

theorem neighbours_of_vertex? {graph : Graph} {node : NodeId} {vertex : Vertex} (side : Side)
    (found : graph.vertex? node = some vertex) :
    graph.neighbours node side = vertex.neighbours side := by
  rw [neighbours, found]
  rfl

theorem neighbours_withNode (graph : Graph) (added : Node) (node : NodeId) (side : Side) :
    (graph.withNode added).neighbours node side = graph.neighbours node side := by
  rw [neighbours, neighbours, vertex?_withNode]
  by_cases fresh : node.index = graph.size
  · rw [if_pos fresh]
    have missing : graph.vertex? node = none := by
      rw [vertex?, Array.getElem?_eq_none_iff]
      exact Nat.le_of_eq fresh.symm
    rw [missing]
    exact Vertex.neighbours_ofNode added side
  · rw [if_neg fresh]

theorem neighbours_addPort (graph : Graph) (changed node : NodeId) (side other : Side) :
    (graph.addPort changed side).neighbours node other = graph.neighbours node other := by
  rw [neighbours, neighbours, vertex?_addPort]
  by_cases same : node = changed
  · rw [if_pos same]
    cases graph.vertex? node with
    | none => rfl
    | some vertex =>
        by_cases sameSide : other = side
        · simp [sameSide]
        · simp [Vertex.ports_modifyPorts_other vertex sameSide]
  · rw [if_neg same]

theorem neighbours_attach_last (graph : Graph) {endpoint : Endpoint} (peer : Endpoint)
    {vertex : Vertex} {earlier : List (Option Endpoint)}
    (found : graph.vertex? endpoint.node = some vertex)
    (ports : (vertex.ports endpoint.side).toList = earlier ++ [none])
    (last : endpoint.index = earlier.length) (node : NodeId) (side : Side) :
    (graph.attach endpoint peer).neighbours node side =
      graph.neighbours node side ++
        if node = endpoint.node ∧ side = endpoint.side then [peer.node] else [] := by
  rw [neighbours, neighbours, vertex?_attach]
  by_cases sameNode : node = endpoint.node
  · subst sameNode
    rw [if_pos rfl, found]
    by_cases sameSide : side = endpoint.side
    · subst sameSide
      simp [ports, last]
    · simp [sameSide, Vertex.ports_modifyPorts_other vertex sameSide]
  · simp [sameNode]

end Graph

end MemoryFabric
