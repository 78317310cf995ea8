import MemoryFabric.Proofs.Graph.Ports

/-! What holds of every fabric that was wired step by step: connections go both
ways, join opposite sides of different nodes, and are listed once as edges. -/

namespace MemoryFabric.Graph

/-- Only crossbars have more ports than they had from the start. -/
def ScalarPorts (graph : Graph) : Prop :=
  ∀ node vertex side, graph.vertex? node = some vertex →
    vertex.node.kind.isVector side = false →
      (vertex.ports side).size = (Vertex.firstPorts vertex.node.kind side).size

structure Sound (graph : Graph) : Prop where
  scalar_ports : graph.ScalarPorts
  symmetric : ∀ endpoint peer, graph.peer? endpoint = some peer →
    graph.peer? peer = some endpoint
  opposite : ∀ endpoint peer, graph.peer? endpoint = some peer →
    peer.side = endpoint.side.opposite
  apart : ∀ endpoint peer, graph.peer? endpoint = some peer → peer.node ≠ endpoint.node
  mem_edges : ∀ edge, edge ∈ graph.edges.toList ↔
    edge.mem.side = .mem ∧ graph.peer? edge.mem = some edge.cpu
  edges_nodup : graph.edges.toList.Nodup

structure Joinable (graph : Graph) (mem cpu : Endpoint) : Prop where
  mem_side : mem.side = .mem
  cpu_side : cpu.side = .cpu
  apart : mem.node ≠ cpu.node
  has_mem : graph.hasEndpoint mem = true
  has_cpu : graph.hasEndpoint cpu = true
  mem_free : graph.peer? mem = none
  cpu_free : graph.peer? cpu = none

theorem peer?_empty (endpoint : Endpoint) : empty.peer? endpoint = none := by
  simp [peer?_eq, vertex?, empty]

theorem sound_empty : empty.Sound where
  scalar_ports node vertex side found := by simp [vertex?, empty] at found
  symmetric endpoint peer joined := by simp [peer?_empty] at joined
  opposite endpoint peer joined := by simp [peer?_empty] at joined
  apart endpoint peer joined := by simp [peer?_empty] at joined
  mem_edges edge := by
    rw [peer?_empty]
    simp [empty]
  edges_nodup := .nil

namespace Sound

variable {graph : Graph}

theorem of_same_peers (sound : graph.Sound) {changed : Graph}
    (peers : ∀ endpoint, changed.peer? endpoint = graph.peer? endpoint)
    (edges : changed.edges = graph.edges) (scalar_ports : changed.ScalarPorts) :
    changed.Sound where
  scalar_ports := scalar_ports
  symmetric endpoint peer := by
    rw [peers, peers]
    exact sound.symmetric endpoint peer
  opposite endpoint peer := by
    rw [peers]
    exact sound.opposite endpoint peer
  apart endpoint peer := by
    rw [peers]
    exact sound.apart endpoint peer
  mem_edges edge := by
    rw [peers, edges]
    exact sound.mem_edges edge
  edges_nodup := by
    rw [edges]
    exact sound.edges_nodup

theorem withNode (sound : graph.Sound) (node : Node) : (graph.withNode node).Sound := by
  apply sound.of_same_peers (peer?_withNode graph node) (edges_withNode graph node)
  intro other vertex side found scalar
  rw [vertex?_withNode] at found
  split at found
  case isTrue =>
    cases found
    rw [Vertex.ports_ofNode, Vertex.node_ofNode]
  case isFalse => exact sound.scalar_ports other vertex side found scalar

theorem addPort (sound : graph.Sound) {node : NodeId} {side : Side} {vertex : Vertex}
    (found : graph.vertex? node = some vertex)
    (vector : vertex.node.kind.isVector side = true) : (graph.addPort node side).Sound := by
  apply sound.of_same_peers (peer?_addPort graph node side) (edges_addPort graph node side)
  intro other changed otherSide foundOther scalar
  rw [vertex?_addPort] at foundOther
  by_cases same : other = node
  · subst same
    rw [if_pos rfl, found, Option.map_some, Option.some.injEq] at foundOther
    subst foundOther
    rw [Vertex.node_modifyPorts] at scalar
    have different : otherSide ≠ side := by
      rintro rfl
      rw [vector] at scalar
      cases scalar
    rw [Vertex.ports_modifyPorts_other vertex different, Vertex.node_modifyPorts]
    exact sound.scalar_ports other vertex otherSide found scalar
  · rw [if_neg same] at foundOther
    exact sound.scalar_ports other changed otherSide foundOther scalar

end Sound

theorem ScalarPorts.attach {graph : Graph} (scalar_ports : graph.ScalarPorts)
    (endpoint peer : Endpoint) : (graph.attach endpoint peer).ScalarPorts := by
  intro node vertex side found scalar
  rw [vertex?_attach] at found
  split at found
  case isTrue same =>
    rcases Option.map_eq_some_iff.mp found with ⟨old, foundOld, rfl⟩
    rw [Vertex.node_modifyPorts] at scalar ⊢
    rw [← scalar_ports node old side foundOld scalar]
    by_cases sameSide : side = endpoint.side
    · subst sameSide
      rw [Vertex.ports_modifyPorts_same, Array.size_setIfInBounds]
    · rw [Vertex.ports_modifyPorts_other old sameSide]
  case isFalse => exact scalar_ports node vertex side found scalar

theorem Joinable.different {graph : Graph} {mem cpu : Endpoint}
    (joinable : graph.Joinable mem cpu) : mem ≠ cpu :=
  fun equal => joinable.apart (congrArg Endpoint.node equal)

theorem Joinable.peer?_addEdge_cases {graph : Graph} {mem cpu endpoint peer : Endpoint}
    (joinable : graph.Joinable mem cpu)
    (joined : (graph.addEdge mem cpu).peer? endpoint = some peer) :
    (endpoint = mem ∧ peer = cpu) ∨ (endpoint = cpu ∧ peer = mem) ∨
      (endpoint ≠ mem ∧ endpoint ≠ cpu ∧ graph.peer? endpoint = some peer) := by
  rw [peer?_addEdge graph joinable.has_mem joinable.has_cpu] at joined
  split at joined
  case isTrue atCpu =>
    cases joined
    exact Or.inr (Or.inl ⟨atCpu, rfl⟩)
  case isFalse notCpu =>
    split at joined
    case isTrue atMem =>
      cases joined
      exact Or.inl ⟨atMem, rfl⟩
    case isFalse notMem => exact Or.inr (Or.inr ⟨notMem, notCpu, joined⟩)

theorem Joinable.ne_cpu {graph : Graph} {mem cpu endpoint : Endpoint}
    (joinable : graph.Joinable mem cpu) (side : endpoint.side = .mem) : endpoint ≠ cpu := by
  rintro rfl
  rw [joinable.cpu_side] at side
  cases side

theorem Joinable.mem_edges_addEdge {graph : Graph} {mem cpu : Endpoint}
    (joinable : graph.Joinable mem cpu) (sound : graph.Sound) (edge : Edge) :
    edge ∈ (graph.addEdge mem cpu).edges.toList ↔
      edge.mem.side = .mem ∧ (graph.addEdge mem cpu).peer? edge.mem = some edge.cpu := by
  rw [edges_addEdge, Array.toList_push, List.mem_append, List.mem_singleton, sound.mem_edges,
    peer?_addEdge graph joinable.has_mem joinable.has_cpu]
  constructor
  · rintro (⟨side, old⟩ | rfl)
    · have notMem : edge.mem ≠ mem := by
        intro equal
        rw [equal, joinable.mem_free] at old
        cases old
      rw [if_neg (joinable.ne_cpu side), if_neg notMem]
      exact ⟨side, old⟩
    · rw [if_neg joinable.different, if_pos rfl]
      exact ⟨joinable.mem_side, rfl⟩
  · rintro ⟨side, joined⟩
    rw [if_neg (joinable.ne_cpu side)] at joined
    split at joined
    case isTrue atMem =>
      cases joined
      exact Or.inr (by cases edge; simp_all)
    case isFalse => exact Or.inl ⟨side, joined⟩

theorem Sound.addEdge {graph : Graph} (sound : graph.Sound) {mem cpu : Endpoint}
    (joinable : graph.Joinable mem cpu) : (graph.addEdge mem cpu).Sound where
  scalar_ports := (sound.scalar_ports.attach mem cpu).attach cpu mem
  symmetric endpoint peer joined := by
    rw [peer?_addEdge graph joinable.has_mem joinable.has_cpu]
    rcases joinable.peer?_addEdge_cases joined with
      ⟨rfl, rfl⟩ | ⟨rfl, rfl⟩ | ⟨notMem, notCpu, old⟩
    · rw [if_pos rfl]
    · rw [if_neg joinable.different, if_pos rfl]
    · -- A port at the other end of an old connection is not one of the two free ones.
      have back := sound.symmetric endpoint peer old
      have peerNotCpu : peer ≠ cpu := by
        rintro rfl
        rw [joinable.cpu_free] at back
        cases back
      have peerNotMem : peer ≠ mem := by
        rintro rfl
        rw [joinable.mem_free] at back
        cases back
      rw [if_neg peerNotCpu, if_neg peerNotMem]
      exact back
  opposite endpoint peer joined := by
    rcases joinable.peer?_addEdge_cases joined with
      ⟨rfl, rfl⟩ | ⟨rfl, rfl⟩ | ⟨_, _, old⟩
    · rw [joinable.mem_side, joinable.cpu_side]
      rfl
    · rw [joinable.mem_side, joinable.cpu_side]
      rfl
    · exact sound.opposite endpoint peer old
  apart endpoint peer joined := by
    rcases joinable.peer?_addEdge_cases joined with
      ⟨rfl, rfl⟩ | ⟨rfl, rfl⟩ | ⟨_, _, old⟩
    · exact joinable.apart.symm
    · exact joinable.apart
    · exact sound.apart endpoint peer old
  mem_edges := joinable.mem_edges_addEdge sound
  edges_nodup := by
    rw [edges_addEdge, Array.toList_push]
    apply List.nodup_append.mpr
    refine ⟨sound.edges_nodup, by simp, ?_⟩
    intro old oldMem added addedMem equal
    rw [List.mem_singleton] at addedMem
    have joined := ((sound.mem_edges old).mp oldMem).2
    rw [equal, addedMem, joinable.mem_free] at joined
    cases joined

end MemoryFabric.Graph
