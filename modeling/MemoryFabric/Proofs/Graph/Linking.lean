import MemoryFabric.Proofs.Graph.Soundness

/-! Wiring steps that succeed. A node offers a port if it has the side and the
side is a crossbar's or still unconnected; two nodes that offer their ports can
be linked, and nothing but their neighbours changes. -/

namespace MemoryFabric.Graph

def Offers (graph : Graph) (node : NodeId) (side : Side) : Prop :=
  ∃ vertex, graph.vertex? node = some vertex ∧ vertex.node.kind.hasSide side = true ∧
    (vertex.node.kind.isVector side = true ∨ graph.neighbours node side = [])

/-- What a port call leaves behind: an unconnected port, the last of its side. -/
structure Offered (graph next : Graph) (endpoint : Endpoint) : Prop where
  sound : next.Sound
  free : next.peer? endpoint = none
  has : next.hasEndpoint endpoint = true
  last : ∃ vertex earlier, next.vertex? endpoint.node = some vertex ∧
    (vertex.ports endpoint.side).toList = earlier ++ [none] ∧ endpoint.index = earlier.length
  others : ∀ node, node ≠ endpoint.node → next.vertex? node = graph.vertex? node
  nodes : ∀ node, next.node? node = graph.node? node
  neighbours : ∀ node side, next.neighbours node side = graph.neighbours node side
  size : next.size = graph.size
  edges : next.edges = graph.edges

theorem node?_eq (graph : Graph) (node : NodeId) :
    graph.node? node = (graph.vertex? node).map (·.node) := rfl

theorem index_lt_size_of_node? {graph : Graph} {node : NodeId} {found : Node}
    (foundNode : graph.node? node = some found) : node.index < graph.size := by
  rcases Option.map_eq_some_iff.mp foundNode with ⟨vertex, foundVertex, -⟩
  exact index_lt_size_of_vertex? foundVertex

theorem index_lt_size_of_kind? {graph : Graph} {node : NodeId} {kind : NodeKind}
    (found : graph.kind? node = some kind) : node.index < graph.size := by
  rcases Option.map_eq_some_iff.mp found with ⟨vertex, foundNode, -⟩
  exact index_lt_size_of_node? foundNode

theorem getElem?_nodes (graph : Graph) (index : Nat) :
    graph.nodes[index]? = (graph.node? ⟨index⟩).map fun node => (⟨index⟩, node) := by
  rw [nodes, List.getElem?_mapIdx, Array.getElem?_toList, node?_eq, Option.map_map]
  rfl

theorem length_nodes (graph : Graph) : graph.nodes.length = graph.size := by
  rw [nodes, List.length_mapIdx, Array.length_toList, size]

theorem mem_nodes_iff (graph : Graph) (id : NodeId) (node : Node) :
    (id, node) ∈ graph.nodes ↔ graph.node? id = some node := by
  simp only [List.mem_iff_getElem?, getElem?_nodes, Option.map_eq_some_iff, Prod.mk.injEq]
  constructor
  · rintro ⟨index, found, same, rfl, rfl⟩
    exact same
  · intro found
    exact ⟨id.index, node, found, rfl, rfl⟩

theorem find?_nameOf {graph : Graph} (distinct : (graph.nodes.map (·.2.name)).Nodup)
    {node : NodeId} (inside : node.index < graph.size) :
    graph.find? (graph.nameOf node) = some node := by
  rcases exists_vertex?_of_lt_size inside with ⟨vertex, found⟩
  have named : graph.nameOf node = vertex.node.name := by
    rw [nameOf, node?_eq, found, Option.map_some]
  have read : ∀ index : Nat, (graph.nodes.map (·.2.name))[index]? =
      (graph.vertices[index]?).map (·.node.name) := by
    intro index
    rw [List.getElem?_map, getElem?_nodes, node?_eq, Option.map_map, Option.map_map]
    rfl
  rw [find?, named, Option.map_eq_some_iff]
  refine ⟨node.index, ?_, rfl⟩
  rw [vertex?, Array.getElem?_eq_some_iff] at found
  rw [Array.findIdx?_eq_some_iff_getElem]
  refine ⟨found.1, ?_, ?_⟩
  · rw [found.2, beq_iff_eq]
  · intro earlier before same
    have inEarlier : earlier < graph.vertices.size := Nat.lt_trans before inside
    rw [beq_iff_eq, ← found.2] at same
    have equal : (graph.nodes.map (·.2.name))[earlier]? =
        (graph.nodes.map (·.2.name))[node.index]? := by
      rw [read, read, Array.getElem?_eq_getElem inEarlier, Array.getElem?_eq_getElem found.1,
        Option.map_some, Option.map_some, same]
    rw [← size, ← length_nodes, ← List.length_map] at inEarlier
    exact Nat.ne_of_lt before ((List.getElem?_inj inEarlier distinct).mp equal)

theorem node?_addPort (graph : Graph) (changed : NodeId) (side : Side) (node : NodeId) :
    (graph.addPort changed side).node? node = graph.node? node := by
  rw [node?_eq, node?_eq, vertex?_addPort]
  split
  · cases graph.vertex? node <;> simp
  · rfl

theorem node?_addEdge (graph : Graph) (mem cpu : Endpoint) (node : NodeId) :
    (graph.addEdge mem cpu).node? node = graph.node? node := by
  rw [node?_eq, node?_eq, vertex?_addEdge, vertex?_attach, vertex?_attach]
  cases graph.vertex? node with
  | none => split <;> split <;> rfl
  | some vertex => split <;> split <;> simp

theorem node?_withNode (graph : Graph) (added : Node) (node : NodeId) :
    (graph.withNode added).node? node =
      if node.index = graph.size then some added else graph.node? node := by
  rw [node?_eq, node?_eq, vertex?_withNode]
  split <;> rfl

theorem ports_eq_of_scalar {graph : Graph} (sound : graph.Sound) {node : NodeId} {side : Side}
    {vertex : Vertex} (found : graph.vertex? node = some vertex)
    (hasSide : vertex.node.kind.hasSide side = true)
    (scalar : vertex.node.kind.isVector side = false) :
    ∃ port, (vertex.ports side).toList = [port] := by
  have size := sound.scalar_ports node vertex side found scalar
  rw [Vertex.firstPorts, if_pos (by simp [hasSide, scalar])] at size
  exact List.length_eq_one_iff.mp (by simpa using size)

theorem port_of_scalar {graph : Graph} (sound : graph.Sound) {node : NodeId} {side : Side}
    {vertex : Vertex} (found : graph.vertex? node = some vertex)
    (hasSide : vertex.node.kind.hasSide side = true)
    (scalar : vertex.node.kind.isVector side = false)
    (unconnected : graph.neighbours node side = []) :
    Graph.port node side graph = .ok ⟨node, side, 0⟩ graph ∧
      Offered graph graph ⟨node, side, 0⟩ := by
  constructor
  · simp [Graph.port, found, hasSide, scalar]
  · rcases ports_eq_of_scalar sound found hasSide scalar with ⟨port, ports⟩
    have empty : port = none := by
      rw [neighbours_of_vertex? side found, Vertex.neighbours, ports] at unconnected
      cases port with
      | none => rfl
      | some peer => simp at unconnected
    subst empty
    have size : (vertex.ports side).size = 1 := by
      rw [← Array.length_toList, ports]
      rfl
    exact {
      sound
      free := by
        rw [peer?_of_vertex? found, ← Array.getElem?_toList, ports]
        rfl
      has := (hasEndpoint_eq_true_iff _ _).mpr ⟨vertex, found, by simp [size]⟩
      last := ⟨vertex, [], found, ports, rfl⟩
      others := fun _ _ => rfl
      nodes := fun _ => rfl
      neighbours := fun _ _ => rfl
      size := rfl
      edges := rfl }

theorem port_of_vector {graph : Graph} (sound : graph.Sound) {node : NodeId} {side : Side}
    {vertex : Vertex} (found : graph.vertex? node = some vertex)
    (hasSide : vertex.node.kind.hasSide side = true)
    (vector : vertex.node.kind.isVector side = true) :
    Graph.port node side graph =
        .ok ⟨node, side, (vertex.ports side).size⟩ (graph.addPort node side) ∧
      Offered graph (graph.addPort node side) ⟨node, side, (vertex.ports side).size⟩ := by
  have foundNext : (graph.addPort node side).vertex? node =
      some (vertex.modifyPorts side (·.push none)) := by
    rw [vertex?_addPort, if_pos rfl, found, Option.map_some]
  constructor
  · simp [Graph.port, found, hasSide, vector]
  · exact {
      sound := sound.addPort found vector
      free := by
        rw [peer?_addPort, peer?_of_vertex? found]
        simp
      has := (hasEndpoint_eq_true_iff _ _).mpr ⟨_, foundNext, by simp⟩
      last := ⟨_, (vertex.ports side).toList, foundNext, by simp, by simp⟩
      others := fun other different => by
        rw [vertex?_addPort, if_neg different]
      nodes := node?_addPort graph node side
      neighbours := fun other otherSide => neighbours_addPort graph node other side otherSide
      size := size_addPort graph node side
      edges := rfl }

theorem exists_port {graph : Graph} (sound : graph.Sound) {node : NodeId} {side : Side}
    (offers : graph.Offers node side) :
    ∃ index next, Graph.port node side graph = .ok ⟨node, side, index⟩ next ∧
      Offered graph next ⟨node, side, index⟩ := by
  rcases offers with ⟨vertex, found, hasSide, vector | unconnected⟩
  · exact ⟨_, _, port_of_vector sound found hasSide vector⟩
  · cases vector : vertex.node.kind.isVector side with
    | true => exact ⟨_, _, port_of_vector sound found hasSide vector⟩
    | false => exact ⟨_, _, port_of_scalar sound found hasSide vector unconnected⟩

theorem connect_of_joinable {graph : Graph} {mem cpu : Endpoint}
    (joinable : graph.Joinable mem cpu) :
    Graph.connect mem cpu graph = .ok () (graph.addEdge mem cpu) := by
  have sides : ¬(mem.side = cpu.side ∨ mem.node = cpu.node) := by
    simp [joinable.mem_side, joinable.cpu_side, joinable.apart]
  have noFault : graph.connectionFault? mem cpu = none := by
    simp [connectionFault?, joinable.mem_free, joinable.cpu_free]
  rw [Graph.connect, if_neg (by simp [joinable.has_mem]), if_neg (by simp [joinable.has_cpu]),
    if_neg sides, if_neg (by simp [joinable.mem_free]), noFault, joinable.mem_side]

theorem neighbours_addEdge_last {graph : Graph} {mem cpu : Endpoint} (apart : mem.node ≠ cpu.node)
    {upper lower : Vertex} {upperPorts lowerPorts : List (Option Endpoint)}
    (foundUpper : graph.vertex? mem.node = some upper)
    (foundLower : graph.vertex? cpu.node = some lower)
    (memPorts : (upper.ports mem.side).toList = upperPorts ++ [none])
    (memLast : mem.index = upperPorts.length)
    (cpuPorts : (lower.ports cpu.side).toList = lowerPorts ++ [none])
    (cpuLast : cpu.index = lowerPorts.length) (node : NodeId) (side : Side) :
    (graph.addEdge mem cpu).neighbours node side =
      graph.neighbours node side ++
        (if node = mem.node ∧ side = mem.side then [cpu.node] else []) ++
        (if node = cpu.node ∧ side = cpu.side then [mem.node] else []) := by
  have foundStill : (graph.attach mem cpu).vertex? cpu.node = some lower := by
    rw [vertex?_attach, if_neg apart.symm, foundLower]
  change ((graph.attach mem cpu).attach cpu mem).neighbours node side = _
  rw [neighbours_attach_last _ mem foundStill cpuPorts cpuLast,
    neighbours_attach_last graph cpu foundUpper memPorts memLast]

structure Linked (graph next : Graph) (upper lower : NodeId) : Prop where
  sound : next.Sound
  nodes : ∀ node, next.node? node = graph.node? node
  neighbours : ∀ node side, next.neighbours node side =
    graph.neighbours node side ++ (if node = upper ∧ side = .mem then [lower] else []) ++
      (if node = lower ∧ side = .cpu then [upper] else [])
  size : next.size = graph.size
  edges : next.edges.size = graph.edges.size + 1

theorem exists_link {graph : Graph} (sound : graph.Sound) {upper lower : NodeId}
    (apart : upper ≠ lower) (offersMem : graph.Offers upper .mem)
    (offersCpu : graph.Offers lower .cpu) :
    ∃ next, Graph.link upper lower graph = .ok () next ∧ Linked graph next upper lower := by
  rcases exists_port sound offersMem with ⟨memIndex, first, memPort, memOffered⟩
  have offersCpuStill : first.Offers lower .cpu := by
    rcases offersCpu with ⟨vertex, found, hasSide, available⟩
    refine ⟨vertex, ?_, hasSide, ?_⟩
    · rw [memOffered.others lower apart.symm, found]
    · rw [memOffered.neighbours]
      exact available
  rcases exists_port memOffered.sound offersCpuStill with ⟨cpuIndex, second, cpuPort, cpuOffered⟩
  have upperStill : second.vertex? upper = first.vertex? upper := cpuOffered.others upper apart
  rcases memOffered.last with ⟨upperVertex, upperPorts, foundUpper, memPorts, memLast⟩
  rcases cpuOffered.last with ⟨lowerVertex, lowerPorts, foundLower, cpuPorts, cpuLast⟩
  have joinable : second.Joinable ⟨upper, .mem, memIndex⟩ ⟨lower, .cpu, cpuIndex⟩ := {
    mem_side := rfl
    cpu_side := rfl
    apart
    has_mem := by
      rw [hasEndpoint, upperStill]
      exact memOffered.has
    has_cpu := cpuOffered.has
    mem_free := by
      rw [peer?_of_vertex? (upperStill.trans foundUpper), ← peer?_of_vertex? foundUpper]
      exact memOffered.free
    cpu_free := cpuOffered.free }
  refine ⟨_, ?_, cpuOffered.sound.addEdge joinable, ?_, ?_, ?_, ?_⟩
  · rw [link, Wiring.bind_of_ok memPort, Wiring.bind_of_ok cpuPort]
    exact connect_of_joinable joinable
  · intro node
    rw [node?_addEdge, cpuOffered.nodes, memOffered.nodes]
  · intro node side
    rw [neighbours_addEdge_last apart (upperStill.trans foundUpper) foundLower memPorts memLast
      cpuPorts cpuLast, cpuOffered.neighbours, memOffered.neighbours]
  · rw [size_addEdge, cpuOffered.size, memOffered.size]
  · rw [edges_addEdge, Array.size_push, cpuOffered.edges, memOffered.edges]

end MemoryFabric.Graph
