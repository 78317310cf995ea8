import MemoryFabric.Graph.Basic

/-! Building a fabric: adding nodes, making ports and joining them. A step that
fails still leaves a fabric behind. -/

namespace MemoryFabric

abbrev Wiring (α : Type) := EStateM Fault Graph α

namespace Wiring

variable {α β : Type} {action : Wiring α} {rest : α → Wiring β} {graph next : Graph}

theorem bind_of_ok {result : α} (made : action graph = .ok result next) :
    (action >>= rest) graph = rest result next := by
  change EStateM.bind action rest graph = _
  rw [EStateM.bind, made]

theorem bind_of_error {fault : Fault} (failed : action graph = .error fault next) :
    (action >>= rest) graph = .error fault next := by
  change EStateM.bind action rest graph = _
  rw [EStateM.bind, failed]

end Wiring

namespace Graph

def attach (graph : Graph) (endpoint peer : Endpoint) : Graph :=
  { graph with
    vertices := graph.vertices.modify endpoint.node.index fun vertex =>
      vertex.modifyPorts endpoint.side (·.setIfInBounds endpoint.index (some peer)) }

def addPort (graph : Graph) (node : NodeId) (side : Side) : Graph :=
  { graph with
    vertices := graph.vertices.modify node.index fun vertex =>
      vertex.modifyPorts side (·.push none) }

def addEdge (graph : Graph) (mem cpu : Endpoint) : Graph :=
  let attached := (graph.attach mem cpu).attach cpu mem
  { attached with edges := attached.edges.push ⟨mem, cpu⟩ }

def addNode (name : String) (kind : NodeKind) : Wiring NodeId := fun graph =>
  .ok ⟨graph.size⟩ { graph with vertices := graph.vertices.push (Vertex.ofNode ⟨name, kind⟩) }

/-- A port that can be connected: a new one of a crossbar, the only one of any
other node. -/
def port (node : NodeId) (side : Side) : Wiring Endpoint := fun graph =>
  match graph.vertex? node with
  | none => .error (.noSuchEndpoint (toString node) (toString side)) graph
  | some vertex =>
      if !vertex.node.kind.hasSide side then
        .error (.noSuchEndpoint vertex.node.name (toString side)) graph
      else if vertex.node.kind.isVector side then
        .ok ⟨node, side, (vertex.ports side).size⟩ (graph.addPort node side)
      else .ok ⟨node, side, 0⟩ graph

def connectionFault? (graph : Graph) (first second : Endpoint) : Option Fault :=
  [first, second].findSome? fun endpoint =>
    (graph.peer? endpoint).map fun peer =>
      .endpointAlreadyConnected (graph.describe endpoint) (graph.describe peer)

def missingEndpoint (graph : Graph) (endpoint : Endpoint) : Fault :=
  .noSuchEndpoint (graph.nameOf endpoint.node) s!"{endpoint.side}[{endpoint.index}]"

/-- Joins a memory-side port with a processor-side port of another node, given in
either order. Ports that are joined already stay as they are. -/
def connect (first second : Endpoint) : Wiring Unit := fun graph =>
  if !graph.hasEndpoint first then .error (graph.missingEndpoint first) graph
  else if !graph.hasEndpoint second then .error (graph.missingEndpoint second) graph
  else if first.side = second.side ∨ first.node = second.node then
    .error (.incompatibleEndpoints (graph.describe first) (graph.describe second)) graph
  else if graph.peer? first = some second then .ok () graph
  else
    match graph.connectionFault? first second with
    | some fault => .error fault graph
    | none =>
        match first.side with
        | .mem => .ok () (graph.addEdge first second)
        | .cpu => .ok () (graph.addEdge second first)

/-- Joins the memory side of one node with the processor side of another. Ports
that were made for it stay, also where the ends cannot be joined. -/
def link (upper lower : NodeId) : Wiring Unit := do
  let mem ← port upper .mem
  let cpu ← port lower .cpu
  connect mem cpu

end Graph

end MemoryFabric
