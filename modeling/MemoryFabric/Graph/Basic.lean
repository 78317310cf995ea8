import MemoryFabric.Graph.Node

/-! A fabric of nodes whose ports are joined by edges. Every node keeps, for each
of its ports, the port at the other end. -/

namespace MemoryFabric

structure Vertex where
  node : Node
  cpuPorts : Array (Option Endpoint)
  memPorts : Array (Option Endpoint)
deriving DecidableEq

namespace Vertex

def ports (vertex : Vertex) : Side → Array (Option Endpoint)
  | .cpu => vertex.cpuPorts
  | .mem => vertex.memPorts

def modifyPorts (vertex : Vertex) (side : Side)
    (change : Array (Option Endpoint) → Array (Option Endpoint)) : Vertex :=
  match side with
  | .cpu => { vertex with cpuPorts := change vertex.cpuPorts }
  | .mem => { vertex with memPorts := change vertex.memPorts }

/-- The ports a side has from the start: one, or none where they are made on
demand or the node lacks the side. -/
def firstPorts (kind : NodeKind) (side : Side) : Array (Option Endpoint) :=
  if kind.hasSide side && !kind.isVector side then #[none] else #[]

def ofNode (node : Node) : Vertex where
  node
  cpuPorts := firstPorts node.kind .cpu
  memPorts := firstPorts node.kind .mem

end Vertex

structure Edge where
  mem : Endpoint
  cpu : Endpoint
deriving DecidableEq, Repr

structure Graph where
  vertices : Array Vertex
  /-- The edges in the order in which they were made. -/
  edges : Array Edge
deriving DecidableEq

namespace Graph

def empty : Graph := ⟨#[], #[]⟩

def size (graph : Graph) : Nat :=
  graph.vertices.size

def isEmpty (graph : Graph) : Bool :=
  graph.vertices.isEmpty

def vertex? (graph : Graph) (node : NodeId) : Option Vertex :=
  graph.vertices[node.index]?

def node? (graph : Graph) (node : NodeId) : Option Node :=
  (graph.vertex? node).map (·.node)

def kind? (graph : Graph) (node : NodeId) : Option NodeKind :=
  (graph.node? node).map (·.kind)

def nodes (graph : Graph) : List (NodeId × Node) :=
  graph.vertices.toList.mapIdx fun index vertex => (⟨index⟩, vertex.node)

def find? (graph : Graph) (name : String) : Option NodeId :=
  (graph.vertices.findIdx? (·.node.name == name)).map NodeId.mk

/-- The name of a node; an unknown one is shown by its number. -/
def nameOf (graph : Graph) (node : NodeId) : String :=
  match graph.node? node with
  | some found => found.name
  | none => toString node

def describe (graph : Graph) (endpoint : Endpoint) : String :=
  s!"{graph.nameOf endpoint.node}.{endpoint.side}[{endpoint.index}]"

def hasEndpoint (graph : Graph) (endpoint : Endpoint) : Bool :=
  match graph.vertex? endpoint.node with
  | some vertex => endpoint.index < (vertex.ports endpoint.side).size
  | none => false

def peer? (graph : Graph) (endpoint : Endpoint) : Option Endpoint := do
  let vertex ← graph.vertex? endpoint.node
  let port ← (vertex.ports endpoint.side)[endpoint.index]?
  port

/-- How many ports were made on demand. -/
def portCount (graph : Graph) (node : NodeId) (side : Side) : Nat :=
  match graph.vertex? node with
  | some vertex => if vertex.node.kind.isVector side then (vertex.ports side).size else 0
  | none => 0

/-- The nodes connected to one side of a node, in port order. -/
def neighbours (graph : Graph) (node : NodeId) (side : Side) : List NodeId :=
  match graph.vertex? node with
  | some vertex => (vertex.ports side).toList.filterMap fun peer => peer.map (·.node)
  | none => []

def downstream (graph : Graph) (node : NodeId) : List NodeId :=
  graph.neighbours node .mem

def upstream (graph : Graph) (node : NodeId) : List NodeId :=
  graph.neighbours node .cpu

end Graph

end MemoryFabric
