import MemoryFabric.Graph.Basic

/-! The first check of a fabric: no port is an end of two different edges. -/

namespace MemoryFabric.Check

abbrev Connections := List (Endpoint × Endpoint)

/-- Notes that `endpoint` is joined to `peer`, unless it was seen joined elsewhere. -/
def note (graph : Graph) (endpoint peer : Endpoint) (seen : Connections) :
    Except Fault Connections :=
  match seen.find? (·.1 == endpoint) with
  | some (_, known) =>
      if known = peer then .ok seen
      else .error (.endpointAlreadyConnected (graph.describe endpoint) (graph.describe known))
  | none => .ok ((endpoint, peer) :: seen)

def noteEdge (graph : Graph) (seen : Connections) (edge : Edge) : Except Fault Connections := do
  let seen ← note graph edge.mem edge.cpu seen
  note graph edge.cpu edge.mem seen

/-- Every port is an end of at most one edge. -/
def singlePeer (graph : Graph) : Except Fault Unit := do
  let _ ← graph.edges.toList.foldlM (noteEdge graph) []
  return ()

end MemoryFabric.Check
