import MemoryFabric.Check.Coverage
import MemoryFabric.Check.Disjointness
import MemoryFabric.Check.Peers
import MemoryFabric.Check.Reachability

/-! All checks of a fabric, one after another. -/

namespace MemoryFabric.Check

/-- The first fault that any check finds. -/
def all (graph : Graph) (bus : NodeId) (advertised : List AddressRange) : Except Fault Unit := do
  singlePeer graph
  disjointness graph
  coverage graph bus advertised
  reachability graph

end MemoryFabric.Check
