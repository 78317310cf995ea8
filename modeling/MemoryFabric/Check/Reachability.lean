import MemoryFabric.Check.Segments
import MemoryFabric.Graph.Route

/-! The last check of a fabric: what a requestor may ask for leads to a
controller. Decisions on a route change only where a predicate begins or ends
and between the values of a field, so each segment is tried at its ends and at
the first address of every value that a predicate selects in it. -/

namespace MemoryFabric.Check

/-- The first address of a segment that has the value a predicate asks for in its
field, if the predicate fixes one and speaks of the segment. -/
def firstSelected? (segment : AddressRange) : AddressPredicate → Option UInt64
  | .whole _ => none
  | .interleaved range bits highBit matchValue =>
      if range.overlaps segment then
        (AddressPredicate.interleaved segment bits highBit matchValue).firstFrom segment.base
      else none

def decisionPoints (segment : AddressRange) (predicates : List AddressPredicate) : List UInt64 :=
  ascending (segment.base :: segment.last :: predicates.filterMap (firstSelected? segment))

def allPredicates (graph : Graph) : List AddressPredicate :=
  graph.nodes.flatMap fun node => node.2.kind.predicates?.getD []

def reachableRange (graph : Graph) (origin : NodeId) (predicates : List AddressPredicate)
    (range : AddressRange) : Except Fault Unit :=
  (segments range predicates).forM fun segment =>
    (decisionPoints segment predicates).forM fun address => do
      let _ ← graph.route origin address
      return ()

def requestedRanges : NodeKind → List AddressRange
  | .requestor requestor => requestor.ranges
  | _ => []

/-- Every range that a requestor asks for leads to a controller. -/
def reachability (graph : Graph) : Except Fault Unit :=
  let predicates := allPredicates graph
  graph.nodes.forM fun origin =>
    (requestedRanges origin.2.kind).forM (reachableRange graph origin.1 predicates)

end MemoryFabric.Check
