import MemoryFabric.Check.Segments
import MemoryFabric.Graph.Basic

/-! The third check of a fabric: the controllers directly below the system bus
serve every advertised address. Inside a segment only the fixed bits of the
predicates matter. A field whose every value is claimed covers its segment;
otherwise the first address that agrees with none of the patterns is searched
for, as long as they fix few enough bits. -/

namespace MemoryFabric.Check

def greatestFixedBits : Nat := 20

/-- Every value of one field occurs among the patterns. -/
def hasCompleteField (patterns : List BitPattern) : Bool :=
  (patterns.map (·.mask)).eraseDups.any fun mask =>
    let values := (patterns.filter (·.mask == mask)).map (·.value)
    let width := BitPattern.bitCount 64 mask
    width < 64 && values.eraseDups.length == 1 <<< width

def fixedBits (patterns : List BitPattern) : Nat :=
  BitPattern.bitCount 64 (patterns.foldl (fun mask pattern => mask ||| pattern.mask) 0)

/-- The first address of a segment that none of the predicates accepts, all of
which span the segment. -/
def firstUncovered (segment : AddressRange) (active : List AddressPredicate) :
    Except Fault (Option UInt64) :=
  let patterns := active.map (·.pattern)
  if hasCompleteField patterns then .ok none
  else if fixedBits patterns > greatestFixedBits then
    misconfigured (.tooManyFieldBits (fixedBits patterns) segment greatestFixedBits)
  else
    .ok (((BitPattern.firstOutside patterns 64 segment.base.toNat).map UInt64.ofNat).filter
      (· < segment.stop))

def servedBelow (graph : Graph) (bus : NodeId) : List AddressPredicate :=
  (graph.downstream bus).filterMap fun node =>
    match graph.kind? node with
    | some (.controller controller) => some controller.predicate
    | _ => none

def coveredSegment (graph : Graph) (bus : NodeId) (served : List AddressPredicate)
    (range segment : AddressRange) : Except Fault Unit := do
  match ← firstUncovered segment (served.filter (·.window.containsRange segment)) with
  | some address => .error (.addressSpaceGap (graph.nameOf bus) range address)
  | none => .ok ()

/-- The controllers directly below the system bus serve all advertised ranges. -/
def coverage (graph : Graph) (bus : NodeId) (advertised : List AddressRange) :
    Except Fault Unit :=
  let served := servedBelow graph bus
  advertised.forM fun range =>
    (segments range served).forM fun segment => coveredSegment graph bus served range segment

end MemoryFabric.Check
