import MemoryFabric.Address.Predicate

/-! Segments: a range cut wherever one of several predicates begins or ends, so
that every predicate's range holds a segment whole or not at all. -/

namespace MemoryFabric.Check

def insertAscending (address : UInt64) : List UInt64 → List UInt64
  | [] => [address]
  | head :: rest =>
      if address < head then address :: head :: rest
      else if address = head then head :: rest
      else head :: insertAscending address rest

def ascending (addresses : List UInt64) : List UInt64 :=
  addresses.foldr insertAscending []

def bounds (predicate : AddressPredicate) : List UInt64 :=
  [predicate.window.base, predicate.window.stop]

/-- The ends of a range and the bounds of predicates strictly between them. -/
def cuts (range : AddressRange) (predicates : List AddressPredicate) : List UInt64 :=
  let inner := (predicates.flatMap bounds).filter fun bound =>
    range.base < bound && bound < range.stop
  ascending (range.base :: range.stop :: inner)

def segments (range : AddressRange) (predicates : List AddressPredicate) : List AddressRange :=
  let points := cuts range predicates
  (points.zip points.tail).filterMap fun bounds => AddressRange.ofBounds? bounds.1 bounds.2

end MemoryFabric.Check
