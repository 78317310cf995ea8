import MemoryFabric.Graph.Basic

/-! The second check of a fabric: nodes directly below one node never accept a
common address. Predicates that fix one field over one range are disjoint
exactly if their values differ, so they are grouped and only repeats are looked
for; predicates of different groups are compared in pairs. -/

namespace MemoryFabric.Check

structure Claim where
  node : NodeId
  predicate : AddressPredicate
deriving DecidableEq

namespace Claim

def sharesField (first second : Claim) : Bool :=
  match first.predicate, second.predicate with
  | .interleaved range bits highBit _, .interleaved range' bits' highBit' _ =>
      range = range' && bits = bits' && highBit = highBit'
  | _, _ => false

def matchValue? (claim : Claim) : Option Nat :=
  match claim.predicate with
  | .whole _ => none
  | .interleaved _ _ _ matchValue => some matchValue

def repeats (first second : Claim) : Bool :=
  first.sharesField second && first.matchValue? == second.matchValue? && first.node != second.node

def coincides (first second : Claim) : Bool :=
  match first.predicate, second.predicate with
  | .interleaved range bits highBit value, .interleaved range' bits' highBit' value' =>
      bits = bits' && highBit = highBit' && value = value' && range.overlaps range'
  | _, _ => false

end Claim

def claimsBelow (graph : Graph) (parent : NodeId) : List Claim :=
  (graph.downstream parent).flatMap fun node =>
    match (graph.kind? node).bind NodeKind.predicates? with
    | some predicates => predicates.map (Claim.mk node)
    | none => []

/-- A claim joins the group whose field it shares, or begins a group. -/
def insertClaim (claim : Claim) : List (List Claim) → List (List Claim)
  | [] => [[claim]]
  | group :: rest =>
      if group.head?.any claim.sharesField then (group ++ [claim]) :: rest
      else group :: insertClaim claim rest

def groupClaims (claims : List Claim) : List (List Claim) :=
  claims.foldl (fun groups claim => insertClaim claim groups) []

def duplicate (graph : Graph) (parent : NodeId) (first second : Claim) : Fault :=
  .duplicateInterleaveMatch (graph.nameOf parent) (graph.nameOf first.node)
    (graph.nameOf second.node) (second.matchValue?.getD 0)

/-- No claim repeats one before it; `earlier` holds those, last first. -/
def noRepeats (graph : Graph) (parent : NodeId) (earlier : List Claim) :
    List Claim → Except Fault Unit
  | [] => .ok ()
  | claim :: rest =>
      match earlier.find? (·.repeats claim) with
      | some first => .error (duplicate graph parent first claim)
      | none => noRepeats graph parent (claim :: earlier) rest

def disjointPair (graph : Graph) (parent : NodeId) (first second : Claim) : Except Fault Unit :=
  if first.node = second.node then .ok ()
  else if first.coincides second then .error (duplicate graph parent first second)
  else
    match first.predicate.overlapWitness second.predicate with
    | some witness =>
        .error (.overlappingPredicates (graph.nameOf parent) (graph.nameOf first.node)
          (graph.nameOf second.node) witness)
    | none => .ok ()

def disjointGroups (graph : Graph) (parent : NodeId) : List (List Claim) → Except Fault Unit
  | [] => .ok ()
  | group :: rest => do
      rest.forM fun other =>
        group.forM fun first => other.forM fun second => disjointPair graph parent first second
      disjointGroups graph parent rest

def disjointBelow (graph : Graph) (parent : NodeId) : Except Fault Unit := do
  let claims := claimsBelow graph parent
  noRepeats graph parent [] claims
  disjointGroups graph parent (groupClaims claims)

/-- Nodes directly below any node claim disjoint sets of addresses. -/
def disjointness (graph : Graph) : Except Fault Unit :=
  graph.nodes.forM fun parent => disjointBelow graph parent.1

end MemoryFabric.Check
