import Mathlib.Data.List.Sort
import MemoryFabric.Proofs.Check.Coverage
import MemoryFabric.Proofs.Check.Disjointness
import MemoryFabric.Proofs.Check.Peers
import MemoryFabric.Proofs.Graph.Rewiring

/-! The checks do not depend on the order of wiring. Predicates and claims are met in port
order, but what is found of them depends only on which ones there are. -/

namespace MemoryFabric.Check

variable {graph other : Graph} {parent bus : NodeId}

/-! ## Lists with the same members -/

theorem ascending_congr {points others : List UInt64}
    (same : ∀ point, point ∈ points ↔ point ∈ others) : ascending points = ascending others := by
  apply (ascending_ascends points).eq_of_mem_iff (ascending_ascends others)
  intro point
  rw [mem_ascending, mem_ascending, same]

section SamePredicates

variable {predicates others : List AddressPredicate}
  (same : ∀ predicate, predicate ∈ predicates ↔ predicate ∈ others)

include same

theorem segments_congr (range : AddressRange) :
    segments range predicates = segments range others := by
  have sameCuts : cuts range predicates = cuts range others := by
    apply ascending_congr
    intro point
    simp only [List.mem_cons, List.mem_filter, List.mem_flatMap, same]
  rw [segments, segments, sameCuts]

theorem complete_congr (mask : UInt64) : Complete predicates mask ↔ Complete others mask := by
  simp only [Complete, same]

theorem hasCompleteField_congr :
    hasCompleteField (predicates.map (·.pattern)) = hasCompleteField (others.map (·.pattern)) := by
  rw [Bool.eq_iff_iff, hasCompleteField_iff, hasCompleteField_iff]
  simp only [same, complete_congr same]

theorem constrainedBits_congr : constrainedBits predicates = constrainedBits others := by
  rw [constrainedBits, constrainedBits]
  congr 1
  funext position
  rw [Bool.eq_iff_iff, List.any_eq_true, List.any_eq_true]
  simp only [same]

theorem firstOutside_congr (start : Nat) :
    BitPattern.firstOutside (predicates.map (·.pattern)) 64 start =
      BitPattern.firstOutside (others.map (·.pattern)) 64 start := by
  have outside : BitPattern.Outside (predicates.map (·.pattern)) 64 =
      BitPattern.Outside (others.map (·.pattern)) 64 := by
    funext number
    simp only [BitPattern.Outside, List.mem_map, same]
  have first := BitPattern.firstOutside_isFirst (predicates.map (·.pattern)) 64 start
  rw [outside] at first
  exact first.unique (BitPattern.firstOutside_isFirst _ 64 start)

theorem firstUncovered_congr (segment : AddressRange) :
    firstUncovered segment predicates = firstUncovered segment others := by
  simp only [firstUncovered, fixedBits_eq, hasCompleteField_congr same,
    constrainedBits_congr same, firstOutside_congr same]

theorem mem_spanning_congr (segment : AddressRange) (predicate : AddressPredicate) :
    predicate ∈ spanning predicates segment ↔ predicate ∈ spanning others segment := by
  rw [spanning, spanning, List.mem_filter, List.mem_filter, same]

end SamePredicates

/-! ## The checks -/

theorem claimsBelow_congr (same : graph.SameWiring other) (sound : graph.Sound)
    (otherSound : other.Sound) (parent : NodeId) (claim : Claim) :
    claim ∈ claimsBelow graph parent ↔ claim ∈ claimsBelow other parent := by
  rw [mem_claimsBelow_iff, mem_claimsBelow_iff, Graph.Filters, Graph.Filters, same.kind?_eq,
    (same.downstream_perm sound otherSound parent).mem_iff]

theorem disjointness_congr (same : graph.SameWiring other) (sound : graph.Sound)
    (otherSound : other.Sound) :
    disjointness graph = .ok () ↔ disjointness other = .ok () := by
  simp only [disjointness, forM_eq_ok_iff, disjointBelow_eq_ok_iff_forall, same.nodes,
    claimsBelow_congr same sound otherSound]

theorem servedBelow_congr (same : graph.SameWiring other) (sound : graph.Sound)
    (otherSound : other.Sound) (bus : NodeId) (predicate : AddressPredicate) :
    predicate ∈ servedBelow graph bus ↔ predicate ∈ servedBelow other bus := by
  simp only [mem_servedBelow_iff, same.kind?_eq,
    (same.downstream_perm sound otherSound bus).mem_iff]

theorem coverage_congr (same : graph.SameWiring other) (sound : graph.Sound)
    (otherSound : other.Sound) (bus : NodeId) (advertised : List AddressRange) :
    coverage graph bus advertised = .ok () ↔ coverage other bus advertised = .ok () := by
  have served := servedBelow_congr same sound otherSound bus
  have spanned : ∀ segment, firstUncovered segment (spanning (servedBelow graph bus) segment) =
      firstUncovered segment (spanning (servedBelow other bus) segment) :=
    fun segment => firstUncovered_congr (mem_spanning_congr served segment) segment
  simp only [coverage, forM_eq_ok_iff, coveredSegment_eq_ok_iff, segments_congr served, spanned]

theorem reachability_congr (same : graph.SameWiring other) (sound : graph.Sound)
    (otherSound : other.Sound) :
    reachability graph = .ok () ↔ reachability other = .ok () := by
  have routed : ∀ origin address, Routed graph origin address ↔ Routed other origin address :=
    fun origin address => exists_congr fun _ =>
      (same.route_agrees sound otherSound origin address).eq_ok_iff
  have predicates : allPredicates graph = allPredicates other := by
    rw [allPredicates, allPredicates, same.nodes]
  simp only [reachability_eq_ok_iff, same.node?_eq, predicates, routed]

/-- The order in which a fabric is wired does not matter. Where two fabrics have the same
nodes and as many edges from each node down to each other one, each request fares alike
in both, and each check passes in both or in neither. -/
theorem wiring_order_immaterial (wired : graph.Wired) (otherWired : other.Wired)
    (same : graph.SameWiring other) :
    (∀ origin address,
      Graph.Agrees graph other address (graph.route origin address)
        (other.route origin address)) ∧
    (singlePeer graph = .ok () ↔ singlePeer other = .ok ()) ∧
    (disjointness graph = .ok () ↔ disjointness other = .ok ()) ∧
    (∀ bus advertised,
      coverage graph bus advertised = .ok () ↔ coverage other bus advertised = .ok ()) ∧
    (reachability graph = .ok () ↔ reachability other = .ok ()) := by
  have sound := wired.sound
  have otherSound := otherWired.sound
  refine ⟨same.route_agrees sound otherSound, ?_, disjointness_congr same sound otherSound,
    coverage_congr same sound otherSound, reachability_congr same sound otherSound⟩
  exact iff_of_true (singlePeer_of_sound sound) (singlePeer_of_sound otherSound)

/-- A requestor, a crossbar and three controllers, the last of which serves all that the
other two serve. -/
def contestedNodes : List WiringStep :=
  [.addNode "cpu" (.requestor ⟨.dataPort, none, [firstPage]⟩),
    .addNode "bus" (.bus ⟨64⟩),
    .addNode "even" (.controller {
      predicate := .interleaved firstPage 1 6 0, outputDirectory := "out" }),
    .addNode "odd" (.controller {
      predicate := .interleaved firstPage 1 6 1, outputDirectory := "out" }),
    .addNode "whole" (.controller { predicate := .whole firstPage, outputDirectory := "out" })]

def contested : Graph :=
  List.foldl Graph.advance .empty (contestedNodes ++
    [.link ⟨0⟩ ⟨1⟩, .link ⟨1⟩ ⟨2⟩, .link ⟨1⟩ ⟨3⟩, .link ⟨1⟩ ⟨4⟩])

/-- The same fabric, wired from below and with a link that fails. -/
def recontested : Graph :=
  List.foldl Graph.advance .empty (contestedNodes ++
    [.link ⟨1⟩ ⟨4⟩, .link ⟨1⟩ ⟨4⟩, .link ⟨1⟩ ⟨3⟩, .link ⟨1⟩ ⟨2⟩, .link ⟨0⟩ ⟨1⟩])

theorem wiring_order_immaterial_contested :
    contested.Wired ∧ recontested.Wired ∧ contested.SameWiring recontested ∧
      Graph.Agrees contested recontested 0x40
        (.error (.ambiguousRoute "bus" "odd" "whole" 0x40) : Except Fault Route)
        (.error (.ambiguousRoute "bus" "whole" "odd" 0x40)) ∧
      coverage recontested ⟨1⟩ [firstPage] = .ok () := by
  have wired : contested.Wired := ⟨_, rfl⟩
  have otherWired : recontested.Wired := ⟨_, rfl⟩
  have same : contested.SameWiring recontested := by decide +kernel
  rcases wiring_order_immaterial wired otherWired same with ⟨routes, -, -, covers, -⟩
  have here : contested.route ⟨0⟩ 0x40 =
      .error (.ambiguousRoute "bus" "odd" "whole" 0x40) := by decide +kernel
  have there : recontested.route ⟨0⟩ 0x40 =
      .error (.ambiguousRoute "bus" "whole" "odd" 0x40) := by decide +kernel
  have agrees := routes ⟨0⟩ 0x40
  rw [here, there] at agrees
  exact ⟨wired, otherWired, same, agrees, (covers ⟨1⟩ [firstPage]).mp (by decide +kernel)⟩

end MemoryFabric.Check
