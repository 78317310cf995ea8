import MemoryFabric.Proofs.Check.Claims
import MemoryFabric.Proofs.Check.Reachability
import MemoryFabric.Proofs.Graph.Wired

/-! What the check of disjointness settles: where no predicate is found to be at fault,
the nodes directly below any node exclude each other, and no two of them fix one field
to one value. Comparing only the values inside a group loses nothing where every
predicate is checked. -/

namespace MemoryFabric.Check

variable {graph : Graph} {parent : NodeId} {fault : Fault}

/-! ## Claims below one node -/

/-- Claims that share a field are compared by their values, all others by their addresses,
whatever the order in which they are met. -/
theorem disjointBelow_eq_ok_iff_forall :
    disjointBelow graph parent = .ok () ↔
      ∀ first ∈ claimsBelow graph parent, ∀ second ∈ claimsBelow graph parent,
        first.repeats second = false ∧
          (first.sharesField second = true ∨ Compatible first second) := by
  have grouped := grouped_groupClaims (claimsBelow graph parent)
  rw [disjointBelow, bind_eq_ok_iff]
  simp only [disjointGroups_eq_ok_iff, grouped.pairwise_compatible_iff, mem_flatten_groupClaims]
  constructor
  · rintro ⟨_, passed, apart⟩ first firstMember second secondMember
    have unrepeated := noRepeats_eq_ok_iff.mp passed
    refine ⟨?_, apart first firstMember second secondMember⟩
    by_cases equal : first = second
    · simp [Claim.repeats, equal]
    · exact unrepeated.2.forall firstMember secondMember equal
  · intro holds
    refine ⟨(), noRepeats_eq_ok_iff.mpr ⟨fun _ none => (by cases none), ?_⟩, ?_⟩
    · apply List.pairwise_of_forall_mem_list
      exact fun first firstMember second secondMember =>
        (holds first firstMember second secondMember).1
    · exact fun first firstMember second secondMember =>
        (holds first firstMember second secondMember).2

theorem disjointBelow_of_compatible
    (compatible : ∀ first ∈ claimsBelow graph parent, ∀ second ∈ claimsBelow graph parent,
      Compatible first second) : disjointBelow graph parent = .ok () := by
  rw [disjointBelow_eq_ok_iff_forall]
  intro first firstMember second secondMember
  have pair := compatible first firstMember second secondMember
  refine ⟨?_, Or.inr pair⟩
  rw [← Bool.not_eq_true]
  intro repeats
  rcases repeats_of_claims repeats with ⟨different, same⟩
  exact (pair different).1 same

/-- Comparing only the values of a shared field is enough where every value fits. -/
theorem compatible_of_disjointBelow
    (checked : ∀ claim ∈ claimsBelow graph parent, claim.predicate.Checked)
    (passed : disjointBelow graph parent = .ok ()) {first second : Claim}
    (firstMember : first ∈ claimsBelow graph parent)
    (secondMember : second ∈ claimsBelow graph parent) : Compatible first second := by
  intro different
  have unchallenged := disjointBelow_eq_ok_iff_forall.mp passed first firstMember second
    secondMember
  have noAlias := (checked first firstMember).not_aliases (checked second secondMember)
  exact ((unchallenged_iff different).mp unchallenged).resolve_left noAlias different

theorem disjointBelow_eq_error (failed : disjointBelow graph parent = .error fault) :
    ∃ first ∈ graph.downstream parent, ∃ second ∈ graph.downstream parent,
      first ≠ second ∧ Clash graph parent first second fault := by
  rw [disjointBelow] at failed
  rcases bind_eq_error failed with repeated | ⟨_, -, met⟩
  · rcases noRepeats_eq_error repeated with ⟨first, firstMember, second, secondMember, repeats, rfl⟩
    rcases (mem_claimsBelow_iff first).mp firstMember with ⟨firstBelow, inFirst⟩
    rcases (mem_claimsBelow_iff second).mp secondMember with ⟨secondBelow, inSecond⟩
    rcases repeats_of_claims repeats with ⟨different, same⟩
    exact ⟨_, firstBelow, _, secondBelow, different, clash_of_repeats inFirst inSecond same⟩
  · rcases disjointGroups_eq_error met with
      ⟨group, groupMember, other, otherMember, first, inGroup, second, inOther, pair⟩
    have firstMember := List.mem_flatten_of_mem groupMember inGroup
    have secondMember := List.mem_flatten_of_mem otherMember inOther
    rw [mem_flatten_groupClaims, mem_claimsBelow_iff] at firstMember secondMember
    exact ⟨_, firstMember.1, _, secondMember.1,
      disjointPair_eq_error firstMember.2 secondMember.2 pair⟩

/-! ## Neighbours below one node -/

/-- The nodes admit no common address, and do not fix one field to one value. -/
structure Separate (graph : Graph) (first second : NodeId) : Prop where
  apart : ∀ address, ¬ (graph.Admits first address ∧ graph.Admits second address)
  distinct : ∀ predicate other, graph.Filters first predicate → graph.Filters second other →
    ¬ predicate.Repeats other

theorem separate_iff (first second : NodeId) (different : first ≠ second) :
    Separate graph first second ↔
      ∀ predicate other, graph.Filters first predicate → graph.Filters second other →
        Compatible ⟨first, predicate⟩ ⟨second, other⟩ := by
  constructor
  · intro separate predicate other inFirst inSecond _
    refine ⟨separate.distinct predicate other inFirst inSecond, ?_⟩
    rintro address ⟨acceptsFirst, acceptsSecond⟩
    exact separate.apart address
      ⟨⟨predicate, inFirst, acceptsFirst⟩, ⟨other, inSecond, acceptsSecond⟩⟩
  · intro compatible
    constructor
    · rintro address ⟨⟨predicate, inFirst, acceptsFirst⟩, ⟨other, inSecond, acceptsSecond⟩⟩
      exact (compatible predicate other inFirst inSecond different).2 address
        ⟨acceptsFirst, acceptsSecond⟩
    · intro predicate other inFirst inSecond
      exact (compatible predicate other inFirst inSecond different).1

theorem disjointBelow_of_separate
    (separate : ∀ first ∈ graph.downstream parent, ∀ second ∈ graph.downstream parent,
      first ≠ second → Separate graph first second) : disjointBelow graph parent = .ok () := by
  apply disjointBelow_of_compatible
  intro first firstMember second secondMember different
  rcases (mem_claimsBelow_iff first).mp firstMember with ⟨firstBelow, inFirst⟩
  rcases (mem_claimsBelow_iff second).mp secondMember with ⟨secondBelow, inSecond⟩
  exact (separate_iff _ _ different).mp (separate _ firstBelow _ secondBelow different)
    _ _ inFirst inSecond different

theorem disjointBelow_eq_ok_iff
    (checked : ∀ node predicate, graph.Filters node predicate → predicate.Checked) :
    disjointBelow graph parent = .ok () ↔
      ∀ first ∈ graph.downstream parent, ∀ second ∈ graph.downstream parent, first ≠ second →
        Separate graph first second := by
  constructor
  · intro passed first firstBelow second secondBelow different
    rw [separate_iff first second different]
    intro predicate other inFirst inSecond
    apply compatible_of_disjointBelow _ passed
    · exact (mem_claimsBelow_iff _).mpr ⟨firstBelow, inFirst⟩
    · exact (mem_claimsBelow_iff _).mpr ⟨secondBelow, inSecond⟩
    · exact fun claim member => checked _ _ ((mem_claimsBelow_iff claim).mp member).2
  · exact disjointBelow_of_separate

def Distinct (graph : Graph) (parent : NodeId) : Prop :=
  ∀ first ∈ graph.downstream parent, ∀ second ∈ graph.downstream parent, first ≠ second →
    ∀ predicate other, graph.Filters first predicate → graph.Filters second other →
      ¬ predicate.Repeats other

theorem disjointBelow_eq_ok (exclusive : graph.Exclusive parent)
    (distinct : Distinct graph parent) : disjointBelow graph parent = .ok () := by
  apply disjointBelow_of_separate
  intro first firstBelow second secondBelow different
  constructor
  · rintro address ⟨inFirst, inSecond⟩
    exact exclusive.not_both firstBelow secondBelow different
      ⟨inFirst.accepts, inSecond.accepts⟩
  · exact distinct first firstBelow second secondBelow different

/-! ## The whole fabric -/

theorem disjointness_eq_ok
    (exclusive : ∀ parent node, graph.node? parent = some node → graph.Exclusive parent)
    (distinct : ∀ parent node, graph.node? parent = some node → Distinct graph parent) :
    disjointness graph = .ok () := by
  refine forM_eq_ok_iff.mpr ?_
  rintro ⟨parent, node⟩ member
  have found := (graph.mem_nodes_iff parent node).mp member
  exact disjointBelow_eq_ok (exclusive parent node found) (distinct parent node found)

/-- Where every predicate is checked, the check passes exactly if the nodes directly below
any node are separate. Any fault names two of these nodes and what is wrong with them. -/
theorem disjointness_exact
    (checked : ∀ node predicate, graph.Filters node predicate → predicate.Checked) :
    (disjointness graph = .ok () ↔
      ∀ parent node, graph.node? parent = some node →
        ∀ first ∈ graph.downstream parent, ∀ second ∈ graph.downstream parent, first ≠ second →
          Separate graph first second) ∧
    ∀ fault, disjointness graph = .error fault →
      ∃ parent node, graph.node? parent = some node ∧
        ∃ first ∈ graph.downstream parent, ∃ second ∈ graph.downstream parent,
          first ≠ second ∧ Clash graph parent first second fault := by
  constructor
  · simp only [disjointness, forM_eq_ok_iff, Prod.forall, Graph.mem_nodes_iff,
      disjointBelow_eq_ok_iff checked]
  · intro fault failed
    rcases forM_eq_error failed with ⟨earlier, ⟨parent, node⟩, later, splits, -, failed⟩
    have member : (parent, node) ∈ graph.nodes := by simp [splits]
    exact ⟨parent, node, (graph.mem_nodes_iff parent node).mp member, disjointBelow_eq_error failed⟩

/-- A crossbar above two bridges that divide a page into stripes by different fields. -/
def stripes : Graph :=
  [.addNode "bus" (.bus ⟨64⟩),
    .addNode "left" (.bridge
      ⟨[.interleaved firstPage 2 7 0, .interleaved firstPage 1 5 1], .ofNanoseconds 1⟩),
    .addNode "right" (.bridge ⟨[.interleaved firstPage 2 7 3], .ofNanoseconds 1⟩),
    .link ⟨0⟩ ⟨1⟩, .link ⟨0⟩ ⟨2⟩].foldl Graph.advance .empty

theorem disjointness_exact_stripes :
    stripes.Wired ∧ (∀ node predicate, stripes.Filters node predicate → predicate.Checked) ∧
      ∃ parent first second, first ≠ second ∧
        Clash stripes parent first second (.overlappingPredicates "bus" "right" "left" 0xE0) := by
  have checked : ∀ node predicate, stripes.Filters node predicate → predicate.Checked := by
    intro node predicate filters
    have member := (mem_allPredicates_iff predicate).mpr ⟨node, filters⟩
    have all : allPredicates stripes =
        [.interleaved firstPage 2 7 0, .interleaved firstPage 1 5 1,
          .interleaved firstPage 2 7 3] := by
      decide +kernel
    rw [all] at member
    simp only [List.mem_cons, List.not_mem_nil, or_false] at member
    rcases member with rfl | rfl | rfl
    · exact .ofField (by decide +kernel : AddressPredicate.ofField firstPage 2 7 0 = _)
    · exact .ofField (by decide +kernel : AddressPredicate.ofField firstPage 1 5 1 = _)
    · exact .ofField (by decide +kernel : AddressPredicate.ofField firstPage 2 7 3 = _)
  have failed : disjointness stripes =
      .error (.overlappingPredicates "bus" "right" "left" 0xE0) := by
    decide +kernel
  rcases (disjointness_exact checked).2 _ failed with
    ⟨parent, _, _, first, _, second, _, different, clash⟩
  exact ⟨⟨_, rfl⟩, checked, parent, first, second, different, clash⟩

end MemoryFabric.Check
