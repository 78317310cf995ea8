import MemoryFabric.Proofs.Check.Disjointness

/-! What the check of disjointness passes over. Inside a group it compares the match values
as they are written, so predicates that write one value of a field in two ways are the only
ones that may clash unnoticed. -/

namespace MemoryFabric.Check

variable {graph : Graph} {parent : NodeId}

structure Siblings (graph : Graph) (parent first second : NodeId) : Prop where
  first_below : first ∈ graph.downstream parent
  second_below : second ∈ graph.downstream parent
  different : first ≠ second

theorem Siblings.exists_parent {first second : NodeId}
    (siblings : Siblings graph parent first second) :
    ∃ node, graph.node? parent = some node := by
  have below := siblings.first_below
  rw [Graph.downstream, Graph.neighbours] at below
  split at below
  case h_1 vertex found => exact ⟨vertex.node, by rw [Graph.node?, found, Option.map_some]⟩
  case h_2 => cases below

theorem disjointBelow_eq_ok_iff_siblings :
    disjointBelow graph parent = .ok () ↔
      ∀ first second, Siblings graph parent first second →
        ∀ predicate other, graph.Filters first predicate → graph.Filters second other →
          predicate.Aliases other ∨ Compatible ⟨first, predicate⟩ ⟨second, other⟩ := by
  rw [disjointBelow_eq_ok_iff_forall]
  constructor
  · intro passed first second siblings predicate other inFirst inSecond
    have firstMember : ⟨first, predicate⟩ ∈ claimsBelow graph parent :=
      (mem_claimsBelow_iff _).mpr ⟨siblings.first_below, inFirst⟩
    have secondMember : ⟨second, other⟩ ∈ claimsBelow graph parent :=
      (mem_claimsBelow_iff _).mpr ⟨siblings.second_below, inSecond⟩
    exact (unchallenged_iff siblings.different).mp (passed _ firstMember _ secondMember)
  · intro holds first firstMember second secondMember
    rcases (mem_claimsBelow_iff first).mp firstMember with ⟨firstBelow, inFirst⟩
    rcases (mem_claimsBelow_iff second).mp secondMember with ⟨secondBelow, inSecond⟩
    by_cases same : first.node = second.node
    · exact ⟨by simp [Claim.repeats, same], Or.inr fun different => absurd same different⟩
    · exact (unchallenged_iff same).mpr
        (holds _ _ ⟨firstBelow, secondBelow, same⟩ _ _ inFirst inSecond)

theorem disjointness_eq_ok_iff_siblings :
    disjointness graph = .ok () ↔
      ∀ parent first second, Siblings graph parent first second →
        ∀ predicate other, graph.Filters first predicate → graph.Filters second other →
          predicate.Aliases other ∨ Compatible ⟨first, predicate⟩ ⟨second, other⟩ := by
  simp only [disjointness, forM_eq_ok_iff, Prod.forall, Graph.mem_nodes_iff,
    disjointBelow_eq_ok_iff_siblings]
  constructor
  · intro passed parent first second siblings
    rcases siblings.exists_parent with ⟨node, found⟩
    exact passed parent node found first second siblings
  · exact fun holds parent _ _ => holds parent

/-- The nodes directly below any node admit no common address. -/
def SiblingsApart (graph : Graph) : Prop :=
  ∀ parent first second, Siblings graph parent first second →
    ∀ address, ¬ (graph.Admits first address ∧ graph.Admits second address)

/-- Predicates of different nodes below one node that are aliases accept nothing. -/
def AliasesSilent (graph : Graph) : Prop :=
  ∀ parent first second, Siblings graph parent first second →
    ∀ predicate other, graph.Filters first predicate → graph.Filters second other →
      predicate.Aliases other → ∀ address, predicate.accepts address = false

theorem siblingsApart_iff (passed : disjointness graph = .ok ()) :
    SiblingsApart graph ↔ AliasesSilent graph := by
  constructor
  · intro apart parent first second siblings predicate other inFirst inSecond aliases address
    rw [← Bool.not_eq_true]
    intro accepted
    have otherAccepted := (aliases.accepts_eq address).symm.trans accepted
    exact apart parent first second siblings address
      ⟨⟨predicate, inFirst, accepted⟩, ⟨other, inSecond, otherAccepted⟩⟩
  · rintro silent parent first second siblings address
      ⟨⟨predicate, inFirst, accepted⟩, ⟨other, inSecond, otherAccepted⟩⟩
    rcases disjointness_eq_ok_iff_siblings.mp passed parent first second siblings predicate other
      inFirst inSecond with aliases | compatible
    · have refused := silent parent first second siblings predicate other inFirst inSecond aliases
        address
      rw [refused] at accepted
      cases accepted
    · exact (compatible siblings.different).2 address ⟨accepted, otherAccepted⟩

/-- The check passes exactly if any two predicates of different nodes below one node are
aliases, or neither fix one field to one value nor accept a common address. The nodes below
one node then admit no common address exactly if their aliases accept nothing. -/
theorem disjointness_up_to_aliases (graph : Graph) :
    (disjointness graph = .ok () ↔
      ∀ parent first second, Siblings graph parent first second →
        ∀ predicate other, graph.Filters first predicate → graph.Filters second other →
          predicate.Aliases other ∨
            ¬ predicate.Repeats other ∧ predicate.overlapWitness other = none) ∧
    (disjointness graph = .ok () → (SiblingsApart graph ↔ AliasesSilent graph)) := by
  refine ⟨?_, siblingsApart_iff⟩
  rw [disjointness_eq_ok_iff_siblings]
  refine forall₄_congr fun parent first second siblings => ?_
  refine forall₄_congr fun predicate other inFirst inSecond => ?_
  rw [compatible_iff siblings.different]

/-- A crossbar above two controllers, which take the odd lines of a page and write the value
of their field of one bit in two ways. -/
def aliased : Graph :=
  [.addNode "bus" (.bus ⟨64⟩),
    .addNode "mc0" (.controller {
      predicate := .interleaved firstPage 1 6 1
      outputDirectory := "out0" }),
    .addNode "mc1" (.controller {
      predicate := .interleaved firstPage 1 6 3
      outputDirectory := "out1" }),
    .link ⟨0⟩ ⟨1⟩, .link ⟨0⟩ ⟨2⟩].foldl Graph.advance .empty

theorem aliased_siblings : Siblings aliased ⟨0⟩ ⟨1⟩ ⟨2⟩ where
  first_below := by decide +kernel
  second_below := by decide +kernel
  different := by decide

theorem aliased_filters :
    aliased.Filters ⟨1⟩ (.interleaved firstPage 1 6 1) ∧
      aliased.Filters ⟨2⟩ (.interleaved firstPage 1 6 3) :=
  ⟨⟨_, rfl, List.mem_singleton_self _⟩, ⟨_, rfl, List.mem_singleton_self _⟩⟩

theorem disjointness_up_to_aliases_aliased :
    disjointness aliased = .ok () ∧
      (AddressPredicate.interleaved firstPage 1 6 1).Aliases (.interleaved firstPage 1 6 3) ∧
        ¬ AliasesSilent aliased := by
  have passed : disjointness aliased = .ok () := by decide +kernel
  rcases disjointness_up_to_aliases aliased with ⟨passes_iff, apart_iff⟩
  refine ⟨passed, ?_, ?_⟩
  · have either := passes_iff.mp passed ⟨0⟩ ⟨1⟩ ⟨2⟩ aliased_siblings _ _ aliased_filters.1
      aliased_filters.2
    refine either.resolve_right fun apart => ?_
    have overlap : (AddressPredicate.interleaved firstPage 1 6 1).overlapWitness
        (.interleaved firstPage 1 6 3) ≠ none := by
      decide +kernel
    exact overlap apart.2
  · intro silent
    refine (apart_iff passed).mpr silent ⟨0⟩ ⟨1⟩ ⟨2⟩ aliased_siblings 0x40 ⟨?_, ?_⟩
    · exact ⟨_, aliased_filters.1, by decide +kernel⟩
    · exact ⟨_, aliased_filters.2, by decide +kernel⟩

theorem aliased_passes_and_overlaps :
    aliased.Wired ∧ fieldLowBit 1 6 < 64 ∧ disjointness aliased = .ok () ∧
      Siblings aliased ⟨0⟩ ⟨1⟩ ⟨2⟩ ∧ aliased.Filters ⟨1⟩ (.interleaved firstPage 1 6 1) ∧
        aliased.Filters ⟨2⟩ (.interleaved firstPage 1 6 3) ∧
          (AddressPredicate.interleaved firstPage 1 6 1).overlapWitness
            (.interleaved firstPage 1 6 3) = some 0x40 := by
  refine ⟨⟨_, rfl⟩, by decide, by decide +kernel, aliased_siblings, aliased_filters.1,
    aliased_filters.2, by decide +kernel⟩

end MemoryFabric.Check
