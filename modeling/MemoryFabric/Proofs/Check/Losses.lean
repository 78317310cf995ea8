import MemoryFabric.Proofs.Check.Reachability
import MemoryFabric.Proofs.Graph.Wired

/-! What a fault of the check of reachability tells. It is always the fault of a request that
a requestor may make. Where no predicate fixes a field, all addresses of a segment fare
alike, so the check misses no lost request, and tells of the first one. -/

namespace MemoryFabric.Check

variable {graph : Graph} {origin : NodeId} {range segment : AddressRange}
  {predicates : List AddressPredicate} {address probe : UInt64} {fault : Fault}

def Loses (graph : Graph) (origin : NodeId) (range : AddressRange) : Prop :=
  ∃ address, range.contains address = true ∧ ¬ Routed graph origin address

def LosesRequest (graph : Graph) (asking : NodeId × Node) : Prop :=
  ∃ range ∈ requestedRanges asking.2.kind, Loses graph asking.1 range

/-- The first node that loses a request, the first of its ranges that has a lost address, and
the first of these addresses. -/
structure FirstLoss (graph : Graph) (origin : NodeId) (range : AddressRange)
    (address : UInt64) : Prop where
  origin_first : ∃ node, IsFirstIn graph.nodes (LosesRequest graph) (origin, node) ∧
    IsFirstIn (requestedRanges node.kind) (Loses graph origin) range
  inside : range.contains address = true
  lost : ¬ Routed graph origin address
  least : ∀ other, range.contains other = true → ¬ Routed graph origin other → address ≤ other

/-! ## Tries -/

theorem try_eq_error
    (failed : (do let _ ← graph.route origin probe; return () : Except Fault Unit) =
      .error fault) : graph.route origin probe = .error fault := by
  rcases bind_eq_error failed with failed | ⟨route, -, returned⟩
  · exact failed
  · cases returned

theorem not_routed_of_error (failed : graph.route origin address = .error fault) :
    ¬ Routed graph origin address := by
  rintro ⟨route, routed⟩
  rw [failed] at routed
  cases routed

/-- The tries of one range end at an address of some segment, after all addresses that are
tried before it were routed. -/
theorem reachableRange_eq_error
    (failed : reachableRange graph origin predicates range = .error fault) :
    ∃ earlier segment later, segments range predicates = earlier ++ segment :: later ∧
      (∀ before ∈ earlier, ∀ point ∈ decisionPoints before predicates,
        Routed graph origin point) ∧
      ∃ before probe after, decisionPoints segment predicates = before ++ probe :: after ∧
        (∀ point ∈ before, Routed graph origin point) ∧
          graph.route origin probe = .error fault := by
  rcases forM_eq_error failed with ⟨earlier, segment, later, splits, passed, failed⟩
  rcases forM_eq_error failed with ⟨before, probe, after, splitPoints, passedBefore, failed⟩
  refine ⟨earlier, segment, later, splits, ?_, before, probe, after, splitPoints, ?_,
    try_eq_error failed⟩
  · intro other otherMember point pointMember
    exact try_eq_ok_iff.mp (forM_eq_ok_iff.mp (passed other otherMember) point pointMember)
  · exact fun point member => try_eq_ok_iff.mp (passedBefore point member)

theorem requested_iff :
    Requested graph origin range address ↔ ∃ node, graph.node? origin = some node ∧
      range ∈ requestedRanges node.kind ∧ range.contains address = true := by
  constructor
  · rintro ⟨name, requestor, found, member, inside⟩
    exact ⟨_, found, member, inside⟩
  · rintro ⟨⟨name, kind⟩, found, member, inside⟩
    cases kind with
    | requestor requestor => exact ⟨name, requestor, found, member, inside⟩
    | bus => cases member
    | bridge => cases member
    | cache => cases member
    | controller => cases member

theorem requested_of_reachability_eq_error (failed : reachability graph = .error fault) :
    ∃ origin range address, Requested graph origin range address ∧
      graph.route origin address = .error fault := by
  rcases forM_eq_error failed with ⟨_, ⟨origin, node⟩, _, splitNodes, -, failed⟩
  rcases forM_eq_error failed with ⟨_, range, _, splitRanges, -, failed⟩
  rcases reachableRange_eq_error failed with
    ⟨_, segment, _, splits, -, _, probe, _, splitPoints, -, failed⟩
  have found := (graph.mem_nodes_iff origin node).mp (by simp [splitNodes])
  have segmentMember : segment ∈ segments range (allPredicates graph) := by simp [splits]
  have probeMember : probe ∈ decisionPoints segment (allPredicates graph) := by
    simp [splitPoints]
  have inside := AddressRange.contains_of_containsRange
    (containsRange_of_mem_segments segmentMember) (contains_of_mem_decisionPoints probeMember)
  exact ⟨origin, range, probe, requested_iff.mpr ⟨node, found, by simp [splitRanges], inside⟩,
    failed⟩

/-! ## Fabrics without fields -/

/-- Every predicate of the fabric accepts a whole range. -/
def Fieldless (graph : Graph) : Prop :=
  ∀ node predicate, graph.Filters node predicate → predicate.isInterleaved = false

theorem Fieldless.alike (fieldless : Fieldless graph)
    (segmentMember : segment ∈ segments range (allPredicates graph)) {first second : UInt64}
    (inFirst : segment.contains first = true) (inSecond : segment.contains second = true) :
    graph.Alike first second := by
  apply alike_in_segment segmentMember inFirst inSecond
  rintro predicate member bits highBit ⟨window, matchValue, rfl, -⟩
  rcases (mem_allPredicates_iff _).mp member with ⟨node, filters⟩
  cases fieldless node _ filters

theorem Routed.alike {first second : UInt64} (routed : Routed graph origin first)
    (alike : graph.Alike first second) : Routed graph origin second := by
  rcases routed with ⟨route, found⟩
  exact ⟨route, (alike.route origin).eq_ok found⟩

theorem base_mem_decisionPoints (segment : AddressRange) (predicates : List AddressPredicate) :
    segment.base ∈ decisionPoints segment predicates := by
  rw [decisionPoints, mem_ascending]
  exact List.mem_cons_self

theorem Fieldless.routed_of_tried (fieldless : Fieldless graph)
    (segmentMember : segment ∈ segments range (allPredicates graph))
    (tried : ∀ point ∈ decisionPoints segment (allPredicates graph), Routed graph origin point)
    (inside : segment.contains address = true) : Routed graph origin address := by
  have routed := tried segment.base (base_mem_decisionPoints segment _)
  exact routed.alike (fieldless.alike segmentMember segment.contains_base inside)

theorem Fieldless.reachableRange_eq_ok_iff (fieldless : Fieldless graph) :
    reachableRange graph origin (allPredicates graph) range = .ok () ↔
      ¬ Loses graph origin range := by
  rw [reachableRange]
  simp only [forM_eq_ok_iff, try_eq_ok_iff]
  constructor
  · rintro tried ⟨address, inside, lost⟩
    rcases exists_segment range (allPredicates graph) inside with ⟨segment, member, within⟩
    exact lost (fieldless.routed_of_tried member (tried segment member) within)
  · intro kept segment member point pointMember
    by_contra lost
    have inside := AddressRange.contains_of_containsRange (containsRange_of_mem_segments member)
      (contains_of_mem_decisionPoints pointMember)
    exact kept ⟨point, inside, lost⟩

/-- The first address that is tried in vain is the base of its segment. -/
theorem Fieldless.eq_base (fieldless : Fieldless graph)
    (segmentMember : segment ∈ segments range (allPredicates graph)) {before after : List UInt64}
    (splits : decisionPoints segment (allPredicates graph) = before ++ probe :: after)
    (routed : ∀ point ∈ before, Routed graph origin point) (lost : ¬ Routed graph origin probe) :
    probe = segment.base := by
  have inside : segment.contains probe = true :=
    contains_of_mem_decisionPoints (by rw [splits]; simp)
  have ascends : (before ++ probe :: after).Pairwise (· < ·) := by
    rw [← splits]
    exact ascending_ascends _
  have base := base_mem_decisionPoints segment (allPredicates graph)
  rw [splits] at base
  rcases before_or_follows ascends base with earlier | here | above
  · have alike := fieldless.alike segmentMember segment.contains_base inside
    exact absurd ((routed _ earlier).alike alike) lost
  · exact here.symm
  · exact absurd above (UInt64.not_lt.mpr (AddressRange.base_le_of_contains inside))

theorem Fieldless.reachableRange_eq_error (fieldless : Fieldless graph)
    (failed : reachableRange graph origin (allPredicates graph) range = .error fault) :
    ∃ address, range.contains address = true ∧ graph.route origin address = .error fault ∧
      ∀ other, range.contains other = true → ¬ Routed graph origin other → address ≤ other := by
  rcases Check.reachableRange_eq_error failed with
    ⟨earlier, segment, later, splits, tried, before, probe, after, splitPoints, routed, failed⟩
  have segmentMember : segment ∈ segments range (allPredicates graph) := by simp [splits]
  have atBase := fieldless.eq_base segmentMember splitPoints routed (not_routed_of_error failed)
  subst atBase
  refine ⟨segment.base, ?_, failed, least_of_segments splits ?_ segment.contains_base ?_⟩
  · exact AddressRange.contains_of_containsRange (containsRange_of_mem_segments segmentMember)
      segment.contains_base
  · intro other otherMember address inside lost
    have otherSegment : other ∈ segments range (allPredicates graph) := by
      simp [splits, otherMember]
    exact lost (fieldless.routed_of_tried otherSegment (tried other otherMember) inside)
  · exact fun other inside _ => AddressRange.base_le_of_contains inside

/-! ## All requestors -/

theorem Fieldless.reachableRanges_eq_ok_iff (fieldless : Fieldless graph)
    (asking : NodeId × Node) :
    (requestedRanges asking.2.kind).forM
        (reachableRange graph asking.1 (allPredicates graph)) = .ok () ↔
      ¬ LosesRequest graph asking := by
  rw [forM_eq_ok_iff, LosesRequest]
  simp only [fieldless.reachableRange_eq_ok_iff, not_exists, not_and]

theorem Fieldless.reachability_eq_ok_iff (fieldless : Fieldless graph) :
    reachability graph = .ok () ↔ ∀ origin range address,
      Requested graph origin range address → Routed graph origin address := by
  simp only [reachability, forM_eq_ok_iff, fieldless.reachableRange_eq_ok_iff, Prod.forall,
    Graph.mem_nodes_iff, requested_iff]
  constructor
  · rintro kept origin range address ⟨node, found, member, inside⟩
    by_contra lost
    exact kept origin node found range member ⟨address, inside, lost⟩
  · rintro routed origin node found range member ⟨address, inside, lost⟩
    exact lost (routed origin range address ⟨node, found, member, inside⟩)

theorem Fieldless.reachability_eq_error (fieldless : Fieldless graph)
    (failed : reachability graph = .error fault) :
    ∃ origin range address, FirstLoss graph origin range address ∧
      graph.route origin address = .error fault := by
  rcases exists_isFirstIn (fun asking _ => fieldless.reachableRanges_eq_ok_iff asking) failed with
    ⟨⟨origin, node⟩, originFirst, failed⟩
  rcases exists_isFirstIn (fun range _ => fieldless.reachableRange_eq_ok_iff) failed with
    ⟨range, rangeFirst, failed⟩
  rcases fieldless.reachableRange_eq_error failed with ⟨address, inside, failed, least⟩
  exact ⟨origin, range, address,
    ⟨⟨node, originFirst, rangeFirst⟩, inside, not_routed_of_error failed, least⟩, failed⟩

/-- A fault of the check is the fault of a request that some requestor may make. Where all
predicates accept whole ranges, the check passes exactly if every request is routed, and
otherwise its fault is that of the first request which is lost. -/
theorem reachability_tells_first_loss (graph : Graph) :
    (∀ fault, reachability graph = .error fault →
      ∃ origin range address, Requested graph origin range address ∧
        graph.route origin address = .error fault) ∧
    (Fieldless graph →
      (reachability graph = .ok () ↔ ∀ origin range address,
        Requested graph origin range address → Routed graph origin address) ∧
      ∀ fault, reachability graph = .error fault →
        ∃ origin range address, FirstLoss graph origin range address ∧
          graph.route origin address = .error fault) := by
  refine ⟨fun fault => requested_of_reachability_eq_error, fun fieldless => ⟨?_, ?_⟩⟩
  · exact fieldless.reachability_eq_ok_iff
  · exact fun fault => fieldless.reachability_eq_error

/-- Two requestors above a crossbar with one controller. The second range of the second one
goes beyond what the controller serves. -/
def beyond : Graph :=
  [.addNode "cpu" (.requestor ⟨.dataPort, none, [firstPage]⟩),
    .addNode "dma" (.requestor ⟨.systemPort, none,
      [⟨0x40, 0xA0, by decide, by decide⟩, ⟨0x80, 0x120, by decide, by decide⟩]⟩),
    .addNode "bus" (.bus ⟨64⟩),
    .addNode "ctrl" (.controller { predicate := .whole firstPage, outputDirectory := "out" }),
    .link ⟨0⟩ ⟨2⟩, .link ⟨1⟩ ⟨2⟩, .link ⟨2⟩ ⟨3⟩].foldl Graph.advance .empty

theorem reachability_tells_first_loss_beyond :
    beyond.Wired ∧ Fieldless beyond ∧ ∃ origin range address,
      FirstLoss beyond origin range address ∧
        beyond.route origin address = .error (.unroutable "dma" "bus" 0x100) := by
  have fieldless : Fieldless beyond := by
    intro node predicate filters
    have all : ∀ predicate ∈ allPredicates beyond, predicate.isInterleaved = false := by
      decide +kernel
    exact all predicate ((mem_allPredicates_iff predicate).mpr ⟨node, filters⟩)
  have failed : reachability beyond = .error (.unroutable "dma" "bus" 0x100) := by
    decide +kernel
  exact ⟨⟨_, rfl⟩, fieldless,
    ((reachability_tells_first_loss beyond).2 fieldless).2 _ failed⟩

end MemoryFabric.Check
