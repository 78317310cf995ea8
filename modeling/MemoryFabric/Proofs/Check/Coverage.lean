import MemoryFabric.Proofs.Check.Gaps
import MemoryFabric.Proofs.Check.Segments
import MemoryFabric.Proofs.FirstFault
import MemoryFabric.Proofs.Graph.Wired

/-! What the check of coverage settles: either some controller directly below the system
bus serves each advertised address, or the first address is found that none of them
serves, or too many bits are fixed for the search. -/

namespace MemoryFabric.Check

variable {graph : Graph} {bus : NodeId}

theorem mem_servedBelow_iff (predicate : AddressPredicate) :
    predicate ∈ servedBelow graph bus ↔
      ∃ node ∈ graph.downstream bus, ∃ controller,
        graph.kind? node = some (.controller controller) ∧ controller.predicate = predicate := by
  rw [servedBelow, List.mem_filterMap]
  constructor
  · rintro ⟨node, member, found⟩
    split at found
    · rename_i controller kind
      cases found
      exact ⟨node, member, controller, kind, rfl⟩
    · cases found
  · rintro ⟨node, member, controller, kind, rfl⟩
    refine ⟨node, member, ?_⟩
    rw [kind]

def Covers (graph : Graph) (bus : NodeId) (address : UInt64) : Prop :=
  ∃ node ∈ graph.downstream bus, ∃ controller,
    graph.kind? node = some (.controller controller) ∧ controller.accepts address = true

theorem covers_iff (address : UInt64) :
    Covers graph bus address ↔
      ∃ predicate ∈ servedBelow graph bus, predicate.accepts address = true := by
  simp only [mem_servedBelow_iff]
  constructor
  · rintro ⟨node, member, controller, kind, accepted⟩
    exact ⟨controller.predicate, ⟨node, member, controller, kind, rfl⟩, accepted⟩
  · rintro ⟨_, ⟨node, member, controller, kind, rfl⟩, accepted⟩
    exact ⟨node, member, controller, kind, accepted⟩

/-! ## One segment -/

def spanning (predicates : List AddressPredicate) (segment : AddressRange) :
    List AddressPredicate :=
  predicates.filter (·.window.containsRange segment)

theorem spans_of_mem_spanning {predicates : List AddressPredicate} {segment : AddressRange} :
    ∀ predicate ∈ spanning predicates segment,
      predicate.window.containsRange segment = true :=
  fun _ member => (List.mem_filter.mp member).2

theorem exists_spanning_iff {range segment : AddressRange} {predicates : List AddressPredicate}
    (segmentMember : segment ∈ segments range predicates) {address : UInt64}
    (inside : segment.contains address = true) :
    (∃ predicate ∈ spanning predicates segment, predicate.accepts address = true) ↔
      ∃ predicate ∈ predicates, predicate.accepts address = true := by
  constructor
  · rintro ⟨predicate, member, accepted⟩
    exact ⟨predicate, (List.mem_filter.mp member).1, accepted⟩
  · rintro ⟨predicate, member, accepted⟩
    refine ⟨predicate, List.mem_filter.mpr ⟨member, ?_⟩, accepted⟩
    rcases containsRange_or_apart segmentMember member with spans | apart
    · exact spans
    · rw [not_accepts_of_apart apart inside] at accepted
      cases accepted

theorem coveredSegment_eq_ok_iff {served : List AddressPredicate} {range segment : AddressRange} :
    coveredSegment graph bus served range segment = .ok () ↔
      firstUncovered segment (spanning served segment) = .ok none := by
  rw [coveredSegment, bind_eq_ok_iff]
  constructor
  · rintro ⟨found, made, passed⟩
    cases found with
    | none => exact made
    | some address => cases passed
  · intro made
    exact ⟨none, made, rfl⟩

theorem coveredSegment_eq_error {served : List AddressPredicate} {range segment : AddressRange}
    {fault : Fault} (failed : coveredSegment graph bus served range segment = .error fault) :
    firstUncovered segment (spanning served segment) = .error fault ∨
      ∃ address, firstUncovered segment (spanning served segment) = .ok (some address) ∧
        fault = .addressSpaceGap (graph.nameOf bus) range address := by
  rw [coveredSegment] at failed
  rcases bind_eq_error failed with undecided | ⟨found, made, failed⟩
  · exact Or.inl undecided
  · cases found with
    | none => cases failed
    | some address =>
        cases failed
        exact Or.inr ⟨address, made, rfl⟩

theorem covers_of_coveredSegment {range segment : AddressRange}
    (segmentMember : segment ∈ segments range (servedBelow graph bus))
    (passed : coveredSegment graph bus (servedBelow graph bus) range segment = .ok ())
    {address : UInt64} (inside : segment.contains address = true) : Covers graph bus address := by
  have first := firstUncovered_isFirstGap spans_of_mem_spanning
    (coveredSegment_eq_ok_iff.mp passed)
  rw [covers_iff, ← exists_spanning_iff segmentMember inside]
  exact isFirstGap_none_iff.mp first address inside

/-! ## One range -/

theorem covers_of_coveredSegments {range : AddressRange}
    (passed : (segments range (servedBelow graph bus)).forM
      (coveredSegment graph bus (servedBelow graph bus) range) = .ok ())
    {address : UInt64} (inside : range.contains address = true) : Covers graph bus address := by
  rcases exists_segment range (servedBelow graph bus) inside with
    ⟨segment, segmentMember, insideSegment⟩
  exact covers_of_coveredSegment segmentMember (forM_eq_ok_iff.mp passed segment segmentMember)
    insideSegment

/-- The first gap of the first segment that has one is the first gap of the range. -/
theorem first_of_segments {range segment : AddressRange} {earlier later : List AddressRange}
    (splits : segments range (servedBelow graph bus) = earlier ++ segment :: later)
    (passed : ∀ other ∈ earlier,
      coveredSegment graph bus (servedBelow graph bus) range other = .ok ())
    {address : UInt64}
    (first : IsFirstGap segment (spanning (servedBelow graph bus) segment) (some address)) :
    range.contains address = true ∧ ¬ Covers graph bus address ∧
      ∀ other, range.contains other = true → ¬ Covers graph bus other → address ≤ other := by
  rcases first with ⟨⟨inside, refused⟩, -, least⟩
  have segmentMember : segment ∈ segments range (servedBelow graph bus) := by simp [splits]
  have refused_iff : ∀ {other}, segment.contains other = true → (¬ Covers graph bus other ↔
      ∀ predicate ∈ spanning (servedBelow graph bus) segment,
        ¬ predicate.accepts other = true) := by
    intro other insideSegment
    rw [covers_iff, ← exists_spanning_iff segmentMember insideSegment]
    simp only [not_exists, not_and]
  refine ⟨AddressRange.contains_of_containsRange (containsRange_of_mem_segments segmentMember)
    inside, (refused_iff inside).mpr refused, least_of_segments splits ?_ inside ?_⟩
  · intro before beforeMember other insideBefore uncovered
    exact uncovered (covers_of_coveredSegment (by simp [splits, beforeMember])
      (passed before beforeMember) insideBefore)
  · intro other insideSegment uncovered
    have start := AddressRange.base_le_of_contains insideSegment
    exact least other ⟨insideSegment, (refused_iff insideSegment).mp uncovered⟩ start

/-! ## All advertised ranges -/

/-- Why coverage is not found, as a fault tells it. -/
inductive Shortfall (graph : Graph) (bus : NodeId) (advertised : List AddressRange) :
    Fault → Prop where
  | gap {earlier later : List AddressRange} {range : AddressRange} {address : UInt64}
      (splits : advertised = earlier ++ range :: later)
      (covered : ∀ before ∈ earlier, ∀ other, before.contains other = true →
        Covers graph bus other)
      (inside : range.contains address = true) (uncovered : ¬ Covers graph bus address)
      (least : ∀ other, range.contains other = true → ¬ Covers graph bus other →
        address ≤ other) :
      Shortfall graph bus advertised (.addressSpaceGap (graph.nameOf bus) range address)
  | undecided {range segment : AddressRange} {active : List AddressPredicate}
      (rangeMember : range ∈ advertised)
      (segmentMember : segment ∈ segments range (servedBelow graph bus))
      (isActive : active = spanning (servedBelow graph bus) segment)
      (interleaved : ∀ predicate ∈ active, predicate.isInterleaved = true)
      (incomplete : ∀ predicate ∈ active, ¬ Complete active predicate.mask)
      (wide : greatestFixedBits < constrainedBits active) :
      Shortfall graph bus advertised
        (.misconfigured (.tooManyFieldBits (constrainedBits active) segment greatestFixedBits))

theorem coverage_eq_error (short : ∀ predicate ∈ servedBelow graph bus, predicate.ShortValue)
    {advertised : List AddressRange} {fault : Fault}
    (failed : coverage graph bus advertised = .error fault) :
    Shortfall graph bus advertised fault := by
  rw [coverage] at failed
  rcases forM_eq_error failed with ⟨earlier, range, later, splits, passed, failed⟩
  rcases forM_eq_error failed with
    ⟨before, segment, after, splitSegments, passedSegments, failed⟩
  rcases coveredSegment_eq_error failed with undecided | ⟨address, found, rfl⟩
  · rcases firstUncovered_eq_error undecided with ⟨incomplete, wide, rfl⟩
    -- The search counts a field of all address bits as incomplete without a look at its
    -- values; as these are short, they do not fill it.
    have shortActive : ∀ predicate ∈ spanning (servedBelow graph bus) segment,
        predicate.ShortValue :=
      fun predicate member => short predicate (List.mem_filter.mp member).1
    have notComplete : ∀ predicate ∈ spanning (servedBelow graph bus) segment,
        ¬ Complete (spanning (servedBelow graph bus) segment) predicate.mask := by
      intro predicate member complete
      exact incomplete (hasCompleteField_iff.mpr
        ⟨predicate, member, narrow_of_complete shortActive complete, complete⟩)
    have rangeMember : range ∈ advertised := by simp [splits]
    have segmentMember : segment ∈ segments range (servedBelow graph bus) := by
      simp [splitSegments]
    refine .undecided rangeMember segmentMember rfl ?_ notComplete wide
    intro predicate member
    cases predicate with
    | whole window =>
        refine absurd ?_ (notComplete _ member)
        intro address
        exact ⟨_, member, rfl, UInt64.and_zero⟩
    | interleaved => rfl
  · have first := firstUncovered_isFirstGap spans_of_mem_spanning found
    rcases first_of_segments splitSegments passedSegments first with ⟨inside, uncovered, least⟩
    refine .gap splits ?_ inside uncovered least
    intro other member address insideOther
    exact covers_of_coveredSegments (passed other member) insideOther

/-- The check of coverage is exact: it passes only if every advertised address is served by
a controller directly below the bus, and a gap that it reports is the first one. It is
undecided only where no field is complete and too many bits are constrained. -/
theorem coverage_exact (short : ∀ predicate ∈ servedBelow graph bus, predicate.ShortValue)
    (advertised : List AddressRange) :
    (coverage graph bus advertised = .ok () → ∀ range ∈ advertised, ∀ address,
      range.contains address = true → Covers graph bus address) ∧
    ∀ fault, coverage graph bus advertised = .error fault →
      Shortfall graph bus advertised fault := by
  constructor
  · intro passed range member address inside
    rw [coverage] at passed
    exact covers_of_coveredSegments (forM_eq_ok_iff.mp passed range member) inside
  · intro fault failed
    exact coverage_eq_error short failed

/-- A crossbar above two controllers, for every other line of one range and for the second
of every four lines of another. -/
def lines : Graph :=
  [.addNode "bus" (.bus ⟨64⟩),
    .addNode "even" (.controller {
      predicate := .interleaved ⟨0, 0x400, by decide, by decide⟩ 1 6 0
      outputDirectory := "out" }),
    .addNode "second" (.controller {
      predicate := .interleaved ⟨0, 0x300, by decide, by decide⟩ 2 7 1
      outputDirectory := "out" }),
    .link ⟨0⟩ ⟨1⟩, .link ⟨0⟩ ⟨2⟩].foldl Graph.advance .empty

theorem coverage_exact_lines :
    let page : AddressRange := ⟨0, 0x400, by decide, by decide⟩
    let start : AddressRange := ⟨0, 0xC0, by decide, by decide⟩
    lines.Wired ∧ (∀ predicate ∈ servedBelow lines ⟨0⟩, predicate.ShortValue) ∧
      (∀ range ∈ [start], ∀ address, range.contains address = true → Covers lines ⟨0⟩ address) ∧
      Shortfall lines ⟨0⟩ [start, page] (.addressSpaceGap "bus" page 0xC0) := by
  have short : ∀ predicate ∈ servedBelow lines ⟨0⟩, predicate.ShortValue := by decide +kernel
  refine ⟨⟨_, rfl⟩, short, (coverage_exact short _).1 ?_, (coverage_exact short _).2 _ ?_⟩
  · decide +kernel
  · decide +kernel

/-! ## Fabrics that pass -/

def Narrow (served : List AddressPredicate) : Prop :=
  ∃ mask : UInt64, BitPattern.bitCount 64 mask.toNat ≤ greatestFixedBits ∧
    ∀ predicate ∈ served, predicate.mask = 0 ∨ predicate.mask = mask

theorem coverage_eq_ok {advertised : List AddressRange}
    (narrow : Narrow (servedBelow graph bus))
    (covered : ∀ range ∈ advertised, ∀ address, range.contains address = true →
      ∃ predicate ∈ servedBelow graph bus, predicate.accepts address = true) :
    coverage graph bus advertised = .ok () := by
  rcases narrow with ⟨mask, few, masks⟩
  refine forM_eq_ok_iff.mpr fun range rangeMember => forM_eq_ok_iff.mpr
    fun segment segmentMember => coveredSegment_eq_ok_iff.mpr ?_
  apply firstUncovered_eq_none spans_of_mem_spanning
  · apply Nat.le_trans (constrainedBits_le _) few
    exact fun predicate member => masks predicate (List.mem_filter.mp member).1
  · intro address inside
    rw [exists_spanning_iff segmentMember inside]
    have within := containsRange_of_mem_segments segmentMember
    exact covered range rangeMember address
      (AddressRange.contains_of_containsRange within inside)

end MemoryFabric.Check
