import MemoryFabric.Check.All
import MemoryFabric.Graph.Wiring
import MemoryFabric.Proofs.Check.Segments
import MemoryFabric.Proofs.FirstFault
import MemoryFabric.Proofs.Graph.Lockstep

/-! What the check of reachability settles. It tries some addresses of each range
that a requestor may ask for; addresses that are treated like one of these are
served as well. -/

namespace MemoryFabric.Check

variable {graph : Graph}

def Routed (graph : Graph) (origin : NodeId) (address : UInt64) : Prop :=
  ∃ route, graph.route origin address = .ok route

theorem try_eq_ok_iff {origin : NodeId} {probe : UInt64} :
    (do let _ ← graph.route origin probe; return () : Except Fault Unit) = .ok () ↔
      Routed graph origin probe := by
  rw [bind_eq_ok_iff]
  exact exists_congr fun route => and_iff_left rfl

theorem reachability_eq_ok_iff :
    reachability graph = .ok () ↔
      ∀ origin node, graph.node? origin = some node → ∀ range ∈ requestedRanges node.kind,
        ∀ segment ∈ segments range (allPredicates graph),
          ∀ probe ∈ decisionPoints segment (allPredicates graph), Routed graph origin probe := by
  simp only [reachability, reachableRange, forM_eq_ok_iff, try_eq_ok_iff, Prod.forall,
    Graph.mem_nodes_iff]

theorem contains_of_firstSelected? {segment : AddressRange} {predicate : AddressPredicate}
    {address : UInt64} (found : firstSelected? segment predicate = some address) :
    segment.contains address = true := by
  cases predicate with
  | whole range => cases found
  | interleaved range bits highBit matchValue =>
      rw [firstSelected?] at found
      split at found
      · have first := AddressPredicate.firstFrom_isFirst
          (.interleaved segment bits highBit matchValue) segment.base
        rw [found] at first
        exact AddressPredicate.contains_window_of_accepts first.1
      · cases found

theorem contains_of_mem_decisionPoints {segment : AddressRange}
    {predicates : List AddressPredicate} {probe : UInt64}
    (member : probe ∈ decisionPoints segment predicates) : segment.contains probe = true := by
  rw [decisionPoints, mem_ascending, List.mem_cons, List.mem_cons, List.mem_filterMap] at member
  rcases member with rfl | rfl | ⟨predicate, _, found⟩
  · exact segment.contains_base
  · exact segment.contains_last
  · exact contains_of_firstSelected? found

theorem reachability_eq_ok
    (routed : ∀ origin node, graph.node? origin = some node →
      ∀ range ∈ requestedRanges node.kind, ∀ address, range.contains address = true →
        Routed graph origin address) : reachability graph = .ok () := by
  rw [reachability_eq_ok_iff]
  intro origin node found range rangeMember segment segmentMember probe probeMember
  exact routed origin node found range rangeMember probe
    (AddressRange.contains_of_containsRange (containsRange_of_mem_segments segmentMember)
      (contains_of_mem_decisionPoints probeMember))

/-! ## What a fabric that passes the check serves -/

def Requested (graph : Graph) (origin : NodeId) (range : AddressRange) (address : UInt64) :
    Prop :=
  ∃ name requestor, graph.node? origin = some ⟨name, .requestor requestor⟩ ∧
    range ∈ requestor.ranges ∧ range.contains address = true

def Served (graph : Graph) (origin : NodeId) (address : UInt64) : Prop :=
  ∃ route terminal controller, graph.route origin address = .ok route ∧
    route.terminal? = some terminal ∧
      graph.kind? terminal = some (.controller controller) ∧
        controller.accepts address = true

/-- An address that every node treats like this one is tried in the range. -/
def Probed (graph : Graph) (range : AddressRange) (address : UInt64) : Prop :=
  ∃ segment ∈ segments range (allPredicates graph),
    ∃ probe ∈ decisionPoints segment (allPredicates graph), graph.Alike probe address

def FixesField (segment : AddressRange) (bits highBit : Nat) (predicate : AddressPredicate) :
    Prop :=
  ∃ range matchValue, predicate = .interleaved range bits highBit matchValue ∧
    range.overlaps segment = true

/-- In the segment of the address no field is fixed, or only one, and the address
has a value of it that some predicate asks for. -/
def Named (graph : Graph) (range : AddressRange) (address : UInt64) : Prop :=
  ∃ segment ∈ segments range (allPredicates graph), segment.contains address = true ∧
    ((∀ predicate ∈ allPredicates graph, ∀ bits highBit,
        ¬ FixesField segment bits highBit predicate) ∨
      ∃ bits highBit,
        (∀ predicate ∈ allPredicates graph, ∀ otherBits otherHigh,
          FixesField segment otherBits otherHigh predicate →
            otherBits = bits ∧ otherHigh = highBit) ∧
        ∃ predicate ∈ allPredicates graph, FixesField segment bits highBit predicate ∧
          predicate.accepts address = true)

def SameFields (graph : Graph) (segment : AddressRange) (first second : UInt64) : Prop :=
  ∀ predicate ∈ allPredicates graph, predicate.window.overlaps segment = true →
    first &&& predicate.mask = second &&& predicate.mask

/-- The address is the first of its segment with these values of all fields. -/
def Representative (graph : Graph) (range : AddressRange) (address : UInt64) : Prop :=
  ∃ segment ∈ segments range (allPredicates graph), AddressPredicate.IsFirstAddress
    (fun other => segment.contains other = true ∧ SameFields graph segment other address)
      segment.base (some address)

theorem served_of_route {origin : NodeId} {address : UInt64} {route : Route}
    (found : graph.route origin address = .ok route) : Served graph origin address := by
  rcases (Graph.follows_of_route_eq_ok found).exists_terminal with
    ⟨terminal, controller, last, kind, accepted⟩
  exact ⟨route, terminal, controller, found, last, kind, accepted⟩

theorem served_of_probed (passed : reachability graph = .ok ()) {origin : NodeId}
    {range : AddressRange} {address : UInt64} (requested : Requested graph origin range address)
    (probed : Probed graph range address) : Served graph origin address := by
  rcases requested with ⟨name, requestor, found, rangeMember, _⟩
  rcases probed with ⟨segment, segmentMember, probe, probeMember, alike⟩
  rcases reachability_eq_ok_iff.mp passed origin _ found range rangeMember segment segmentMember
    probe probeMember with ⟨route, routed⟩
  exact served_of_route ((alike.route origin).eq_ok routed)

theorem accepts_iff_masked {segment : AddressRange} {predicate : AddressPredicate}
    (holds : predicate.window.containsRange segment = true) {address : UInt64}
    (inside : segment.contains address = true) :
    predicate.accepts address = true ↔ address &&& predicate.mask = predicate.value := by
  rw [AddressPredicate.accepts, AddressRange.contains_of_containsRange holds inside,
    Bool.true_and, beq_iff_eq]

/-- Two addresses of a segment are treated alike if the predicates that fix a field
in it treat them alike. -/
theorem alike_in_segment {range segment : AddressRange}
    (segmentMember : segment ∈ segments range (allPredicates graph)) {first second : UInt64}
    (inFirst : segment.contains first = true) (inSecond : segment.contains second = true)
    (same : ∀ predicate ∈ allPredicates graph, ∀ bits highBit,
      FixesField segment bits highBit predicate →
        (first &&& predicate.mask = predicate.value ↔
          second &&& predicate.mask = predicate.value)) :
    graph.Alike first second := by
  refine Graph.alike_of_filters fun node predicate filters => ?_
  have member := (mem_allPredicates_iff predicate).mpr ⟨node, filters⟩
  rcases containsRange_or_apart segmentMember member with holds | apart
  · rw [Bool.eq_iff_iff, accepts_iff_masked holds inFirst, accepts_iff_masked holds inSecond]
    cases predicate with
    | whole whole =>
        exact Iff.of_eq (by rw [AddressPredicate.mask, UInt64.and_zero, UInt64.and_zero])
    | interleaved window bits highBit matchValue =>
        refine same _ member bits highBit ⟨window, matchValue, rfl, ?_⟩
        exact AddressRange.overlaps_of_contains
          (AddressRange.contains_of_containsRange holds inFirst) inFirst
  · rw [not_accepts_of_apart apart inFirst, not_accepts_of_apart apart inSecond]

theorem exists_selected {segment : AddressRange} {predicate : AddressPredicate}
    (member : predicate ∈ allPredicates graph) {bits highBit : Nat}
    (fixes : FixesField segment bits highBit predicate) {address : UInt64}
    (inside : segment.contains address = true) (accepted : predicate.accepts address = true) :
    ∃ probe ∈ decisionPoints segment (allPredicates graph),
      probe &&& predicate.mask = predicate.value := by
  rcases fixes with ⟨range, matchValue, rfl, overlapping⟩
  have first := AddressPredicate.firstFrom_isFirst
    (.interleaved segment bits highBit matchValue) segment.base
  cases found : (AddressPredicate.interleaved segment bits highBit matchValue).firstFrom
      segment.base with
  | none =>
      rw [found] at first
      have here : (AddressPredicate.interleaved segment bits highBit matchValue).accepts address =
          true := by
        rw [AddressPredicate.accepts, Bool.and_eq_true] at accepted ⊢
        exact ⟨inside, accepted.2⟩
      have above := AddressRange.base_le_of_contains inside
      exact absurd (first address here) (UInt64.not_lt.mpr above)
  | some probe =>
      rw [found] at first
      have selected : firstSelected? segment (.interleaved range bits highBit matchValue) =
          some probe := by
        rw [firstSelected?, if_pos overlapping, found]
      refine ⟨probe, ?_, ?_⟩
      · rw [decisionPoints, mem_ascending, List.mem_cons, List.mem_cons, List.mem_filterMap]
        exact Or.inr (Or.inr ⟨_, member, selected⟩)
      · have here : (AddressPredicate.interleaved segment bits highBit matchValue).accepts probe =
            true := first.1
        rw [AddressPredicate.accepts, Bool.and_eq_true, beq_iff_eq] at here
        exact here.2

theorem probed_of_named {range : AddressRange} {address : UInt64}
    (named : Named graph range address) : Probed graph range address := by
  rcases named with ⟨segment, segmentMember, inside, unfixed | ⟨bits, highBit, sole, predicate,
    member, fixes, accepted⟩⟩
  · refine ⟨segment, segmentMember, segment.base, ?_, ?_⟩
    · rw [decisionPoints, mem_ascending]
      exact List.mem_cons_self
    · exact alike_in_segment segmentMember segment.contains_base inside
        fun other otherMember bits highBit fixed =>
          absurd fixed (unfixed other otherMember bits highBit)
  · rcases exists_selected member fixes inside accepted with ⟨probe, probeMember, selected⟩
    refine ⟨segment, segmentMember, probe, probeMember, alike_in_segment segmentMember
      (contains_of_mem_decisionPoints probeMember) inside ?_⟩
    intro other otherMember otherBits otherHigh fixed
    rcases sole other otherMember otherBits otherHigh fixed with ⟨rfl, rfl⟩
    have sameMask : other.mask = predicate.mask := by
      rcases fixed with ⟨_, _, rfl, _⟩
      rcases fixes with ⟨_, _, rfl, _⟩
      rfl
    have value : address &&& predicate.mask = predicate.value := by
      rw [AddressPredicate.accepts, Bool.and_eq_true, beq_iff_eq] at accepted
      exact accepted.2
    rw [sameMask, selected, value]

theorem exists_representative {range : AddressRange} {address : UInt64}
    (inside : range.contains address = true) :
    ∃ first, Representative graph range first ∧ range.contains first = true ∧
      graph.Alike first address := by
  rcases exists_segment range (allPredicates graph) inside with ⟨segment, segmentMember, within⟩
  have above := AddressRange.base_le_of_contains within
  rcases AddressPredicate.exists_isFirstAddress
    (fun other => segment.contains other = true ∧ SameFields graph segment other address)
    ⟨within, fun _ _ _ => rfl⟩ above with ⟨first, ⟨firstWithin, same⟩, firstAbove, least⟩
  refine ⟨first, ⟨segment, segmentMember, ⟨firstWithin, fun _ _ _ => rfl⟩, firstAbove, ?_⟩,
    AddressRange.contains_of_containsRange (containsRange_of_mem_segments segmentMember)
      firstWithin, ?_⟩
  · intro other holds
    refine least other ⟨holds.1, fun predicate member overlapping => ?_⟩
    exact (holds.2 predicate member overlapping).trans (same predicate member overlapping)
  · refine alike_in_segment segmentMember firstWithin within ?_
    rintro predicate member bits highBit ⟨window, matchValue, rfl, overlapping⟩
    rw [same _ member overlapping]

theorem served_alike {origin : NodeId} {first second : UInt64} (alike : graph.Alike first second)
    (served : Served graph origin first) : Served graph origin second := by
  rcases served with ⟨route, _, _, routed, _⟩
  exact served_of_route ((alike.route origin).eq_ok routed)

theorem reachability_of_all {bus : NodeId} {advertised : List AddressRange}
    (passed : all graph bus advertised = .ok ()) : reachability graph = .ok () := by
  rw [all] at passed
  rcases bind_eq_ok_iff.mp passed with ⟨_, _, passed⟩
  rcases bind_eq_ok_iff.mp passed with ⟨_, _, passed⟩
  rcases bind_eq_ok_iff.mp passed with ⟨_, _, passed⟩
  exact passed

/-- What the checks promise of a fabric that passes them. Addresses that are probed
are served, and those with a named value of the only field of their segment are
probed. Everything that may be requested is served exactly if the first address
with each combination of field values is, where no address like it was probed. -/
theorem requests_served_of_checked {bus : NodeId} {advertised : List AddressRange}
    (passed : all graph bus advertised = .ok ()) :
    (∀ origin range address, Requested graph origin range address →
      Named graph range address ∨ Probed graph range address → Served graph origin address) ∧
    ((∀ origin range address, Requested graph origin range address →
        Served graph origin address) ↔
      ∀ origin range address, Requested graph origin range address →
        Representative graph range address → ¬ Probed graph range address →
          Served graph origin address) := by
  have reached := reachability_of_all passed
  refine ⟨?_, fun served origin range address requested _ _ =>
    served origin range address requested, ?_⟩
  · rintro origin range address requested (named | probed)
    · exact served_of_probed reached requested (probed_of_named named)
    · exact served_of_probed reached requested probed
  · rintro rest origin range address ⟨name, requestor, found, rangeMember, inside⟩
    rcases exists_representative inside with ⟨first, represents, firstInside, alike⟩
    have requested : Requested graph origin range first :=
      ⟨name, requestor, found, rangeMember, firstInside⟩
    apply served_alike alike
    by_cases probed : Probed graph range first
    · exact served_of_probed reached requested probed
    · exact rest origin range first requested represents probed

/-! ## A fabric that passes and does not serve everything -/

def firstPage : AddressRange := ⟨0, 0x100, by decide, by decide⟩

/-- A requestor above a bridge that lets two of the four values of a field pass. -/
def wireGapped : Wiring Unit := do
  let requestor ← Graph.addNode "cpu" (.requestor ⟨.dataPort, none, [firstPage]⟩)
  let bridge ← Graph.addNode "filter"
    (.bridge ⟨[.interleaved firstPage 2 7 0, .interleaved firstPage 2 7 3], 0⟩)
  let bus ← Graph.addNode "bus" (.bus ⟨64⟩)
  let controller ← Graph.addNode "ctrl"
    (.controller { predicate := .whole firstPage, outputDirectory := "out" })
  Graph.link requestor bridge
  Graph.link bridge bus
  Graph.link bus controller

def gapped : Graph :=
  match wireGapped Graph.empty with
  | .ok _ graph => graph
  | .error _ graph => graph

theorem gapped_predicates : allPredicates gapped =
    [.interleaved firstPage 2 7 0, .interleaved firstPage 2 7 3, .whole firstPage] := by
  decide +kernel

theorem gapped_named (address : UInt64) (inside : firstPage.contains address = true)
    (passes : (AddressPredicate.interleaved firstPage 2 7 3).accepts address = true) :
    Named gapped firstPage address := by
  have whole : segments firstPage (allPredicates gapped) = [firstPage] := by decide +kernel
  refine ⟨firstPage, by rw [whole]; exact List.mem_singleton_self _, inside,
    Or.inr ⟨2, 7, ?_, .interleaved firstPage 2 7 3, ?_, ⟨firstPage, 3, rfl, rfl⟩, passes⟩⟩
  · rw [gapped_predicates]
    rintro predicate member bits highBit ⟨range, matchValue, rfl, _⟩
    simp only [List.mem_cons, List.not_mem_nil, or_false, reduceCtorEq,
      AddressPredicate.interleaved.injEq] at member
    rcases member with ⟨_, sameBits, sameHigh, _⟩ | ⟨_, sameBits, sameHigh, _⟩
    · exact ⟨sameBits, sameHigh⟩
    · exact ⟨sameBits, sameHigh⟩
  · rw [gapped_predicates]
    exact List.mem_cons_of_mem _ List.mem_cons_self

theorem gapped_serves_last_quarter :
    all gapped ⟨2⟩ [firstPage] = .ok () ∧ Served gapped ⟨0⟩ 0xC5 := by
  have passed : all gapped ⟨2⟩ [firstPage] = .ok () := by decide +kernel
  refine ⟨passed, ?_⟩
  exact (requests_served_of_checked passed).1 ⟨0⟩ firstPage 0xC5
    ⟨"cpu", _, rfl, List.mem_singleton_self _, by decide⟩
    (Or.inl (gapped_named 0xC5 (by decide) (by decide +kernel)))

theorem gapped_passes_and_loses_requests :
    wireGapped Graph.empty = .ok () gapped ∧
      (∀ matchValue, matchValue < 4 → AddressPredicate.ofField firstPage 2 7 matchValue =
        .ok (.interleaved firstPage 2 7 matchValue)) ∧
      all gapped ⟨2⟩ [firstPage] = .ok () ∧ Requested gapped ⟨0⟩ firstPage 0x40 ∧
        gapped.route ⟨0⟩ 0x40 = .error (.unroutable "cpu" "filter" 0x40) := by
  refine ⟨rfl, by decide +kernel, by decide +kernel, ?_, by decide +kernel⟩
  exact ⟨"cpu", _, rfl, List.mem_singleton_self _, by decide⟩

end MemoryFabric.Check
