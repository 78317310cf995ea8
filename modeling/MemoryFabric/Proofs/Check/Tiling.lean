import MemoryFabric.Proofs.Check.Segments

/-! The segments of a range tile it. The first begins where the range begins, every other
where the one before it ends, and the last ends where the range ends. -/

namespace MemoryFabric.Check

/-- The ranges follow one another without a gap, from one address up to another. -/
inductive Tiles : UInt64 → List AddressRange → UInt64 → Prop
  | done (address : UInt64) : Tiles address [] address
  | next {tile : AddressRange} {rest : List AddressRange} {stop : UInt64}
      (follow : Tiles tile.stop rest stop) : Tiles tile.base (tile :: rest) stop

theorem Tiles.ne_nil {start stop : UInt64} {tiles : List AddressRange}
    (covers : Tiles start tiles stop) (ordered : start < stop) : tiles ≠ [] := by
  rintro rfl
  cases covers
  exact UInt64.lt_irrefl _ ordered

theorem tiles_of_ascends {points : List UInt64} (ascends : points.Pairwise (· < ·))
    {low high : UInt64} (lowMember : low ∈ points) (highMember : high ∈ points)
    (least : ∀ point ∈ points, low ≤ point) (greatest : ∀ point ∈ points, point ≤ high) :
    Tiles low ((points.zip points.tail).filterMap fun bounds =>
      AddressRange.ofBounds? bounds.1 bounds.2) high := by
  induction points generalizing low with
  | nil => cases lowMember
  | cons first rest induction =>
      rcases List.pairwise_cons.mp ascends with ⟨firstBelow, restAscends⟩
      have lowest : low = first := by
        rcases List.mem_cons.mp lowMember with same | later
        · exact same
        · exact absurd (firstBelow low later) (UInt64.not_lt.mpr (least first List.mem_cons_self))
      subst lowest
      cases rest with
      | nil =>
          rw [List.mem_singleton.mp highMember]
          exact .done _
      | cons second rest =>
          have below : low < second := firstBelow second List.mem_cons_self
          have highLater : high ∈ second :: rest := by
            rcases List.mem_cons.mp highMember with rfl | later
            · exact absurd below (UInt64.not_lt.mpr
                (greatest second (List.mem_cons_of_mem _ List.mem_cons_self)))
            · exact later
          have secondLeast : ∀ point ∈ second :: rest, second ≤ point := by
            intro point member
            rcases List.mem_cons.mp member with rfl | later
            · exact UInt64.le_refl _
            · exact UInt64.le_of_lt ((List.pairwise_cons.mp restAscends).1 point later)
          have follow := induction restAscends List.mem_cons_self highLater secondLeast
            fun point member => greatest point (List.mem_cons_of_mem _ member)
          rcases AddressRange.exists_of_lt below with ⟨tile, made⟩
          rcases AddressRange.bounds_of_ofBounds? made with ⟨rfl, rfl⟩
          rw [List.tail_cons, List.zip_cons_cons, List.filterMap_cons]
          simp only [made]
          exact .next follow

theorem tiles_segments (range : AddressRange) (predicates : List AddressPredicate) :
    Tiles range.base (segments range predicates) range.stop :=
  tiles_of_ascends (ascending_ascends _)
    ((mem_cuts_iff _ _ _).mpr (Or.inl rfl))
    ((mem_cuts_iff _ _ _).mpr (Or.inr (Or.inl rfl)))
    (fun _ member => (cut_bounds member).1) fun _ member => (cut_bounds member).2

theorem contains_iff_exists_segment (range : AddressRange) (predicates : List AddressPredicate)
    (address : UInt64) :
    range.contains address = true ↔
      ∃ segment ∈ segments range predicates, segment.contains address = true := by
  constructor
  · exact exists_segment range predicates
  · rintro ⟨segment, member, inside⟩
    exact AddressRange.contains_of_containsRange (containsRange_of_mem_segments member) inside

/-- The segments of a range, one at least, tile it in ascending order, so that they hold just
its addresses. None of them is empty or wraps around, and the range of a predicate holds a
segment whole or shares no address with it. -/
theorem segments_tile (range : AddressRange) (predicates : List AddressPredicate) :
    segments range predicates ≠ [] ∧
    Tiles range.base (segments range predicates) range.stop ∧
    (segments range predicates).Pairwise (fun first second => first.stop ≤ second.base) ∧
    (∀ address, range.contains address = true ↔
      ∃ segment ∈ segments range predicates, segment.contains address = true) ∧
    ∀ segment ∈ segments range predicates,
      segment.base < segment.stop ∧
      ∀ predicate ∈ predicates,
        predicate.window.containsRange segment = true ∨
          ∀ address, ¬ (predicate.window.contains address = true ∧
            segment.contains address = true) := by
  have tiles := tiles_segments range predicates
  refine ⟨tiles.ne_nil range.base_lt_stop, tiles, segments_ascend range predicates,
    contains_iff_exists_segment range predicates, ?_⟩
  intro segment member
  refine ⟨segment.base_lt_stop, ?_⟩
  intro predicate predicateMember
  rcases containsRange_or_apart member predicateMember with whole | apart
  · exact Or.inl whole
  · right
    rintro address ⟨inWindow, inSegment⟩
    have overlapping := AddressRange.overlaps_of_contains inWindow inSegment
    rw [apart] at overlapping
    cases overlapping

def mapped : AddressRange := ⟨0x1000, 0x2000, by decide, by decide⟩

def mappings : List AddressPredicate :=
  [.whole ⟨0x2800, 0x4000, by decide, by decide⟩, .whole ⟨0x1000, 0x1800, by decide, by decide⟩,
    .interleaved ⟨0x0, 0x2000, by decide, by decide⟩ 1 6 1]

def mappedMiddle : AddressRange := ⟨0x2000, 0x800, by decide, by decide⟩

/-- One bound is named twice and two lie outside, which leaves three segments. The middle one
begins where the interleaved predicate ends. -/
theorem segments_tile_mapped :
    (segments mapped mappings).map (·.base) = [0x1000, 0x2000, 0x2800] ∧
      mappedMiddle ∈ segments mapped mappings ∧
      mappedMiddle.base < mappedMiddle.stop ∧
      ∀ predicate ∈ mappings,
        predicate.window.containsRange mappedMiddle = true ∨
          ∀ address, ¬ (predicate.window.contains address = true ∧
            mappedMiddle.contains address = true) := by
  have member : mappedMiddle ∈ segments mapped mappings := by decide +kernel
  obtain ⟨-, -, -, -, each⟩ := segments_tile mapped mappings
  exact ⟨by decide +kernel, member, each mappedMiddle member⟩

end MemoryFabric.Check
