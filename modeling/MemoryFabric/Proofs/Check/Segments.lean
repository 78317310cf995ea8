import MemoryFabric.Check.Segments
import MemoryFabric.Proofs.Address.Search

/-! The segments of a range lie in it and hold all of its addresses, and no
predicate's range begins or ends inside one. -/

namespace MemoryFabric.Check

/-! ## Ascending lists -/

@[simp] theorem mem_insertAscending (address other : UInt64) :
    ∀ points : List UInt64,
      other ∈ insertAscending address points ↔ other = address ∨ other ∈ points
  | [] => by simp [insertAscending]
  | head :: rest => by
      rw [insertAscending]
      split
      case isTrue => exact List.mem_cons
      case isFalse =>
        split
        case isTrue same => simp [same]
        case isFalse =>
          rw [List.mem_cons, List.mem_cons, mem_insertAscending address other rest]
          exact or_left_comm

theorem insertAscending_ascends (address : UInt64) {points : List UInt64}
    (ascends : points.Pairwise (· < ·)) : (insertAscending address points).Pairwise (· < ·) := by
  induction points with
  | nil => exact List.pairwise_singleton _ _
  | cons head rest induction =>
      have parts := List.pairwise_cons.mp ascends
      rw [insertAscending]
      split
      case isTrue below =>
        refine List.pairwise_cons.mpr ⟨?_, ascends⟩
        intro other member
        rcases List.mem_cons.mp member with rfl | later
        · exact below
        · exact UInt64.lt_trans below (parts.1 other later)
      case isFalse notBelow =>
        split
        case isTrue => exact ascends
        case isFalse different =>
          refine List.pairwise_cons.mpr ⟨?_, induction parts.2⟩
          intro other member
          rcases (mem_insertAscending _ _ _).mp member with rfl | later
          · exact UInt64.lt_of_le_of_ne (UInt64.not_lt.mp notBelow) (Ne.symm different)
          · exact parts.1 other later

@[simp] theorem mem_ascending (address : UInt64) (addresses : List UInt64) :
    address ∈ ascending addresses ↔ address ∈ addresses := by
  induction addresses with
  | nil => rfl
  | cons head rest induction =>
      rw [ascending, List.foldr_cons, mem_insertAscending, List.mem_cons]
      exact or_congr_right induction

theorem ascending_ascends (addresses : List UInt64) :
    (ascending addresses).Pairwise (· < ·) := by
  induction addresses with
  | nil => exact .nil
  | cons head rest induction => exact insertAscending_ascends head induction

theorem before_or_follows {α : Type} {precedes : α → α → Prop} {earlier later : List α}
    {item other : α} (ordered : (earlier ++ item :: later).Pairwise precedes)
    (member : other ∈ earlier ++ item :: later) :
    other ∈ earlier ∨ other = item ∨ precedes item other := by
  rcases List.mem_append.mp member with before | fromHere
  · exact Or.inl before
  · rcases List.mem_cons.mp fromHere with here | after
    · exact Or.inr (Or.inl here)
    · have follows := (List.pairwise_cons.mp (List.pairwise_append.mp ordered).2.1).1
      exact Or.inr (Or.inr (follows other after))

theorem neighbours_of_mem_zip {points : List UInt64} (ascends : points.Pairwise (· < ·))
    {pair : UInt64 × UInt64} (member : pair ∈ points.zip points.tail) :
    pair.1 ∈ points ∧ pair.2 ∈ points ∧ pair.1 < pair.2 ∧
      ∀ point ∈ points, point ≤ pair.1 ∨ pair.2 ≤ point := by
  induction points with
  | nil => cases member
  | cons first rest induction =>
      rcases List.pairwise_cons.mp ascends with ⟨below, restAscends⟩
      cases rest with
      | nil => cases member
      | cons second rest =>
          rcases List.mem_cons.mp member with rfl | later
          · refine ⟨List.mem_cons_self, List.mem_cons_of_mem _ List.mem_cons_self,
              below second List.mem_cons_self, ?_⟩
            intro point pointMember
            rcases List.mem_cons.mp pointMember with rfl | pointLater
            · exact Or.inl (UInt64.le_refl _)
            · rcases List.mem_cons.mp pointLater with rfl | pointLast
              · exact Or.inr (UInt64.le_refl _)
              · exact Or.inr (UInt64.le_of_lt
                  ((List.pairwise_cons.mp restAscends).1 point pointLast))
          · rcases induction restAscends later with ⟨firstMember, secondMember, ordered, between⟩
            refine ⟨List.mem_cons_of_mem _ firstMember, List.mem_cons_of_mem _ secondMember,
              ordered, ?_⟩
            intro point pointMember
            rcases List.mem_cons.mp pointMember with rfl | pointLater
            · exact Or.inl (UInt64.le_of_lt (below pair.1 firstMember))
            · exact between point pointLater

theorem zip_tail_ascends {points : List UInt64} (ascends : points.Pairwise (· < ·)) :
    (points.zip points.tail).Pairwise fun first second => first.2 ≤ second.1 := by
  induction points with
  | nil => exact .nil
  | cons first rest induction =>
      have restAscends := (List.pairwise_cons.mp ascends).2
      cases rest with
      | nil => exact .nil
      | cons second rest =>
          refine List.pairwise_cons.mpr ⟨?_, induction restAscends⟩
          intro pair member
          rcases List.mem_cons.mp (neighbours_of_mem_zip restAscends member).1 with same | later
          · exact UInt64.le_of_eq same.symm
          · exact UInt64.le_of_lt ((List.pairwise_cons.mp restAscends).1 pair.1 later)

theorem exists_mem_zip {points : List UInt64} (ascends : points.Pairwise (· < ·))
    {low high address : UInt64} (lowMember : low ∈ points) (highMember : high ∈ points)
    (above : low ≤ address) (below : address < high) :
    ∃ pair ∈ points.zip points.tail, pair.1 ≤ address ∧ address < pair.2 := by
  induction points generalizing low with
  | nil => cases lowMember
  | cons first rest induction =>
      rcases List.pairwise_cons.mp ascends with ⟨firstBelow, restAscends⟩
      have firstAbove : first ≤ address := by
        rcases List.mem_cons.mp lowMember with rfl | later
        · exact above
        · exact UInt64.le_trans (UInt64.le_of_lt (firstBelow low later)) above
      have highLater : high ∈ rest := by
        rcases List.mem_cons.mp highMember with rfl | later
        · exact absurd below (UInt64.not_lt.mpr firstAbove)
        · exact later
      cases rest with
      | nil => cases highLater
      | cons second rest =>
          by_cases inFirst : address < second
          · exact ⟨(first, second), List.mem_cons_self, firstAbove, inFirst⟩
          · rcases induction restAscends List.mem_cons_self highLater
              (UInt64.not_lt.mp inFirst) with ⟨pair, member, bounds⟩
            exact ⟨pair, List.mem_cons_of_mem _ member, bounds⟩

/-! ## Cuts and segments -/

theorem mem_cuts_iff (range : AddressRange) (predicates : List AddressPredicate)
    (address : UInt64) :
    address ∈ cuts range predicates ↔
      address = range.base ∨ address = range.stop ∨
        (∃ predicate ∈ predicates, address = predicate.window.base ∨
          address = predicate.window.stop) ∧ range.base < address ∧ address < range.stop := by
  rw [cuts, mem_ascending, List.mem_cons, List.mem_cons, List.mem_filter, List.mem_flatMap,
    Bool.and_eq_true, decide_eq_true_eq, decide_eq_true_eq]
  simp only [bounds, List.mem_cons, List.not_mem_nil, or_false]

theorem cut_bounds {range : AddressRange} {predicates : List AddressPredicate}
    {address : UInt64} (member : address ∈ cuts range predicates) :
    range.base ≤ address ∧ address ≤ range.stop := by
  have ordered := UInt64.le_of_lt range.base_lt_stop
  rcases (mem_cuts_iff _ _ _).mp member with rfl | rfl | ⟨_, above, below⟩
  · exact ⟨UInt64.le_refl _, ordered⟩
  · exact ⟨ordered, UInt64.le_refl _⟩
  · exact ⟨UInt64.le_of_lt above, UInt64.le_of_lt below⟩

theorem exists_cuts_of_mem {range segment : AddressRange} {predicates : List AddressPredicate}
    (member : segment ∈ segments range predicates) :
    segment.base ∈ cuts range predicates ∧ segment.stop ∈ cuts range predicates ∧
      ∀ point ∈ cuts range predicates, point ≤ segment.base ∨ segment.stop ≤ point := by
  rw [segments] at member
  rcases List.mem_filterMap.mp member with ⟨pair, pairMember, made⟩
  rcases AddressRange.bounds_of_ofBounds? made with ⟨base, stop⟩
  rcases neighbours_of_mem_zip (ascending_ascends _) pairMember with
    ⟨first, second, _, between⟩
  rw [base, stop]
  exact ⟨first, second, between⟩

theorem containsRange_of_mem_segments {range segment : AddressRange}
    {predicates : List AddressPredicate} (member : segment ∈ segments range predicates) :
    range.containsRange segment = true := by
  rcases exists_cuts_of_mem member with ⟨base, stop, _⟩
  rw [AddressRange.containsRange, Bool.and_eq_true, decide_eq_true_eq, decide_eq_true_eq]
  exact ⟨(cut_bounds base).1, (cut_bounds stop).2⟩

theorem segments_ascend (range : AddressRange) (predicates : List AddressPredicate) :
    (segments range predicates).Pairwise fun first second => first.stop ≤ second.base := by
  rw [segments, List.pairwise_filterMap]
  apply (zip_tail_ascends (ascending_ascends _)).imp
  intro pair other ordered first made second madeSecond
  rw [(AddressRange.bounds_of_ofBounds? made).2, (AddressRange.bounds_of_ofBounds? madeSecond).1]
  exact ordered

theorem exists_segment (range : AddressRange) (predicates : List AddressPredicate)
    {address : UInt64} (inside : range.contains address = true) :
    ∃ segment ∈ segments range predicates, segment.contains address = true := by
  rw [AddressRange.contains_iff_le_and_lt] at inside
  rcases exists_mem_zip (ascending_ascends _)
    ((mem_cuts_iff range predicates _).mpr (Or.inl rfl))
    ((mem_cuts_iff range predicates _).mpr (Or.inr (Or.inl rfl))) inside.1 inside.2 with
    ⟨pair, member, above, below⟩
  rcases AddressRange.exists_of_lt (UInt64.lt_of_le_of_lt above below) with ⟨segment, made⟩
  rcases AddressRange.bounds_of_ofBounds? made with ⟨base, stop⟩
  refine ⟨segment, List.mem_filterMap.mpr ⟨pair, member, made⟩, ?_⟩
  rw [AddressRange.contains_iff_le_and_lt, base, stop]
  exact ⟨above, below⟩

/-- The first good address of the first segment that has one is the first of the range. -/
theorem least_of_segments {range segment : AddressRange} {predicates : List AddressPredicate}
    {earlier later : List AddressRange} {good : UInt64 → Prop} {address : UInt64}
    (splits : segments range predicates = earlier ++ segment :: later)
    (none : ∀ before ∈ earlier, ∀ other, before.contains other = true → ¬ good other)
    (inside : segment.contains address = true)
    (least : ∀ other, segment.contains other = true → good other → address ≤ other) :
    ∀ other, range.contains other = true → good other → address ≤ other := by
  intro other insideRange isGood
  rcases exists_segment range predicates insideRange with ⟨place, placeMember, insidePlace⟩
  have ascend := segments_ascend range predicates
  rw [splits] at placeMember ascend
  -- Segments before this one have no good address, and those after it lie above.
  rcases before_or_follows ascend placeMember with before | rfl | ordered
  · exact absurd isGood (none place before other insidePlace)
  · exact least other insidePlace isGood
  · have below := AddressRange.lt_stop_of_contains inside
    have start := AddressRange.base_le_of_contains insidePlace
    exact UInt64.le_of_lt (UInt64.lt_of_lt_of_le below (UInt64.le_trans ordered start))

theorem containsRange_or_apart {range segment : AddressRange}
    {predicates : List AddressPredicate} (member : segment ∈ segments range predicates)
    {predicate : AddressPredicate} (predicateMember : predicate ∈ predicates) :
    predicate.window.containsRange segment = true ∨
      predicate.window.overlaps segment = false := by
  rcases exists_cuts_of_mem member with ⟨base, stop, between⟩
  have within := containsRange_of_mem_segments member
  have atBase : range.base < predicate.window.base → predicate.window.base < range.stop →
      predicate.window.base ≤ segment.base ∨ segment.stop ≤ predicate.window.base :=
    fun above below => between _ ((mem_cuts_iff _ _ _).mpr
      (Or.inr (Or.inr ⟨⟨predicate, predicateMember, Or.inl rfl⟩, above, below⟩)))
  have atStop : range.base < predicate.window.stop → predicate.window.stop < range.stop →
      predicate.window.stop ≤ segment.base ∨ segment.stop ≤ predicate.window.stop :=
    fun above below => between _ ((mem_cuts_iff _ _ _).mpr
      (Or.inr (Or.inr ⟨⟨predicate, predicateMember, Or.inr rfl⟩, above, below⟩)))
  have positive := segment.size_toNat_pos
  rw [AddressRange.containsRange_iff] at within ⊢
  rw [← Bool.not_eq_true, AddressRange.overlaps_iff]
  simp only [UInt64.lt_iff_toNat_lt, UInt64.le_iff_toNat_le, AddressRange.toNat_stop] at atBase
  simp only [UInt64.lt_iff_toNat_lt, UInt64.le_iff_toNat_le, AddressRange.toNat_stop] at atStop
  omega

theorem not_accepts_of_apart {segment : AddressRange} {predicate : AddressPredicate}
    (apart : predicate.window.overlaps segment = false) {address : UInt64}
    (inside : segment.contains address = true) : predicate.accepts address = false := by
  rw [← Bool.not_eq_true]
  intro accepted
  have overlapping := AddressRange.overlaps_of_contains
    (AddressPredicate.contains_window_of_accepts accepted) inside
  rw [apart] at overlapping
  cases overlapping

end MemoryFabric.Check
