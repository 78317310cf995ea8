import MemoryFabric.Check.Coverage
import MemoryFabric.Proofs.Address.Field
import MemoryFabric.Proofs.Address.Search
import MemoryFabric.Proofs.Address.Submasks

/-! Gaps in one segment, which is spanned by the ranges of all predicates that are
active in it. Whether it has a gap is decided without a search where some field is
complete, and not decided where there is none and too many bits are fixed. -/

namespace MemoryFabric.Check

variable {segment : AddressRange} {active : List AddressPredicate}

/-! ## Complete fields -/

/-- Whatever value an address has in the field with this mask, some predicate asks for it. -/
def Complete (active : List AddressPredicate) (mask : UInt64) : Prop :=
  ∀ address : UInt64, ∃ predicate ∈ active,
    predicate.mask = mask ∧ address &&& mask = predicate.value

theorem mem_fieldValues_iff (mask : UInt64) (value : Nat) :
    value ∈ ((active.map (·.pattern)).filter (·.mask == mask.toNat)).map (·.value) ↔
      ∃ predicate ∈ active, predicate.mask = mask ∧ predicate.value.toNat = value := by
  rw [List.mem_map]
  constructor
  · rintro ⟨pattern, member, rfl⟩
    rw [List.mem_filter, List.mem_map, beq_iff_eq] at member
    rcases member with ⟨⟨predicate, predicateMember, rfl⟩, same⟩
    exact ⟨predicate, predicateMember, UInt64.toNat_inj.mp same, rfl⟩
  · rintro ⟨predicate, member, rfl, rfl⟩
    refine ⟨predicate.pattern, ?_, rfl⟩
    rw [List.mem_filter, beq_iff_eq]
    exact ⟨List.mem_map_of_mem member, rfl⟩

theorem length_fieldValues_iff (mask : UInt64) :
    (((active.map (·.pattern)).filter (·.mask == mask.toNat)).map (·.value)).eraseDups.length =
      2 ^ BitPattern.bitCount 64 mask.toNat ↔ Complete active mask := by
  rw [BitPattern.length_eraseDups_eq_iff]
  · simp only [mem_fieldValues_iff]
    constructor
    · intro complete address
      rcases complete address.toNat address.toNat_lt with ⟨predicate, member, same, value⟩
      refine ⟨predicate, member, same, ?_⟩
      rw [← UInt64.toNat_inj, UInt64.toNat_and, value]
    · intro complete number small
      rcases complete (UInt64.ofNat number) with ⟨predicate, member, same, value⟩
      refine ⟨predicate, member, same, ?_⟩
      rw [← value, UInt64.toNat_and, UInt64.toNat_ofNat_of_lt' small]
  · intro value member
    rcases (mem_fieldValues_iff mask value).mp member with ⟨predicate, -, rfl, rfl⟩
    refine ⟨predicate.value.toNat_lt, ?_⟩
    rw [← UInt64.toNat_and, predicate.value_land_mask]

theorem hasCompleteField_iff :
    hasCompleteField (active.map (·.pattern)) = true ↔
      ∃ predicate ∈ active, BitPattern.bitCount 64 predicate.mask.toNat < 64 ∧
        Complete active predicate.mask := by
  rw [hasCompleteField, List.any_eq_true]
  constructor
  · rintro ⟨mask, member, complete⟩
    rw [List.mem_eraseDups, List.map_map, List.mem_map] at member
    rcases member with ⟨predicate, predicateMember, rfl⟩
    rw [Bool.and_eq_true, decide_eq_true_eq, beq_iff_eq, Nat.one_shiftLeft] at complete
    exact ⟨predicate, predicateMember, complete.1, (length_fieldValues_iff _).mp complete.2⟩
  · rintro ⟨predicate, member, narrow, complete⟩
    refine ⟨predicate.mask.toNat, ?_, ?_⟩
    · rw [List.mem_eraseDups, List.map_map, List.mem_map]
      exact ⟨predicate, member, rfl⟩
    · rw [Bool.and_eq_true, decide_eq_true_eq, beq_iff_eq, Nat.one_shiftLeft]
      exact ⟨narrow, (length_fieldValues_iff _).mpr complete⟩

/-- Short values do not fill a field of all address bits. -/
theorem narrow_of_complete {mask : UInt64}
    (short : ∀ predicate ∈ active, predicate.ShortValue) (complete : Complete active mask) :
    BitPattern.bitCount 64 mask.toNat < 64 := by
  apply Nat.lt_of_not_le
  intro wide
  have all : ∀ position < 64, mask.toNat.testBit position = true := by
    have count : (List.range 64).countP mask.toNat.testBit = (List.range 64).length := by
      apply Nat.le_antisymm List.countP_le_length
      rw [List.length_range]
      exact wide
    simpa using List.countP_eq_length.mp count
  rcases complete (0 - 1) with ⟨predicate, member, rfl, value⟩
  have clear := AddressPredicate.testBit_value_of_short (short predicate member) (all 0 (by decide))
  rw [← value, UInt64.toNat_and, Nat.testBit_and, all 63 (by decide)] at clear
  revert clear
  decide

/-! ## Constrained bits -/

def constrainedBits (predicates : List AddressPredicate) : Nat :=
  (List.range 64).countP fun position =>
    predicates.any fun predicate => predicate.mask.toNat.testBit position

theorem fixedBits_eq (active : List AddressPredicate) :
    fixedBits (active.map (·.pattern)) = constrainedBits active := by
  have folded : ∀ (active : List AddressPredicate) (start position : Nat),
      ((active.map (·.pattern)).foldl (fun mask pattern => mask ||| pattern.mask)
        start).testBit position = (start.testBit position ||
          active.any fun predicate => predicate.mask.toNat.testBit position) := by
    intro active
    induction active with
    | nil => simp
    | cons predicate rest induction =>
        intro start position
        rw [List.map_cons, List.foldl_cons, induction, Nat.testBit_or, List.any_cons, Bool.or_assoc]
        rfl
  rw [fixedBits, BitPattern.bitCount, constrainedBits]
  congr 1
  funext position
  rw [folded, Nat.zero_testBit, Bool.false_or]

theorem constrainedBits_le {mask : UInt64}
    (masks : ∀ predicate ∈ active, predicate.mask = 0 ∨ predicate.mask = mask) :
    constrainedBits active ≤ BitPattern.bitCount 64 mask.toNat := by
  apply List.countP_mono_left
  intro position _ fixed
  rcases List.any_eq_true.mp fixed with ⟨predicate, member, set⟩
  rcases masks predicate member with zero | same
  · rw [zero, UInt64.toNat_zero, Nat.zero_testBit] at set
    cases set
  · rw [← same]
    exact set

/-! ## The search -/

theorem outside_iff (spans : ∀ predicate ∈ active, predicate.window.containsRange segment = true)
    {address : UInt64} (inside : segment.contains address = true) :
    BitPattern.Outside (active.map (·.pattern)) 64 address.toNat ↔
      ∀ predicate ∈ active, ¬ predicate.accepts address = true := by
  have fits : ∀ predicate ∈ active,
      (predicate.accepts address = true ↔ predicate.pattern.Fits 64 address.toNat) := by
    intro predicate member
    rw [AddressPredicate.accepts_iff_fits]
    exact and_iff_right (AddressRange.contains_of_containsRange (spans predicate member) inside)
  constructor
  · rintro ⟨-, outside⟩ predicate member accepted
    exact outside _ (List.mem_map_of_mem member) ((fits predicate member).mp accepted)
  · intro refused
    refine ⟨address.toNat_lt, ?_⟩
    intro pattern patternMember fitted
    rcases List.mem_map.mp patternMember with ⟨predicate, member, rfl⟩
    exact refused predicate member ((fits predicate member).mpr fitted)

theorem exists_accepts_of_complete
    (spans : ∀ predicate ∈ active, predicate.window.containsRange segment = true)
    {mask address : UInt64} (complete : Complete active mask)
    (inside : segment.contains address = true) :
    ∃ predicate ∈ active, predicate.accepts address = true := by
  rcases complete address with ⟨predicate, member, rfl, value⟩
  refine ⟨predicate, member, ?_⟩
  rw [AddressPredicate.accepts, Bool.and_eq_true, beq_iff_eq]
  exact ⟨AddressRange.contains_of_containsRange (spans predicate member) inside, value⟩

/-- The address is the first of the segment that none of the predicates accepts; without
an address there is none. -/
def IsFirstGap (segment : AddressRange) (active : List AddressPredicate) (found : Option UInt64) :
    Prop :=
  AddressPredicate.IsFirstAddress (fun address => segment.contains address = true ∧
    ∀ predicate ∈ active, ¬ predicate.accepts address = true) segment.base found

theorem isFirstGap_none_iff :
    IsFirstGap segment active none ↔ ∀ address, segment.contains address = true →
      ∃ predicate ∈ active, predicate.accepts address = true := by
  constructor
  · intro first address inside
    apply Classical.byContradiction
    intro refused
    simp only [not_exists, not_and] at refused
    have above := AddressRange.base_le_of_contains inside
    exact UInt64.not_lt.mpr above (first address ⟨inside, refused⟩)
  · rintro covered address ⟨inside, refused⟩
    rcases covered address inside with ⟨predicate, member, accepted⟩
    exact absurd accepted (refused predicate member)

theorem firstOutside_isFirstGap
    (spans : ∀ predicate ∈ active, predicate.window.containsRange segment = true) :
    IsFirstGap segment active (((BitPattern.firstOutside (active.map (·.pattern)) 64
      segment.base.toNat).map UInt64.ofNat).filter (· < segment.stop)) := by
  have first := BitPattern.firstOutside_isFirst (active.map (·.pattern)) 64 segment.base.toNat
  rw [Nat.mod_eq_of_lt segment.base.toNat_lt] at first
  apply (AddressPredicate.isFirstAddress_of_isFirst (fun _ outside => outside.1) first).congr
  intro address
  rw [← AddressRange.contains_iff_le_and_lt, and_comm]
  exact and_congr_right fun inside => outside_iff spans inside

theorem firstUncovered_isFirstGap {found : Option UInt64}
    (spans : ∀ predicate ∈ active, predicate.window.containsRange segment = true)
    (made : firstUncovered segment active = .ok found) : IsFirstGap segment active found := by
  rw [firstUncovered] at made
  split at made
  case isTrue hasComplete =>
    cases made
    rcases hasCompleteField_iff.mp hasComplete with ⟨_, _, _, complete⟩
    exact isFirstGap_none_iff.mpr fun address => exists_accepts_of_complete spans complete
  case isFalse =>
    split at made
    case isTrue => cases made
    case isFalse =>
      cases made
      exact firstOutside_isFirstGap spans

theorem firstUncovered_eq_error {fault : Fault}
    (failed : firstUncovered segment active = .error fault) :
    ¬ hasCompleteField (active.map (·.pattern)) = true ∧
      greatestFixedBits < constrainedBits active ∧
        fault = .misconfigured
          (.tooManyFieldBits (constrainedBits active) segment greatestFixedBits) := by
  rw [firstUncovered, fixedBits_eq] at failed
  split at failed
  case isTrue => cases failed
  case isFalse incomplete =>
    split at failed
    case isTrue wide =>
      cases failed
      exact ⟨incomplete, wide, rfl⟩
    case isFalse => cases failed

theorem firstUncovered_eq_none
    (spans : ∀ predicate ∈ active, predicate.window.containsRange segment = true)
    (few : constrainedBits active ≤ greatestFixedBits)
    (covered : ∀ address, segment.contains address = true →
      ∃ predicate ∈ active, predicate.accepts address = true) :
    firstUncovered segment active = .ok none := by
  cases made : firstUncovered segment active with
  | error fault => exact absurd (firstUncovered_eq_error made).2.1 (Nat.not_lt_of_le few)
  | ok found =>
      cases found with
      | none => rfl
      | some address =>
          rcases (firstUncovered_isFirstGap spans made).1 with ⟨inside, refused⟩
          rcases covered address inside with ⟨predicate, member, accepted⟩
          exact absurd accepted (refused predicate member)

end MemoryFabric.Check
