import MemoryFabric.Address.Range.Checked

/-! Ranges as sets of natural numbers: membership, and ranges that lie apart. -/

namespace MemoryFabric

theorem toNat_max (first second : UInt64) :
    (max first second).toNat = max first.toNat second.toNat := by
  change (if first ≤ second then second else first).toNat = _
  rw [Nat.max_def]
  simp only [UInt64.le_iff_toNat_le]
  split <;> rfl

theorem toNat_min (first second : UInt64) :
    (min first second).toNat = min first.toNat second.toNat := by
  change (if first ≤ second then first else second).toNat = _
  rw [Nat.min_def]
  simp only [UInt64.le_iff_toNat_le]
  split <;> rfl

namespace AddressRange

theorem contains_iff (range : AddressRange) (address : UInt64) :
    range.contains address = true ↔
      range.base.toNat ≤ address.toNat ∧
        address.toNat < range.base.toNat + range.size.toNat := by
  rw [contains, Bool.and_eq_true, decide_eq_true_eq, decide_eq_true_eq, UInt64.le_iff_toNat_le,
    UInt64.lt_iff_toNat_lt, toNat_stop]

theorem containsRange_iff (outer inner : AddressRange) :
    outer.containsRange inner = true ↔
      outer.base.toNat ≤ inner.base.toNat ∧
        inner.base.toNat + inner.size.toNat ≤ outer.base.toNat + outer.size.toNat := by
  rw [containsRange, Bool.and_eq_true, decide_eq_true_eq, decide_eq_true_eq,
    UInt64.le_iff_toNat_le, UInt64.le_iff_toNat_le, toNat_stop, toNat_stop]

theorem overlaps_iff (first second : AddressRange) :
    first.overlaps second = true ↔
      first.base.toNat < second.base.toNat + second.size.toNat ∧
        second.base.toNat < first.base.toNat + first.size.toNat := by
  rw [overlaps, Bool.and_eq_true, decide_eq_true_eq, decide_eq_true_eq, UInt64.lt_iff_toNat_lt,
    UInt64.lt_iff_toNat_lt, toNat_stop, toNat_stop]

theorem overlaps_comm (first second : AddressRange) :
    first.overlaps second = second.overlaps first := by
  rw [overlaps, overlaps, Bool.and_comm]

theorem size_toNat_pos (range : AddressRange) : 0 < range.size.toNat :=
  UInt64.lt_iff_toNat_lt.mp range.size_pos

theorem overlaps_self (range : AddressRange) : range.overlaps range = true := by
  have positive := range.size_toNat_pos
  rw [overlaps_iff]
  omega

theorem contains_base (range : AddressRange) : range.contains range.base = true := by
  have positive := range.size_toNat_pos
  rw [contains_iff]
  omega

theorem one_le_size (range : AddressRange) : 1 ≤ range.size :=
  UInt64.le_iff_toNat_le.mpr range.size_toNat_pos

theorem toNat_last (range : AddressRange) :
    range.last.toNat = range.base.toNat + (range.size - 1).toNat := by
  have positive := range.size_toNat_pos
  have fits := range.fits
  rw [AddressRange.last, UInt64.toNat_add, UInt64.toNat_sub_of_le _ _ range.one_le_size,
    UInt64.toNat_one]
  exact Nat.mod_eq_of_lt (by omega)

theorem contains_last (range : AddressRange) : range.contains range.last = true := by
  have positive := range.size_toNat_pos
  rw [contains_iff, toNat_last, UInt64.toNat_sub_of_le _ _ range.one_le_size, UInt64.toNat_one]
  omega

theorem overlaps_of_contains {first second : AddressRange} {address : UInt64}
    (inFirst : first.contains address = true) (inSecond : second.contains address = true) :
    first.overlaps second = true := by
  rw [contains_iff] at inFirst inSecond
  rw [overlaps_iff]
  omega

theorem contains_of_containsRange {outer inner : AddressRange} {address : UInt64}
    (within : outer.containsRange inner = true) (inside : inner.contains address = true) :
    outer.contains address = true := by
  rw [contains_iff] at inside ⊢
  rw [containsRange_iff] at within
  omega

theorem contains_iff_le_and_lt (range : AddressRange) (address : UInt64) :
    range.contains address = true ↔ range.base ≤ address ∧ address < range.stop := by
  rw [contains, Bool.and_eq_true, decide_eq_true_eq, decide_eq_true_eq]

theorem base_le_of_contains {range : AddressRange} {address : UInt64}
    (inside : range.contains address = true) : range.base ≤ address :=
  ((contains_iff_le_and_lt range address).mp inside).1

theorem lt_stop_of_contains {range : AddressRange} {address : UInt64}
    (inside : range.contains address = true) : address < range.stop :=
  ((contains_iff_le_and_lt range address).mp inside).2

theorem bounds_of_ofBounds? {base stop : UInt64} {range : AddressRange}
    (made : ofBounds? base stop = some range) : range.base = base ∧ range.stop = stop := by
  rw [ofBounds?] at made
  split at made
  case isTrue ordered =>
    cases made
    refine ⟨rfl, ?_⟩
    rw [← UInt64.toNat_inj, toNat_stop]
    dsimp only
    rw [UInt64.toNat_sub_of_le _ _ (UInt64.le_of_lt ordered)]
    exact Nat.add_sub_cancel' (UInt64.le_iff_toNat_le.mp (UInt64.le_of_lt ordered))
  case isFalse => cases made

theorem exists_of_lt {base stop : UInt64} (ordered : base < stop) :
    ∃ range, ofBounds? base stop = some range := by
  rw [ofBounds?, dif_pos ordered]
  exact ⟨_, rfl⟩

theorem contains_intersection_iff {first second shared : AddressRange}
    (inter : first.intersection second = some shared) (address : UInt64) :
    shared.contains address = true ↔
      first.contains address = true ∧ second.contains address = true := by
  rcases bounds_of_ofBounds? inter with ⟨base, stop⟩
  rw [contains_iff_le_and_lt, contains_iff_le_and_lt, contains_iff_le_and_lt, base, stop]
  simp only [UInt64.le_iff_toNat_le, UInt64.lt_iff_toNat_lt, toNat_max, toNat_min]
  omega

theorem overlaps_iff_lt (first second : AddressRange) :
    first.overlaps second = true ↔ max first.base second.base < min first.stop second.stop := by
  have firstPositive := first.size_toNat_pos
  have secondPositive := second.size_toNat_pos
  rw [overlaps_iff, UInt64.lt_iff_toNat_lt, toNat_max, toNat_min, toNat_stop, toNat_stop]
  omega

theorem exists_intersection {first second : AddressRange} {address : UInt64}
    (inFirst : first.contains address = true) (inSecond : second.contains address = true) :
    ∃ shared, first.intersection second = some shared :=
  exists_of_lt ((overlaps_iff_lt first second).mp (overlaps_of_contains inFirst inSecond))

theorem ofSize_eq_ok_iff (base size : UInt64) (range : AddressRange) :
    ofSize base size = .ok range ↔ range.base = base ∧ range.size = size := by
  rw [ofSize]
  constructor
  · intro made
    split at made
    · split at made
      · cases made
        exact ⟨rfl, rfl⟩
      · cases made
    · cases made
  · rintro ⟨rfl, rfl⟩
    rw [dif_pos range.size_pos, dif_pos range.fits]

end AddressRange

end MemoryFabric
