import MemoryFabric.Fault

/-! Ranges from numbers that may not describe one, and equal parts of a range. -/

namespace MemoryFabric.AddressRange

/-- The `size` addresses from `base` on. An empty range is named before one that
does not fit. -/
def ofSize (base size : UInt64) : Except Fault AddressRange :=
  if positive : 0 < size then
    if fits : base.toNat + size.toNat < 0x10000000000000000 then .ok ⟨base, size, positive, fits⟩
    else .error (.addressOverflow base size)
  else .error (.emptyRange base)

def ofBounds (base stop : UInt64) : Except Fault AddressRange :=
  match ofBounds? base stop with
  | some range => .ok range
  | none => .error (.emptyRange base)

def offsetOf (range : AddressRange) (address : UInt64) : Except Fault UInt64 :=
  if range.contains address then .ok (address - range.base)
  else .error (.outOfRange range address)

theorem part_bounds {size parts index : Nat} (size_pos : 0 < size) (divides : size % parts = 0)
    (index_lt : index < parts) :
    0 < size / parts ∧ index * (size / parts) + size / parts ≤ size := by
  have whole : parts * (size / parts) = size :=
    Nat.mul_div_cancel' (Nat.dvd_of_mod_eq_zero divides)
  constructor
  · rcases Nat.eq_zero_or_pos (size / parts) with zero | positive
    · rw [zero] at whole
      omega
    · exact positive
  · have inside : (index + 1) * (size / parts) ≤ parts * (size / parts) :=
      Nat.mul_le_mul_right _ index_lt
    rw [whole, Nat.add_mul, Nat.one_mul] at inside
    exact inside

def part (range : AddressRange) (parts index : Nat) (divides : range.size.toNat % parts = 0)
    (index_lt : index < parts) : AddressRange :=
  have bounds := part_bounds (UInt64.lt_iff_toNat_lt.mp range.size_pos) divides index_lt
  have fits := range.fits
  have length_lt : range.size.toNat / parts < 0x10000000000000000 := by omega
  have base_lt :
      range.base.toNat + index * (range.size.toNat / parts) < 0x10000000000000000 := by omega
  { base := UInt64.ofNat (range.base.toNat + index * (range.size.toNat / parts))
    size := UInt64.ofNat (range.size.toNat / parts)
    size_pos := by
      rw [UInt64.lt_iff_toNat_lt, UInt64.toNat_ofNat_of_lt' length_lt]
      exact bounds.1
    fits := by
      rw [UInt64.toNat_ofNat_of_lt' length_lt, UInt64.toNat_ofNat_of_lt' base_lt]
      omega }

def splitFlat (range : AddressRange) (parts : UInt64) : Except Fault (List AddressRange) :=
  if divides : parts ≠ 0 ∧ range.size.toNat % parts.toNat = 0 then
    .ok (List.ofFn fun index : Fin parts.toNat =>
      range.part parts.toNat index divides.2 index.isLt)
  else .error (.invalidPartition range parts)

end MemoryFabric.AddressRange
