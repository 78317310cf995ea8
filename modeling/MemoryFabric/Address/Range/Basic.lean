import MemoryFabric.Text.Numeral

/-! Half-open ranges of physical addresses. A range is never empty and its end
is a 64-bit number, so no operation on ranges wraps around. -/

namespace MemoryFabric

structure AddressRange where
  base : UInt64
  size : UInt64
  size_pos : 0 < size
  fits : base.toNat + size.toNat < 0x10000000000000000
deriving DecidableEq

namespace AddressRange

/-- The address one past the last. -/
def stop (range : AddressRange) : UInt64 :=
  range.base + range.size

def last (range : AddressRange) : UInt64 :=
  range.base + (range.size - 1)

theorem toNat_stop (range : AddressRange) :
    range.stop.toNat = range.base.toNat + range.size.toNat := by
  rw [stop, UInt64.toNat_add, Nat.mod_eq_of_lt range.fits]

theorem base_lt_stop (range : AddressRange) : range.base < range.stop := by
  have positive := UInt64.lt_iff_toNat_lt.mp range.size_pos
  rw [UInt64.lt_iff_toNat_lt, toNat_stop]
  simp only [UInt64.toNat_zero] at positive
  omega

@[ext] theorem ext {first second : AddressRange} (base : first.base = second.base)
    (size : first.size = second.size) : first = second := by
  cases first
  cases second
  simp_all

def ofBounds? (base stop : UInt64) : Option AddressRange :=
  if ordered : base < stop then
    some {
      base
      size := stop - base
      size_pos := by
        have bounds := UInt64.lt_iff_toNat_lt.mp ordered
        rw [UInt64.lt_iff_toNat_lt, UInt64.toNat_sub_of_le _ _ (UInt64.le_of_lt ordered)]
        simp only [UInt64.toNat_zero]
        omega
      fits := by
        have bounds := UInt64.lt_iff_toNat_lt.mp ordered
        have stopBound := stop.toNat_lt
        rw [UInt64.toNat_sub_of_le _ _ (UInt64.le_of_lt ordered)]
        omega }
  else none

def contains (range : AddressRange) (address : UInt64) : Bool :=
  range.base ≤ address && address < range.stop

def containsRange (outer inner : AddressRange) : Bool :=
  outer.base ≤ inner.base && inner.stop ≤ outer.stop

def overlaps (first second : AddressRange) : Bool :=
  first.base < second.stop && second.base < first.stop

def intersection (first second : AddressRange) : Option AddressRange :=
  ofBounds? (max first.base second.base) (min first.stop second.stop)

/-- Ranges are ordered by their base, and by their size where they start alike. -/
def compare (first second : AddressRange) : Ordering :=
  (Ord.compare first.base second.base).then (Ord.compare first.size second.size)

instance : Ord AddressRange := ⟨compare⟩

protected def toString (range : AddressRange) : String :=
  "[" ++ Text.address range.base ++ ", " ++ Text.address range.stop ++ ")"

instance : ToString AddressRange := ⟨AddressRange.toString⟩

example : (ofBounds? 0x1000 0x2000).map AddressRange.toString = some "[0x1000, 0x2000)" := by
  decide +kernel

end AddressRange

end MemoryFabric
