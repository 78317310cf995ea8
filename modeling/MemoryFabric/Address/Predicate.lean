import MemoryFabric.Address.BitPattern
import MemoryFabric.Address.Range.Checked

/-! Acceptance predicates: the addresses that a bridge lets pass or that a memory
controller serves. -/

namespace MemoryFabric

def fieldLowBit (bits highBit : Nat) : Nat :=
  highBit + 1 - bits

/-- A word with its bits moved up by any number of places; what leaves it at the
top is lost. -/
def moveUp (word : UInt64) (places : Nat) : UInt64 :=
  if places < 64 then word <<< UInt64.ofNat places else 0

theorem toNat_moveUp (word : UInt64) (places : Nat) :
    (moveUp word places).toNat = word.toNat <<< places % 0x10000000000000000 := by
  rw [moveUp]
  split
  case isTrue within =>
    have placesBound : places < UInt64.size := Nat.lt_trans within (by decide)
    rw [UInt64.toNat_shiftLeft, UInt64.toNat_ofNat_of_lt' placesBound, Nat.mod_eq_of_lt within]
  case isFalse outside =>
    obtain ⟨rest, rfl⟩ := Nat.exists_eq_add_of_le (Nat.le_of_not_lt outside)
    rw [Nat.shiftLeft_eq, Nat.pow_add, Nat.mul_left_comm]
    exact (Nat.mul_mod_right _ _).symm

/-- The bits of a field of `bits` bits whose highest bit is `highBit`, as far as
they are bits of an address. -/
def fieldMask (bits highBit : Nat) : UInt64 :=
  moveUp (moveUp 1 bits - 1) (fieldLowBit bits highBit)

/-- A range, or the addresses of a range that have one value in one field. -/
inductive AddressPredicate where
  | whole (range : AddressRange)
  | interleaved (range : AddressRange) (bits highBit matchValue : Nat)
deriving DecidableEq

namespace AddressPredicate

def ofField (range : AddressRange) (bits highBit matchValue : Nat) :
    Except Fault AddressPredicate :=
  if highBit ≥ 64 || bits > highBit + 1 then .error (.interleaveBitsOutOfRange highBit)
  else if matchValue >>> bits ≠ 0 then misconfigured (.matchValueTooWide matchValue bits)
  else .ok (.interleaved range bits highBit matchValue)

def window : AddressPredicate → AddressRange
  | .whole range => range
  | .interleaved range _ _ _ => range

def isInterleaved : AddressPredicate → Bool
  | .whole _ => false
  | .interleaved _ _ _ _ => true

def mask : AddressPredicate → UInt64
  | .whole _ => 0
  | .interleaved _ bits highBit _ => fieldMask bits highBit

def value : AddressPredicate → UInt64
  | .whole _ => 0
  | .interleaved _ bits highBit matchValue =>
      moveUp (UInt64.ofNat matchValue) (fieldLowBit bits highBit) &&& fieldMask bits highBit

theorem value_land_mask (predicate : AddressPredicate) :
    predicate.value &&& predicate.mask = predicate.value := by
  cases predicate with
  | whole range => exact UInt64.zero_and
  | interleaved range bits highBit matchValue =>
      rw [value, mask, UInt64.and_assoc, UInt64.and_self]

def accepts (predicate : AddressPredicate) (address : UInt64) : Bool :=
  predicate.window.contains address && address &&& predicate.mask == predicate.value

def pattern (predicate : AddressPredicate) : BitPattern :=
  ⟨predicate.mask.toNat, predicate.value.toNat⟩

def firstMasked (start mask value : UInt64) : Option UInt64 :=
  (BitPattern.firstFrom ⟨mask.toNat, value.toNat⟩ 64 start.toNat).map UInt64.ofNat

def firstFrom (predicate : AddressPredicate) (start : UInt64) : Option UInt64 :=
  let window := predicate.window
  let start := max start window.base
  if start < window.stop then
    (firstMasked start predicate.mask predicate.value).filter (· < window.stop)
  else none

def overlapWitness (first second : AddressPredicate) : Option UInt64 := do
  let shared ← first.window.intersection second.window
  if (first.value ^^^ second.value) &&& first.mask &&& second.mask = 0 then
    (firstMasked shared.base (first.mask ||| second.mask) (first.value ||| second.value)).filter
      (· < shared.stop)
  else none

protected def toString : AddressPredicate → String
  | .whole range => s!"{range}"
  | .interleaved range bits highBit matchValue =>
      s!"{range} bits[{highBit}:{fieldLowBit bits highBit}]=={matchValue}"

instance : ToString AddressPredicate := ⟨AddressPredicate.toString⟩

example : fieldMask 2 7 = 192 := by decide +kernel
example : fieldMask 64 63 = UInt64.ofNat (2 ^ 64 - 1) := by decide +kernel

end AddressPredicate

end MemoryFabric
