import Mathlib.Algebra.Group.Nat.Defs
import MemoryFabric.Proofs.Address.Field

/-! Arithmetic that stops where a result is no word, instead of wrapping around. Where it does
not stop, sums, differences and products are those of natural numbers. The mask and the value of
a checked predicate are computed without a stop. -/

namespace MemoryFabric

/-- What cannot be done with words: a sum, a difference or a product is no word, bits are moved
up by a whole word or further, or a count of bits is no number of 32 bits. -/
inductive Overflow where
  | sum
  | difference
  | product
  | shift
  | count
deriving DecidableEq, Repr

namespace Word

def sum (first second : UInt64) : Except Overflow UInt64 :=
  if first.toNat + second.toNat < UInt64.size then .ok (first + second) else .error .sum

def difference (first second : UInt64) : Except Overflow UInt64 :=
  if second ≤ first then .ok (first - second) else .error .difference

def product (first second : UInt64) : Except Overflow UInt64 :=
  if first.toNat * second.toNat < UInt64.size then .ok (first * second) else .error .product

def shifted (word : UInt64) (places : Nat) : Except Overflow UInt64 :=
  if places < 64 then .ok (word <<< UInt64.ofNat places) else .error .shift

def counted (number : Nat) : Except Overflow Nat :=
  if number < UInt32.size then .ok number else .error .count

def ones (count : Nat) : Except Overflow UInt64 :=
  if 64 ≤ count then .ok 0xFFFFFFFFFFFFFFFF
  else do
    let power ← shifted 1 count
    difference power 1

def lowBitOf (bits highBit : Nat) : Except Overflow Nat := do
  let width ← counted (highBit + 1)
  return width - bits

def maskOf (bits highBit : Nat) : Except Overflow UInt64 :=
  if bits = 0 then .ok 0
  else do
    let low ← lowBitOf bits highBit
    let lowest ← ones bits
    shifted lowest low

def mask : AddressPredicate → Except Overflow UInt64
  | .whole _ => .ok 0
  | .interleaved _ bits highBit _ => maskOf bits highBit

def value : AddressPredicate → Except Overflow UInt64
  | .whole _ => .ok 0
  | .interleaved _ bits highBit matchValue =>
      if bits = 0 then .ok 0
      else do
        let low ← lowBitOf bits highBit
        let placed ← shifted (UInt64.ofNat matchValue) low
        let fixed ← maskOf bits highBit
        return placed &&& fixed

/-! ## Exact results -/

theorem fitting_eq_ok_iff {number : Nat} {word : UInt64}
    (exact : number < UInt64.size → word.toNat = number) (overflow : Overflow) (result : UInt64) :
    (if number < UInt64.size then Except.ok word else Except.error overflow) = .ok result ↔
      result.toNat = number := by
  split
  case isTrue fits =>
    rw [Except.ok.injEq, ← UInt64.toNat_inj, exact fits]
    exact eq_comm
  case isFalse beyond =>
    have bound := result.toNat_lt
    refine iff_of_false (fun made => by cases made) fun same => beyond ?_
    rw [← same]
    exact bound

theorem sum_eq_ok_iff (first second result : UInt64) :
    sum first second = .ok result ↔ result.toNat = first.toNat + second.toNat := by
  rw [sum]
  apply fitting_eq_ok_iff
  intro fits
  rw [UInt64.toNat_add, Nat.mod_eq_of_lt fits]

theorem difference_eq_ok_iff (first second result : UInt64) :
    difference first second = .ok result ↔ first.toNat = result.toNat + second.toNat := by
  rw [difference]
  split
  case isTrue ordered =>
    rw [Except.ok.injEq, ← UInt64.toNat_inj, UInt64.toNat_sub_of_le _ _ ordered]
    rw [UInt64.le_iff_toNat_le] at ordered
    omega
  case isFalse below =>
    rw [UInt64.le_iff_toNat_le] at below
    exact iff_of_false (fun made => by cases made) (by omega)

theorem product_eq_ok_iff (first second result : UInt64) :
    product first second = .ok result ↔ result.toNat = first.toNat * second.toNat := by
  rw [product]
  apply fitting_eq_ok_iff
  intro fits
  rw [UInt64.toNat_mul, Nat.mod_eq_of_lt fits]

theorem shifted_eq {places : Nat} (inside : places < 64) (word : UInt64) :
    shifted word places = .ok (moveUp word places) := by
  rw [shifted, moveUp, if_pos inside, if_pos inside]

theorem counted_eq {number : Nat} (small : number ≤ 128) : counted number = .ok number := by
  have bound : number < UInt32.size := by
    change number < 4294967296
    omega
  rw [counted, if_pos bound]

theorem below_bit_eq {place : Nat} (inside : place < 64) :
    difference (moveUp 1 place) 1 = .ok (moveUp 1 place - 1) := by
  rw [difference, if_pos (one_le_moveUp_one inside)]

theorem ones_eq (count : Nat) : ones count = .ok (moveUp 1 count - 1) := by
  rw [ones]
  split
  case isTrue all =>
    rw [moveUp, if_neg (Nat.not_lt_of_le all)]
    rfl
  case isFalse some =>
    have inside : count < 64 := Nat.lt_of_not_le some
    rw [shifted_eq inside, ok_bind, below_bit_eq inside]

/-! ## Fields -/

theorem lowBitOf_eq {highBit : Nat} (high : highBit < 64) (bits : Nat) :
    lowBitOf bits highBit = .ok (fieldLowBit bits highBit) := by
  rw [lowBitOf, counted_eq (by omega), ok_bind]
  rfl

theorem fieldLowBit_lt {bits highBit : Nat} (high : highBit < 64) (positive : bits ≠ 0) :
    fieldLowBit bits highBit < 64 := by
  rw [fieldLowBit]
  omega

theorem maskOf_eq {highBit : Nat} (high : highBit < 64) (bits : Nat) :
    maskOf bits highBit = .ok (fieldMask bits highBit) := by
  rw [maskOf]
  split
  case isTrue empty => rw [empty, fieldMask_zero]
  case isFalse positive =>
    rw [lowBitOf_eq high, ok_bind, ones_eq, ok_bind, shifted_eq (fieldLowBit_lt high positive)]
    rfl

variable {predicate : AddressPredicate}

theorem mask_eq (checked : predicate.Checked) : mask predicate = .ok predicate.mask := by
  cases predicate with
  | whole range => rfl
  | interleaved range bits highBit matchValue => exact maskOf_eq checked.fieldFits.high bits

theorem value_eq (checked : predicate.Checked) : value predicate = .ok predicate.value := by
  cases predicate with
  | whole range => rfl
  | interleaved range bits highBit matchValue =>
      have high := checked.fieldFits.high
      rw [value, AddressPredicate.value]
      split
      case isTrue empty => rw [empty, fieldMask_zero, UInt64.and_zero]
      case isFalse positive =>
        rw [lowBitOf_eq high, ok_bind, shifted_eq (fieldLowBit_lt high positive), ok_bind,
          maskOf_eq high, ok_bind]
        rfl

end Word

end MemoryFabric
