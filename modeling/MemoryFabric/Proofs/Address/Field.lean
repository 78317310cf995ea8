import Mathlib.Algebra.Group.Nat.Defs
import Mathlib.Logic.ExistsUnique
import MemoryFabric.Address.Predicate
import MemoryFabric.Proofs.Address.Range
import MemoryFabric.Proofs.FirstFault

/-! Fields of an address: the mask of a field, its value in place, and what a
predicate that fixes a field accepts. -/

namespace MemoryFabric

/-- A field that lies inside an address and can have the value. -/
structure FieldFits (bits highBit matchValue : Nat) : Prop where
  high : highBit < 64
  inside : bits ≤ highBit + 1
  value : matchValue < 2 ^ bits

def fieldBits (bits highBit : Nat) : Nat :=
  min bits (64 - fieldLowBit bits highBit)

theorem fieldBits_eq {bits highBit : Nat} (high : highBit < 64) (inside : bits ≤ highBit + 1) :
    fieldBits bits highBit = bits := by
  rw [fieldBits, fieldLowBit]
  omega

/-! ## Masks and values, bit by bit -/

theorem testBit_moveUp (word : UInt64) (places position : Nat) :
    (moveUp word places).toNat.testBit position =
      (decide (position < 64) &&
        (decide (places ≤ position) && word.toNat.testBit (position - places))) := by
  rw [toNat_moveUp, show (0x10000000000000000 : Nat) = 2 ^ 64 from rfl, Nat.testBit_mod_two_pow,
    Nat.testBit_shiftLeft]

theorem toNat_moveUp_one {place : Nat} (inside : place < 64) :
    (moveUp 1 place).toNat = 2 ^ place := by
  rw [toNat_moveUp, UInt64.toNat_one, Nat.one_shiftLeft]
  exact Nat.mod_eq_of_lt (Nat.pow_lt_pow_right Nat.one_lt_two inside)

theorem one_le_moveUp_one {place : Nat} (inside : place < 64) : 1 ≤ moveUp 1 place := by
  rw [UInt64.le_iff_toNat_le, toNat_moveUp_one inside]
  exact Nat.two_pow_pos place

theorem testBit_moveUp_one_sub_one (bits position : Nat) :
    (moveUp 1 bits - 1).toNat.testBit position = decide (position < min bits 64) := by
  have ones : (moveUp 1 bits - 1).toNat = 2 ^ min bits 64 - 1 := by
    rcases Nat.lt_or_ge bits 64 with small | large
    · rw [UInt64.toNat_sub_of_le _ _ (one_le_moveUp_one small), toNat_moveUp_one small,
        UInt64.toNat_one, Nat.min_eq_left (Nat.le_of_lt small)]
    · rw [moveUp, if_neg (Nat.not_lt.mpr large), Nat.min_eq_right large]
      rfl
  rw [ones, Nat.testBit_two_pow_sub_one]

theorem testBit_fieldMask (bits highBit position : Nat) :
    (fieldMask bits highBit).toNat.testBit position =
      (decide (fieldLowBit bits highBit ≤ position) &&
        decide (position - fieldLowBit bits highBit < fieldBits bits highBit)) := by
  rw [fieldMask, testBit_moveUp, testBit_moveUp_one_sub_one, fieldBits, ← Bool.decide_and,
    ← Bool.decide_and, ← Bool.decide_and]
  apply decide_eq_decide.mpr
  omega

theorem toNat_fieldMask (bits highBit : Nat) :
    (fieldMask bits highBit).toNat =
      (2 ^ fieldBits bits highBit - 1) <<< fieldLowBit bits highBit := by
  apply Nat.eq_of_testBit_eq
  intro position
  rw [testBit_fieldMask, Nat.testBit_shiftLeft, Nat.testBit_two_pow_sub_one]

theorem fieldMask_zero (highBit : Nat) : fieldMask 0 highBit = 0 := by
  rw [← UInt64.toNat_inj, toNat_fieldMask, fieldBits, Nat.zero_min, Nat.pow_zero, Nat.sub_self,
    Nat.zero_shiftLeft]
  rfl

theorem toNat_fieldMask_of_inside {bits highBit : Nat} (high : highBit < 64)
    (inside : bits ≤ highBit + 1) :
    (fieldMask bits highBit).toNat = (2 ^ bits - 1) * 2 ^ (highBit + 1 - bits) := by
  rw [toNat_fieldMask, fieldBits_eq high inside, Nat.shiftLeft_eq, fieldLowBit]

/-- What a mask leaves of a number is the value of the field in its place. -/
theorem land_ones_shiftLeft (number bits low : Nat) :
    number &&& (2 ^ bits - 1) <<< low = (number / 2 ^ low % 2 ^ bits) <<< low := by
  apply Nat.eq_of_testBit_eq
  intro position
  rw [Nat.testBit_and, Nat.testBit_shiftLeft, Nat.testBit_shiftLeft]
  by_cases above : low ≤ position
  · rw [Nat.testBit_two_pow_sub_one, Nat.testBit_mod_two_pow, Nat.testBit_div_two_pow,
      Nat.sub_add_cancel above]
    simp [above, Bool.and_comm]
  · simp [above]

theorem shiftLeft_inj {first second low : Nat} :
    first <<< low = second <<< low ↔ first = second := by
  rw [Nat.shiftLeft_eq, Nat.shiftLeft_eq]
  exact Nat.mul_left_inj (Nat.ne_of_gt (Nat.two_pow_pos low))

namespace AddressPredicate

theorem ofField_eq_ok_iff (range : AddressRange) (bits highBit matchValue : Nat)
    (predicate : AddressPredicate) :
    ofField range bits highBit matchValue = .ok predicate ↔
      FieldFits bits highBit matchValue ∧
        predicate = .interleaved range bits highBit matchValue := by
  rw [ofField]
  constructor
  · intro made
    split at made
    · cases made
    · rename_i inside
      split at made
      · cases made
      · rename_i narrow
        cases made
        rw [Bool.or_eq_true, decide_eq_true_eq, decide_eq_true_eq, not_or] at inside
        rw [ne_eq, Classical.not_not, Nat.shiftRight_eq_div_pow,
          Nat.div_eq_zero_iff_lt (Nat.two_pow_pos bits)] at narrow
        exact ⟨⟨Nat.lt_of_not_le inside.1, Nat.le_of_not_lt inside.2, narrow⟩, rfl⟩
  · rintro ⟨fits, rfl⟩
    have high := fits.high
    have inside := fits.inside
    rw [if_neg (by simp; omega), if_neg]
    rw [ne_eq, Classical.not_not, Nat.shiftRight_eq_div_pow,
      Nat.div_eq_zero_iff_lt (Nat.two_pow_pos bits)]
    exact fits.value

/-- The predicate was made by one of the checked constructors. -/
inductive Checked : AddressPredicate → Prop where
  | whole (range : AddressRange) : Checked (.whole range)
  | ofField {range : AddressRange} {bits highBit matchValue : Nat} {predicate : AddressPredicate}
      (made : ofField range bits highBit matchValue = .ok predicate) : Checked predicate

theorem Checked.fieldFits {range : AddressRange} {bits highBit matchValue : Nat}
    (checked : Checked (.interleaved range bits highBit matchValue)) :
    FieldFits bits highBit matchValue := by
  cases checked with
  | ofField made =>
      rcases (ofField_eq_ok_iff _ _ _ _ _).mp made with ⟨fits, same⟩
      cases same
      exact fits

theorem checked_interleaved_iff (range : AddressRange) (bits highBit matchValue : Nat) :
    Checked (.interleaved range bits highBit matchValue) ↔
      ofField range bits highBit matchValue = .ok (.interleaved range bits highBit matchValue) := by
  constructor
  · intro checked
    exact (ofField_eq_ok_iff _ _ _ _ _).mpr ⟨checked.fieldFits, rfl⟩
  · exact .ofField

instance decidableChecked : DecidablePred Checked
  | .whole range => isTrue (.whole range)
  | .interleaved range bits highBit matchValue =>
      decidable_of_iff _ (checked_interleaved_iff range bits highBit matchValue).symm

theorem toNat_value_interleaved (range : AddressRange) (bits highBit matchValue : Nat) :
    (interleaved range bits highBit matchValue).value.toNat =
      (matchValue % 2 ^ fieldBits bits highBit) <<< fieldLowBit bits highBit := by
  apply Nat.eq_of_testBit_eq
  intro position
  rw [value, UInt64.toNat_and, Nat.testBit_and, testBit_fieldMask, testBit_moveUp,
    UInt64.toNat_ofNat', Nat.testBit_mod_two_pow, Nat.testBit_shiftLeft, Nat.testBit_mod_two_pow,
    fieldBits]
  cases matchValue.testBit (position - fieldLowBit bits highBit) with
  | false => simp
  | true =>
      simp only [Bool.and_true, ← Bool.decide_and]
      apply decide_eq_decide.mpr
      omega

theorem toNat_value_of_fits {bits highBit matchValue : Nat}
    (fits : FieldFits bits highBit matchValue) (range : AddressRange) :
    (interleaved range bits highBit matchValue).value.toNat =
      matchValue * 2 ^ (highBit + 1 - bits) := by
  rw [toNat_value_interleaved, fieldBits_eq fits.high fits.inside, Nat.mod_eq_of_lt fits.value,
    Nat.shiftLeft_eq, fieldLowBit]

/-- An interleaved predicate accepts the addresses of its range whose field has its value,
as far as the field lies inside an address. -/
theorem accepts_interleaved_iff_mod (range : AddressRange) (bits highBit matchValue : Nat)
    (address : UInt64) :
    (interleaved range bits highBit matchValue).accepts address = true ↔
      range.contains address = true ∧
        address.toNat / 2 ^ fieldLowBit bits highBit % 2 ^ fieldBits bits highBit =
          matchValue % 2 ^ fieldBits bits highBit := by
  rw [accepts, Bool.and_eq_true, beq_iff_eq, window, ← UInt64.toNat_inj, UInt64.toNat_and,
    toNat_value_interleaved, mask, toNat_fieldMask, land_ones_shiftLeft, shiftLeft_inj]

theorem accepts_interleaved_iff (range : AddressRange) {bits highBit matchValue : Nat}
    (fits : FieldFits bits highBit matchValue) (address : UInt64) :
    (interleaved range bits highBit matchValue).accepts address = true ↔
      range.contains address = true ∧
        address.toNat / 2 ^ fieldLowBit bits highBit % 2 ^ bits = matchValue := by
  rw [accepts_interleaved_iff_mod, fieldBits_eq fits.high fits.inside, Nat.mod_eq_of_lt fits.value]

@[simp] theorem accepts_whole (range : AddressRange) (address : UInt64) :
    (whole range).accepts address = range.contains address := by
  simp [accepts, window, mask, value]

/-- The match value, if there is one, has at most 32 bits. -/
def ShortValue : AddressPredicate → Prop
  | .whole _ => True
  | .interleaved _ _ _ matchValue => matchValue < 2 ^ 32

instance : ∀ predicate : AddressPredicate, Decidable predicate.ShortValue
  | .whole _ => inferInstanceAs (Decidable True)
  | .interleaved _ _ _ matchValue => inferInstanceAs (Decidable (matchValue < 2 ^ 32))

/-- A short value leaves the top bit clear in a field that begins at the lowest bit. -/
theorem testBit_value_of_short {predicate : AddressPredicate} (short : predicate.ShortValue)
    (lowest : predicate.mask.toNat.testBit 0 = true) :
    predicate.value.toNat.testBit 63 = false := by
  cases predicate with
  | whole range => exact Nat.zero_testBit 63
  | interleaved range bits highBit matchValue =>
      rw [mask, testBit_fieldMask, Bool.and_eq_true, decide_eq_true_eq] at lowest
      have small : matchValue < 2 ^ 32 := short
      have clear : matchValue.testBit 63 = false :=
        Nat.testBit_lt_two_pow (Nat.lt_trans small (by decide))
      rw [toNat_value_interleaved, Nat.le_zero.mp lowest.1, Nat.shiftLeft_zero,
        Nat.testBit_mod_two_pow, clear, Bool.and_false]

def Repeats (first second : AddressPredicate) : Prop :=
  ∃ range other bits highBit matchValue,
    first = .interleaved range bits highBit matchValue ∧
      second = .interleaved other bits highBit matchValue ∧ range.overlaps other = true

theorem whole_not_repeats (range : AddressRange) (other : AddressPredicate) :
    ¬ (whole range).Repeats other := by
  rintro ⟨_, _, _, _, _, equal, _⟩
  cases equal

theorem Repeats.symm {first second : AddressPredicate} (repeats : first.Repeats second) :
    second.Repeats first := by
  rcases repeats with ⟨range, other, bits, highBit, matchValue, rfl, rfl, overlapping⟩
  rw [AddressRange.overlaps_comm] at overlapping
  exact ⟨other, range, bits, highBit, matchValue, rfl, rfl, overlapping⟩

end AddressPredicate

/-! ## The width of a field -/

theorem countP_range_between (low bits : Nat) : ∀ width,
    (List.range width).countP (fun position => low ≤ position && position < low + bits) =
      min width (low + bits) - min width low
  | 0 => by simp
  | width + 1 => by
      rw [List.range_succ, List.countP_append, countP_range_between low bits width,
        List.countP_singleton]
      by_cases inside : low ≤ width ∧ width < low + bits
      · rw [if_pos (by simpa using inside)]
        omega
      · rw [if_neg (by simpa using inside)]
        omega

theorem bitCount_fieldMask {bits highBit : Nat} (high : highBit < 64)
    (inside : bits ≤ highBit + 1) :
    BitPattern.bitCount 64 (fieldMask bits highBit).toNat = bits := by
  have low : fieldLowBit bits highBit + bits ≤ 64 := by
    rw [fieldLowBit]
    omega
  have testBit : (fieldMask bits highBit).toNat.testBit = fun position =>
      fieldLowBit bits highBit ≤ position && position < fieldLowBit bits highBit + bits := by
    funext position
    rw [testBit_fieldMask, fieldBits_eq high inside, ← Bool.decide_and, ← Bool.decide_and]
    apply decide_eq_decide.mpr
    omega
  rw [BitPattern.bitCount, testBit, countP_range_between]
  omega

namespace AddressPredicate

variable {bits highBit : Nat}

theorem exists_ofField_iff (range : AddressRange) (bits highBit matchValue : Nat) :
    (∃ predicate, ofField range bits highBit matchValue = .ok predicate) ↔
      FieldFits bits highBit matchValue := by
  simp [ofField_eq_ok_iff]

theorem exists_unique_ofField_accepts (high : highBit < 64) (inside : bits ≤ highBit + 1)
    {range : AddressRange} {address : UInt64} (within : range.contains address = true) :
    ∃! chosen, chosen < 2 ^ bits ∧ ∃ predicate,
      ofField range bits highBit chosen = .ok predicate ∧ predicate.accepts address = true := by
  have narrow : address.toNat / 2 ^ fieldLowBit bits highBit % 2 ^ bits < 2 ^ bits :=
    Nat.mod_lt _ (Nat.two_pow_pos bits)
  have fits : FieldFits bits highBit (address.toNat / 2 ^ fieldLowBit bits highBit % 2 ^ bits) :=
    ⟨high, inside, narrow⟩
  refine ⟨_, ⟨narrow, _, (ofField_eq_ok_iff _ _ _ _ _).mpr ⟨fits, rfl⟩, ?_⟩, ?_⟩
  · rw [accepts_interleaved_iff range fits]
    exact ⟨within, rfl⟩
  · intro chosen selected
    obtain ⟨-, predicate, made, accepted⟩ := selected
    obtain ⟨chosenFits, rfl⟩ := (ofField_eq_ok_iff _ _ _ _ _).mp made
    exact ((accepts_interleaved_iff range chosenFits address).mp accepted).2.symm

/-- A predicate over a field is made exactly if the field lies inside an address and
can have the value. It accepts the addresses of its range whose field has the value,
and fixes as many bits as the field is wide, none outside the field. Of all values of
one field, exactly one selects an address of the range. -/
theorem ofField_selects (range : AddressRange) (bits highBit matchValue : Nat) :
    ((∃ predicate, ofField range bits highBit matchValue = .ok predicate) ↔
      highBit ≤ 63 ∧ bits ≤ highBit + 1 ∧ matchValue < 2 ^ bits) ∧
    (∀ predicate, ofField range bits highBit matchValue = .ok predicate →
      (∀ address : UInt64, predicate.accepts address = true ↔
        range.contains address = true ∧
          address.toNat / 2 ^ (highBit + 1 - bits) % 2 ^ bits = matchValue) ∧
      BitPattern.bitCount 64 predicate.mask.toNat = bits ∧
      predicate.value &&& predicate.mask = predicate.value) ∧
    (highBit ≤ 63 → bits ≤ highBit + 1 → ∀ address, range.contains address = true →
      ∃! chosen, chosen < 2 ^ bits ∧ ∃ predicate,
        ofField range bits highBit chosen = .ok predicate ∧ predicate.accepts address = true) := by
  refine ⟨?_, ?_, ?_⟩
  · rw [exists_ofField_iff]
    constructor
    · intro fits
      exact ⟨Nat.le_of_lt_succ fits.high, fits.inside, fits.value⟩
    · intro fits
      exact ⟨Nat.lt_succ_of_le fits.1, fits.2.1, fits.2.2⟩
  · intro predicate made
    obtain ⟨fits, rfl⟩ := (ofField_eq_ok_iff _ _ _ _ _).mp made
    exact ⟨accepts_interleaved_iff range fits, bitCount_fieldMask fits.high fits.inside,
      value_land_mask _⟩
  · intro high inside address within
    exact exists_unique_ofField_accepts (Nat.lt_succ_of_le high) inside within

def upperRange : AddressRange :=
  ⟨0xA000000000000000, 0x2800, by decide, by decide⟩

/-- The three highest bits of an address are a field; so are no bits at all, with
zero as their only value. -/
theorem ofField_selects_top :
    ofField upperRange 3 63 5 = .ok (interleaved upperRange 3 63 5) ∧
      upperRange.contains 0xA000000000000010 = true ∧
      (interleaved upperRange 3 63 5).accepts 0xA000000000000010 = true ∧
      (∃! chosen, chosen < 2 ^ 3 ∧ ∃ predicate,
        ofField upperRange 3 63 chosen = .ok predicate ∧
          predicate.accepts 0xA000000000000010 = true) ∧
      ∀ matchValue, (∃ predicate, ofField upperRange 0 0 matchValue = .ok predicate) ↔
        matchValue = 0 := by
  have within : upperRange.contains 0xA000000000000010 = true := by decide
  obtain ⟨-, selects, unique⟩ := ofField_selects upperRange 3 63 5
  refine ⟨rfl, within, ?_, unique (by decide) (by decide) _ within, ?_⟩
  · exact ((selects _ rfl).1 0xA000000000000010).mpr ⟨within, by decide⟩
  · intro matchValue
    rw [(ofField_selects upperRange 0 0 matchValue).1]
    omega

end AddressPredicate

end MemoryFabric
