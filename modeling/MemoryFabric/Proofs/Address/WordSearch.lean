import Mathlib.Tactic.Common
import MemoryFabric.Proofs.Address.Search
import MemoryFabric.Proofs.Address.Span

/-! The masked search as a walk over the bits of words, from the top down, with arithmetic that
stops at an overflow. It never stops, and it gives what the search among numbers gives. So do
the searches of predicates that are built from it. -/

namespace MemoryFabric

namespace Word

variable {start mask value : UInt64}

abbrev patternOf (mask value : UInt64) : BitPattern :=
  ⟨mask.toNat, value.toNat⟩

/-- The start with a one at the first of the places where it has a zero that is not fixed; it
is kept above the place, and the fixed bits are what is left below. -/
def carry (start mask value : UInt64) : List Nat → Except Overflow (Option UInt64)
  | [] => .ok none
  | place :: rest => do
      let bit ← shifted 1 place
      if mask &&& bit = 0 ∧ start &&& bit = 0 then
        let below ← difference bit 1
        return some (start &&& ~~~(bit ||| below) &&& ~~~mask ||| bit ||| value)
      else carry start mask value rest

/-- What comes of the place at which the start has not the fixed bit. A one that is fixed there
is enough to be above the start; a zero makes it carry into the bits further up. -/
def leave (start mask value : UInt64) (place : Nat) (bit : UInt64) :
    Except Overflow (Option UInt64) := do
  let next ← counted (place + 1)
  if value &&& bit ≠ 0 then
    let low ← ones next
    return some (start &&& ~~~low &&& ~~~mask ||| value)
  else carry start mask value (List.range' next (64 - next))

/-- Goes down from the top as long as the start has the fixed bits. -/
def walk (start mask value : UInt64) : Nat → Except Overflow (Option UInt64)
  | 0 => .ok (some start)
  | place + 1 => do
      let bit ← shifted 1 place
      if mask &&& bit = 0 then walk start mask value place
      else if value &&& bit = start &&& bit then walk start mask value place
      else leave start mask value place bit

def firstMasked (start mask value : UInt64) : Except Overflow (Option UInt64) :=
  walk start mask (value &&& mask) 64

/-! ## Single bits -/

theorem testBit_bit {place : Nat} (inside : place < 64) (position : Nat) :
    (moveUp 1 place).toNat.testBit position = decide (place = position) := by
  rw [toNat_moveUp_one inside, Nat.testBit_two_pow]

theorem testBit_land (first second : UInt64) (position : Nat) :
    (first &&& second).toNat.testBit position =
      (first.toNat.testBit position && second.toNat.testBit position) := by
  rw [UInt64.toNat_and, Nat.testBit_and]

theorem testBit_lor (first second : UInt64) (position : Nat) :
    (first ||| second).toNat.testBit position =
      (first.toNat.testBit position || second.toNat.testBit position) := by
  rw [UInt64.toNat_or, Nat.testBit_or]

theorem testBit_complement (word : UInt64) (position : Nat) :
    (~~~word).toNat.testBit position =
      (decide (position < 64) && !word.toNat.testBit position) := by
  have rest : (~~~word).toNat = 2 ^ 64 - (word.toNat + 1) := by
    rw [UInt64.toNat_not, Nat.add_comm, ← Nat.sub_sub]
    rfl
  rw [rest, Nat.testBit_two_pow_sub_succ word.toNat_lt]

theorem testBit_beyond (word : UInt64) {position : Nat} (outside : 64 ≤ position) :
    word.toNat.testBit position = false :=
  Nat.testBit_lt_two_pow
    (Nat.lt_of_lt_of_le word.toNat_lt (Nat.pow_le_pow_right Nat.two_pos outside))

theorem land_bit_eq_iff {place : Nat} (inside : place < 64) (first second : UInt64) :
    first &&& moveUp 1 place = second &&& moveUp 1 place ↔
      first.toNat.testBit place = second.toNat.testBit place := by
  rw [land_eq_iff_testBit]
  simp only [testBit_land, testBit_bit inside]
  constructor
  · intro same
    simpa using same place
  · intro same position
    by_cases here : place = position
    · rw [← here, same]
    · rw [decide_eq_false here, Bool.and_false, Bool.and_false]

theorem land_bit_eq_zero_iff {place : Nat} (inside : place < 64) (word : UInt64) :
    word &&& moveUp 1 place = 0 ↔ word.toNat.testBit place = false := by
  have same := land_bit_eq_iff inside word 0
  rwa [UInt64.zero_and, UInt64.toNat_zero, Nat.zero_testBit] at same

/-! ## The walk -/

theorem raised_eq {place : Nat} {low fill : UInt64}
    (raisable : (patternOf mask value).Raisable 64 start.toNat place)
    (lowBits : ∀ position, low.toNat.testBit position = decide (position < place + 1))
    (fillBits : ∀ position, fill.toNat.testBit position =
      (decide (place = position) ||
        (value.toNat.testBit position && mask.toNat.testBit position))) :
    start &&& ~~~low &&& ~~~mask ||| fill =
      UInt64.ofNat ((patternOf mask value).raisedAt start.toNat place) := by
  have small := (raisable.within start.toNat_lt).1
  rw [← UInt64.toNat_inj, UInt64.toNat_ofNat_of_lt' small]
  apply Nat.eq_of_testBit_eq
  intro position
  rw [testBit_lor, testBit_land, testBit_land, testBit_complement, testBit_complement, lowBits,
    fillBits]
  rcases Nat.lt_trichotomy position place with below | rfl | beyond
  · rw [BitPattern.testBit_raisedAt_of_lt below, decide_eq_true (by omega : position < place + 1),
      decide_eq_false (by omega : ¬ place = position)]
    simp
  · rw [BitPattern.testBit_raisedAt_self]
    simp
  · rw [BitPattern.testBit_raisedAt_of_gt beyond,
      decide_eq_false (by omega : ¬ position < place + 1),
      decide_eq_false (by omega : ¬ place = position)]
    by_cases inside : position < 64
    · have kept := (BitPattern.allows_iff _ _ _).mp (raisable.above position beyond inside)
      -- Where the bit is fixed, the start has the fixed bit already.
      cases fixed : mask.toNat.testBit position with
      | false => simp [inside]
      | true => simp [kept fixed]
    · rw [testBit_beyond start (by omega), testBit_beyond mask (by omega)]
      simp

theorem carry_eq {place : Nat}
    (disputed : (patternOf mask value).Disputed 64 start.toNat place)
    {places : List Nat} (further : ∀ room ∈ places, place < room ∧ room < 64) :
    carry start mask (value &&& mask) places =
      .ok ((places.find? ((patternOf mask value).isRoom start.toNat)).map fun room =>
        UInt64.ofNat ((patternOf mask value).raisedAt start.toNat room)) := by
  induction places with
  | nil => rfl
  | cons room rest induction =>
      obtain ⟨beyond, inside⟩ := further room List.mem_cons_self
      have isRoom_iff : (patternOf mask value).isRoom start.toNat room = true ↔
          mask &&& moveUp 1 room = 0 ∧ start &&& moveUp 1 room = 0 := by
        rw [land_bit_eq_zero_iff inside, land_bit_eq_zero_iff inside]
        simp [BitPattern.isRoom]
      rw [carry, shifted_eq inside, ok_bind]
      by_cases isRoom : (patternOf mask value).isRoom start.toNat room = true
      · have raisable := disputed.raisable_of_isRoom beyond inside isRoom
        rw [if_pos (isRoom_iff.mp isRoom), below_bit_eq inside, ok_bind,
          List.find?_cons_of_pos isRoom, Option.map_some, UInt64.or_assoc]
        apply congrArg (Except.ok ∘ some)
        apply raised_eq raisable
        · intro position
          rw [testBit_lor, testBit_bit inside, testBit_moveUp_one_sub_one, ← Bool.decide_or]
          apply decide_eq_decide.mpr
          omega
        · intro position
          rw [testBit_lor, testBit_bit inside, testBit_land]
      · rw [if_neg (mt isRoom_iff.mpr isRoom), List.find?_cons_of_neg isRoom]
        exact induction fun other member => further other (List.mem_cons_of_mem _ member)

def settle (pattern : BitPattern) (number : Nat) : Option Nat → Option Nat
  | none => some number
  | some place =>
      if pattern.value.testBit place then some (pattern.raisedAt number place)
      else
        ((List.range' (place + 1) (64 - (place + 1))).find? (pattern.isRoom number)).map
          (pattern.raisedAt number)

theorem firstFrom_eq_settle (pattern : BitPattern) (start : UInt64) :
    pattern.firstFrom 64 start.toNat =
      settle pattern start.toNat (pattern.dispute? start.toNat 64) := by
  have word : start.toNat % 1 <<< 64 = start.toNat := Nat.mod_eq_of_lt start.toNat_lt
  rw [BitPattern.firstFrom, word]
  cases pattern.dispute? start.toNat 64 <;> rfl

theorem leave_eq {place : Nat} (fixed : mask.toNat.testBit place = true)
    (disputed : (patternOf mask value).Disputed 64 start.toNat place) :
    leave start mask (value &&& mask) place (moveUp 1 place) =
      .ok ((settle (patternOf mask value) start.toNat (some place)).map UInt64.ofNat) := by
  have inside := disputed.inside
  have one_iff : value &&& mask &&& moveUp 1 place ≠ 0 ↔ value.toNat.testBit place = true := by
    rw [ne_eq, land_bit_eq_zero_iff inside, testBit_land, fixed, Bool.and_true, Bool.not_eq_false]
  rw [leave, counted_eq (by omega), ok_bind, settle]
  by_cases one : value.toNat.testBit place = true
  · rw [if_pos (one_iff.mpr one), if_pos one, ones_eq, ok_bind]
    apply congrArg (Except.ok ∘ some)
    apply raised_eq (disputed.raisable_of_one one)
    · intro position
      rw [testBit_moveUp_one_sub_one]
      apply decide_eq_decide.mpr
      omega
    · intro position
      rw [testBit_land]
      by_cases here : place = position
      · rw [← here, one, fixed]
        simp
      · rw [decide_eq_false here, Bool.false_or]
  · have further : ∀ room ∈ List.range' (place + 1) (64 - (place + 1)),
        place < room ∧ room < 64 := by
      intro room member
      rw [List.mem_range'_1] at member
      omega
    rw [if_neg (mt one_iff.mp one), if_neg one, carry_eq disputed further, Option.map_map]
    rfl

theorem allows_iff_land {place : Nat} (inside : place < 64) (start mask value : UInt64) :
    (patternOf mask value).allows place (start.toNat.testBit place) = true ↔
      mask &&& moveUp 1 place = 0 ∨
        value &&& mask &&& moveUp 1 place = start &&& moveUp 1 place := by
  rw [BitPattern.allows_iff, land_bit_eq_zero_iff inside, land_bit_eq_iff inside, testBit_land]
  cases mask.toNat.testBit place <;> simp

theorem walk_eq {places : Nat} (inside : places ≤ 64)
    (above : ∀ position, places ≤ position → position < 64 →
      (patternOf mask value).allows position (start.toNat.testBit position) = true) :
    walk start mask (value &&& mask) places =
      .ok ((settle (patternOf mask value) start.toNat
        ((patternOf mask value).dispute? start.toNat places)).map UInt64.ofNat) := by
  induction places with
  | zero => exact congrArg (Except.ok ∘ some) UInt64.ofNat_toNat.symm
  | succ place induction =>
      have low : place < 64 := inside
      have allowed_iff := allows_iff_land low start mask value
      rw [walk, shifted_eq low, ok_bind, BitPattern.dispute?]
      by_cases allowed : (patternOf mask value).allows place (start.toNat.testBit place) = true
      · have rest := induction (Nat.le_of_lt low) fun position reach within => by
          rcases Nat.lt_or_eq_of_le reach with beyond | rfl
          · exact above position beyond within
          · exact allowed
        rw [if_pos allowed]
        by_cases free : mask &&& moveUp 1 place = 0
        · rw [if_pos free, rest]
        · rw [if_neg free, if_pos ((allowed_iff.mp allowed).resolve_left free), rest]
      · have differ := mt allowed_iff.mpr allowed
        rw [not_or] at differ
        have fixed : mask.toNat.testBit place = true := by
          simpa [land_bit_eq_zero_iff low] using differ.1
        have disputed : (patternOf mask value).Disputed 64 start.toNat place :=
          ⟨low, by simpa using allowed, fun position beyond => above position beyond⟩
        rw [if_neg allowed, if_neg differ.1, if_neg differ.2]
        exact leave_eq fixed disputed

/-- The walk does not overflow, whatever the words are, and finds what the search among
numbers finds. -/
theorem firstMasked_eq (start mask value : UInt64) :
    firstMasked start mask value = .ok (AddressPredicate.firstMasked start mask value) := by
  rw [firstMasked, walk_eq (Nat.le_refl 64) fun _ reach within => by omega,
    AddressPredicate.firstMasked, firstFrom_eq_settle]

/-! ## Predicates -/

def firstFrom (predicate : AddressPredicate) (start : UInt64) :
    Except Overflow (Option UInt64) := do
  let stop ← predicate.window.span.stop
  if stop ≤ max start predicate.window.base then return none
  else
    let fixed ← Word.mask predicate
    let fixedTo ← Word.value predicate
    let found ← firstMasked (max start predicate.window.base) fixed fixedTo
    return found.filter (· < stop)

def overlapWitness (first second : AddressPredicate) : Except Overflow (Option UInt64) := do
  let shared ← first.window.span.intersection second.window.span
  match shared with
  | none => return none
  | some shared =>
      let firstMask ← Word.mask first
      let firstValue ← Word.value first
      let secondMask ← Word.mask second
      let secondValue ← Word.value second
      if (firstValue ^^^ secondValue) &&& firstMask &&& secondMask ≠ 0 then return none
      else
        let found ← firstMasked shared.base (firstMask ||| secondMask) (firstValue ||| secondValue)
        let stop ← shared.stop
        return found.filter (· < stop)

variable {predicate first second : AddressPredicate}

theorem firstFrom_eq (checked : predicate.Checked) (start : UInt64) :
    firstFrom predicate start = .ok (predicate.firstFrom start) := by
  rw [firstFrom, Span.stop_span, ok_bind, AddressPredicate.firstFrom]
  by_cases within : max start predicate.window.base < predicate.window.stop
  · rw [if_neg (UInt64.not_le.mpr within), if_pos within, mask_eq checked, ok_bind,
      value_eq checked, ok_bind, firstMasked_eq, ok_bind]
    rfl
  · rw [if_pos (UInt64.not_lt.mp within), if_neg within]
    rfl

theorem overlapWitness_eq (firstChecked : first.Checked) (secondChecked : second.Checked) :
    overlapWitness first second = .ok (first.overlapWitness second) := by
  rw [overlapWitness, Span.intersection_span, ok_bind, AddressPredicate.overlapWitness]
  cases first.window.intersection second.window with
  | none => rfl
  | some shared =>
      change (Word.mask first >>= fun _ => _) = _
      rw [mask_eq firstChecked, ok_bind, value_eq firstChecked, ok_bind, mask_eq secondChecked,
        ok_bind, value_eq secondChecked, ok_bind]
      change _ = Except.ok (if _ then _ else none)
      by_cases agree : (first.value ^^^ second.value) &&& first.mask &&& second.mask = 0
      · rw [if_neg (Classical.not_not.mpr agree), if_pos agree, firstMasked_eq, ok_bind,
          Span.stop_span, ok_bind]
        rfl
      · rw [if_pos agree, if_neg agree]
        rfl

end Word

end MemoryFabric
