import Mathlib.Algebra.Group.Nat.Defs
import Mathlib.Data.Nat.Bitwise
import MemoryFabric.Address.BitPattern

/-! The searches among the numbers of a given width find the first number that
there is. Two numbers are compared at the highest bit in which they differ: a number
with the fixed bits that is above the start has a one there where the start has a
zero, so the first one rises at the lowest place where this can be. The search
outside of several patterns splits the numbers at their top bit: those without it
come first, and those with it are the same numbers moved up. -/

namespace MemoryFabric

/-- What a search for the first good number from `start` on should find. -/
def IsFirst (good : Nat → Prop) (start : Nat) : Option Nat → Prop
  | some number => good number ∧ start ≤ number ∧
      ∀ other, good other → start ≤ other → number ≤ other
  | none => ∀ other, good other → other < start

theorem IsFirst.unique {good : Nat → Prop} {start : Nat} {found other : Option Nat}
    (first : IsFirst good start found) (second : IsFirst good start other) : found = other := by
  cases found with
  | none =>
      cases other with
      | none => rfl
      | some number => exact absurd (first number second.1) (Nat.not_lt_of_le second.2.1)
  | some number =>
      cases other with
      | none => exact absurd (second number first.1) (Nat.not_lt_of_le first.2.1)
      | some another =>
          rw [Nat.le_antisymm (first.2.2 another second.1 second.2.1)
            (second.2.2 number first.1 first.2.1)]

/-- Good numbers are low numbers or high numbers moved up by `2 ^ width`. -/
structure Split (width : Nat) (good low high : Nat → Prop) : Prop where
  good_iff : ∀ number, good number ↔ low number ∨ ∃ rest, number = 2 ^ width + rest ∧ high rest
  low_lt : ∀ number, low number → number < 2 ^ width

theorem mod_two_pow_succ_of_set {start width : Nat} (set : start.testBit width = true) :
    start % 2 ^ (width + 1) = 2 ^ width + start % 2 ^ width := by
  rw [Nat.testBit_eq_decide_div_mod_eq, decide_eq_true_eq] at set
  rw [Nat.mod_pow_succ, set]
  omega

theorem mod_two_pow_succ_of_clear {start width : Nat} (clear : start.testBit width = false) :
    start % 2 ^ (width + 1) = start % 2 ^ width := by
  rw [Nat.testBit_eq_decide_div_mod_eq, decide_eq_false_iff_not] at clear
  have zero : start / 2 ^ width % 2 = 0 := by omega
  rw [Nat.mod_pow_succ, zero, Nat.mul_zero, Nat.add_zero]

namespace Split

variable {width start : Nat} {good low high : Nat → Prop}

theorem isFirst_of_set (split : Split width good low high) (found : Option Nat)
    (set : start.testBit width = true) (first : IsFirst high (start % 2 ^ width) found) :
    IsFirst good (start % 2 ^ (width + 1)) (found.map (2 ^ width + ·)) := by
  rw [mod_two_pow_succ_of_set set]
  cases found with
  | none =>
      intro other goodOther
      rcases (split.good_iff other).mp goodOther with isLow | ⟨rest, rfl, isHigh⟩
      · exact Nat.lt_of_lt_of_le (split.low_lt other isLow) (Nat.le_add_right _ _)
      · exact Nat.add_lt_add_left (first rest isHigh) _
  | some number =>
      rcases first with ⟨isHigh, above, least⟩
      refine ⟨(split.good_iff _).mpr (Or.inr ⟨number, rfl, isHigh⟩),
        Nat.add_le_add_left above _, ?_⟩
      intro other goodOther aboveOther
      rcases (split.good_iff other).mp goodOther with isLow | ⟨rest, rfl, highRest⟩
      · have below := split.low_lt other isLow
        omega
      · exact Nat.add_le_add_left
          (least rest highRest (Nat.le_of_add_le_add_left aboveOther)) _

theorem isFirst_of_low (split : Split width good low high) (clear : start.testBit width = false)
    {number : Nat} (first : IsFirst low (start % 2 ^ width) (some number)) :
    IsFirst good (start % 2 ^ (width + 1)) (some number) := by
  rw [mod_two_pow_succ_of_clear clear]
  rcases first with ⟨isLow, above, least⟩
  refine ⟨(split.good_iff number).mpr (Or.inl isLow), above, ?_⟩
  intro other goodOther aboveOther
  rcases (split.good_iff other).mp goodOther with lowOther | ⟨rest, rfl, _⟩
  · exact least other lowOther aboveOther
  · have below := split.low_lt number isLow
    omega

theorem isFirst_of_high (split : Split width good low high) (found : Option Nat)
    (clear : start.testBit width = false) (noLow : IsFirst low (start % 2 ^ width) none)
    (first : IsFirst high 0 found) :
    IsFirst good (start % 2 ^ (width + 1)) (found.map (2 ^ width + ·)) := by
  rw [mod_two_pow_succ_of_clear clear]
  have small : start % 2 ^ width < 2 ^ width := Nat.mod_lt _ (Nat.two_pow_pos width)
  cases found with
  | none =>
      intro other goodOther
      rcases (split.good_iff other).mp goodOther with isLow | ⟨rest, rfl, isHigh⟩
      · exact noLow other isLow
      · exact absurd (first rest isHigh) (Nat.not_lt_zero rest)
  | some number =>
      rcases first with ⟨isHigh, _, least⟩
      refine ⟨(split.good_iff _).mpr (Or.inr ⟨number, rfl, isHigh⟩),
        Nat.le_trans (Nat.le_of_lt small) (Nat.le_add_right _ _), ?_⟩
      intro other goodOther aboveOther
      rcases (split.good_iff other).mp goodOther with isLow | ⟨rest, rfl, highRest⟩
      · exact absurd (noLow other isLow) (Nat.not_lt_of_le aboveOther)
      · exact Nat.add_le_add_left (least rest highRest (Nat.zero_le _)) _

end Split

namespace BitPattern

def Fits (pattern : BitPattern) (width number : Nat) : Prop :=
  ∀ position < width, pattern.allows position (number.testBit position) = true

def Within (pattern : BitPattern) (width number : Nat) : Prop :=
  number < 2 ^ width ∧ pattern.Fits width number

theorem allows_iff (pattern : BitPattern) (position : Nat) (bit : Bool) :
    pattern.allows position bit = true ↔
      (pattern.mask.testBit position = true → pattern.value.testBit position = bit) := by
  rw [allows]
  cases pattern.mask.testBit position <;> simp

theorem agrees_iff_fits {pattern : BitPattern} {width : Nat} (narrow : pattern.mask < 2 ^ width)
    (number : Nat) : pattern.agrees number = true ↔ pattern.Fits width number := by
  rw [agrees, beq_iff_eq]
  constructor
  · intro equal position _
    rw [allows_iff]
    intro fixed
    have bit := congrArg (Nat.testBit · position) equal
    simpa [Nat.testBit_and, fixed] using bit.symm
  · intro fits
    apply Nat.eq_of_testBit_eq
    intro position
    rw [Nat.testBit_and, Nat.testBit_and]
    cases fixed : pattern.mask.testBit position with
    | false => rw [Bool.and_false, Bool.and_false]
    | true =>
        have inside : position < width := by
          apply Nat.lt_of_not_le
          intro beyond
          have clear := Nat.testBit_lt_two_pow
            (Nat.lt_of_lt_of_le narrow (Nat.pow_le_pow_right Nat.two_pos beyond))
          rw [fixed] at clear
          cases clear
        rw [(allows_iff _ _ _).mp (fits position inside) fixed]

theorem fits_succ_iff (pattern : BitPattern) (width number : Nat) :
    pattern.Fits (width + 1) number ↔
      pattern.allows width (number.testBit width) = true ∧ pattern.Fits width number := by
  constructor
  · intro fits
    exact ⟨fits width (Nat.lt_succ_self _),
      fun position inside => fits position (Nat.lt_succ_of_lt inside)⟩
  · rintro ⟨top, rest⟩ position inside
    rcases Nat.lt_or_eq_of_le (Nat.le_of_lt_succ inside) with below | rfl
    · exact rest position below
    · exact top

theorem fits_two_pow_add_iff (pattern : BitPattern) (width rest : Nat) :
    pattern.Fits width (2 ^ width + rest) ↔ pattern.Fits width rest := by
  constructor
  · intro fits position inside
    rw [← Nat.testBit_two_pow_add_gt inside]
    exact fits position inside
  · intro fits position inside
    rw [Nat.testBit_two_pow_add_gt inside]
    exact fits position inside

theorem lt_two_pow_succ_cases {width number : Nat} (small : number < 2 ^ (width + 1)) :
    (number < 2 ^ width ∧ number.testBit width = false) ∨
      ∃ rest, number = 2 ^ width + rest ∧ rest < 2 ^ width ∧ number.testBit width = true := by
  rw [Nat.pow_succ] at small
  rcases Nat.lt_or_ge number (2 ^ width) with low | high
  · exact Or.inl ⟨low, Nat.testBit_lt_two_pow low⟩
  · rcases Nat.exists_eq_add_of_le high with ⟨rest, rfl⟩
    have restSmall : rest < 2 ^ width := by omega
    refine Or.inr ⟨rest, rfl, restSmall, ?_⟩
    rw [Nat.testBit_two_pow_add_eq, Nat.testBit_lt_two_pow restSmall]
    rfl

theorem testBit_top {width rest : Nat} (small : rest < 2 ^ width) :
    (2 ^ width + rest).testBit width = true := by
  rw [Nat.testBit_two_pow_add_eq, Nat.testBit_lt_two_pow small]
  rfl

/-! ## The first number with the fixed bits -/

section Dispute

variable {pattern : BitPattern} {width number place : Nat}

theorem dispute?_eq_none_iff (pattern : BitPattern) (number width : Nat) :
    pattern.dispute? number width = none ↔ pattern.Fits width number := by
  induction width with
  | zero => exact iff_of_true rfl fun _ inside => absurd inside (Nat.not_lt_zero _)
  | succ width induction =>
      rw [dispute?, fits_succ_iff, ← induction]
      by_cases allowed : pattern.allows width (number.testBit width) = true
      · simp [allowed]
      · simp [allowed]

structure Disputed (pattern : BitPattern) (width number place : Nat) : Prop where
  inside : place < width
  refused : pattern.allows place (number.testBit place) = false
  above : ∀ position, place < position → position < width →
    pattern.allows position (number.testBit position) = true

theorem disputed_of_dispute? (found : pattern.dispute? number width = some place) :
    pattern.Disputed width number place := by
  induction width with
  | zero => cases found
  | succ width induction =>
      rw [dispute?] at found
      by_cases allowed : pattern.allows width (number.testBit width) = true
      · rw [if_pos allowed] at found
        have lower := induction found
        refine ⟨Nat.lt_succ_of_lt lower.inside, lower.refused, ?_⟩
        intro position beyond inside
        by_cases top : position = width
        · rw [top]
          exact allowed
        · exact lower.above position beyond (by omega)
      · rw [if_neg allowed] at found
        cases found
        refine ⟨Nat.lt_succ_self _, by simpa using allowed, ?_⟩
        intro position beyond inside
        omega

end Dispute

structure RisesAt (number other place : Nat) : Prop where
  clear : number.testBit place = false
  set : other.testBit place = true
  shared : ∀ position, place < position → number.testBit position = other.testBit position

theorem RisesAt.lt {number other place : Nat} (rises : RisesAt number other place) :
    number < other :=
  Nat.lt_of_testBit place rises.clear rises.set rises.shared

theorem exists_risesAt {number other : Nat} (above : number < other) :
    ∃ place, RisesAt number other place := by
  have different : number ^^^ other ≠ 0 := Nat.xor_ne_zero_iff.mpr (Nat.ne_of_lt above)
  obtain ⟨place, differ, same⟩ := Nat.exists_most_significant_bit different
  have shared : ∀ position, place < position →
      number.testBit position = other.testBit position := by
    intro position beyond
    simpa [Nat.testBit_xor] using same position beyond
  rw [Nat.testBit_xor] at differ
  cases set : other.testBit place with
  | true => exact ⟨place, by simpa [set] using differ, set, shared⟩
  | false =>
      have numberSet : number.testBit place = true := by simpa [set] using differ
      have below := Nat.lt_of_testBit place set numberSet fun position beyond =>
        (shared position beyond).symm
      omega

theorem RisesAt.lt_width {number other place width : Nat} (rises : RisesAt number other place)
    (narrow : other < 2 ^ width) : place < width := by
  by_contra beyond
  have clear := Nat.testBit_lt_two_pow
    (Nat.lt_of_lt_of_le narrow (Nat.pow_le_pow_right Nat.two_pos (Nat.le_of_not_lt beyond)))
  rw [rises.set] at clear
  cases clear

section Raised

variable {pattern : BitPattern} {width number place : Nat}

theorem testBit_raisedAt_of_lt {position : Nat} (below : position < place) :
    (pattern.raisedAt number place).testBit position =
      (pattern.value.testBit position && pattern.mask.testBit position) := by
  have notAbove : ¬ place + 1 ≤ position := by omega
  have different : ¬ place = position := by omega
  simp [raisedAt, least, Nat.one_shiftLeft, below, notAbove, different]

theorem testBit_raisedAt_of_gt {position : Nat} (beyond : place < position) :
    (pattern.raisedAt number place).testBit position = number.testBit position := by
  have notBelow : ¬ position < place := by omega
  have different : ¬ place = position := by omega
  have reached : place + 1 ≤ position := beyond
  have back : place + 1 + (position - (place + 1)) = position := by omega
  simp [raisedAt, least, Nat.one_shiftLeft, notBelow, different, back, reached]

theorem testBit_raisedAt_self : (pattern.raisedAt number place).testBit place = true := by
  simp [raisedAt, Nat.one_shiftLeft]

theorem risesAt_raisedAt (clear : number.testBit place = false) :
    RisesAt number (pattern.raisedAt number place) place :=
  ⟨clear, testBit_raisedAt_self, fun _ beyond => (testBit_raisedAt_of_gt beyond).symm⟩

/-- A number can be raised at `place`: above it `number` has the fixed bits, and
there it has a zero which may be a one. -/
structure Raisable (pattern : BitPattern) (width number place : Nat) : Prop where
  inside : place < width
  clear : number.testBit place = false
  allowed : pattern.allows place true = true
  above : ∀ position, place < position → position < width →
    pattern.allows position (number.testBit position) = true

theorem Raisable.within (raisable : pattern.Raisable width number place)
    (narrow : number < 2 ^ width) : pattern.Within width (pattern.raisedAt number place) := by
  constructor
  · apply Nat.lt_pow_two_of_testBit
    intro position outside
    rw [testBit_raisedAt_of_gt (Nat.lt_of_lt_of_le raisable.inside outside)]
    exact Nat.testBit_lt_two_pow
      (Nat.lt_of_lt_of_le narrow (Nat.pow_le_pow_right Nat.two_pos outside))
  · intro position inside
    rcases Nat.lt_trichotomy position place with below | rfl | beyond
    · rw [testBit_raisedAt_of_lt below, allows_iff]
      intro fixed
      rw [fixed, Bool.and_true]
    · rw [testBit_raisedAt_self]
      exact raisable.allowed
    · rw [testBit_raisedAt_of_gt beyond]
      exact raisable.above position beyond inside

theorem raisedAt_le {other rise : Nat} (fits : pattern.Fits width other)
    (rises : RisesAt number other rise) (inside : place < width) (reach : place ≤ rise)
    (clear : number.testBit place = false) : pattern.raisedAt number place ≤ other := by
  by_cases same : place = rise
  · apply Nat.le_of_testBit
    intro position set
    rcases Nat.lt_trichotomy position place with below | rfl | beyond
    · rw [testBit_raisedAt_of_lt below, Bool.and_eq_true] at set
      rw [← (allows_iff _ _ _).mp (fits position (by omega)) set.2]
      exact set.1
    · rw [same]
      exact rises.set
    · rw [testBit_raisedAt_of_gt beyond, rises.shared position (by omega)] at set
      exact set
  · have higher : RisesAt (pattern.raisedAt number place) other rise := by
      refine ⟨?_, rises.set, ?_⟩
      · rw [testBit_raisedAt_of_gt (by omega)]
        exact rises.clear
      · intro position beyond
        rw [testBit_raisedAt_of_gt (by omega)]
        exact rises.shared position beyond
    exact Nat.le_of_lt higher.lt

/-- A number is raised to the first one with the fixed bits where no such number
rises further down. -/
theorem Raisable.isFirst (raisable : pattern.Raisable width number place)
    (narrow : number < 2 ^ width) (unfit : ¬ pattern.Fits width number)
    (reach : ∀ other rise, pattern.Within width other → RisesAt number other rise → place ≤ rise) :
    IsFirst (pattern.Within width) number (some (pattern.raisedAt number place)) := by
  refine ⟨raisable.within narrow, Nat.le_of_lt (risesAt_raisedAt raisable.clear).lt, ?_⟩
  intro other within above
  rcases Nat.lt_or_eq_of_le above with strictly | rfl
  · obtain ⟨rise, rises⟩ := exists_risesAt strictly
    exact raisedAt_le within.2 rises raisable.inside (reach other rise within rises) raisable.clear
  · exact absurd within.2 unfit

end Raised

namespace Disputed

variable {pattern : BitPattern} {width number place : Nat}

theorem not_fits (disputed : pattern.Disputed width number place) :
    ¬ pattern.Fits width number := by
  intro fits
  have allowed := fits place disputed.inside
  rw [disputed.refused] at allowed
  cases allowed

theorem le_of_risesAt (disputed : pattern.Disputed width number place) {other rise : Nat}
    (within : pattern.Within width other) (rises : RisesAt number other rise) : place ≤ rise := by
  by_contra beyond
  have allowed := within.2 place disputed.inside
  rw [← rises.shared place (by omega), disputed.refused] at allowed
  cases allowed

theorem raisable_of_one (disputed : pattern.Disputed width number place)
    (one : pattern.value.testBit place = true) : pattern.Raisable width number place := by
  have refused := disputed.refused
  refine ⟨disputed.inside, ?_, ?_, disputed.above⟩
  · cases bit : number.testBit place with
    | false => rfl
    | true => simp [allows, one, bit] at refused
  · simp [allows, one]

/-- With a zero fixed in the place of a one, only a carry reaches a number with the fixed bits. -/
theorem isRoom_of_risesAt (disputed : pattern.Disputed width number place)
    (zero : pattern.value.testBit place = false) {other rise : Nat}
    (within : pattern.Within width other) (rises : RisesAt number other rise) :
    place < rise ∧ rise < width ∧ pattern.isRoom number rise = true := by
  have reach := disputed.le_of_risesAt within rises
  have inside := rises.lt_width within.1
  have refused := disputed.refused
  have beyond : place < rise := by
    apply Nat.lt_of_le_of_ne reach
    rintro rfl
    simp [allows, zero, rises.clear] at refused
  have kept := disputed.above rise beyond inside
  have raised := within.2 rise inside
  rw [rises.clear] at kept
  rw [rises.set] at raised
  refine ⟨beyond, inside, ?_⟩
  cases fixed : pattern.mask.testBit rise with
  | false => simp [isRoom, fixed, rises.clear]
  | true =>
      rw [allows_iff] at kept raised
      have impossible := kept fixed
      rw [raised fixed] at impossible
      cases impossible

theorem raisable_of_isRoom (disputed : pattern.Disputed width number place) {room : Nat}
    (beyond : place < room) (inside : room < width) (isRoom : pattern.isRoom number room = true) :
    pattern.Raisable width number room := by
  simp only [BitPattern.isRoom, Bool.and_eq_true, Bool.not_eq_true'] at isRoom
  refine ⟨inside, isRoom.2, by simp [allows, isRoom.1], ?_⟩
  intro position further within
  exact disputed.above position (by omega) within

/-- The carry stops at the lowest place that has room for it. -/
theorem isFirst_of_zero (disputed : pattern.Disputed width number place)
    (narrow : number < 2 ^ width) (zero : pattern.value.testBit place = false) :
    IsFirst (pattern.Within width) number
      (((List.range' (place + 1) (width - (place + 1))).find? (pattern.isRoom number)).map
        (pattern.raisedAt number)) := by
  cases found : (List.range' (place + 1) (width - (place + 1))).find? (pattern.isRoom number) with
  | none =>
      intro other within
      by_contra above
      rcases Nat.lt_or_eq_of_le (Nat.le_of_not_lt above) with strictly | rfl
      · obtain ⟨rise, rises⟩ := exists_risesAt strictly
        obtain ⟨beyond, inside, isRoom⟩ := disputed.isRoom_of_risesAt zero within rises
        rw [List.find?_range'_eq_none] at found
        have noRoom := found rise (by omega) (by omega)
        simp [isRoom] at noRoom
      · exact disputed.not_fits within.2
  | some room =>
      rw [List.find?_range'_eq_some, List.mem_range'_1] at found
      have raisable : pattern.Raisable width number room :=
        disputed.raisable_of_isRoom (by omega) (by omega) found.1
      apply raisable.isFirst narrow disputed.not_fits
      intro other rise within rises
      obtain ⟨beyond, inside, isRoom⟩ := disputed.isRoom_of_risesAt zero within rises
      by_contra below
      have noRoom := found.2.2 rise (by omega) (by omega)
      simp [isRoom] at noRoom

end Disputed

theorem firstFrom_isFirst (pattern : BitPattern) (width start : Nat) :
    IsFirst (pattern.Within width) (start % 2 ^ width) (pattern.firstFrom width start) := by
  have narrow : start % 2 ^ width < 2 ^ width := Nat.mod_lt _ (Nat.two_pow_pos width)
  rw [firstFrom, Nat.one_shiftLeft]
  cases found : pattern.dispute? (start % 2 ^ width) width with
  | none =>
      have fits := (pattern.dispute?_eq_none_iff _ _).mp found
      exact ⟨⟨narrow, fits⟩, Nat.le_refl _, fun _ _ above => above⟩
  | some place =>
      have disputed := disputed_of_dispute? found
      dsimp only
      by_cases one : pattern.value.testBit place = true
      · rw [if_pos one]
        exact (disputed.raisable_of_one one).isFirst narrow disputed.not_fits
          fun _ _ within rises => disputed.le_of_risesAt within rises
      · rw [if_neg one]
        exact disputed.isFirst_of_zero narrow (by simpa using one)

/-! ## Numbers outside all patterns -/

def Outside (patterns : List BitPattern) (width number : Nat) : Prop :=
  number < 2 ^ width ∧ ∀ pattern ∈ patterns, ¬ pattern.Fits width number

def having (patterns : List BitPattern) (position : Nat) (bit : Bool) : List BitPattern :=
  patterns.filter (·.allows position bit)

theorem fits_of_isFree {pattern : BitPattern} {width : Nat} (free : pattern.isFree width = true)
    (number : Nat) : pattern.Fits width number := by
  rw [isFree, beq_iff_eq, Nat.one_shiftLeft] at free
  intro position inside
  rw [allows_iff]
  intro fixed
  have bit : (pattern.mask % 2 ^ width).testBit position = true := by
    rw [Nat.testBit_mod_two_pow, fixed, decide_eq_true inside]
    rfl
  rw [free, Nat.zero_testBit] at bit
  cases bit

theorem outside_split (patterns : List BitPattern) (width : Nat) :
    Split width (Outside patterns (width + 1)) (Outside (having patterns width false) width)
      (Outside (having patterns width true) width) where
  low_lt _ low := low.1
  good_iff number := by
    have restrict : ∀ {bit : Bool} {rest : Nat},
        (∀ pattern ∈ patterns, ¬ (pattern.allows width bit = true ∧ pattern.Fits width rest)) ↔
          ∀ pattern ∈ having patterns width bit, ¬ pattern.Fits width rest := by
      intro bit rest
      constructor
      · intro none pattern member fits
        rw [having, List.mem_filter] at member
        exact none pattern member.1 ⟨member.2, fits⟩
      · rintro none pattern member ⟨allowed, fits⟩
        exact none pattern (List.mem_filter.mpr ⟨member, allowed⟩) fits
    constructor
    · rintro ⟨small, none⟩
      simp only [fits_succ_iff] at none
      rcases lt_two_pow_succ_cases small with ⟨low, clear⟩ | ⟨rest, rfl, restSmall, set⟩
      · rw [clear, restrict] at none
        exact Or.inl ⟨low, none⟩
      · simp only [set, fits_two_pow_add_iff] at none
        exact Or.inr ⟨rest, rfl, restSmall, restrict.mp none⟩
    · rintro (⟨small, none⟩ | ⟨rest, rfl, small, none⟩)
      · refine ⟨Nat.lt_of_lt_of_le small (Nat.pow_le_pow_right Nat.two_pos (Nat.le_succ _)), ?_⟩
        simp only [fits_succ_iff, Nat.testBit_lt_two_pow small]
        exact restrict.mpr none
      · refine ⟨by rw [Nat.pow_succ]; omega, ?_⟩
        simp only [fits_succ_iff, testBit_top small, fits_two_pow_add_iff]
        exact restrict.mpr none

theorem having_of_unfixed {patterns : List BitPattern} {position : Nat}
    (unfixed : ∀ pattern ∈ patterns, pattern.mask.testBit position = false) (bit : Bool) :
    having patterns position bit = patterns := by
  rw [having, List.filter_eq_self]
  intro pattern member
  rw [allows, unfixed pattern member]
  rfl

theorem firstOutside_isFirst (patterns : List BitPattern) (width start : Nat) :
    IsFirst (Outside patterns width) (start % 2 ^ width) (firstOutside patterns width start) := by
  induction width generalizing patterns start with
  | zero =>
      rw [firstOutside]
      cases patterns with
      | nil =>
          exact ⟨⟨Nat.zero_lt_one, fun _ member => by cases member⟩,
            Nat.le_of_eq (Nat.mod_one start), fun _ _ _ => Nat.zero_le _⟩
      | cons pattern rest =>
          intro other outside
          exact absurd (fun _ inside => absurd inside (Nat.not_lt_zero _))
            (outside.2 pattern List.mem_cons_self)
  | succ width induction =>
      have split := outside_split patterns width
      rw [firstOutside]
      by_cases empty : patterns.isEmpty = true
      · rw [if_pos empty, Nat.one_shiftLeft]
        rw [List.isEmpty_iff] at empty
        subst empty
        exact ⟨⟨Nat.mod_lt _ (Nat.two_pow_pos _), fun _ member => by cases member⟩, Nat.le_refl _,
          fun _ _ above => above⟩
      · rw [if_neg empty]
        by_cases free : patterns.any (·.isFree (width + 1)) = true
        · rw [if_pos free]
          rcases List.any_eq_true.mp free with ⟨pattern, member, isFree⟩
          exact fun other outside =>
            absurd (fits_of_isFree isFree other) (outside.2 pattern member)
        · rw [if_neg free, Nat.one_shiftLeft]
          dsimp only
          by_cases set : start.testBit width = true
          · rw [if_pos set]
            exact split.isFirst_of_set _ set (induction _ _)
          · rw [if_neg set]
            rw [Bool.not_eq_true] at set
            have lowFirst := induction (having patterns width false) start
            rw [having] at lowFirst
            generalize firstOutside (patterns.filter (·.allows width false)) width start = low
              at lowFirst ⊢
            cases low with
            | some number => exact split.isFirst_of_low set lowFirst
            | none =>
                have highFirst := induction (having patterns width true) 0
                rw [Nat.zero_mod] at highFirst
                dsimp only
                split
                case isTrue hopeless =>
                  rw [Bool.and_eq_true, decide_eq_true_eq, List.all_eq_true] at hopeless
                  rcases hopeless with ⟨zero, unfixed⟩
                  -- With the bit on, the same patterns are left as with the bit off.
                  have same := having_of_unfixed fun pattern member => by
                    simpa using unfixed pattern member
                  refine split.isFirst_of_high none set lowFirst ?_
                  rw [same true, ← same false, ← zero]
                  exact lowFirst
                case isFalse => exact split.isFirst_of_high _ set lowFirst highFirst

end BitPattern

end MemoryFabric
