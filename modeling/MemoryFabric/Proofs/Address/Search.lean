import MemoryFabric.Proofs.Address.BitPattern
import MemoryFabric.Proofs.Address.Range
import MemoryFabric.Address.Predicate

/-! Predicates accept the addresses of their range that have their fixed bits, and
what is searched for among these addresses is found. -/

namespace MemoryFabric

theorem land_eq_iff_testBit (word mask value : UInt64) :
    word &&& mask = value ↔ ∀ position,
      (word.toNat.testBit position && mask.toNat.testBit position) =
        value.toNat.testBit position := by
  rw [← UInt64.toNat_inj, UInt64.toNat_and]
  constructor
  · intro equal position
    rw [← Nat.testBit_and, equal]
  · intro bits
    apply Nat.eq_of_testBit_eq
    intro position
    rw [Nat.testBit_and, bits]

theorem land_eq_land_iff_fits (address mask value : UInt64) :
    address &&& mask = value &&& mask ↔
      BitPattern.Fits ⟨mask.toNat, value.toNat⟩ 64 address.toNat := by
  rw [← BitPattern.agrees_iff_fits mask.toNat_lt, BitPattern.agrees, beq_iff_eq,
    ← UInt64.toNat_and, ← UInt64.toNat_and, UInt64.toNat_inj]

theorem masked_eq_iff {mask value : UInt64} (under : value &&& mask = value) (address : UInt64) :
    address &&& mask = value ↔
      BitPattern.Fits ⟨mask.toNat, value.toNat⟩ 64 address.toNat := by
  rw [← land_eq_land_iff_fits, under]

theorem masked_both_iff {mask other value second : UInt64} (under : value &&& mask = value)
    (otherUnder : second &&& other = second)
    (agree : (value ^^^ second) &&& mask &&& other = 0) (address : UInt64) :
    address &&& (mask ||| other) = value ||| second ↔
      address &&& mask = value ∧ address &&& other = second := by
  rw [land_eq_iff_testBit] at under otherUnder agree
  rw [land_eq_iff_testBit, land_eq_iff_testBit, land_eq_iff_testBit, ← forall_and]
  apply forall_congr'
  intro position
  have first := under position
  have last := otherUnder position
  have both := agree position
  simp only [UInt64.toNat_or, UInt64.toNat_and, UInt64.toNat_xor, Nat.testBit_or,
    Nat.testBit_and, Nat.testBit_xor, UInt64.toNat_zero, Nat.zero_testBit] at both ⊢
  revert first last both
  cases value.toNat.testBit position <;> cases second.toNat.testBit position <;>
    cases mask.toNat.testBit position <;> cases other.toNat.testBit position <;> simp

theorem agree_of_masked {mask other value second address : UInt64}
    (masked : address &&& mask = value) (otherMasked : address &&& other = second) :
    (value ^^^ second) &&& mask &&& other = 0 := by
  subst masked otherMasked
  rw [← UInt64.toNat_inj]
  apply Nat.eq_of_testBit_eq
  intro position
  simp only [UInt64.toNat_and, UInt64.toNat_xor, Nat.testBit_and, Nat.testBit_xor,
    UInt64.toNat_zero, Nat.zero_testBit]
  cases mask.toNat.testBit position <;> cases other.toNat.testBit position <;> simp

theorem or_under_or {mask other value second : UInt64} (under : value &&& mask = value)
    (otherUnder : second &&& other = second) :
    (value ||| second) &&& (mask ||| other) = value ||| second := by
  rw [land_eq_iff_testBit] at under otherUnder ⊢
  intro position
  have first := under position
  have last := otherUnder position
  simp only [UInt64.toNat_or, Nat.testBit_or]
  revert first last
  cases value.toNat.testBit position <;> cases second.toNat.testBit position <;>
    cases mask.toNat.testBit position <;> cases other.toNat.testBit position <;> simp

namespace AddressPredicate

theorem accepts_iff_fits (predicate : AddressPredicate) (address : UInt64) :
    predicate.accepts address = true ↔
      predicate.window.contains address = true ∧ predicate.pattern.Fits 64 address.toNat := by
  rw [accepts, Bool.and_eq_true, beq_iff_eq, masked_eq_iff predicate.value_land_mask]
  rfl

theorem contains_window_of_accepts {predicate : AddressPredicate} {address : UInt64}
    (accepted : predicate.accepts address = true) :
    predicate.window.contains address = true := by
  rw [accepts, Bool.and_eq_true] at accepted
  exact accepted.1

/-- What a search among addresses from `start` on should find. -/
def IsFirstAddress (good : UInt64 → Prop) (start : UInt64) : Option UInt64 → Prop
  | some address => good address ∧ start ≤ address ∧
      ∀ other, good other → start ≤ other → address ≤ other
  | none => ∀ other, good other → other < start

theorem exists_isFirstAddress (good : UInt64 → Prop) {start address : UInt64}
    (holds : good address) (above : start ≤ address) :
    ∃ first, IsFirstAddress good start (some first) := by
  induction size : address.toNat using Nat.strongRecOn generalizing address with
  | ind number induction =>
      by_cases earlier : ∃ other, good other ∧ start ≤ other ∧ other < address
      · rcases earlier with ⟨other, otherHolds, otherAbove, before⟩
        rw [UInt64.lt_iff_toNat_lt, size] at before
        exact induction _ before otherHolds otherAbove rfl
      · refine ⟨address, holds, above, fun other otherHolds otherAbove => ?_⟩
        rw [← UInt64.not_lt]
        exact fun before => earlier ⟨other, otherHolds, otherAbove, before⟩

theorem IsFirstAddress.congr {good other : UInt64 → Prop} {start : UInt64} {found : Option UInt64}
    (first : IsFirstAddress good start found) (same : ∀ address, good address ↔ other address) :
    IsFirstAddress other start found := by
  have equal : good = other := funext fun address => propext (same address)
  rw [← equal]
  exact first

theorem IsFirstAddress.eq_some_iff {good : UInt64 → Prop} {start : UInt64} {found : Option UInt64}
    (first : IsFirstAddress good start found) (address : UInt64) :
    found = some address ↔ good address ∧ start ≤ address ∧
      ∀ other, good other → start ≤ other → address ≤ other := by
  constructor
  · intro equal
    rw [equal] at first
    exact first
  · intro least
    cases found with
    | none => exact absurd (first address least.1) (UInt64.not_lt.mpr least.2.1)
    | some number =>
        have below := first.2.2 address least.1 least.2.1
        have above := least.2.2 number first.1 first.2.1
        rw [UInt64.le_antisymm below above]

theorem IsFirstAddress.eq_none_iff {good : UInt64 → Prop} {start : UInt64} {found : Option UInt64}
    (first : IsFirstAddress good start found) :
    found = none ↔ ∀ address, start ≤ address → ¬ good address := by
  cases found with
  | none =>
      simp only [true_iff]
      intro address above isGood
      exact UInt64.not_lt.mpr above (first address isGood)
  | some number =>
      simp only [reduceCtorEq, false_iff]
      intro none
      exact none number first.2.1 first.1

theorem IsFirstAddress.unique {good : UInt64 → Prop} {start : UInt64}
    {found other : Option UInt64} (first : IsFirstAddress good start found)
    (second : IsFirstAddress good start other) : found = other :=
  Option.ext fun address => (first.eq_some_iff address).trans (second.eq_some_iff address).symm

theorem isFirstAddress_ofNat {good : Nat → Prop} {start : UInt64} {found : Option Nat}
    (small : ∀ number, good number → number < 2 ^ 64) (first : IsFirst good start.toNat found) :
    IsFirstAddress (fun address => good address.toNat) start (found.map UInt64.ofNat) := by
  cases found with
  | none =>
      intro other isGood
      exact UInt64.lt_iff_toNat_lt.mpr (first other.toNat isGood)
  | some number =>
      have toNat : (UInt64.ofNat number).toNat = number :=
        UInt64.toNat_ofNat_of_lt' (small number first.1)
      simp only [Option.map_some, IsFirstAddress, UInt64.le_iff_toNat_le, toNat]
      exact ⟨first.1, first.2.1, fun other => first.2.2 other.toNat⟩

/-- The first good address is the first one before `stop`, unless it lies beyond. -/
theorem IsFirstAddress.below {good : UInt64 → Prop} {start : UInt64} {found : Option UInt64}
    (first : IsFirstAddress good start found) (stop : UInt64) :
    IsFirstAddress (fun address => good address ∧ start ≤ address ∧ address < stop) start
      (found.filter (· < stop)) := by
  cases found with
  | none => exact fun other isGood => first other isGood.1
  | some address =>
      rw [Option.filter_some]
      by_cases before : address < stop
      · rw [if_pos (by simpa using before)]
        exact ⟨⟨first.1, first.2.1, before⟩, first.2.1,
          fun other isGood => first.2.2 other isGood.1⟩
      · rw [if_neg (by simpa using before)]
        intro other isGood
        have reached := first.2.2 other isGood.1 isGood.2.1
        exact absurd (UInt64.lt_of_le_of_lt reached isGood.2.2) before

theorem isFirstAddress_of_isFirst {good : Nat → Prop} {start stop : UInt64} {found : Option Nat}
    (small : ∀ number, good number → number < 2 ^ 64) (first : IsFirst good start.toNat found) :
    IsFirstAddress (fun address => good address.toNat ∧ start ≤ address ∧ address < stop) start
      ((found.map UInt64.ofNat).filter (· < stop)) :=
  (isFirstAddress_ofNat small first).below stop

theorem firstMasked_isFirstAlike (start mask value : UInt64) :
    IsFirstAddress (fun address => address &&& mask = value &&& mask) start
      (firstMasked start mask value) := by
  have first := BitPattern.firstFrom_isFirst ⟨mask.toNat, value.toNat⟩ 64 start.toNat
  rw [Nat.mod_eq_of_lt start.toNat_lt] at first
  apply (isFirstAddress_ofNat (fun _ within => within.1) first).congr
  intro address
  rw [land_eq_land_iff_fits, BitPattern.Within]
  exact and_iff_right address.toNat_lt

/-- The search among words finds the least one from `start` on that is like `value`
under the mask, and it finds nothing exactly if there is none up to the last word. -/
theorem firstMasked_least (start mask value : UInt64) :
    (∀ address, firstMasked start mask value = some address ↔
      start ≤ address ∧ address &&& mask = value &&& mask ∧
        ∀ other, start ≤ other → other < address → other &&& mask ≠ value &&& mask) ∧
    (firstMasked start mask value = none ↔
      ∀ other, start ≤ other → other &&& mask ≠ value &&& mask) := by
  have first := firstMasked_isFirstAlike start mask value
  refine ⟨fun address => ?_, first.eq_none_iff⟩
  rw [first.eq_some_iff]
  constructor
  · intro found
    refine ⟨found.2.1, found.1, fun other above below alike => ?_⟩
    exact UInt64.not_lt.mpr (found.2.2 other alike above) below
  · intro found
    refine ⟨found.2.1, found.1, fun other alike above => ?_⟩
    exact UInt64.not_lt.mp fun below => found.2.2 other above below alike

theorem firstMasked_isFirst {mask value : UInt64} (under : value &&& mask = value)
    (start stop : UInt64) :
    IsFirstAddress (fun address => address &&& mask = value ∧ start ≤ address ∧ address < stop)
      start ((firstMasked start mask value).filter (· < stop)) := by
  have first := (firstMasked_isFirstAlike start mask value).below stop
  rw [under] at first
  exact first

theorem firstFrom_isFirst (predicate : AddressPredicate) (start : UInt64) :
    IsFirstAddress (fun address => predicate.accepts address = true) start
      (predicate.firstFrom start) := by
  have accepts_iff : ∀ address, predicate.accepts address = true ↔
      address &&& predicate.mask = predicate.value ∧ predicate.window.base ≤ address ∧
        address < predicate.window.stop := by
    intro address
    rw [accepts, AddressRange.contains, Bool.and_eq_true, Bool.and_eq_true, decide_eq_true_eq,
      decide_eq_true_eq, beq_iff_eq]
    exact And.comm
  have le_max_iff : ∀ address : UInt64, max start predicate.window.base ≤ address ↔
      start ≤ address ∧ predicate.window.base ≤ address := by
    intro address
    rw [UInt64.le_iff_toNat_le, UInt64.le_iff_toNat_le, UInt64.le_iff_toNat_le, toNat_max]
    omega
  have first := firstMasked_isFirst predicate.value_land_mask (max start predicate.window.base)
    predicate.window.stop
  rw [firstFrom]
  split
  case isTrue =>
    generalize (firstMasked (max start predicate.window.base) predicate.mask
      predicate.value).filter (· < predicate.window.stop) = found at first ⊢
    cases found with
    | none =>
        intro other accepted
        rcases (accepts_iff other).mp accepted with ⟨equal, above, below⟩
        refine UInt64.not_le.mp fun aboveStart => ?_
        have aboveBoth := (le_max_iff other).mpr ⟨aboveStart, above⟩
        exact UInt64.not_lt.mpr aboveBoth (first other ⟨equal, aboveBoth, below⟩)
    | some address =>
        rcases first with ⟨⟨equal, aboveBoth, below⟩, _, least⟩
        rcases (le_max_iff address).mp aboveBoth with ⟨aboveStart, above⟩
        refine ⟨(accepts_iff address).mpr ⟨equal, above, below⟩, aboveStart, ?_⟩
        intro other accepted aboveOther
        rcases (accepts_iff other).mp accepted with ⟨equalOther, aboveBase, belowOther⟩
        have aboveBothOther := (le_max_iff other).mpr ⟨aboveOther, aboveBase⟩
        exact least other ⟨equalOther, aboveBothOther, belowOther⟩ aboveBothOther
  case isFalse beyond =>
    intro other accepted
    rcases (accepts_iff other).mp accepted with ⟨_, above, below⟩
    refine UInt64.not_le.mp fun aboveStart => ?_
    exact beyond (UInt64.lt_of_le_of_lt ((le_max_iff other).mpr ⟨aboveStart, above⟩) below)

theorem accepts_both_iff {first second : AddressPredicate} {shared : AddressRange}
    (inter : first.window.intersection second.window = some shared) (address : UInt64) :
    first.accepts address = true ∧ second.accepts address = true ↔
      shared.contains address = true ∧ address &&& first.mask = first.value ∧
        address &&& second.mask = second.value := by
  rw [AddressRange.contains_intersection_iff inter, accepts, accepts, Bool.and_eq_true,
    Bool.and_eq_true, beq_iff_eq, beq_iff_eq]
  exact and_and_and_comm

theorem overlapWitness_isFirst (first second : AddressPredicate) :
    IsFirstAddress (fun address => first.accepts address = true ∧ second.accepts address = true)
      0 (first.overlapWitness second) := by
  rw [overlapWitness]
  cases inter : first.window.intersection second.window with
  | none =>
      intro address both
      rcases AddressRange.exists_intersection (contains_window_of_accepts both.1)
        (contains_window_of_accepts both.2) with ⟨shared, found⟩
      rw [inter] at found
      cases found
  | some shared =>
      change IsFirstAddress _ 0 (if _ then _ else none)
      split
      case isTrue agree =>
        have good := firstMasked_isFirst
          (or_under_or first.value_land_mask second.value_land_mask) shared.base shared.stop
        have both_iff : ∀ address,
            first.accepts address = true ∧ second.accepts address = true ↔
              address &&& (first.mask ||| second.mask) = first.value ||| second.value ∧
                shared.base ≤ address ∧ address < shared.stop := by
          intro address
          rw [accepts_both_iff inter, AddressRange.contains_iff_le_and_lt,
            masked_both_iff first.value_land_mask second.value_land_mask agree]
          exact and_comm
        generalize (firstMasked shared.base (first.mask ||| second.mask)
          (first.value ||| second.value)).filter (· < shared.stop) = found at good ⊢
        cases found with
        | none =>
            intro address both
            have here := (both_iff address).mp both
            exact absurd (good address here) (UInt64.not_lt.mpr here.2.1)
        | some address =>
            rcases good with ⟨here, -, least⟩
            refine ⟨(both_iff address).mpr here, UInt64.zero_le, fun other both _ => ?_⟩
            have there := (both_iff other).mp both
            exact least other there there.2.1
      case isFalse disagree =>
        intro address both
        rcases (accepts_both_iff inter address).mp both with ⟨-, atFirst, atSecond⟩
        exact absurd (agree_of_masked atFirst atSecond) disagree

theorem overlapWitness_eq_none_iff (first second : AddressPredicate) :
    first.overlapWitness second = none ↔
      ∀ address, ¬ (first.accepts address = true ∧ second.accepts address = true) := by
  rw [(overlapWitness_isFirst first second).eq_none_iff]
  exact forall_congr' fun address => forall_prop_of_true UInt64.zero_le

theorem accepts_of_overlapWitness {first second : AddressPredicate} {address : UInt64}
    (found : first.overlapWitness second = some address) :
    first.accepts address = true ∧ second.accepts address = true := by
  have first := overlapWitness_isFirst first second
  rw [found] at first
  exact first.1

theorem overlapWitness_comm (first second : AddressPredicate) :
    first.overlapWitness second = second.overlapWitness first :=
  (overlapWitness_isFirst first second).unique
    ((overlapWitness_isFirst second first).congr fun _ => And.comm)

/-- Both searches of predicates find the least address that there is, whatever the
fields of the predicates are, and which of two predicates comes first is immaterial. -/
theorem searches_least (first second : AddressPredicate) (start : UInt64) :
    (∀ address, first.firstFrom start = some address ↔
      first.accepts address = true ∧ start ≤ address ∧
        ∀ other, first.accepts other = true → start ≤ other → address ≤ other) ∧
    (first.firstFrom start = none ↔ ∀ address, start ≤ address → first.accepts address = false) ∧
    (∀ address, first.overlapWitness second = some address ↔
      (first.accepts address = true ∧ second.accepts address = true) ∧
        ∀ other, first.accepts other = true → second.accepts other = true → address ≤ other) ∧
    (first.overlapWitness second = none ↔
      ∀ address, ¬ (first.accepts address = true ∧ second.accepts address = true)) ∧
    first.overlapWitness second = second.overlapWitness first := by
  have found := first.firstFrom_isFirst start
  refine ⟨found.eq_some_iff, ?_, fun address => ?_, overlapWitness_eq_none_iff first second,
    overlapWitness_comm first second⟩
  · simp only [found.eq_none_iff, Bool.not_eq_true]
  · rw [(overlapWitness_isFirst first second).eq_some_iff]
    simp only [UInt64.zero_le, true_and, true_implies, and_imp]

end AddressPredicate

end MemoryFabric
