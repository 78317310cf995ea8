import Mathlib.Data.List.Nodup
import Mathlib.Data.List.Perm.Subperm
import MemoryFabric.Proofs.Address.BitPattern

/-! The numbers that have no bit outside a mask. There are as many as the bits of the
mask have values, so a list of such numbers that is as long without its repetitions
leaves none of them out. A search that tries them one by one finds the same gap as one
that goes down from the top bit. -/

namespace MemoryFabric

theorem nodup_eraseDups : ∀ numbers : List Nat, numbers.eraseDups.Nodup
  | [] => .nil
  | number :: rest => by
      rw [List.eraseDups_cons, List.nodup_cons, List.mem_eraseDups]
      refine ⟨by simp, nodup_eraseDups _⟩
termination_by numbers => numbers.length
decreasing_by exact Nat.lt_succ_of_le (List.length_filter_le _ rest)

namespace BitPattern

def submasks (mask : Nat) : Nat → List Nat
  | 0 => [0]
  | width + 1 =>
      if mask.testBit width then submasks mask width ++ (submasks mask width).map (2 ^ width + ·)
      else submasks mask width

theorem land_eq_self_iff (number mask : Nat) :
    number &&& mask = number ↔
      ∀ position, number.testBit position = true → mask.testBit position = true := by
  constructor
  · intro under position set
    rw [← under, Nat.testBit_and, Bool.and_eq_true] at set
    exact set.2
  · intro bits
    apply Nat.eq_of_testBit_eq
    intro position
    rw [Nat.testBit_and, Bool.and_eq_left_iff_imp]
    exact bits position

theorem land_two_pow_add_eq_self_iff {mask width rest : Nat} (small : rest < 2 ^ width) :
    (2 ^ width + rest) &&& mask = 2 ^ width + rest ↔
      mask.testBit width = true ∧ rest &&& mask = rest := by
  have bit : ∀ position, (2 ^ width + rest).testBit position = true ↔
      width = position ∨ rest.testBit position = true := by
    intro position
    have split := Nat.two_pow_add_eq_or_of_lt small 1
    rw [Nat.mul_one] at split
    rw [split, Nat.testBit_or, Nat.testBit_two_pow, Bool.or_eq_true, decide_eq_true_eq]
  rw [land_eq_self_iff, land_eq_self_iff]
  constructor
  · intro bits
    exact ⟨bits width ((bit width).mpr (Or.inl rfl)),
      fun position set => bits position ((bit position).mpr (Or.inr set))⟩
  · rintro ⟨top, bits⟩ position set
    rcases (bit position).mp set with rfl | below
    · exact top
    · exact bits position below

theorem mem_submasks_iff (mask width number : Nat) :
    number ∈ submasks mask width ↔ number < 2 ^ width ∧ number &&& mask = number := by
  induction width generalizing number with
  | zero =>
      rw [submasks, List.mem_singleton, Nat.pow_zero, Nat.lt_one_iff]
      constructor
      · rintro rfl
        exact ⟨rfl, Nat.zero_and mask⟩
      · exact fun small => small.1
  | succ width induction =>
      -- A number under the mask has the top bit only if the mask has it.
      have lower : number < 2 ^ width → number < 2 ^ (width + 1) := fun small =>
        Nat.lt_of_lt_of_le small (Nat.pow_le_pow_right Nat.two_pos (Nat.le_succ width))
      have top : ∀ rest < 2 ^ width, ¬ 2 ^ width + rest < 2 ^ width := by omega
      have whole : ∀ rest < 2 ^ width, 2 ^ width + rest < 2 ^ (width + 1) := by
        intro rest small
        rw [Nat.pow_succ]
        omega
      rw [submasks]
      by_cases set : mask.testBit width = true
      · rw [if_pos set, List.mem_append, List.mem_map, induction]
        simp only [induction]
        constructor
        · rintro (⟨small, under⟩ | ⟨rest, ⟨small, under⟩, rfl⟩)
          · exact ⟨lower small, under⟩
          · exact ⟨whole rest small, (land_two_pow_add_eq_self_iff small).mpr ⟨set, under⟩⟩
        · rintro ⟨small, under⟩
          rcases lt_two_pow_succ_cases small with ⟨low, -⟩ | ⟨rest, rfl, restSmall, -⟩
          · exact Or.inl ⟨low, under⟩
          · exact Or.inr ⟨rest,
              ⟨restSmall, ((land_two_pow_add_eq_self_iff restSmall).mp under).2⟩, rfl⟩
      · rw [if_neg set, induction]
        constructor
        · rintro ⟨small, under⟩
          exact ⟨lower small, under⟩
        · rintro ⟨small, under⟩
          rcases lt_two_pow_succ_cases small with ⟨low, -⟩ | ⟨rest, rfl, restSmall, -⟩
          · exact ⟨low, under⟩
          · exact absurd ((land_two_pow_add_eq_self_iff restSmall).mp under).1 set

theorem length_submasks (mask width : Nat) :
    (submasks mask width).length = 2 ^ bitCount width mask := by
  induction width with
  | zero => rfl
  | succ width induction =>
      rw [submasks, bitCount, List.range_succ, List.countP_append, List.countP_singleton,
        ← bitCount]
      by_cases set : mask.testBit width = true
      · rw [if_pos set, if_pos set, List.length_append, List.length_map, induction, Nat.pow_succ]
        omega
      · rw [if_neg set, if_neg set, induction, Nat.add_zero]

theorem nodup_submasks (mask width : Nat) : (submasks mask width).Nodup := by
  induction width with
  | zero => exact List.nodup_singleton 0
  | succ width induction =>
      rw [submasks]
      split
      case isTrue =>
        have moved : ((submasks mask width).map (2 ^ width + ·)).Nodup :=
          induction.map fun _ _ => Nat.add_left_cancel
        refine List.nodup_append.mpr ⟨induction, moved, ?_⟩
        intro low lowMember high highMember
        rcases List.mem_map.mp highMember with ⟨rest, -, rfl⟩
        have small := ((mem_submasks_iff mask width low).mp lowMember).1
        omega
      case isFalse => exact induction

/-- Values under a mask are as many as its bits have if none of these is left out. -/
theorem length_eraseDups_eq_iff {mask width : Nat} {values : List Nat}
    (under : ∀ value ∈ values, value < 2 ^ width ∧ value &&& mask = value) :
    values.eraseDups.length = 2 ^ bitCount width mask ↔
      ∀ number < 2 ^ width, number &&& mask ∈ values := by
  have subset : values.eraseDups ⊆ submasks mask width := by
    intro value member
    exact (mem_submasks_iff mask width value).mpr (under value (List.mem_eraseDups.mp member))
  rw [← length_submasks]
  constructor
  · intro same number small
    have all := ((nodup_eraseDups values).subperm subset).perm_of_length_le (Nat.le_of_eq same.symm)
    have member : number &&& mask ∈ submasks mask width := by
      rw [mem_submasks_iff, Nat.and_assoc, Nat.and_self]
      exact ⟨Nat.lt_of_le_of_lt Nat.and_le_left small, rfl⟩
    exact List.mem_eraseDups.mp (all.mem_iff.mpr member)
  · intro complete
    apply List.Perm.length_eq
    rw [List.perm_ext_iff_of_nodup (nodup_eraseDups values) (nodup_submasks mask width)]
    intro value
    refine ⟨fun member => subset member, fun member => ?_⟩
    rcases (mem_submasks_iff mask width value).mp member with ⟨small, same⟩
    rw [List.mem_eraseDups, ← same]
    exact complete value small

/-! ## Trying all combinations of fixed bits -/

theorem agrees_land {pattern : BitPattern} {mask : Nat}
    (under : pattern.mask &&& mask = pattern.mask) (number : Nat) :
    pattern.agrees (number &&& mask) = pattern.agrees number := by
  rw [agrees, agrees, Nat.and_assoc, Nat.and_comm mask, under]

theorem isFirst_min? {reasons : List Nat} {good : Nat → Prop} {goodFor : Nat → Nat → Prop}
    {start : Nat} {find : Nat → Option Nat}
    (good_iff : ∀ number, good number ↔ ∃ reason ∈ reasons, goodFor reason number)
    (finds : ∀ reason ∈ reasons, IsFirst (goodFor reason) start (find reason)) :
    IsFirst good start (reasons.filterMap find).min? := by
  cases least : (reasons.filterMap find).min? with
  | none =>
      rw [List.min?_eq_none_iff, List.filterMap_eq_nil_iff] at least
      intro number isGood
      rcases (good_iff number).mp isGood with ⟨reason, member, holds⟩
      have first := finds reason member
      rw [least reason member] at first
      exact first number holds
  | some number =>
      rw [List.min?_eq_some_iff] at least
      rcases least with ⟨found, smallest⟩
      rcases List.mem_filterMap.mp found with ⟨reason, member, here⟩
      have first := finds reason member
      rw [here] at first
      refine ⟨(good_iff number).mpr ⟨reason, member, first.1⟩, first.2.1, ?_⟩
      intro other isGood above
      rcases (good_iff other).mp isGood with ⟨otherReason, otherMember, holds⟩
      have otherFirst := finds otherReason otherMember
      cases there : find otherReason with
      | none =>
          rw [there] at otherFirst
          exact absurd (otherFirst other holds) (Nat.not_lt_of_le above)
      | some candidate =>
          rw [there] at otherFirst
          exact Nat.le_trans
            (smallest candidate (List.mem_filterMap.mpr ⟨otherReason, otherMember, there⟩))
            (otherFirst.2.2 other holds above)

theorem outside_iff_exists {patterns : List BitPattern} {mask width : Nat}
    (narrow : mask < 2 ^ width)
    (under : ∀ pattern ∈ patterns, pattern.mask &&& mask = pattern.mask) (number : Nat) :
    Outside patterns width number ↔
      ∃ bits ∈ (submasks mask width).filter fun bits => !patterns.any (·.agrees bits),
        Within ⟨mask, bits⟩ width number := by
  have maskNarrow : ∀ pattern ∈ patterns, pattern.mask < 2 ^ width := by
    intro pattern member
    rw [← under pattern member]
    exact Nat.lt_of_le_of_lt Nat.and_le_right narrow
  constructor
  · rintro ⟨small, outside⟩
    refine ⟨number &&& mask, List.mem_filter.mpr ⟨?_, ?_⟩, small, ?_⟩
    · rw [mem_submasks_iff, Nat.and_assoc, Nat.and_self]
      exact ⟨Nat.lt_of_le_of_lt Nat.and_le_left small, rfl⟩
    · rw [Bool.not_eq_true', List.any_eq_false]
      intro pattern member
      rw [agrees_land (under pattern member), agrees_iff_fits (maskNarrow pattern member)]
      exact outside pattern member
    · rw [← agrees_iff_fits narrow, agrees, beq_iff_eq, Nat.and_assoc, Nat.and_self]
  · rintro ⟨bits, member, small, fits⟩
    rw [List.mem_filter, mem_submasks_iff, Bool.not_eq_true', List.any_eq_false] at member
    rcases member with ⟨⟨-, sub⟩, refused⟩
    rw [← agrees_iff_fits narrow, agrees, beq_iff_eq, sub] at fits
    refine ⟨small, ?_⟩
    intro pattern patternMember
    rw [← agrees_iff_fits (maskNarrow pattern patternMember),
      ← agrees_land (under pattern patternMember), fits]
    exact refused pattern patternMember

/-- The search from the top bit down finds what trying every combination of the bits
that some pattern fixes would find. -/
theorem firstOutside_eq_min? {patterns : List BitPattern} {mask width start : Nat}
    (narrow : mask < 2 ^ width)
    (under : ∀ pattern ∈ patterns, pattern.mask &&& mask = pattern.mask) :
    firstOutside patterns width start =
      (((submasks mask width).filter fun bits => !patterns.any (·.agrees bits)).filterMap
        fun bits => firstFrom ⟨mask, bits⟩ width start).min? := by
  apply (firstOutside_isFirst patterns width start).unique
  apply isFirst_min? (outside_iff_exists narrow under)
  intro bits _
  exact firstFrom_isFirst ⟨mask, bits⟩ width start

end BitPattern

end MemoryFabric
