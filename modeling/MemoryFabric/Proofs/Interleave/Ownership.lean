import Mathlib.Data.List.Nodup
import MemoryFabric.Proofs.Interleave.Partition

/-! When a window can be divided among channels, and which channel of a plan each
address belongs to. -/

namespace MemoryFabric.InterleavePlan

variable {lineSize : UInt64} {window : AddressRange} {channels : Nat} {mode : InterleaveMode}
  {plan : InterleavePlan}

/-- Slices have to be of equal length; the field that tells the channels apart has
to end inside an address. -/
def Divisible (lineSize : UInt64) (window : AddressRange) (channels : Nat) :
    InterleaveMode → Prop
  | .flat => 1 ≤ channels ∧ channels ∣ window.size.toNat
  | .bitInterleaved =>
      (∃ bits, channels = 2 ^ bits) ∧ channels ≤ 1024 ∧
        (∃ lineBits, lineSize.toNat = 2 ^ lineBits) ∧
          lineSize.toNat.log2 + channels.log2 ≤ 64

/-- The channel of an address of the window: the slice it lies in, or its line
counted round the channels. -/
def channelAt (lineSize : UInt64) (window : AddressRange) (channels : Nat) :
    InterleaveMode → UInt64 → Nat
  | .flat, address => sliceOf window channels address
  | .bitInterleaved, address => address.toNat / lineSize.toNat % channels

/-! ## Plans that can be made -/

theorem exists_flat (positive : 1 ≤ channels) (divides : channels ∣ window.size.toNat) :
    ∃ plan, flat lineSize window channels = .ok plan := by
  have small : channels < UInt64.size :=
    Nat.lt_of_le_of_lt (Nat.le_of_dvd window.size_toNat_pos divides) window.size.toNat_lt
  have word : (UInt64.ofNat channels).toNat = channels := UInt64.toNat_ofNat_of_lt' small
  have splits : UInt64.ofNat channels ≠ 0 ∧
      window.size.toNat % (UInt64.ofNat channels).toNat = 0 := by
    constructor
    · intro zero
      rw [← UInt64.toNat_inj, word, UInt64.toNat_zero] at zero
      omega
    · rw [word]
      exact Nat.mod_eq_zero_of_dvd divides
  rw [flat, AddressRange.splitFlat, dif_pos splits]
  exact ⟨_, rfl⟩

theorem toNat_ofNat_of_lt {channels : Nat} (small : channels < 2 ^ 32) :
    (UInt64.ofNat channels).toNat = channels :=
  UInt64.toNat_ofNat_of_lt' (Nat.lt_trans small (by decide))

theorem positive_of_flat (planned : flat lineSize window channels = .ok plan) :
    1 ≤ channels := by
  apply Nat.one_le_iff_ne_zero.mpr
  rintro rfl
  cases planned

theorem le_greatestFieldWidth_iff (bits : Nat) : bits ≤ greatestFieldWidth ↔ 2 ^ bits ≤ 1024 :=
  (Nat.pow_le_pow_iff_right (n := bits) (m := 10) Nat.one_lt_two).symm

theorem fieldFor_of_powers {bits lineBits : Nat} (power : channels = 2 ^ bits)
    (few : bits ≤ greatestFieldWidth) (linePower : lineSize.toNat = 2 ^ lineBits)
    (inside : lineBits + bits ≤ 64) :
    fieldFor lineSize channels = .ok (bits, lineBits + bits - 1) := by
  rw [fieldFor, (powerOfTwo?_eq_some_iff _ _).mpr power,
    (powerOfTwo?_eq_some_iff _ _).mpr linePower]
  dsimp only
  rw [if_neg]
  rw [Bool.or_eq_true, decide_eq_true_eq, decide_eq_true_eq]
  omega

theorem exists_plan_iff (small : channels < 2 ^ 32) :
    (∃ plan, ofMode lineSize window channels mode = .ok plan) ↔
      Divisible lineSize window channels mode := by
  cases mode with
  | flat =>
      constructor
      · rintro ⟨plan, planned⟩
        refine ⟨positive_of_flat planned, ?_⟩
        rcases flat_eq_ok planned with ⟨parts, divides, same, -, -⟩
        rw [same, toNat_ofNat_of_lt small] at divides
        exact Nat.dvd_of_mod_eq_zero divides
      · rintro ⟨positive, divides⟩
        exact exists_flat positive divides
  | bitInterleaved =>
      constructor
      · rintro ⟨plan, planned⟩
        rcases bitInterleaved_eq_ok planned with ⟨bits, highBit, field, -, -⟩
        rcases fieldFor_eq_ok field with ⟨rfl, few, lineBits, linePower, place, high⟩
        refine ⟨⟨bits, rfl⟩, (le_greatestFieldWidth_iff bits).mp few, ⟨lineBits, linePower⟩, ?_⟩
        rw [linePower, Nat.log2_two_pow, Nat.log2_two_pow]
        omega
      · rintro ⟨⟨bits, rfl⟩, few, ⟨lineBits, linePower⟩, inside⟩
        rw [linePower, Nat.log2_two_pow, Nat.log2_two_pow] at inside
        have field := fieldFor_of_powers rfl ((le_greatestFieldWidth_iff bits).mpr few) linePower
          inside
        exact ⟨_, bitInterleaved_of_fieldFor window field⟩

/-! ## What a plan gives to each channel -/

/-- A field of no bits at the bottom of an address has the value zero, as every
number has after division by one. -/
theorem fieldOf_eq {bits lineBits : Nat} (address : UInt64) :
    fieldOf bits (lineBits + bits - 1) address = address.toNat / 2 ^ lineBits % 2 ^ bits := by
  rw [fieldOf, fieldLowBit]
  by_cases empty : lineBits + bits = 0
  · have noBits : bits = 0 := by omega
    rw [noBits, Nat.pow_zero, Nat.mod_one, Nat.mod_one]
  · have low : lineBits + bits - 1 + 1 - bits = lineBits := by omega
    rw [low]

theorem partition_of_ofMode (small : channels < 2 ^ 32)
    (planned : ofMode lineSize window channels mode = .ok plan) :
    plan.window = window ∧ plan.channels.length = channels ∧
      plan.Partition (channelAt lineSize window channels mode) := by
  cases mode with
  | flat =>
      rcases flat_eq_ok planned with ⟨parts, divides, same, windows, slices⟩
      rw [toNat_ofNat_of_lt small] at same
      subst same
      refine ⟨windows, ?_, flat_partition divides windows slices⟩
      rw [slices, List.length_ofFn]
  | bitInterleaved =>
      rcases bitInterleaved_eq_ok planned with ⟨bits, highBit, field, windows, shares⟩
      rcases fieldFor_eq_ok field with ⟨rfl, few, lineBits, linePower, rfl, high⟩
      refine ⟨windows, ?_, ?_⟩
      · rw [shares, List.length_map, List.length_range]
      · have owner : channelAt lineSize window (2 ^ bits) .bitInterleaved =
            fieldOf bits (lineBits + bits - 1) := by
          funext address
          rw [fieldOf_eq, channelAt, linePower]
        rw [owner]
        exact bitInterleaved_partition high (by omega) few windows shares

namespace Partition

variable {owner : UInt64 → Nat}

theorem numbers (partition : plan.Partition owner) :
    plan.channels.map (·.channel) = List.range plan.channels.length := by
  apply List.ext_getElem
  · rw [List.length_map, List.length_range]
  · intro index inside _
    rw [List.length_map] at inside
    rw [List.getElem_map, List.getElem_range]
    exact partition.numbered (List.getElem?_eq_getElem inside)

theorem countP_accepts (partition : plan.Partition owner) (address : UInt64) :
    plan.channels.countP (·.predicate.accepts address) =
      if plan.window.contains address then 1 else 0 := by
  by_cases inside : plan.window.contains address = true
  · have byNumber : plan.channels.countP (·.predicate.accepts address) =
        plan.channels.countP fun share => share.channel == owner address := by
      apply List.countP_congr
      intro share member
      rw [partition.owned member address, beq_iff_eq]
      exact (and_iff_right inside).trans eq_comm
    have counted := List.count_eq_one_of_mem (List.nodup_range (n := plan.channels.length))
      (List.mem_range.mpr (partition.bounded inside))
    rw [if_pos inside, byNumber, ← counted, ← partition.numbers, List.count, List.countP_map]
    rfl
  · rw [if_neg inside, List.countP_eq_zero]
    intro share member accepted
    exact inside ((partition.owned member address).mp accepted).1

end Partition

/-- A plan can be made exactly if its window can be divided. Its channels are
numbered in order, every address of the window has exactly one of them and no other
address has any, and looking up the channel of an address finds that one. -/
theorem ofMode_divides_window {channels : Nat} (small : channels < 2 ^ 32) (lineSize : UInt64)
    (window : AddressRange) (mode : InterleaveMode) :
    ((∃ plan, ofMode lineSize window channels mode = .ok plan) ↔
      Divisible lineSize window channels mode) ∧
    ∀ plan, ofMode lineSize window channels mode = .ok plan →
      plan.channels.map (·.channel) = List.range channels ∧
      (∀ address, plan.channels.countP (·.predicate.accepts address) =
        if window.contains address then 1 else 0) ∧
      ∀ address, plan.channelOf address =
        if window.contains address then some (channelAt lineSize window channels mode address)
        else none := by
  refine ⟨exists_plan_iff small, ?_⟩
  intro plan planned
  rcases partition_of_ofMode small planned with ⟨rfl, length, partition⟩
  refine ⟨?_, partition.countP_accepts, partition.channelOf_eq⟩
  rw [partition.numbers, length]

/-- A window that begins and ends in the middle of a stripe of four lines. -/
theorem divides_window_misaligned :
    4 < 2 ^ 32 ∧ ∃ plan, ofMode 64 ⟨0x130, 0x200, by decide, by decide⟩ 4 .bitInterleaved =
        .ok plan ∧
      plan.channels.map (·.channel) = [0, 1, 2, 3] ∧ plan.channelOf 0x130 = some 0 ∧
        plan.channelOf 0x1C0 = some 3 ∧ plan.channelOf 0x330 = none := by
  rcases ofMode_divides_window (show 4 < 2 ^ 32 by decide) 64
    ⟨0x130, 0x200, by decide, by decide⟩ .bitInterleaved with ⟨divisible, divides⟩
  rcases divisible.mpr ⟨⟨2, rfl⟩, by decide, ⟨6, rfl⟩, by decide⟩ with ⟨plan, planned⟩
  rcases divides plan planned with ⟨numbers, -, owners⟩
  refine ⟨by decide, plan, planned, numbers, ?_, ?_, ?_⟩
  · rw [owners]
    decide
  · rw [owners]
    decide
  · rw [owners]
    decide

end MemoryFabric.InterleavePlan
