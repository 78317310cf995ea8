import Mathlib.Data.Nat.Periodic
import MemoryFabric.Proofs.Interleave.Ownership

/-! How many addresses of a window each channel of a plan owns. Lines go round the
channels, so channels differ by what the last, incomplete round gives to them. -/

namespace MemoryFabric

namespace AddressRange

def numbers (range : AddressRange) : Finset Nat :=
  Finset.Ico range.base.toNat (range.base.toNat + range.size.toNat)

def addresses (range : AddressRange) : Finset UInt64 :=
  range.numbers.image UInt64.ofNat

variable {range : AddressRange} {number : Nat}

theorem toNat_ofNat_of_mem_numbers (inside : number ∈ range.numbers) :
    (UInt64.ofNat number).toNat = number :=
  UInt64.toNat_ofNat_of_lt' (Nat.lt_trans (Finset.mem_Ico.mp inside).2 range.fits)

theorem injOn_ofNat_numbers (range : AddressRange) : Set.InjOn UInt64.ofNat range.numbers := by
  intro first firstInside second secondInside same
  rw [← toNat_ofNat_of_mem_numbers firstInside, same, toNat_ofNat_of_mem_numbers secondInside]

theorem mem_addresses_iff (range : AddressRange) (address : UInt64) :
    address ∈ range.addresses ↔ range.contains address = true := by
  rw [addresses, Finset.mem_image, contains_iff]
  constructor
  · rintro ⟨number, inside, rfl⟩
    rw [toNat_ofNat_of_mem_numbers inside]
    exact Finset.mem_Ico.mp inside
  · intro inside
    exact ⟨address.toNat, Finset.mem_Ico.mpr inside, UInt64.ofNat_toNat⟩

theorem card_addresses (range : AddressRange) : range.addresses.card = range.size.toNat := by
  rw [addresses, Finset.card_image_of_injOn range.injOn_ofNat_numbers, numbers, Nat.card_Ico,
    Nat.add_sub_cancel_left]

theorem card_filter_addresses (range : AddressRange) (holds : Nat → Prop)
    [DecidablePred holds] :
    (range.addresses.filter fun address => holds address.toNat).card =
      (range.numbers.filter holds).card := by
  have asNumbers : range.numbers.filter (fun number => holds (UInt64.ofNat number).toNat) =
      range.numbers.filter holds := by
    apply Finset.filter_congr
    intro number inside
    rw [toNat_ofNat_of_mem_numbers inside]
  have subset := Finset.filter_subset holds range.numbers
  have injective := range.injOn_ofNat_numbers.mono (Finset.coe_subset.mpr subset)
  rw [addresses, Finset.filter_image, asNumbers, Finset.card_image_of_injOn injective]

end AddressRange

namespace InterleavePlan

/-! ## Taking turns -/

/-- Lines of `line` numbers go round `channels` channels. So many of the `length`
numbers from `start` on are in a line of `channel`. -/
def turns (line channels channel start length : Nat) : Nat :=
  ((Finset.Ico start (start + length)).filter fun number =>
    number / line % channels = channel).card

section

variable {line channels channel : Nat}

theorem turns_add (start first second : Nat) :
    turns line channels channel start (first + second) =
      turns line channels channel start first +
        turns line channels channel (start + first) second := by
  have joined := Finset.Ico_union_Ico_eq_Ico (Nat.le_add_right start first)
    (Nat.le_add_right (start + first) second)
  have apart := Finset.Ico_disjoint_Ico_consecutive start (start + first)
    (start + first + second)
  rw [turns, turns, turns, ← Nat.add_assoc, ← joined, Finset.filter_union,
    Finset.card_union_of_disjoint (Finset.disjoint_filter_filter apart)]

theorem turns_mono (start : Nat) {first second : Nat} (shorter : first ≤ second) :
    turns line channels channel start first ≤ turns line channels channel start second := by
  rcases Nat.exists_eq_add_of_le shorter with ⟨rest, rfl⟩
  rw [turns_add]
  exact Nat.le_add_right _ _

theorem periodic_turn (positive : 0 < line) :
    Function.Periodic (fun number => number / line % channels = channel) (channels * line) := by
  intro number
  dsimp only
  rw [Nat.add_mul_div_right _ _ positive, Nat.add_mod_right]

theorem filter_firstRound (positive : 0 < line) (inside : channel < channels) :
    ((Finset.range (channels * line)).filter fun number => number / line % channels = channel) =
      Finset.Ico (channel * line) (channel * line + line) := by
  ext number
  rw [Finset.mem_filter, Finset.mem_range, Finset.mem_Ico, ← Nat.succ_mul,
    ← Nat.div_lt_iff_lt_mul positive, ← Nat.div_lt_iff_lt_mul positive,
    ← Nat.le_div_iff_mul_le positive]
  constructor
  · rintro ⟨below, same⟩
    rw [Nat.mod_eq_of_lt below] at same
    omega
  · rintro ⟨least, below⟩
    have same : number / line = channel := by omega
    rw [same]
    exact ⟨inside, Nat.mod_eq_of_lt inside⟩

/-- Wherever a complete round starts, it gives every channel as much as one line,
though it may be the end of one and the beginning of another. -/
theorem turns_round (positive : 0 < line) (inside : channel < channels) (start : Nat) :
    turns line channels channel start (channels * line) = line := by
  rw [turns, Nat.filter_Ico_card_eq_of_periodic start _ _ (periodic_turn positive),
    Nat.count_eq_card_filter_range, filter_firstRound positive inside, Nat.card_Ico,
    Nat.add_sub_cancel_left]

theorem turns_rounds (positive : 0 < line) (inside : channel < channels) (start rounds : Nat) :
    turns line channels channel start (rounds * (channels * line)) = rounds * line := by
  induction rounds with
  | zero =>
      rw [turns, Nat.zero_mul, Nat.zero_mul, Nat.add_zero, Finset.Ico_self]
      rfl
  | succ rounds hypothesis =>
      rw [Nat.succ_mul, turns_add, hypothesis, turns_round positive inside, Nat.succ_mul]

theorem turns_bounds (positive : 0 < line) (inside : channel < channels) (start length : Nat) :
    length / (channels * line) * line ≤ turns line channels channel start length ∧
      turns line channels channel start length ≤
        length / (channels * line) * line + line := by
  have round_pos : 0 < channels * line := Nat.mul_pos (Nat.zero_lt_of_lt inside) positive
  have oneMore : length ≤ (length / (channels * line) + 1) * (channels * line) := by
    rw [Nat.succ_mul]
    exact Nat.le_of_lt (Nat.lt_div_mul_add round_pos)
  constructor
  · calc length / (channels * line) * line
      _ = turns line channels channel start (length / (channels * line) * (channels * line)) :=
        (turns_rounds positive inside start _).symm
      _ ≤ turns line channels channel start length :=
        turns_mono start (Nat.div_mul_le_self length _)
  · calc turns line channels channel start length
      _ ≤ turns line channels channel start
          ((length / (channels * line) + 1) * (channels * line)) := turns_mono start oneMore
      _ = (length / (channels * line) + 1) * line := turns_rounds positive inside start _
      _ = length / (channels * line) * line + line := Nat.succ_mul _ _

example : turns 64 4 0 0x130 0xF0 = 48 ∧ turns 64 4 1 0x130 0xF0 = 64 := by decide +kernel

end

/-! ## Loads -/

def load (window : AddressRange) (predicate : AddressPredicate) : Nat :=
  (window.addresses.filter (predicate.accepts ·)).card

/-- How far the loads of two channels may lie apart. -/
def slack (lineSize : UInt64) : InterleaveMode → Nat
  | .flat => 0
  | .bitInterleaved => lineSize.toNat

theorem sum_load (window : AddressRange) (shares : List ChannelAssignment) :
    (shares.map fun share => load window share.predicate).sum =
      window.addresses.sum fun address => shares.countP (·.predicate.accepts address) := by
  induction shares with
  | nil =>
      rw [List.map_nil, List.sum_nil]
      exact Finset.sum_const_zero.symm
  | cons share shares hypothesis =>
      rw [List.map_cons, List.sum_cons, hypothesis, load, Finset.card_filter,
        ← Finset.sum_add_distrib]
      apply Finset.sum_congr rfl
      intro address _
      rw [List.countP_cons, Nat.add_comm]

namespace Partition

variable {plan : InterleavePlan} {owner : UInt64 → Nat}

theorem sum_load (partition : plan.Partition owner) :
    (plan.channels.map fun share => load plan.window share.predicate).sum =
      plan.window.size.toNat := by
  rw [InterleavePlan.sum_load, ← AddressRange.card_addresses, Finset.card_eq_sum_ones]
  apply Finset.sum_congr rfl
  intro address inside
  rw [partition.countP_accepts, if_pos ((AddressRange.mem_addresses_iff _ _).mp inside)]

theorem load_eq (partition : plan.Partition owner) {share : ChannelAssignment}
    (member : share ∈ plan.channels) :
    load plan.window share.predicate =
      (plan.window.addresses.filter (owner · = share.channel)).card := by
  apply congrArg Finset.card
  apply Finset.filter_congr
  intro address inside
  rw [partition.owned member]
  exact and_iff_right ((AddressRange.mem_addresses_iff _ _).mp inside)

theorem channel_lt (partition : plan.Partition owner) {share : ChannelAssignment}
    (member : share ∈ plan.channels) : share.channel < plan.channels.length := by
  rw [← List.mem_range, ← partition.numbers]
  exact List.mem_map_of_mem member

end Partition

theorem card_filter_slice (base : Nat) {length channels channel : Nat} (positive : 0 < length)
    (inside : channel < channels) :
    ((Finset.Ico base (base + channels * length)).filter fun number =>
      (number - base) / length = channel).card = length := by
  have slice : ((Finset.Ico base (base + channels * length)).filter fun number =>
      (number - base) / length = channel) =
        Finset.Ico (base + channel * length) (base + channel * length + length) := by
    have fits : channel * length + length ≤ channels * length := by
      rw [← Nat.succ_mul]
      exact Nat.mul_le_mul_right _ inside
    ext number
    rw [Finset.mem_filter, Finset.mem_Ico, Finset.mem_Ico, Nat.div_eq_iff positive]
    omega
  rw [slice, Nat.card_Ico, Nat.add_sub_cancel_left]

variable {lineSize : UInt64} {window : AddressRange} {channels : Nat} {plan : InterleavePlan}
  {share : ChannelAssignment}

theorem load_of_flat (small : channels < 2 ^ 32)
    (planned : ofMode lineSize window channels .flat = .ok plan)
    (member : share ∈ plan.channels) :
    load window share.predicate = window.size.toNat / channels := by
  rcases (exists_plan_iff small).mp ⟨plan, planned⟩ with ⟨_, divides⟩
  rcases partition_of_ofMode small planned with ⟨rfl, count, partition⟩
  have inside := partition.channel_lt member
  have whole := Nat.mul_div_cancel' divides
  have positive : 0 < plan.window.size.toNat / channels :=
    Nat.div_pos (Nat.le_of_dvd plan.window.size_toNat_pos divides) (by omega)
  have slice := card_filter_slice plan.window.base.toNat positive (count ▸ inside)
  rw [whole] at slice
  rw [partition.load_eq member, ← slice]
  exact plan.window.card_filter_addresses fun number =>
    (number - plan.window.base.toNat) / (plan.window.size.toNat / channels) = share.channel

theorem load_of_bitInterleaved (small : channels < 2 ^ 32)
    (planned : ofMode lineSize window channels .bitInterleaved = .ok plan)
    (member : share ∈ plan.channels) :
    load window share.predicate =
      turns lineSize.toNat channels share.channel window.base.toNat window.size.toNat := by
  rcases partition_of_ofMode small planned with ⟨rfl, -, partition⟩
  rw [partition.load_eq member]
  exact plan.window.card_filter_addresses fun number =>
    number / lineSize.toNat % channels = share.channel

theorem channel_lt_of_ofMode (small : channels < 2 ^ 32) {mode : InterleaveMode}
    (planned : ofMode lineSize window channels mode = .ok plan)
    (member : share ∈ plan.channels) : share.channel < channels := by
  rcases partition_of_ofMode small planned with ⟨_, rfl, partition⟩
  exact partition.channel_lt member

theorem line_pos_of_bitInterleaved (small : channels < 2 ^ 32)
    (planned : ofMode lineSize window channels .bitInterleaved = .ok plan) :
    0 < lineSize.toNat := by
  rcases (exists_plan_iff small).mp ⟨plan, planned⟩ with ⟨_, _, ⟨lineBits, linePower⟩, _⟩
  rw [linePower]
  exact Nat.two_pow_pos lineBits

theorem load_le_add_slack (small : channels < 2 ^ 32) {mode : InterleaveMode}
    (planned : ofMode lineSize window channels mode = .ok plan) {first second : ChannelAssignment}
    (firstMember : first ∈ plan.channels) (secondMember : second ∈ plan.channels) :
    load window first.predicate ≤ load window second.predicate + slack lineSize mode := by
  cases mode with
  | flat =>
      rw [load_of_flat small planned firstMember, load_of_flat small planned secondMember]
      exact Nat.le_add_right _ _
  | bitInterleaved =>
      have positive := line_pos_of_bitInterleaved small planned
      have firstInside := channel_lt_of_ofMode small planned firstMember
      have secondInside := channel_lt_of_ofMode small planned secondMember
      rw [load_of_bitInterleaved small planned firstMember,
        load_of_bitInterleaved small planned secondMember, slack]
      exact (turns_bounds positive firstInside _ _).2.trans
        (Nat.add_le_add_right (turns_bounds positive secondInside _ _).1 _)

theorem load_of_completeRounds (small : channels < 2 ^ 32) {mode : InterleaveMode}
    (planned : ofMode lineSize window channels mode = .ok plan)
    (complete : channels * lineSize.toNat ∣ window.size.toNat)
    (member : share ∈ plan.channels) :
    load window share.predicate = window.size.toNat / channels := by
  cases mode with
  | flat => exact load_of_flat small planned member
  | bitInterleaved =>
      have inside := channel_lt_of_ofMode small planned member
      have positive := line_pos_of_bitInterleaved small planned
      rcases complete with ⟨rounds, size⟩
      have part : window.size.toNat / channels = rounds * lineSize.toNat := by
        rw [size, Nat.mul_assoc, Nat.mul_div_cancel_left _ (Nat.zero_lt_of_lt inside),
          Nat.mul_comm]
      rw [load_of_bitInterleaved small planned member, part, size, Nat.mul_comm _ rounds,
        turns_rounds positive inside]

/-- The channels of a flat plan have equal loads, and those of a bit-interleaved plan
differ by no more than a line. Together they have the whole window, each of them an
equal part if the window consists of complete rounds, wherever it begins. -/
theorem ofMode_balances (small : channels < 2 ^ 32) (mode : InterleaveMode)
    (planned : ofMode lineSize window channels mode = .ok plan) :
    (∀ first ∈ plan.channels, ∀ second ∈ plan.channels,
      load window first.predicate ≤ load window second.predicate + slack lineSize mode) ∧
    (plan.channels.map fun share => load window share.predicate).sum = window.size.toNat ∧
    (channels * lineSize.toNat ∣ window.size.toNat → ∀ share ∈ plan.channels,
      load window share.predicate = window.size.toNat / channels) := by
  refine ⟨?_, ?_, ?_⟩
  · intro first firstMember second secondMember
    exact load_le_add_slack small planned firstMember secondMember
  · rcases partition_of_ofMode small planned with ⟨rfl, -, partition⟩
    exact partition.sum_load
  · intro complete share member
    exact load_of_completeRounds small planned complete member

/-- Two stripes of four lines, from the middle of a line to the middle of another. -/
theorem balances_misaligned :
    4 < 2 ^ 32 ∧ ∃ plan, ofMode 64 ⟨0x170, 0x200, by decide, by decide⟩ 4 .bitInterleaved =
        .ok plan ∧
      ∀ share ∈ plan.channels,
        load ⟨0x170, 0x200, by decide, by decide⟩ share.predicate = 0x80 := by
  have small : 4 < 2 ^ 32 := by decide
  rcases (exists_plan_iff small).mpr
    (show Divisible 64 ⟨0x170, 0x200, by decide, by decide⟩ 4 .bitInterleaved from
      ⟨⟨2, rfl⟩, by decide, ⟨6, rfl⟩, by decide⟩) with ⟨plan, planned⟩
  have balanced := ofMode_balances small .bitInterleaved planned
  exact ⟨small, plan, planned, balanced.2.2 ⟨2, rfl⟩⟩

end InterleavePlan

end MemoryFabric
