import MemoryFabric.Interleave.Plan
import MemoryFabric.Proofs.Address.Field
import MemoryFabric.Proofs.FirstFault

/-! Plans divide their window: every address of it belongs to one channel, which
is the number of the slice it lies in or the value of its field. -/

namespace MemoryFabric

namespace InterleavePlan

/-- The channels of the plan are numbered in order and hold the addresses of the
window according to `owner`. -/
structure Partition (plan : InterleavePlan) (owner : UInt64 → Nat) : Prop where
  numbered : ∀ {index : Nat} {share : ChannelAssignment},
    plan.channels[index]? = some share → share.channel = index
  owned : ∀ {share : ChannelAssignment}, share ∈ plan.channels → ∀ address : UInt64,
    share.predicate.accepts address = true ↔
      plan.window.contains address = true ∧ owner address = share.channel
  bounded : ∀ {address : UInt64}, plan.window.contains address = true →
    owner address < plan.channels.length
  distinct : plan.channels.Pairwise fun first second =>
    ¬ first.predicate.Repeats second.predicate
  narrow : ∃ mask : UInt64, BitPattern.bitCount 64 mask.toNat ≤ greatestFieldWidth ∧
    ∀ share ∈ plan.channels, share.predicate.mask = mask

namespace Partition

variable {plan : InterleavePlan} {owner : UInt64 → Nat}

theorem exists_owner (partition : plan.Partition owner) {address : UInt64}
    (inside : plan.window.contains address = true) :
    ∃ share, plan.channels[owner address]? = some share ∧ share.channel = owner address ∧
      share.predicate.accepts address = true := by
  have bound := partition.bounded inside
  have found := List.getElem?_eq_getElem bound
  have number := partition.numbered found
  refine ⟨_, found, number, ?_⟩
  rw [partition.owned (List.getElem_mem bound) address]
  exact ⟨inside, number.symm⟩

theorem channelOf_eq (partition : plan.Partition owner) (address : UInt64) :
    plan.channelOf address =
      if plan.window.contains address then some (owner address) else none := by
  rw [channelOf]
  by_cases inside : plan.window.contains address = true
  · rw [if_pos inside]
    rcases partition.exists_owner inside with ⟨share, found, _, accepted⟩
    cases first : plan.channels.find? (·.predicate.accepts address) with
    | none =>
        have refused := List.find?_eq_none.mp first share (List.mem_of_getElem? found)
        exact absurd accepted refused
    | some chosen =>
        have acceptedFirst : chosen.predicate.accepts address = true :=
          List.find?_some (p := fun share : ChannelAssignment =>
            share.predicate.accepts address) first
        rw [Option.map_some,
          ((partition.owned (List.mem_of_find?_eq_some first) address).mp acceptedFirst).2]
  · rw [if_neg inside, Option.map_eq_none_iff, List.find?_eq_none]
    intro share member accepted
    exact inside ((partition.owned member address).mp accepted).1

end Partition

/-! ## Flat plans -/

theorem toNat_base_part (range : AddressRange) {parts index : Nat}
    (divides : range.size.toNat % parts = 0) (index_lt : index < parts) :
    (range.part parts index divides index_lt).base.toNat =
      range.base.toNat + index * (range.size.toNat / parts) := by
  have bounds := AddressRange.part_bounds range.size_toNat_pos divides index_lt
  have fits := range.fits
  have bound : range.base.toNat + index * (range.size.toNat / parts) < UInt64.size := by
    change _ < 0x10000000000000000
    omega
  exact UInt64.toNat_ofNat_of_lt' bound

theorem toNat_size_part (range : AddressRange) {parts index : Nat}
    (divides : range.size.toNat % parts = 0) (index_lt : index < parts) :
    (range.part parts index divides index_lt).size.toNat = range.size.toNat / parts := by
  have bounds := AddressRange.part_bounds range.size_toNat_pos divides index_lt
  have fits := range.fits
  have bound : range.size.toNat / parts < UInt64.size := by
    change _ < 0x10000000000000000
    omega
  exact UInt64.toNat_ofNat_of_lt' bound

def sliceOf (window : AddressRange) (parts : Nat) (address : UInt64) : Nat :=
  (address.toNat - window.base.toNat) / (window.size.toNat / parts)

theorem contains_part_iff (range : AddressRange) {parts index : Nat}
    (divides : range.size.toNat % parts = 0) (index_lt : index < parts) (address : UInt64) :
    (range.part parts index divides index_lt).contains address = true ↔
      range.contains address = true ∧ sliceOf range parts address = index := by
  have bounds := AddressRange.part_bounds range.size_toNat_pos divides index_lt
  rw [AddressRange.contains_iff, AddressRange.contains_iff, toNat_base_part, toNat_size_part,
    sliceOf, Nat.div_eq_iff bounds.1]
  omega

theorem sliceOf_lt (range : AddressRange) {parts : Nat}
    (divides : range.size.toNat % parts = 0) {address : UInt64}
    (inside : range.contains address = true) : sliceOf range parts address < parts := by
  rw [AddressRange.contains_iff] at inside
  have whole : parts * (range.size.toNat / parts) = range.size.toNat :=
    Nat.mul_div_cancel' (Nat.dvd_of_mod_eq_zero divides)
  have positive := range.size_toNat_pos
  have length_pos : 0 < range.size.toNat / parts := by
    rcases Nat.eq_zero_or_pos (range.size.toNat / parts) with zero | positive
    · rw [zero] at whole
      omega
    · exact positive
  rw [sliceOf, Nat.div_lt_iff_lt_mul length_pos, whole]
  omega

def sliceShare (window : AddressRange) {parts : Nat} (divides : window.size.toNat % parts = 0)
    (index : Fin parts) : ChannelAssignment :=
  ⟨index, .whole (window.part parts index divides index.isLt)⟩

theorem flat_eq_ok {lineSize : UInt64} {window : AddressRange} {channels : Nat}
    {plan : InterleavePlan} (planned : flat lineSize window channels = .ok plan) :
    ∃ parts, ∃ divides : window.size.toNat % parts = 0,
      parts = (UInt64.ofNat channels).toNat ∧ plan.window = window ∧
        plan.channels = List.ofFn (sliceShare window divides) := by
  rw [flat, AddressRange.splitFlat] at planned
  split at planned
  · cases planned
  · rename_i slices split
    split at split
    · rename_i condition
      cases split
      cases planned
      refine ⟨_, condition.2, rfl, rfl, ?_⟩
      apply List.ext_getElem?
      intro index
      rw [List.getElem?_mapIdx, List.getElem?_ofFn, List.getElem?_ofFn]
      split <;> rfl
    · cases split

theorem flat_partition {plan : InterleavePlan} {window : AddressRange} {parts : Nat}
    (divides : window.size.toNat % parts = 0) (windows : plan.window = window)
    (channels : plan.channels = List.ofFn (sliceShare window divides)) :
    plan.Partition (sliceOf window parts) where
  numbered {index share} found := by
    rw [channels, List.getElem?_ofFn] at found
    split at found
    · cases found
      rfl
    · cases found
  owned {share} member address := by
    rw [channels, List.mem_ofFn] at member
    rcases member with ⟨index, rfl⟩
    rw [windows, sliceShare, AddressPredicate.accepts_whole, contains_part_iff]
  bounded {address} inside := by
    rw [windows] at inside
    rw [channels, List.length_ofFn]
    exact sliceOf_lt window divides inside
  distinct := by
    rw [channels, List.pairwise_iff_getElem]
    intro first second _ _ _
    rw [List.getElem_ofFn]
    exact AddressPredicate.whole_not_repeats _ _
  narrow := by
    refine ⟨0, by decide, ?_⟩
    intro share member
    rw [channels, List.mem_ofFn] at member
    rcases member with ⟨index, rfl⟩
    rfl

/-! ## Bit-interleaved plans -/

theorem powerOfTwo?_eq_some_iff (number exponent : Nat) :
    powerOfTwo? number = some exponent ↔ number = 2 ^ exponent := by
  rw [powerOfTwo?, Nat.one_shiftLeft]
  constructor
  · intro found
    split at found
    · rename_i power
      cases found
      exact power
    · cases found
  · rintro rfl
    rw [Nat.log2_two_pow, if_pos rfl]

/-- The field of a plan is as wide as its channels need and lies directly above
the bits of a line offset. -/
theorem fieldFor_eq_ok {lineSize : UInt64} {channels bits highBit : Nat}
    (found : fieldFor lineSize channels = .ok (bits, highBit)) :
    channels = 2 ^ bits ∧ bits ≤ greatestFieldWidth ∧
      ∃ lineBits, lineSize.toNat = 2 ^ lineBits ∧ highBit = lineBits + bits - 1 ∧
        highBit < 64 := by
  rw [fieldFor] at found
  split at found
  · cases found
  · cases found
  · rename_i width lineBits power linePower
    rw [powerOfTwo?_eq_some_iff] at power linePower
    dsimp only at found
    split at found
    · cases found
    · rename_i inside
      cases found
      rw [Bool.or_eq_true, decide_eq_true_eq, decide_eq_true_eq, not_or] at inside
      exact ⟨power, Nat.le_of_not_lt inside.1, lineBits, linePower, rfl,
        Nat.lt_of_not_le inside.2⟩

theorem fieldFits_of_fieldFor {lineSize : UInt64} {channels bits highBit channel : Nat}
    (found : fieldFor lineSize channels = .ok (bits, highBit)) (numbered : channel < channels) :
    FieldFits bits highBit channel := by
  rcases fieldFor_eq_ok found with ⟨rfl, -, lineBits, -, place, high⟩
  exact ⟨high, by omega, numbered⟩

def fieldShare (window : AddressRange) (bits highBit channel : Nat) : ChannelAssignment :=
  ⟨channel, .interleaved window bits highBit channel⟩

theorem bitInterleaved_of_fieldFor {lineSize : UInt64} {channels bits highBit : Nat}
    (window : AddressRange) (field : fieldFor lineSize channels = .ok (bits, highBit)) :
    bitInterleaved lineSize window channels = .ok {
      window
      mode := .bitInterleaved
      lineSize
      channels := (List.range channels).map (fieldShare window bits highBit) } := by
  have succeeds : ∀ channel ∈ List.range channels,
      (AddressPredicate.ofField window bits highBit channel >>= fun predicate =>
        pure ⟨channel, predicate⟩) = Except.ok (fieldShare window bits highBit channel) := by
    intro channel member
    have fits := fieldFits_of_fieldFor field (List.mem_range.mp member)
    rw [(AddressPredicate.ofField_eq_ok_iff _ _ _ _ _).mpr ⟨fits, rfl⟩]
    rfl
  rw [bitInterleaved, field, ok_bind]
  dsimp only
  rw [mapM_eq_ok succeeds]
  rfl

theorem bitInterleaved_eq_ok {lineSize : UInt64} {window : AddressRange} {channels : Nat}
    {plan : InterleavePlan} (planned : bitInterleaved lineSize window channels = .ok plan) :
    ∃ bits highBit, fieldFor lineSize channels = .ok (bits, highBit) ∧ plan.window = window ∧
      plan.channels = (List.range channels).map (fieldShare window bits highBit) := by
  have field := planned
  rw [bitInterleaved, bind_eq_ok_iff] at field
  rcases field with ⟨⟨bits, highBit⟩, field, -⟩
  rw [bitInterleaved_of_fieldFor window field] at planned
  cases planned
  exact ⟨bits, highBit, field, rfl, rfl⟩

def fieldOf (bits highBit : Nat) (address : UInt64) : Nat :=
  address.toNat / 2 ^ fieldLowBit bits highBit % 2 ^ bits

theorem bitInterleaved_partition {plan : InterleavePlan} {window : AddressRange}
    {bits highBit : Nat} (high : highBit < 64) (inside : bits ≤ highBit + 1)
    (few : bits ≤ greatestFieldWidth) (windows : plan.window = window)
    (channels : plan.channels = (List.range (2 ^ bits)).map (fieldShare window bits highBit)) :
    plan.Partition (fieldOf bits highBit) where
  numbered {index share} found := by
    rw [channels, List.getElem?_map, Option.map_eq_some_iff] at found
    rcases found with ⟨channel, found, rfl⟩
    rw [List.getElem?_eq_some_iff] at found
    rcases found with ⟨_, found⟩
    rw [List.getElem_range] at found
    exact found.symm
  owned {share} member address := by
    rw [channels, List.mem_map] at member
    rcases member with ⟨channel, channelMember, rfl⟩
    have fits : FieldFits bits highBit channel := ⟨high, inside, List.mem_range.mp channelMember⟩
    rw [windows, fieldShare, AddressPredicate.accepts_interleaved_iff window fits]
    rfl
  bounded {address} _ := by
    rw [channels, List.length_map, List.length_range]
    exact Nat.mod_lt _ (Nat.two_pow_pos bits)
  distinct := by
    rw [channels, List.pairwise_map, List.pairwise_iff_getElem]
    intro first second firstInside secondInside ordered
    rw [List.getElem_range, List.getElem_range]
    rintro ⟨_, _, _, _, _, firstEqual, secondEqual, _⟩
    cases firstEqual
    cases secondEqual
    exact Nat.lt_irrefl _ ordered
  narrow := by
    refine ⟨fieldMask bits highBit, ?_, ?_⟩
    · rw [bitCount_fieldMask high inside]
      exact few
    · intro share member
      rw [channels, List.mem_map] at member
      rcases member with ⟨channel, _, rfl⟩
      rfl

theorem exists_partition {lineSize : UInt64} {window : AddressRange} {channels : Nat}
    {mode : InterleaveMode} {plan : InterleavePlan}
    (planned : ofMode lineSize window channels mode = .ok plan) :
    plan.window = window ∧ ∃ owner, plan.Partition owner := by
  cases mode with
  | flat =>
      rcases flat_eq_ok planned with ⟨parts, divides, _, windows, slices⟩
      exact ⟨windows, _, flat_partition divides windows slices⟩
  | bitInterleaved =>
      rcases bitInterleaved_eq_ok planned with ⟨bits, highBit, field, windows, shares⟩
      rcases fieldFor_eq_ok field with ⟨power, few, lineBits, _, place, high⟩
      rw [power] at shares
      exact ⟨windows, _, bitInterleaved_partition high (by omega) few windows shares⟩

end InterleavePlan

end MemoryFabric
