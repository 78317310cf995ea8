import MemoryFabric.Proofs.Address.Field
import MemoryFabric.Proofs.Address.Search

/-! Match values that are written differently and are the same. A predicate heeds only as
many bits of its match value as its field has in an address, so predicates over one field
exclude each other exactly if their values differ in these bits. -/

namespace MemoryFabric.AddressPredicate

variable {first second : AddressPredicate}

/-- The predicates fix one field over one range to match values that are different numbers,
but the same in the bits of the field. -/
def Aliases (first second : AddressPredicate) : Prop :=
  ∃ range bits highBit matchValue other,
    first = .interleaved range bits highBit matchValue ∧
      second = .interleaved range bits highBit other ∧ matchValue ≠ other ∧
        matchValue % 2 ^ fieldBits bits highBit = other % 2 ^ fieldBits bits highBit

theorem Aliases.accepts_eq (aliases : first.Aliases second) (address : UInt64) :
    first.accepts address = second.accepts address := by
  rcases aliases with ⟨range, bits, highBit, matchValue, other, rfl, rfl, -, same⟩
  rw [Bool.eq_iff_iff, accepts_interleaved_iff_mod, accepts_interleaved_iff_mod, same]

theorem not_repeats_of_ne {range : AddressRange} {bits highBit matchValue other : Nat}
    (different : matchValue ≠ other) :
    ¬ (interleaved range bits highBit matchValue).Repeats
      (interleaved range bits highBit other) := by
  rintro ⟨_, _, _, _, _, equal, otherEqual, -⟩
  cases equal
  cases otherEqual
  exact different rfl

theorem Aliases.not_repeats (aliases : first.Aliases second) : ¬ first.Repeats second := by
  rcases aliases with ⟨range, bits, highBit, matchValue, other, rfl, rfl, different, -⟩
  exact not_repeats_of_ne different

theorem Checked.not_aliases (checked : first.Checked) (otherChecked : second.Checked) :
    ¬ first.Aliases second := by
  rintro ⟨range, bits, highBit, matchValue, other, rfl, rfl, different, same⟩
  have fits := checked.fieldFits
  rw [fieldBits_eq fits.high fits.inside, Nat.mod_eq_of_lt fits.value,
    Nat.mod_eq_of_lt otherChecked.fieldFits.value] at same
  exact different same

/-- Predicates with different match values in one field are aliases or accept no common
address. -/
theorem aliases_or_apart (range : AddressRange) (bits highBit : Nat) {matchValue other : Nat}
    (different : matchValue ≠ other) :
    (interleaved range bits highBit matchValue).Aliases (interleaved range bits highBit other) ∨
      (interleaved range bits highBit matchValue).overlapWitness
        (interleaved range bits highBit other) = none := by
  by_cases same :
      matchValue % 2 ^ fieldBits bits highBit = other % 2 ^ fieldBits bits highBit
  · exact Or.inl ⟨range, bits, highBit, matchValue, other, rfl, rfl, different, same⟩
  · refine Or.inr ((overlapWitness_eq_none_iff _ _).mpr ?_)
    rintro address ⟨acceptsFirst, acceptsSecond⟩
    rw [accepts_interleaved_iff_mod] at acceptsFirst acceptsSecond
    exact same (acceptsFirst.2.symm.trans acceptsSecond.2)

end MemoryFabric.AddressPredicate
