import Mathlib.Data.List.Destutter
import MemoryFabric.Core

/-! Capabilities in order. A processor model may keep its capabilities in the order in which
their ports are wired, each of them once, and look for one by halving what is left to search.
It finds the capabilities that it was given. -/

namespace MemoryFabric

namespace Capability

def rank : Capability → Nat
  | .instructionWalker => 0
  | .dataWalker => 1
  | .interruptController => 2

theorem rank_inj {left right : Capability} : left.rank = right.rank ↔ left = right := by
  cases left <;> cases right <;> simp [rank]

def ordered (capabilities : List Capability) : List Capability :=
  (capabilities.mergeSort (rank · ≤ rank ·)).destutter (· ≠ ·)

/-- The place of the wanted capability, if it is one of the `size` that start at `base`. -/
def place (listed : List Capability) (wanted : Capability) (base size : Nat) : Nat :=
  if size ≤ 1 then base
  else
    let middle := base + size / 2
    let next := if listed[middle]?.any (wanted.rank < rank ·) then base else middle
    place listed wanted next (size - size / 2)
termination_by size

def foundIn (wanted : Capability) (listed : List Capability) : Bool :=
  listed[place listed wanted 0 listed.length]? == some wanted

/-! ## What is kept -/

theorem mem_destutter'_iff {wanted first : Capability} {rest : List Capability} :
    wanted ∈ rest.destutter' (· ≠ ·) first ↔ wanted ∈ first :: rest := by
  induction rest generalizing first with
  | nil => simp
  | cons second rest induction =>
      by_cases same : first = second
      · subst same
        simp [induction]
      · simp [same, induction]

theorem mem_ordered_iff {wanted : Capability} {capabilities : List Capability} :
    wanted ∈ ordered capabilities ↔ wanted ∈ capabilities := by
  have sorted : wanted ∈ capabilities.mergeSort (rank · ≤ rank ·) ↔ wanted ∈ capabilities :=
    List.mem_mergeSort
  rw [← sorted, ordered]
  cases capabilities.mergeSort (rank · ≤ rank ·) with
  | nil => rfl
  | cons first rest => exact mem_destutter'_iff

theorem pairwise_ordered (capabilities : List Capability) :
    (ordered capabilities).Pairwise (rank · ≤ rank ·) := by
  have sorted : (capabilities.mergeSort (rank · ≤ rank ·)).Pairwise
      (decide <| rank · ≤ rank ·) :=
    List.pairwise_mergeSort (by simpa using fun _ _ _ => Nat.le_trans)
      (by simpa using fun _ _ => Nat.le_total _ _) capabilities
  exact (sorted.imp of_decide_eq_true).sublist (List.destutter_sublist _ _)

/-! ## What is found -/

section Search

variable {listed : List Capability} {wanted : Capability}

theorem rank_le_of_le (sorted : listed.Pairwise (rank · ≤ rank ·)) {left right : Nat}
    {lower upper : Capability} (atLeft : listed[left]? = some lower)
    (atRight : listed[right]? = some upper) (notAfter : left ≤ right) :
    lower.rank ≤ upper.rank := by
  rcases List.getElem?_eq_some_iff.mp atLeft with ⟨leftInside, rfl⟩
  rcases List.getElem?_eq_some_iff.mp atRight with ⟨rightInside, rfl⟩
  rcases Nat.lt_or_eq_of_le notAfter with before | rfl
  · exact List.pairwise_iff_getElem.mp sorted left right leftInside rightInside before
  · exact Nat.le_refl _

/-- In a list in order, the search keeps the wanted capability within its bounds. -/
theorem getElem?_place (sorted : listed.Pairwise (rank · ≤ rank ·)) {base size : Nat}
    (fits : base + size ≤ listed.length)
    (within : ∃ index, listed[index]? = some wanted ∧ base ≤ index ∧ index < base + size) :
    listed[place listed wanted base size]? = some wanted := by
  fun_induction place listed wanted base size with
  | case1 base size alone =>
      rcases within with ⟨index, found, above, below⟩
      obtain rfl : index = base := by omega
      exact found
  | case2 base size several middle next induction =>
      rcases within with ⟨index, found, above, below⟩
      have inside : middle < listed.length := by omega
      have atMiddle : listed[middle]? = some listed[middle] := List.getElem?_eq_getElem inside
      by_cases early : wanted.rank < listed[middle].rank
      · have kept : next = base := by simp [next, atMiddle, early]
        have before : index < middle := by
          by_contra after
          have := rank_le_of_le sorted atMiddle found (Nat.le_of_not_lt after)
          omega
        apply induction
        · omega
        · exact ⟨index, found, by omega, by omega⟩
      · have moved : next = middle := by simp [next, atMiddle, early]
        apply induction
        · omega
        · by_cases before : index < middle
          · -- The one in the middle is no later than the wanted one, which stands before it.
            have rankLe := rank_le_of_le sorted found atMiddle (Nat.le_of_lt before)
            have same : listed[middle] = wanted := rank_inj.mp (by omega)
            exact ⟨middle, by rw [atMiddle, same], by omega, by omega⟩
          · exact ⟨index, found, by omega, by omega⟩

end Search

theorem foundIn_ordered (wanted : Capability) (capabilities : List Capability) :
    wanted.foundIn (ordered capabilities) = capabilities.contains wanted := by
  rw [Bool.eq_iff_iff, foundIn, beq_iff_eq, List.contains_iff_mem, ← mem_ordered_iff]
  constructor
  · exact List.mem_of_getElem?
  · intro listed
    rcases List.getElem?_of_mem listed with ⟨index, found⟩
    have inside : index < (ordered capabilities).length := (List.getElem?_eq_some_iff.mp found).1
    exact getElem?_place (pairwise_ordered capabilities) (by omega)
      ⟨index, found, Nat.zero_le index, by omega⟩

end Capability

theorem CoreModel.supports_eq_foundIn (model : CoreModel) (capability : Capability) :
    model.supports capability = capability.foundIn (Capability.ordered model.capabilities) :=
  (Capability.foundIn_ordered capability model.capabilities).symm

end MemoryFabric
