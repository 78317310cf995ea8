import Mathlib.Data.List.Forall2
import Mathlib.Data.Nat.Digits.Defs
import Mathlib.Tactic.IntervalCases
import MemoryFabric.Proofs.Text.Blank
import MemoryFabric.Text.Numeral

/-! Numerals by their digits. A numeral is read as the number that its digits make in
their positions, and a number is written as a numeral that is read as this number. -/

namespace MemoryFabric.Text

variable {radix value digit start : Nat} {character : Char} {text : List Char}

def IsDigit (radix : Nat) (character : Char) (digit : Nat) : Prop :=
  digit < radix ∧ (character = digit.digitChar ∨ character = digit.digitChar.toUpper)

/-- The text is one digit or more, and the value is what the digits make in their
positions, the last of them in the place of ones. -/
def Numeral (radix : Nat) (text : List Char) (value : Nat) : Prop :=
  text ≠ [] ∧ ∃ digits, List.Forall₂ (IsDigit radix) text digits ∧
    Nat.ofDigits radix digits.reverse = value

/-! ## Digits -/

theorem toNat_digitChar_letter :
    ∀ letter < 6, (10 + letter).digitChar.toNat = 97 + letter := by
  decide

theorem toNat_toUpper_digitChar_letter :
    ∀ letter < 6, (10 + letter).digitChar.toUpper.toNat = 65 + letter := by
  decide

theorem digitValue?_of_isDigit (small : radix ≤ 16) (isDigit : IsDigit radix character digit) :
    digitValue? radix character = some digit := by
  rcases isDigit with ⟨inside, written⟩
  have below : digit < 16 := Nat.lt_of_lt_of_le inside small
  have read : digitValue? 16 character = some digit := by
    rcases written with rfl | rfl <;> interval_cases digit <;> decide
  simp only [digitValue?, Option.filter_eq_some_iff, decide_eq_true_eq] at read ⊢
  exact ⟨read.1, inside⟩

theorem isDigit_of_digitValue? (read : digitValue? radix character = some digit) :
    IsDigit radix character digit := by
  simp only [digitValue?, Option.filter_eq_some_iff, decide_eq_true_eq, Bool.and_eq_true] at read
  rcases read with ⟨ranged, inside⟩
  refine ⟨inside, ?_⟩
  split at ranged
  case isTrue decimal =>
    cases ranged
    apply Or.inl
    apply Char.toNat_inj.mp
    rw [Nat.toNat_digitChar_of_lt_ten (by omega)]
    omega
  case isFalse =>
    split at ranged
    case isTrue lower =>
      cases ranged
      apply Or.inl
      apply Char.toNat_inj.mp
      have letter := toNat_digitChar_letter (character.toNat - 97) (by omega)
      rw [show character.toNat - 87 = 10 + (character.toNat - 97) by omega, letter]
      omega
    case isFalse =>
      split at ranged
      case isTrue upper =>
        cases ranged
        apply Or.inr
        apply Char.toNat_inj.mp
        have letter := toNat_toUpper_digitChar_letter (character.toNat - 65) (by omega)
        rw [show character.toNat - 55 = 10 + (character.toNat - 65) by omega, letter]
        omega
      case isFalse => cases ranged

theorem digitValue?_eq_some_iff (small : radix ≤ 16) :
    digitValue? radix character = some digit ↔ IsDigit radix character digit :=
  ⟨isDigit_of_digitValue?, digitValue?_of_isDigit small⟩

theorem isDecimalDigit_iff (character : Char) :
    isDecimalDigit character = true ↔ ∃ digit, IsDigit 10 character digit := by
  rw [isDecimalDigit, Option.isSome_iff_exists]
  exact exists_congr fun digit => digitValue?_eq_some_iff (by decide)

theorem IsDigit.plain (isDigit : IsDigit radix character digit) (small : radix ≤ 16) :
    isBlank character = false ∧ character ≠ '_' ∧ character ≠ '+' := by
  rcases isDigit with ⟨inside, written⟩
  have below : digit < 16 := Nat.lt_of_lt_of_le inside small
  rcases written with rfl | rfl <;> interval_cases digit <;> decide

theorem not_isDecimalDigit_of_isBlank (character : Char) (blank : isBlank character = true) :
    isDecimalDigit character = false := by
  rw [← Bool.not_eq_true, isDecimalDigit_iff]
  rintro ⟨digit, isDigit⟩
  rw [(isDigit.plain (by decide)).1] at blank
  cases blank

theorem isDigit_digitChar (inside : digit < radix) : IsDigit radix digit.digitChar digit :=
  ⟨inside, Or.inl rfl⟩

/-! ## What is read -/

theorem readDigits_eq_some_iff (small : radix ≤ 16) :
    readDigits radix start text = some value ↔
      ∃ digits, List.Forall₂ (IsDigit radix) text digits ∧
        start * radix ^ digits.length + Nat.ofDigits radix digits.reverse = value := by
  induction text generalizing start with
  | nil =>
      simp only [readDigits, List.forall₂_nil_left_iff, exists_eq_left, List.length_nil,
        List.reverse_nil, Nat.ofDigits_nil, Nat.pow_zero, Nat.mul_one, Nat.add_zero,
        Option.some.injEq]
  | cons character rest induction =>
      have shifted : ∀ (digit : Nat) (digits : List Nat),
          (start * radix + digit) * radix ^ digits.length + Nat.ofDigits radix digits.reverse =
            start * radix ^ (digit :: digits).length +
              Nat.ofDigits radix (digit :: digits).reverse := by
        intro digit digits
        rw [Nat.ofDigits_reverse_cons, List.length_cons]
        ring
      simp only [readDigits, Option.bind_eq_bind, Option.bind_eq_some_iff, induction,
        digitValue?_eq_some_iff small]
      constructor
      · rintro ⟨digit, isDigit, digits, isDigits, total⟩
        refine ⟨digit :: digits, .cons isDigit isDigits, ?_⟩
        rw [← shifted, total]
      · rintro ⟨digits, isDigits, total⟩
        cases isDigits with
        | @cons _ digit _ others isDigit isOthers =>
            refine ⟨digit, isDigit, others, isOthers, ?_⟩
            rw [shifted, total]

theorem readNatural_eq_some_iff (small : radix ≤ 16) :
    readNatural radix text = some value ↔ Numeral radix text value := by
  rw [readNatural, Numeral]
  cases text with
  | nil => simp
  | cons first rest => simp [readDigits_eq_some_iff small]

/-- A word is read where the value of the numeral is one, and not a value cut to a word. -/
theorem readWord_eq_some_iff (small : radix ≤ 16) (word : UInt64) :
    readWord radix text = some word ↔ Numeral radix text word.toNat := by
  simp only [readWord, Option.bind_eq_bind, Option.bind_eq_some_iff,
    readNatural_eq_some_iff small]
  constructor
  · rintro ⟨value, numeral, read⟩
    split at read
    case isTrue fits =>
      cases read
      rwa [UInt64.toNat_ofNat_of_lt' fits]
    case isFalse => cases read
  · intro numeral
    refine ⟨word.toNat, numeral, ?_⟩
    rw [if_pos word.toNat_lt, UInt64.ofNat_toNat]

theorem Numeral.readWord_eq (numeral : Numeral radix text value) (small : radix ≤ 16) :
    readWord radix text = if value < 2 ^ 64 then some (UInt64.ofNat value) else none := by
  rw [readWord, (readNatural_eq_some_iff small).mpr numeral]
  rfl

/-! ## What is written -/

theorem Numeral.exists_isDigit (numeral : Numeral radix text value) :
    ∀ character ∈ text, ∃ digit, IsDigit radix character digit := by
  rcases numeral with ⟨-, digits, isDigits, -⟩
  induction isDigits with
  | nil => simp
  | cons isDigit _ induction =>
      intro character member
      rcases List.mem_cons.mp member with rfl | later
      · exact ⟨_, isDigit⟩
      · exact induction character later

theorem Numeral.isDecimalDigit (numeral : Numeral 10 text value) :
    ∀ character ∈ text, isDecimalDigit character = true := fun character member =>
  (isDecimalDigit_iff character).mpr (numeral.exists_isDigit character member)

theorem numeral_singleton (isDigit : IsDigit radix character digit) :
    Numeral radix [character] digit := by
  refine ⟨List.cons_ne_nil _ _, [digit], .cons isDigit .nil, ?_⟩
  rw [List.reverse_singleton, Nat.ofDigits_singleton]

theorem Numeral.append (numeral : Numeral radix text value)
    (isDigit : IsDigit radix character digit) :
    Numeral radix (text ++ [character]) (radix * value + digit) := by
  rcases numeral with ⟨-, digits, isDigits, rfl⟩
  refine ⟨by simp, digits ++ [digit], List.rel_append isDigits (.cons isDigit .nil), ?_⟩
  rw [List.reverse_append, List.reverse_singleton, List.singleton_append, Nat.ofDigits_cons]
  exact Nat.add_comm _ _

theorem numeral_toDigits (proper : 1 < radix) (value : Nat) :
    Numeral radix (Nat.toDigits radix value) value := by
  induction value using Nat.strong_induction_on with
  | _ value induction =>
      rw [Nat.toDigits_eq_if proper]
      split
      case isTrue inside => exact numeral_singleton (isDigit_digitChar inside)
      case isFalse beyond =>
        have smaller : value / radix < value := Nat.div_lt_self (by omega) proper
        have last := isDigit_digitChar (Nat.mod_lt value (by omega : 0 < radix))
        have appended := (induction (value / radix) smaller).append last
        rwa [Nat.div_add_mod] at appended

theorem readNatural_toDigits (number : Nat) :
    readNatural 10 (Nat.toDigits 10 number) = some number :=
  (readNatural_eq_some_iff (by decide)).mpr (numeral_toDigits (by decide) number)

theorem toString_injective : Function.Injective (toString : Nat → String) := by
  intro first second same
  rw [Nat.toString_eq_ofList_toDigits, Nat.toString_eq_ofList_toDigits, String.ofList_inj] at same
  have read := readNatural_toDigits first
  rw [same, readNatural_toDigits] at read
  exact (Option.some.inj read).symm

theorem toString_append (number : Nat) (unit : String) :
    toString number ++ unit = String.ofList (Nat.toDigits 10 number ++ unit.toList) := by
  rw [Nat.toString_eq_ofList_toDigits, String.ofList_append, String.ofList_toList]

/-- A number is told from what is written behind it, where that begins with no digit. -/
theorem toString_append_inj {first second : Nat} {rest other : String}
    (stops : ∀ character, rest.toList.head? = some character → isDecimalDigit character = false)
    (otherStops : ∀ character, other.toList.head? = some character →
      isDecimalDigit character = false)
    (same : toString first ++ rest = toString second ++ other) : first = second ∧ rest = other := by
  have digits := fun number =>
    (numeral_toDigits (by decide) number : Numeral 10 _ number).isDecimalDigit
  rw [toString_append, toString_append, String.ofList_inj] at same
  have sameDigits := congrArg (List.takeWhile isDecimalDigit) same
  have sameRest := congrArg (List.dropWhile isDecimalDigit) same
  rw [takeWhile_run (digits first) stops, takeWhile_run (digits second) otherStops] at sameDigits
  rw [dropWhile_run (digits first) stops, dropWhile_run (digits second) otherStops,
    String.toList_inj] at sameRest
  refine ⟨toString_injective ?_, sameRest⟩
  rw [Nat.toString_eq_ofList_toDigits, Nat.toString_eq_ofList_toDigits, sameDigits]

end MemoryFabric.Text
