import MemoryFabric.Proofs.Quantity.SizeText

/-! Sizes and addresses that were written are read back: as they are shown, as plain numbers
and as addresses, the last two also with underscores among the digits and blanks around. -/

namespace MemoryFabric.ByteSize

open Text

variable {digits written before after inner : List Char} {character : Char}

inductive Separated : List Char → List Char → Prop where
  | nil : Separated [] []
  | digit (character : Char) {digits written : List Char} (rest : Separated digits written) :
      Separated (character :: digits) (character :: written)
  | separator {digits written : List Char} (rest : Separated digits written) :
      Separated digits ('_' :: written)

namespace Separated

theorem refl (digits : List Char) : Separated digits digits := by
  induction digits with
  | nil => exact .nil
  | cons first rest induction => exact .digit first induction

theorem filter_eq (separated : Separated digits written)
    (plain : ∀ character ∈ digits, character ≠ '_') : written.filter (· != '_') = digits := by
  induction separated with
  | nil => rfl
  | digit first rest induction =>
      have kept : (first != '_') = true := bne_iff_ne.mpr (plain first List.mem_cons_self)
      rw [List.filter_cons, if_pos kept]
      rw [induction fun character member => plain character (List.mem_cons_of_mem first member)]
  | separator rest induction =>
      rw [List.filter_cons, if_neg (by decide)]
      exact induction plain

theorem digit_or_separator (separated : Separated digits written) :
    ∀ character ∈ written, character ∈ digits ∨ character = '_' := by
  induction separated with
  | nil => simp
  | digit first rest induction =>
      intro character member
      rcases List.mem_cons.mp member with rfl | later
      · exact Or.inl List.mem_cons_self
      · exact (induction character later).imp_left (List.mem_cons_of_mem first)
  | separator rest induction =>
      intro character member
      rcases List.mem_cons.mp member with rfl | later
      · exact Or.inr rfl
      · exact induction character later

end Separated

/-! ## Texts with numerals -/

theorem states_of_spells {value : Nat} (spells : Spells inner value)
    (solid : ∀ character ∈ inner, isBlank character = false)
    (blankBefore : AllBlank before) (blankAfter : AllBlank after) :
    States (String.ofList (before ++ inner ++ after)) value := by
  refine ⟨inner, ⟨trimmed_of_no_blank solid, before, after, blankBefore, blankAfter, ?_⟩, spells⟩
  exact String.toList_ofList

/-- Underscores among the digits of a numeral leave the numeral when they are dropped, and
bring no blanks into the text. -/
theorem Separated.numeral {radix number : Nat} (separated : Separated digits written)
    (numeral : Numeral radix digits number) (small : radix ≤ 16) :
    Numeral radix (written.filter (· != '_')) number ∧
      ∀ character ∈ written, isBlank character = false := by
  have plain : ∀ character ∈ digits, isBlank character = false ∧ character ≠ '_' := by
    intro character member
    rcases numeral.exists_isDigit character member with ⟨digit, isDigit⟩
    have parts := isDigit.plain small
    exact ⟨parts.1, parts.2.1⟩
  constructor
  · rw [separated.filter_eq fun character member => (plain character member).2]
    exact numeral
  · intro character member
    rcases separated.digit_or_separator character member with inDigits | rfl
    · exact (plain character inDigits).1
    · decide

theorem read_of_decimal {size : ByteSize} {number power : Nat} {unit : String}
    (listed : (unit, power) ∈ unitSpellings) (total : number * 2 ^ power = size.bytes.toNat)
    (separated : Separated (Nat.toDigits 10 number) written)
    (blankBefore : AllBlank before) (blankAfter : AllBlank after) :
    read (String.ofList (before ++ (written ++ unit.toList) ++ after)) = .ok size := by
  have numeral := separated.numeral (numeral_toDigits (by decide) number) (by decide)
  have fits : number * 2 ^ power < 2 ^ 64 := total ▸ size.bytes.toNat_lt
  have spells : Spells (written ++ [] ++ unit.toList) (number * 2 ^ power) :=
    .decimal numeral.1 (by decide) listed fits
  rw [List.append_nil, total] at spells
  rw [read_eq_ok_iff]
  apply states_of_spells spells _ blankBefore blankAfter
  intro character member
  rcases List.mem_append.mp member with inNumber | inUnit
  · exact numeral.2 character inNumber
  · exact (unit_characters _ listed character inUnit).1

theorem read_of_count (size : ByteSize)
    (separated : Separated (Nat.toDigits 10 size.bytes.toNat) written)
    (blankBefore : AllBlank before) (blankAfter : AllBlank after) :
    read (String.ofList (before ++ written ++ after)) = .ok size := by
  have bytes : ("", 0) ∈ unitSpellings := by decide
  have read := read_of_decimal bytes (Nat.mul_one _) separated blankBefore blankAfter
  rwa [String.toList_empty, List.append_nil] at read

theorem read_of_hexadecimal (size : ByteSize)
    (separated : Separated (Nat.toDigits 16 size.bytes.toNat) written)
    (blankBefore : AllBlank before) (blankAfter : AllBlank after) :
    read (String.ofList (before ++ '0' :: 'x' :: written ++ after)) = .ok size := by
  have numeral := separated.numeral (numeral_toDigits (by decide) size.bytes.toNat) (by decide)
  have spells : Spells ('0' :: 'x' :: written) size.bytes.toNat :=
    .hexadecimal (Or.inl rfl) (Or.inl rfl) numeral.1 size.bytes.toNat_lt
  rw [read_eq_ok_iff]
  apply states_of_spells spells _ blankBefore blankAfter
  intro character member
  rcases List.mem_cons.mp member with rfl | later
  · decide
  · rcases List.mem_cons.mp later with rfl | inDigits
    · decide
    · exact numeral.2 character inDigits

/-! ## What is written -/

theorem toString_word (count : UInt64) :
    toString count = String.ofList (Nat.toDigits 10 count.toNat) :=
  Nat.toString_eq_ofList_toDigits

theorem address_eq (count : UInt64) :
    address count = String.ofList ('0' :: 'x' :: Nat.toDigits 16 count.toNat) := by
  have mark : "0x" = String.ofList ['0', 'x'] := rfl
  rw [address, hexadecimal, hexDigits, mark, ← String.ofList_append]
  rfl

theorem listed_of_shown : ∀ entry ∈ shownUnits, entry ∈ unitSpellings := by
  decide

theorem exists_shown (size : ByteSize) :
    ∃ number unit power, (unit, power) ∈ unitSpellings ∧
      number * 2 ^ power = size.bytes.toNat ∧
        toString size = String.ofList (Nat.toDigits 10 number ++ unit.toList) := by
  change ∃ number unit power, _ ∧ _ ∧ ByteSize.toString size = _
  rw [ByteSize.toString]
  split
  case h_1 unit power found =>
    have whole := List.find?_some found
    simp only [Bool.and_eq_true, decide_eq_true_eq, Nat.one_shiftLeft] at whole
    refine ⟨size.bytes.toNat >>> power, unit, power, ?_, ?_, toString_append _ unit⟩
    · exact listed_of_shown _ (List.mem_of_find?_eq_some found)
    · rw [Nat.shiftRight_eq_div_pow]
      exact Nat.div_mul_cancel (Nat.dvd_of_mod_eq_zero whole.2)
  case h_2 =>
    exact ⟨size.bytes.toNat, "B", 0, by decide, Nat.mul_one _, toString_append _ "B"⟩

/-- Whatever number of bytes it is, it is read back from the text in which it is shown, as
a plain number and as an address; and the last two with any underscores after the mark and
any blanks around them. -/
theorem written_sizes_read_back (count : UInt64) :
    read (toString (ByteSize.mk count)) = .ok ⟨count⟩ ∧
      read (toString count) = .ok ⟨count⟩ ∧ read (address count) = .ok ⟨count⟩ ∧
        ∀ before after written : List Char, AllBlank before → AllBlank after →
          (Separated (toString count).toList written →
            read (String.ofList (before ++ written ++ after)) = .ok ⟨count⟩) ∧
          (Separated (hexDigits count.toNat).toList written →
            read (String.ofList (before ++ '0' :: 'x' :: written ++ after)) = .ok ⟨count⟩) := by
  have nothing : AllBlank [] := by decide
  refine ⟨?_, ?_, ?_, fun before after written blankBefore blankAfter => ⟨?_, ?_⟩⟩
  · rcases exists_shown ⟨count⟩ with ⟨number, unit, power, listed, total, shown⟩
    have shownRead := read_of_decimal listed total (.refl _) nothing nothing
    rwa [List.nil_append, List.append_nil, ← shown] at shownRead
  · have plainRead := read_of_count ⟨count⟩ (.refl _) nothing nothing
    rwa [List.nil_append, List.append_nil, ← toString_word] at plainRead
  · have addressRead := read_of_hexadecimal ⟨count⟩ (.refl _) nothing nothing
    rwa [List.nil_append, List.append_nil, ← address_eq] at addressRead
  · intro separated
    rw [toString_word, String.toList_ofList] at separated
    exact read_of_count ⟨count⟩ separated blankBefore blankAfter
  · intro separated
    rw [hexDigits, String.toList_ofList] at separated
    exact read_of_hexadecimal ⟨count⟩ separated blankBefore blankAfter

/-- An address and its number, with underscores where they are usual and where they are
not. -/
theorem written_sizes_read_back_spaced :
    AllBlank ['\u3000', ' '] ∧ AllBlank ['\t'] ∧
      Separated (toString (0x10040 : UInt64)).toList "65_600_".toList ∧
        Separated (hexDigits (0x10040 : UInt64).toNat).toList "_1__0040".toList ∧
          read "\u3000 65_600_\t" = .ok ⟨0x10040⟩ ∧
            read "\u3000 0x_1__0040\t" = .ok ⟨0x10040⟩ := by
  have blankBefore : AllBlank ['\u3000', ' '] := by decide
  have blankAfter : AllBlank ['\t'] := by decide
  have decimal : Separated (toString (0x10040 : UInt64)).toList "65_600_".toList :=
    .digit _ (.digit _ (.separator (.digit _ (.digit _ (.digit _ (.separator .nil))))))
  have hexadecimal : Separated (hexDigits (0x10040 : UInt64).toNat).toList "_1__0040".toList :=
    .separator (.digit _ (.separator (.separator
      (.digit _ (.digit _ (.digit _ (.digit _ .nil)))))))
  have readBack (written : List Char) :=
    (written_sizes_read_back 0x10040).2.2.2 _ _ written blankBefore blankAfter
  have decimalRead := (readBack _).1 decimal
  have hexadecimalRead := (readBack _).2 hexadecimal
  exact ⟨blankBefore, blankAfter, decimal, hexadecimal, decimalRead, hexadecimalRead⟩

end MemoryFabric.ByteSize
