import MemoryFabric.Proofs.Text.Blank
import MemoryFabric.Proofs.Text.Numeral
import MemoryFabric.Quantity.Read

/-! Sizes as texts. A grammar says which texts state a size, and which one: exactly these
are read, as exactly this size. -/

namespace MemoryFabric.ByteSize

open Text

variable {inner : List Char} {value : Nat}

def unitSpellings : List (String × Nat) :=
  [("", 0), ("B", 0),
    ("K", 10), ("k", 10), ("KB", 10), ("kB", 10), ("KiB", 10),
    ("M", 20), ("MB", 20), ("MiB", 20),
    ("G", 30), ("GB", 30), ("GiB", 30),
    ("T", 40), ("TB", 40), ("TiB", 40)]

/-- A text without blanks around it spells a number of bytes: in hexadecimal after a mark,
where a plus sign may precede the digits, or as a decimal number of units. Underscores may
stand anywhere after the mark, and anywhere in the decimal number. -/
inductive Spells : List Char → Nat → Prop where
  | hexadecimal {mark : Char} {written digits : List Char} {value : Nat}
      (marked : mark = 'x' ∨ mark = 'X')
      (signed : written.filter (· != '_') = digits ∨ written.filter (· != '_') = '+' :: digits)
      (numeral : Numeral 16 digits value) (fits : value < 2 ^ 64) :
      Spells ('0' :: mark :: written) value
  | decimal {count blanks : List Char} {unit : String} {number power : Nat}
      (numeral : Numeral 10 (count.filter (· != '_')) number) (blank : AllBlank blanks)
      (listed : (unit, power) ∈ unitSpellings) (fits : number * 2 ^ power < 2 ^ 64) :
      Spells (count ++ blanks ++ unit.toList) (number * 2 ^ power)

def States (text : String) (value : Nat) : Prop :=
  ∃ inner, Strips text.toList inner ∧ Spells inner value

theorem Spells.lt (spells : Spells inner value) : value < 2 ^ 64 := by
  cases spells <;> assumption

/-! ## The parts of a text -/

theorem listed_of_unitPower? {unit : List Char} {power : Nat}
    (known : unitPower? unit = some power) : (String.ofList unit, power) ∈ unitSpellings := by
  rw [unitPower?] at known
  generalize String.ofList unit = spelling at known ⊢
  split at known <;> cases known <;> decide

theorem unitPower?_of_listed :
    ∀ entry ∈ unitSpellings, unitPower? entry.1.toList = some entry.2 := by
  decide

theorem unit_characters : ∀ entry ∈ unitSpellings, ∀ character ∈ entry.1.toList,
    isBlank character = false ∧ isCountCharacter character = false ∧
      character ≠ 'x' ∧ character ≠ 'X' := by
  have checked : (unitSpellings.all fun entry => entry.1.toList.all fun character =>
      isBlank character = false ∧ isCountCharacter character = false ∧
        character ≠ 'x' ∧ character ≠ 'X') = true := by decide
  simpa only [List.all_eq_true, decide_eq_true_eq] using checked

theorem afterHexMark?_eq_some_iff (text written : List Char) :
    afterHexMark? text = some written ↔
      ∃ mark, (mark = 'x' ∨ mark = 'X') ∧ text = '0' :: mark :: written := by
  constructor
  · intro marked
    rw [afterHexMark?.eq_def] at marked
    split at marked
    case h_1 => exact ⟨'x', Or.inl rfl, by rw [Option.some.inj marked]⟩
    case h_2 => exact ⟨'X', Or.inr rfl, by rw [Option.some.inj marked]⟩
    case h_3 => cases marked
  · rintro ⟨mark, rfl | rfl, rfl⟩ <;> rfl

/-- A plus sign is no digit, so that it is clear whether one precedes the digits. -/
theorem readHex?_eq_some_iff (signed : List Char) (word : UInt64) :
    readHex? signed = some word ↔
      ∃ digits, (signed = digits ∨ signed = '+' :: digits) ∧ Numeral 16 digits word.toNat := by
  rw [readHex?.eq_def]
  split
  case h_1 digits =>
    rw [readWord_eq_some_iff (by decide)]
    constructor
    · intro numeral
      exact ⟨digits, Or.inr rfl, numeral⟩
    · rintro ⟨others, rfl | same, numeral⟩
      · rcases numeral.exists_isDigit '+' List.mem_cons_self with ⟨digit, isDigit⟩
        exact absurd rfl (isDigit.plain (by decide)).2.2
      · cases same
        exact numeral
  case h_2 unsigned =>
    rw [readWord_eq_some_iff (by decide)]
    constructor
    · intro numeral
      exact ⟨signed, Or.inl rfl, numeral⟩
    · rintro ⟨digits, rfl | rfl, numeral⟩
      · exact numeral
      · exact absurd rfl (unsigned digits)

theorem scaled?_eq_some_iff (count : UInt64) (power : Nat) (size : ByteSize) :
    scaled? count power = some size ↔ count.toNat * 2 ^ power = size.bytes.toNat := by
  rw [scaled?, Nat.shiftLeft_eq]
  split
  case isTrue fits =>
    constructor
    · rintro ⟨⟩
      exact (UInt64.toNat_ofNat_of_lt' fits).symm
    · intro same
      rw [Option.some.injEq, same, UInt64.ofNat_toNat]
  case isFalse beyond =>
    constructor
    · rintro ⟨⟩
    · intro same
      exact absurd (same ▸ size.bytes.toNat_lt) beyond

theorem isCountCharacter_of_numeral {count : List Char} {number : Nat}
    (numeral : Numeral 10 (count.filter (· != '_')) number) :
    ∀ character ∈ count, isCountCharacter character = true := by
  intro character member
  rw [isCountCharacter, Bool.or_eq_true, beq_iff_eq]
  by_cases separator : character = '_'
  · exact Or.inr separator
  · have kept : character ∈ count.filter (· != '_') :=
      List.mem_filter.mpr ⟨member, by simp [separator]⟩
    exact Or.inl (numeral.isDecimalDigit character kept)

theorem not_isCountCharacter_of_isBlank (character : Char) (blank : isBlank character = true) :
    isCountCharacter character = false := by
  rw [isCountCharacter, Bool.or_eq_false_iff, beq_eq_false_iff_ne]
  constructor
  · exact not_isDecimalDigit_of_isBlank character blank
  · rintro rfl
    revert blank
    decide

/-! ## Reading -/

section Decimal

variable {count blanks : List Char} {unit : String} {number power : Nat}

theorem afterHexMark?_of_decimal (numeral : Numeral 10 (count.filter (· != '_')) number)
    (blank : AllBlank blanks) (listed : (unit, power) ∈ unitSpellings) :
    afterHexMark? (count ++ blanks ++ unit.toList) = none := by
  have unmarked : ∀ mark, mark = 'x' ∨ mark = 'X' → mark ∉ count ++ blanks ++ unit.toList := by
    intro mark marked member
    rw [List.mem_append, List.mem_append] at member
    rcases member with (inCount | inBlanks) | inUnit
    · have counted := isCountCharacter_of_numeral numeral mark inCount
      rcases marked with rfl | rfl <;> revert counted <;> decide
    · have blankMark := blank mark inBlanks
      rcases marked with rfl | rfl <;> revert blankMark <;> decide
    · have other := (unit_characters _ listed mark inUnit).2.2
      rcases marked with rfl | rfl
      · exact other.1 rfl
      · exact other.2 rfl
  rw [Option.eq_none_iff_forall_ne_some]
  intro written found
  rcases (afterHexMark?_eq_some_iff _ _).mp found with ⟨mark, marked, same⟩
  apply unmarked mark marked
  rw [same]
  exact List.mem_cons_of_mem _ List.mem_cons_self

theorem readTrimmed?_decimal (numeral : Numeral 10 (count.filter (· != '_')) number)
    (blank : AllBlank blanks) (listed : (unit, power) ∈ unitSpellings) :
    readTrimmed? (count ++ blanks ++ unit.toList) =
      (readWord 10 (count.filter (· != '_'))).bind (scaled? · power) := by
  have all := isCountCharacter_of_numeral numeral
  have letters := unit_characters _ listed
  have ends : ∀ character, unit.toList.head? = some character →
      isCountCharacter character = false := fun character first =>
    (letters character (List.mem_of_head? first)).2.1
  have stops := stops_of_blanks not_isCountCharacter_of_isBlank blank ends
  have strips : Strips (blanks ++ unit.toList) unit.toList :=
    ⟨trimmed_of_no_blank fun character member => (letters character member).1,
      blanks, [], blank, by decide, (List.append_nil _).symm⟩
  rw [readTrimmed?, afterHexMark?_of_decimal numeral blank listed, List.append_assoc,
    takeWhile_run all stops, dropWhile_run all stops, trim_of_strips strips,
    unitPower?_of_listed _ listed]
  rfl

end Decimal

theorem spells_of_readTrimmed? {size : ByteSize} (trimmed : Trimmed inner)
    (read : readTrimmed? inner = some size) : Spells inner size.bytes.toNat := by
  rw [readTrimmed?] at read
  split at read
  case h_1 written marked =>
    rcases (afterHexMark?_eq_some_iff _ _).mp marked with ⟨mark, isMark, rfl⟩
    rcases Option.map_eq_some_iff.mp read with ⟨word, readWord, rfl⟩
    rcases (readHex?_eq_some_iff _ _).mp readWord with ⟨digits, signed, numeral⟩
    exact .hexadecimal isMark signed numeral word.toNat_lt
  case h_2 =>
    simp only [Option.bind_eq_bind, Option.bind_eq_some_iff] at read
    rcases read with ⟨count, readCount, power, known, scaled⟩
    rcases trimmed.exists_blanks isCountCharacter with ⟨blanks, blank, split⟩
    have numeral := (readWord_eq_some_iff (by decide) count).mp readCount
    have total := (scaled?_eq_some_iff _ _ _).mp scaled
    have spells := Spells.decimal numeral blank (listed_of_unitPower? known)
      (total ▸ size.bytes.toNat_lt)
    rwa [String.toList_ofList, ← split, total] at spells

theorem readTrimmed?_of_spells {size : ByteSize} (spells : Spells inner size.bytes.toNat) :
    readTrimmed? inner = some size := by
  generalize same : size.bytes.toNat = value at spells
  cases spells with
  | hexadecimal marked signed numeral fits =>
      rw [readTrimmed?, (afterHexMark?_eq_some_iff _ _).mpr ⟨_, marked, rfl⟩]
      subst same
      have read := (readHex?_eq_some_iff _ _).mpr ⟨_, signed, numeral⟩
      exact Option.map_eq_some_iff.mpr ⟨_, read, rfl⟩
  | @decimal count blanks unit number power numeral blank listed fits =>
      have small : number < 2 ^ 64 :=
        Nat.lt_of_le_of_lt (Nat.le_mul_of_pos_right _ (Nat.two_pow_pos power)) fits
      rw [readTrimmed?_decimal numeral blank listed, numeral.readWord_eq (by decide),
        if_pos small, Option.bind_some, scaled?_eq_some_iff, UInt64.toNat_ofNat_of_lt' small, same]

theorem ofText?_eq_some_iff (text : String) (size : ByteSize) :
    ofText? text = some size ↔ States text size.bytes.toNat := by
  simp only [ofText?, States, strips_iff]
  constructor
  · intro read
    exact ⟨_, rfl, spells_of_readTrimmed? (trimmed_trim _) read⟩
  · rintro ⟨inner, rfl, spells⟩
    exact readTrimmed?_of_spells spells

theorem read_eq_ok_iff (text : String) (size : ByteSize) :
    read text = .ok size ↔ States text size.bytes.toNat := by
  rw [← ofText?_eq_some_iff, read]
  cases ofText? text <;> simp

theorem read_eq_error_iff (text : String) (fault : Fault) :
    read text = .error fault ↔
      fault = .unreadableQuantity text ∧ ∀ value, ¬ States text value := by
  have unstated : ofText? text = none ↔ ∀ value, ¬ States text value := by
    rw [Option.eq_none_iff_forall_ne_some]
    constructor
    · intro unread value states
      have fits : value < UInt64.size := by
        rcases states with ⟨inner, -, spells⟩
        exact spells.lt
      apply unread ⟨UInt64.ofNat value⟩
      rw [ofText?_eq_some_iff, UInt64.toNat_ofNat_of_lt' fits]
      exact states
    · intro unstated size read
      exact unstated _ ((ofText?_eq_some_iff text size).mp read)
  rw [← unstated, read]
  cases ofText? text <;> simp [eq_comm]

/-- A text is read as a size exactly if it states this size, and a text that states none is
refused, as it was given. -/
theorem sizes_read_by_grammar (text : String) :
    (∀ size : ByteSize, read text = .ok size ↔ States text size.bytes.toNat) ∧
      ∀ fault, read text = .error fault ↔
        fault = .unreadableQuantity text ∧ ∀ value, ¬ States text value :=
  ⟨read_eq_ok_iff text, read_eq_error_iff text⟩

end MemoryFabric.ByteSize
