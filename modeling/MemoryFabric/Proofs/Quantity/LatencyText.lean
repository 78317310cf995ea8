import MemoryFabric.Proofs.Quantity.Latency
import MemoryFabric.Proofs.Text.Blank
import MemoryFabric.Proofs.Text.Numeral
import MemoryFabric.Quantity.Read

/-! Delays as texts. A grammar says which texts state a delay, and how many nanoseconds of
it. Every such delay is read without loss; a delay that is shown is read back unless it has
more nanoseconds than a word can count. -/

namespace MemoryFabric.Latency

open Text

variable {inner : List Char} {total : Nat} {latency : Latency}

def unitSpellings : List (String × Nat) :=
  [("", 1), ("ns", 1), ("us", 10 ^ 3), ("ms", 10 ^ 6), ("s", 10 ^ 9)]

/-- A text without blanks around it spells a number of nanoseconds, as a decimal number of
units that is a word. -/
inductive Spells : List Char → Nat → Prop where
  | counted {count blanks : List Char} {unit : String} {number length : Nat}
      (numeral : Numeral 10 count number) (fits : number < 2 ^ 64) (blank : AllBlank blanks)
      (listed : (unit, length) ∈ unitSpellings) :
      Spells (count ++ blanks ++ unit.toList) (number * length)

def States (text : String) (total : Nat) : Prop :=
  ∃ inner, Strips text.toList inner ∧ Spells inner total

/-! ## Nanoseconds -/

def TimeUnit.nanoseconds (unit : TimeUnit) : Nat :=
  nanosecondsPerSecond / unit.perSecond

/-- A number of units is divided into seconds and a rest, and nothing is rounded. -/
theorem toNanoseconds_ofUnits (count : UInt64) (unit : TimeUnit) :
    (ofUnits count unit).toNanoseconds = count.toNat * unit.nanoseconds := by
  have small := count.toNat_lt
  have seconds : (UInt64.ofNat (count.toNat / unit.perSecond)).toNat =
      count.toNat / unit.perSecond :=
    UInt64.toNat_ofNat_of_lt' (Nat.lt_of_le_of_lt (Nat.div_le_self _ _) small)
  rw [toNanoseconds, ofUnits, seconds]
  cases unit <;>
    simp only [TimeUnit.nanoseconds, TimeUnit.perSecond, nanosecondsPerSecond] <;> omega

theorem listed_of_ofText? {unit : List Char} {timeUnit : TimeUnit}
    (known : TimeUnit.ofText? unit = some timeUnit) :
    (String.ofList unit, timeUnit.nanoseconds) ∈ unitSpellings := by
  rw [TimeUnit.ofText?] at known
  generalize String.ofList unit = spelling at known ⊢
  split at known <;> cases known <;> decide

theorem ofText?_of_listed : ∀ entry ∈ unitSpellings,
    (TimeUnit.ofText? entry.1.toList).map TimeUnit.nanoseconds = some entry.2 := by
  decide

theorem unit_characters : ∀ entry ∈ unitSpellings, ∀ character ∈ entry.1.toList,
    isBlank character = false ∧ isDecimalDigit character = false := by
  have checked : (unitSpellings.all fun entry => entry.1.toList.all fun character =>
      isBlank character = false ∧ isDecimalDigit character = false) = true := by decide
  simpa only [List.all_eq_true, decide_eq_true_eq] using checked

/-! ## Reading -/

theorem toNanoseconds_of_counted {count blanks : List Char} {unit : String} {number length : Nat}
    (numeral : Numeral 10 count number) (blank : AllBlank blanks)
    (listed : (unit, length) ∈ unitSpellings) :
    (readTrimmed? (count ++ blanks ++ unit.toList)).map toNanoseconds =
      if number < 2 ^ 64 then some (number * length) else none := by
  have letters := unit_characters _ listed
  have ends : ∀ character, unit.toList.head? = some character →
      isDecimalDigit character = false := fun character first =>
    (letters character (List.mem_of_head? first)).2
  have stops := stops_of_blanks not_isDecimalDigit_of_isBlank blank ends
  have strips : Strips (blanks ++ unit.toList) unit.toList :=
    ⟨trimmed_of_no_blank fun character member => (letters character member).1,
      blanks, [], blank, by decide, (List.append_nil _).symm⟩
  rcases Option.map_eq_some_iff.mp (ofText?_of_listed _ listed) with ⟨timeUnit, known, rfl⟩
  rw [readTrimmed?, List.append_assoc, takeWhile_run numeral.isDecimalDigit stops,
    dropWhile_run numeral.isDecimalDigit stops, trim_of_strips strips, known,
    numeral.readWord_eq (by decide)]
  by_cases fits : number < 2 ^ 64
  · rw [if_pos fits, if_pos fits]
    change some (ofUnits (UInt64.ofNat number) timeUnit).toNanoseconds = _
    rw [toNanoseconds_ofUnits, UInt64.toNat_ofNat_of_lt' fits]
  · rw [if_neg fits, if_neg fits]
    rfl

theorem spells_of_readTrimmed? (trimmed : Trimmed inner)
    (read : readTrimmed? inner = some latency) : Spells inner latency.toNanoseconds := by
  simp only [readTrimmed?, Option.bind_eq_bind, Option.bind_eq_some_iff] at read
  rcases read with ⟨count, readCount, timeUnit, known, made⟩
  cases made
  rcases trimmed.exists_blanks isDecimalDigit with ⟨blanks, blank, split⟩
  have numeral := (readWord_eq_some_iff (by decide) count).mp readCount
  have spells := Spells.counted numeral count.toNat_lt blank (listed_of_ofText? known)
  rwa [String.toList_ofList, ← split, ← toNanoseconds_ofUnits] at spells

theorem map_readTrimmed?_of_spells (spells : Spells inner total) :
    (readTrimmed? inner).map toNanoseconds = some total := by
  cases spells with
  | counted numeral fits blank listed =>
      rw [toNanoseconds_of_counted numeral blank listed, if_pos fits]

theorem map_ofText?_eq_some_iff (text : String) (total : Nat) :
    (ofText? text).map toNanoseconds = some total ↔ States text total := by
  simp only [ofText?, States, strips_iff]
  constructor
  · intro read
    rcases Option.map_eq_some_iff.mp read with ⟨latency, readLatency, rfl⟩
    exact ⟨_, rfl, spells_of_readTrimmed? (trimmed_trim _) readLatency⟩
  · rintro ⟨inner, rfl, spells⟩
    exact map_readTrimmed?_of_spells spells

theorem ofText?_eq_some_iff (text : String) (latency : Latency) :
    ofText? text = some latency ↔ States text latency.toNanoseconds := by
  rw [← map_ofText?_eq_some_iff, Option.map_eq_some_iff]
  simp only [toNanoseconds_inj, exists_eq_right]

theorem read_eq_ok_iff (text : String) (latency : Latency) :
    read text = .ok latency ↔ States text latency.toNanoseconds := by
  rw [← ofText?_eq_some_iff, read]
  cases ofText? text <;> simp

theorem states_iff_exists_read (text : String) (total : Nat) :
    States text total ↔ ∃ latency, read text = .ok latency ∧ latency.toNanoseconds = total := by
  rw [← map_ofText?_eq_some_iff, Option.map_eq_some_iff]
  simp only [read_eq_ok_iff, ofText?_eq_some_iff]

theorem read_eq_error_iff (text : String) (fault : Fault) :
    read text = .error fault ↔
      fault = .unreadableQuantity text ∧ ∀ total, ¬ States text total := by
  have unstated : ofText? text = none ↔ ∀ total, ¬ States text total := by
    simp only [← map_ofText?_eq_some_iff, ← Option.eq_none_iff_forall_ne_some,
      Option.map_eq_none_iff]
  rw [← unstated, read]
  cases ofText? text <;> simp [eq_comm]

/-! ## Delays as they are shown -/

theorem toString_eq (latency : Latency) :
    toString latency =
      String.ofList (Nat.toDigits 10 latency.toNanoseconds ++ [] ++ "ns".toList) := by
  rw [List.append_nil]
  exact toString_append latency.toNanoseconds "ns"

theorem strips_toString (latency : Latency) :
    Strips (toString latency).toList
      (Nat.toDigits 10 latency.toNanoseconds ++ [] ++ "ns".toList) := by
  refine ⟨trimmed_of_no_blank ?_, [], [], by decide, by decide, ?_⟩
  · intro character member
    rw [List.append_nil, List.mem_append] at member
    rcases member with inCount | inUnit
    · have numeral := numeral_toDigits (by decide : 1 < 10) latency.toNanoseconds
      rcases numeral.exists_isDigit character inCount with ⟨digit, isDigit⟩
      exact (isDigit.plain (by decide)).1
    · exact (unit_characters ("ns", 1) (by decide) character inUnit).1
  · rw [toString_eq, String.toList_ofList, List.nil_append]
    exact (List.append_nil _).symm

/-- The number that is shown counts nanoseconds, and is refused where it is no word. -/
theorem map_ofText?_toString (latency : Latency) :
    (ofText? (toString latency)).map toNanoseconds =
      if latency.toNanoseconds < 2 ^ 64 then some latency.toNanoseconds else none := by
  have numeral := numeral_toDigits (by decide : 1 < 10) latency.toNanoseconds
  have listed : ("ns", 1) ∈ unitSpellings := by decide
  have counted := toNanoseconds_of_counted numeral (by decide : AllBlank []) listed
  rw [Nat.mul_one] at counted
  rw [ofText?, trim_of_strips (strips_toString latency)]
  exact counted

theorem read_toString (latency : Latency) :
    read (toString latency) =
      if latency.toNanoseconds < 2 ^ 64 then .ok latency
      else .error (.unreadableQuantity (toString latency)) := by
  have shown := map_ofText?_toString latency
  split
  case isTrue fits =>
    rw [if_pos fits, map_ofText?_eq_some_iff] at shown
    exact (read_eq_ok_iff _ latency).mpr shown
  case isFalse beyond =>
    rw [if_neg beyond, Option.map_eq_none_iff] at shown
    rw [read, shown]

/-- A text is read as a delay exactly if it states this delay, whatever word the count of
its units is, and a text that states none is refused, as it was given. A delay that is shown
is read back exactly if a word can count its nanoseconds. -/
theorem delays_read_by_grammar :
    (∀ text : String,
      (∀ latency : Latency, read text = .ok latency ↔ States text latency.toNanoseconds) ∧
      (∀ total, States text total ↔
        ∃ latency : Latency, read text = .ok latency ∧ latency.toNanoseconds = total) ∧
      ∀ fault, read text = .error fault ↔
        fault = .unreadableQuantity text ∧ ∀ total, ¬ States text total) ∧
    ∀ latency : Latency, read (toString latency) =
      if latency.toNanoseconds < 2 ^ 64 then .ok latency
      else .error (.unreadableQuantity (toString latency)) := by
  refine ⟨fun text => ⟨?_, ?_, ?_⟩, read_toString⟩
  · exact read_eq_ok_iff text
  · exact states_iff_exists_read text
  · exact read_eq_error_iff text

end MemoryFabric.Latency
