import Mathlib.Data.List.TakeWhile
import MemoryFabric.Text.Blank

/-! Text without the blanks around it, described without the way in which it is found,
and text that falls into a run of characters of one class, blanks, and a rest. -/

namespace MemoryFabric.Text

variable {text inner before after count blanks rest : List Char}

def AllBlank (text : List Char) : Prop :=
  ∀ character ∈ text, isBlank character = true

-- There are finitely many characters, but only those of the text are looked at.
instance : DecidablePred AllBlank := fun text =>
  List.decidableBAll (fun character => isBlank character = true) text

structure Trimmed (text : List Char) : Prop where
  begins : ∀ character, text.head? = some character → isBlank character = false
  ends : ∀ character, text.getLast? = some character → isBlank character = false

def Strips (text inner : List Char) : Prop :=
  Trimmed inner ∧ ∃ before after, AllBlank before ∧ AllBlank after ∧
    text = before ++ inner ++ after

theorem trimmed_of_no_blank (none : ∀ character ∈ text, isBlank character = false) :
    Trimmed text where
  begins character first := none character (List.mem_of_head? first)
  ends character last := none character (List.mem_of_getLast? last)

/-! ## One side at a time -/

theorem isBlank_head?_trimStart (text : List Char) {character : Char}
    (first : (trimStart text).head? = some character) : isBlank character = false := by
  have stopped := List.head?_dropWhile_not isBlank text
  rw [trimStart] at first
  rw [first] at stopped
  exact stopped

theorem trimStart_append (blank : AllBlank before) :
    trimStart (before ++ text) = trimStart text :=
  List.dropWhile_append_of_pos blank

theorem trimStart_eq_self
    (begins : ∀ character, text.head? = some character → isBlank character = false) :
    trimStart text = text := by
  cases text with
  | nil => rfl
  | cons first rest =>
      apply List.dropWhile_cons_of_neg
      rw [begins first rfl]
      exact Bool.false_ne_true

theorem trimEnd_eq (text : List Char) : trimEnd text = (trimStart text.reverse).reverse := rfl

theorem trimEnd_append (blank : AllBlank after) : trimEnd (text ++ after) = trimEnd text := by
  have blankReversed : AllBlank after.reverse := fun character member =>
    blank character (List.mem_reverse.mp member)
  rw [trimEnd_eq, List.reverse_append, trimStart_append blankReversed, ← trimEnd_eq]

theorem trimEnd_eq_self
    (ends : ∀ character, text.getLast? = some character → isBlank character = false) :
    trimEnd text = text := by
  rw [trimEnd_eq, trimStart_eq_self, List.reverse_reverse]
  intro character first
  rw [List.head?_reverse] at first
  exact ends character first

theorem exists_before (text : List Char) :
    ∃ before, AllBlank before ∧ text = before ++ trimStart text := by
  refine ⟨text.takeWhile isBlank, fun _ member => List.mem_takeWhile_imp member, ?_⟩
  exact List.takeWhile_append_dropWhile.symm

theorem exists_after (text : List Char) :
    ∃ after, AllBlank after ∧ text = trimEnd text ++ after := by
  rcases exists_before text.reverse with ⟨before, blank, split⟩
  refine ⟨before.reverse, fun character member => blank character (List.mem_reverse.mp member), ?_⟩
  rw [trimEnd_eq, ← List.reverse_append, ← split, List.reverse_reverse]

/-! ## Both sides -/

theorem trim_of_strips (strips : Strips text inner) : trim text = inner := by
  rcases strips with ⟨trimmed, before, after, blankBefore, blankAfter, rfl⟩
  rw [trim, List.append_assoc, trimStart_append blankBefore]
  cases inner with
  | nil =>
      have nothing : trimStart ([] ++ after) = [] := List.dropWhile_eq_nil_iff.mpr blankAfter
      rw [nothing]
      rfl
  | cons first rest =>
      have kept : trimStart (first :: rest ++ after) = first :: rest ++ after :=
        trimStart_eq_self fun character begins => trimmed.begins character begins
      rw [kept, trimEnd_append blankAfter]
      exact trimEnd_eq_self trimmed.ends

theorem trimmed_trim (text : List Char) : Trimmed (trim text) where
  begins character first := by
    rcases exists_after (trimStart text) with ⟨after, -, split⟩
    apply isBlank_head?_trimStart text
    rw [split, List.head?_append, ← trim, first]
    rfl
  ends character last := by
    rw [trim, trimEnd_eq, List.getLast?_reverse] at last
    exact isBlank_head?_trimStart _ last

theorem strips_trim (text : List Char) : Strips text (trim text) := by
  rcases exists_before text with ⟨before, blankBefore, start⟩
  rcases exists_after (trimStart text) with ⟨after, blankAfter, finish⟩
  refine ⟨trimmed_trim text, before, after, blankBefore, blankAfter, ?_⟩
  rw [trim, List.append_assoc, ← finish]
  exact start

theorem strips_iff (text inner : List Char) : Strips text inner ↔ trim text = inner := by
  constructor
  · exact trim_of_strips
  · rintro rfl
    exact strips_trim text

/-! ## A run, blanks, and the rest -/

section Runs

variable {inRun : Char → Bool}

theorem takeWhile_run (all : ∀ character ∈ count, inRun character = true)
    (stops : ∀ character, rest.head? = some character → inRun character = false) :
    (count ++ rest).takeWhile inRun = count := by
  rw [List.takeWhile_append_of_pos all]
  cases rest with
  | nil => exact List.append_nil count
  | cons first others =>
      rw [List.takeWhile_cons_of_neg (by simp [stops first rfl]), List.append_nil]

theorem dropWhile_run (all : ∀ character ∈ count, inRun character = true)
    (stops : ∀ character, rest.head? = some character → inRun character = false) :
    (count ++ rest).dropWhile inRun = rest := by
  rw [List.dropWhile_append_of_pos all]
  cases rest with
  | nil => rfl
  | cons first others => exact List.dropWhile_cons_of_neg (by simp [stops first rfl])

/-- Blanks before the rest end the run as well as the rest itself does. -/
theorem stops_of_blanks (apart : ∀ character, isBlank character = true → inRun character = false)
    (blank : AllBlank blanks)
    (stops : ∀ character, rest.head? = some character → inRun character = false) :
    ∀ character, (blanks ++ rest).head? = some character → inRun character = false := by
  intro character first
  cases blanks with
  | nil => exact stops character first
  | cons blankFirst others =>
      cases first
      exact apart character (blank character List.mem_cons_self)

/-- A text that does not end with a blank has blanks only before what follows the run. -/
theorem Trimmed.exists_blanks (trimmed : Trimmed text) (inRun : Char → Bool) :
    ∃ blanks, AllBlank blanks ∧
      text = text.takeWhile inRun ++ blanks ++ trim (text.dropWhile inRun) := by
  rcases strips_trim (text.dropWhile inRun) with ⟨-, before, after, blankBefore, blankAfter, split⟩
  have whole : text = text.takeWhile inRun ++ before ++ trim (text.dropWhile inRun) ++ after := by
    conv => lhs; rw [← List.takeWhile_append_dropWhile (p := inRun) (l := text), split]
    simp only [List.append_assoc]
  -- Blanks behind would end the whole text.
  cases last : after.getLast? with
  | none =>
      rw [List.getLast?_eq_none_iff.mp last, List.append_nil] at whole
      exact ⟨before, blankBefore, whole⟩
  | some character =>
      have ends := trimmed.ends character (by rw [whole, List.getLast?_append, last]; rfl)
      rw [blankAfter character (List.mem_of_getLast? last)] at ends
      cases ends

end Runs

end MemoryFabric.Text
