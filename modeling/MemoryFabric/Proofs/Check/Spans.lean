import MemoryFabric.Check.Segments
import MemoryFabric.Proofs.Address.WordSearch

/-! Nothing that is done with ranges, predicates and the fields of plans wraps around. What one
of the operations on spans gives is the span of a range, by induction on how it came about, and
on the spans of ranges no operation stops at an overflow. -/

namespace MemoryFabric

namespace Span

/-! ## Segments -/

def ends (span : Span) : Except Overflow (List UInt64) := do
  let stop ← span.stop
  return [span.base, stop]

def cuts (span : Span) (windows : List Span) : Except Overflow (List UInt64) := do
  let stop ← span.stop
  let bounds ← windows.mapM ends
  return Check.ascending (span.base :: stop :: bounds.flatten.filter fun bound =>
    span.base < bound && bound < stop)

def segments (span : Span) (windows : List Span) : Except Overflow (List Span) := do
  let points ← span.cuts windows
  let pieces ← (points.zip points.tail).mapM fun bounds => ofBounds bounds.1 bounds.2
  return pieces.filterMap id

theorem ends_span (range : AddressRange) :
    range.span.ends = .ok [range.base, range.stop] := by
  rw [ends, stop_span]
  rfl

theorem cuts_span (range : AddressRange) (predicates : List AddressPredicate) :
    range.span.cuts (predicates.map (·.window.span)) = .ok (Check.cuts range predicates) := by
  have bounds : (predicates.map (·.window.span)).mapM ends =
      .ok (predicates.map Check.bounds) := by
    rw [List.mapM_map]
    exact mapM_eq_ok fun predicate _ => ends_span predicate.window
  rw [cuts, stop_span, ok_bind, bounds, ok_bind]
  rfl

theorem segments_span (range : AddressRange) (predicates : List AddressPredicate) :
    range.span.segments (predicates.map (·.window.span)) =
      .ok ((Check.segments range predicates).map AddressRange.span) := by
  rw [segments, cuts_span, ok_bind, mapM_eq_ok fun bounds _ => ofBounds_eq bounds.1 bounds.2,
    ok_bind, Check.segments, List.filterMap_map, List.map_filterMap]
  rfl

/-! ## Spans that operations give -/

/-- The span comes from an operation that makes ranges, or from one that cuts ranges which
were made before. -/
inductive Produced : Span → Prop
  | sized {base size : UInt64} {span : Span} (made : ofSize? base size = some span) :
      Produced span
  | bounded {start stop : UInt64} {span : Span} (made : ofBounds start stop = .ok (some span)) :
      Produced span
  | shared {first second span : Span} (producedFirst : Produced first)
      (producedSecond : Produced second) (made : first.intersection second = .ok (some span)) :
      Produced span
  | slice {whole span : Span} {parts : UInt64} {slices : List Span}
      (producedWhole : Produced whole) (made : whole.splitFlat parts = .ok (some slices))
      (member : span ∈ slices) : Produced span
  | segment {whole span : Span} {windows pieces : List Span} (producedWhole : Produced whole)
      (producedWindows : ∀ window ∈ windows, Produced window)
      (made : whole.segments windows = .ok pieces) (member : span ∈ pieces) : Produced span

theorem exists_predicates {windows : List Span}
    (ranges : ∀ window ∈ windows, ∃ range : AddressRange, range.span = window) :
    ∃ predicates : List AddressPredicate, predicates.map (·.window.span) = windows := by
  induction windows with
  | nil => exact ⟨[], rfl⟩
  | cons window rest induction =>
      rcases ranges window List.mem_cons_self with ⟨range, rfl⟩
      rcases induction fun other member => ranges other (List.mem_cons_of_mem _ member) with
        ⟨predicates, rfl⟩
      exact ⟨.whole range :: predicates, rfl⟩

theorem exists_range_of_map {found : Option AddressRange} {span : Span}
    (made : (.ok (found.map AddressRange.span) : Except Overflow _) = .ok (some span)) :
    ∃ range : AddressRange, range.span = span := by
  rw [Except.ok.injEq, Option.map_eq_some_iff] at made
  rcases made with ⟨range, -, same⟩
  exact ⟨range, same⟩

theorem Produced.exists_range {span : Span} (produced : Produced span) :
    ∃ range : AddressRange, range.span = span := by
  induction produced with
  | sized made =>
      rw [ofSize?_eq, Option.map_eq_some_iff] at made
      rcases made with ⟨range, -, same⟩
      exact ⟨range, same⟩
  | bounded made =>
      rw [ofBounds_eq] at made
      exact exists_range_of_map made
  | shared _ _ made firstRange secondRange =>
      rcases firstRange with ⟨first, rfl⟩
      rcases secondRange with ⟨second, rfl⟩
      rw [intersection_span] at made
      exact exists_range_of_map made
  | slice _ made member wholeRange =>
      rcases wholeRange with ⟨whole, rfl⟩
      rw [splitFlat_span, Except.ok.injEq, Option.map_eq_some_iff] at made
      rcases made with ⟨slices, -, rfl⟩
      rcases List.mem_map.mp member with ⟨range, -, same⟩
      exact ⟨range, same⟩
  | segment _ _ made member wholeRange windowRanges =>
      rcases wholeRange with ⟨whole, rfl⟩
      rcases exists_predicates windowRanges with ⟨predicates, rfl⟩
      rw [segments_span, Except.ok.injEq] at made
      subst made
      rcases List.mem_map.mp member with ⟨range, -, same⟩
      exact ⟨range, same⟩

theorem produced_iff_exists_range (span : Span) :
    Produced span ↔ ∃ range : AddressRange, range.span = span := by
  constructor
  · exact Produced.exists_range
  · rintro ⟨range, rfl⟩
    exact .sized (ofSize?_span range)

end Span

/-! ## Fields of plans -/

namespace Word

open InterleavePlan

def fieldFor (lineSize : UInt64) (channels : UInt32) : Except Overflow (Option (Nat × Nat)) :=
  match powerOfTwo? channels.toNat, powerOfTwo? lineSize.toNat with
  | some bits, some lineBits => do
      let width ← counted (lineBits + bits)
      if bits > greatestFieldWidth || width - 1 ≥ 64 then return none
      else return some (bits, width - 1)
  | _, _ => .ok none

theorem exponent_lt {number exponent width : Nat} (power : powerOfTwo? number = some exponent)
    (small : number < 2 ^ width) : exponent < width := by
  rw [powerOfTwo?_eq_some_iff] at power
  rw [power] at small
  exact (Nat.pow_lt_pow_iff_right Nat.one_lt_two).mp small

theorem fieldFor_eq (lineSize : UInt64) (channels : UInt32) :
    fieldFor lineSize channels =
      .ok (InterleavePlan.fieldFor lineSize channels.toNat).toOption := by
  rw [fieldFor, InterleavePlan.fieldFor]
  cases power : powerOfTwo? channels.toNat with
  | none => rfl
  | some bits =>
      cases linePower : powerOfTwo? lineSize.toNat with
      | none => rfl
      | some lineBits =>
          have narrow := exponent_lt power channels.toNat_lt
          have lineNarrow := exponent_lt linePower lineSize.toNat_lt
          dsimp only
          rw [counted_eq (by omega), ok_bind]
          split <;> rfl

end Word

/-! ## No overflow -/

/-- No operation of the range overflows, and all give what they give for ranges. -/
structure AddressRange.Unwrapped (range : AddressRange) : Prop where
  stop : range.span.stop = .ok range.stop
  last : range.span.last = .ok range.last
  offsetOf : ∀ address,
    range.span.offsetOf address = .ok (range.offsetOf address).toOption
  intersection : ∀ other : AddressRange,
    range.span.intersection other.span = .ok ((range.intersection other).map AddressRange.span)
  splitFlat : ∀ parts, range.span.splitFlat parts =
    .ok ((range.splitFlat parts).toOption.map (·.map AddressRange.span))
  segments : ∀ predicates, range.span.segments (predicates.map (·.window.span)) =
    .ok ((Check.segments range predicates).map AddressRange.span)

structure AddressPredicate.Unwrapped (predicate : AddressPredicate) : Prop where
  mask : Word.mask predicate = .ok predicate.mask
  value : Word.value predicate = .ok predicate.value
  firstFrom : ∀ start, Word.firstFrom predicate start = .ok (predicate.firstFrom start)
  overlapWitness : ∀ other : AddressPredicate, other.Checked →
    Word.overlapWitness predicate other = .ok (predicate.overlapWitness other)
  field : ∀ range bits highBit matchValue,
    predicate = .interleaved range bits highBit matchValue →
      Word.maskOf bits highBit = .ok (fieldMask bits highBit) ∧
      (fieldMask bits highBit).toNat = (2 ^ bits - 1) * 2 ^ (highBit + 1 - bits) ∧
      predicate.value.toNat = matchValue * 2 ^ (highBit + 1 - bits)

theorem AddressRange.unwrapped (range : AddressRange) : range.Unwrapped where
  stop := Span.stop_span range
  last := Span.last_span range
  offsetOf := Span.offsetOf_span range
  intersection := Span.intersection_span range
  splitFlat := Span.splitFlat_span
  segments := Span.segments_span range

theorem AddressPredicate.unwrapped {predicate : AddressPredicate} (checked : predicate.Checked) :
    predicate.Unwrapped where
  mask := Word.mask_eq checked
  value := Word.value_eq checked
  firstFrom := Word.firstFrom_eq checked
  overlapWitness _ otherChecked := Word.overlapWitness_eq checked otherChecked
  field := by
    rintro range bits highBit matchValue rfl
    have fits := checked.fieldFits
    exact ⟨Word.maskOf_eq fits.high bits, toNat_fieldMask_of_inside fits.high fits.inside,
      toNat_value_of_fits fits range⟩

/-- The spans that the operations produce are those with an address whose end is a word, which
are the spans of ranges. Plain words make a span where they make a range. On ranges and on checked
predicates no operation overflows; nor do the masked search, whatever its words are, and the
choice of a field, whose values are all accepted as the numbers of channels. -/
theorem address_arithmetic_never_wraps :
    (∀ span, Span.Produced span ↔
      0 < span.size.toNat ∧ span.base.toNat + span.size.toNat ≤ 2 ^ 64 - 1) ∧
    (∀ span, Span.Produced span ↔ ∃ range : AddressRange, range.span = span) ∧
    (∀ base size, Span.ofSize? base size =
      (AddressRange.ofSize base size).toOption.map AddressRange.span) ∧
    (∀ start stop, Span.ofBounds start stop =
      .ok ((AddressRange.ofBounds? start stop).map AddressRange.span)) ∧
    (∀ range : AddressRange, range.Unwrapped) ∧
    (∀ predicate : AddressPredicate, predicate.Checked → predicate.Unwrapped) ∧
    (∀ start mask value, Word.firstMasked start mask value =
      .ok (AddressPredicate.firstMasked start mask value)) ∧
    ∀ (lineSize : UInt64) (channels : UInt32),
      Word.fieldFor lineSize channels =
        .ok (InterleavePlan.fieldFor lineSize channels.toNat).toOption ∧
      ∀ bits highBit, InterleavePlan.fieldFor lineSize channels.toNat = .ok (bits, highBit) →
        ∀ (window : AddressRange) (channel : Nat), channel < channels.toNat →
          ∃ predicate, AddressPredicate.ofField window bits highBit channel = .ok predicate := by
  refine ⟨?_, Span.produced_iff_exists_range, Span.ofSize?_eq, Span.ofBounds_eq,
    AddressRange.unwrapped, fun _ checked => AddressPredicate.unwrapped checked,
    Word.firstMasked_eq, ?_⟩
  · intro span
    exact (Span.produced_iff_exists_range span).trans (Span.exists_range_iff span)
  · intro lineSize channels
    refine ⟨Word.fieldFor_eq lineSize channels, ?_⟩
    intro bits highBit field window channel numbered
    rw [AddressPredicate.exists_ofField_iff]
    exact InterleavePlan.fieldFits_of_fieldFor field numbered

def topWindow : AddressRange :=
  ⟨0xFFFFFFFFFFFFF000, 0xFFF, by decide, by decide⟩

def topStripe : AddressPredicate :=
  .interleaved topWindow 10 63 1023

/-- A field of the ten highest bits, over a window that ends at the last word. -/
theorem address_arithmetic_never_wraps_top :
    topStripe.Checked ∧
      Word.value topStripe = .ok 0xFFC0000000000000 ∧
      Word.firstFrom topStripe 0xFFFFFFFFFFFFFFFE = .ok (some 0xFFFFFFFFFFFFFFFE) ∧
      Word.overlapWitness topStripe (.whole topWindow) = .ok (some 0xFFFFFFFFFFFFF000) ∧
      Word.fieldFor 0x40000000000000 1024 = .ok (some (10, 63)) ∧
      ∃ predicate, AddressPredicate.ofField topWindow 10 63 1023 = .ok predicate := by
  have made : AddressPredicate.ofField topWindow 10 63 1023 = .ok topStripe := by decide +kernel
  have checked : topStripe.Checked := .ofField made
  have field : InterleavePlan.fieldFor 0x40000000000000 (1024 : UInt32).toNat = .ok (10, 63) := by
    decide +kernel
  have value : topStripe.value = 0xFFC0000000000000 := by decide +kernel
  have found : topStripe.firstFrom 0xFFFFFFFFFFFFFFFE = some 0xFFFFFFFFFFFFFFFE := by
    decide +kernel
  have shared : topStripe.overlapWitness (.whole topWindow) = some 0xFFFFFFFFFFFFF000 := by
    decide +kernel
  obtain ⟨-, -, -, -, -, predicates, -, fields⟩ := address_arithmetic_never_wraps
  have unwrapped := predicates topStripe checked
  have chosen := fields 0x40000000000000 1024
  refine ⟨checked, ?_, ?_, ?_, ?_, chosen.2 10 63 field topWindow 1023 (by decide)⟩
  · rw [unwrapped.value, value]
  · rw [unwrapped.firstFrom, found]
  · rw [unwrapped.overlapWitness _ (.whole topWindow), shared]
  · rw [chosen.1, field]
    rfl

end MemoryFabric
