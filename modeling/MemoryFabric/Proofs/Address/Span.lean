import MemoryFabric.Proofs.Address.Overflow
import MemoryFabric.Proofs.Interleave.Partition

/-! Ranges as two plain words, of which nothing is known. Their operations are carried out with
arithmetic that stops at an overflow. On words that are the base and the size of a range they do
not stop, and what they give are words of ranges again. -/

namespace MemoryFabric

/-- A base and a size, which need not make up a range. -/
structure Span where
  base : UInt64
  size : UInt64
deriving DecidableEq, Repr

def AddressRange.span (range : AddressRange) : Span :=
  ⟨range.base, range.size⟩

namespace Span

def stop (span : Span) : Except Overflow UInt64 :=
  Word.sum span.base span.size

def last (span : Span) : Except Overflow UInt64 := do
  let further ← Word.difference span.size 1
  Word.sum span.base further

def contains (span : Span) (address : UInt64) : Except Overflow Bool :=
  if span.base ≤ address then do
    let stop ← span.stop
    return address < stop
  else .ok false

def overlaps (first second : Span) : Except Overflow Bool := do
  let secondStop ← second.stop
  if first.base < secondStop then
    let firstStop ← first.stop
    return second.base < firstStop
  else return false

def ofSize? (base size : UInt64) : Option Span :=
  if size = 0 then none
  else
    match Word.sum base size with
    | .error _ => none
    | .ok _ => some ⟨base, size⟩

def ofBounds (start stop : UInt64) : Except Overflow (Option Span) :=
  if stop ≤ start then .ok none
  else do
    let size ← Word.difference stop start
    return ofSize? start size

def intersection (first second : Span) : Except Overflow (Option Span) := do
  let shared ← first.overlaps second
  if shared then
    let firstStop ← first.stop
    let secondStop ← second.stop
    let size ← Word.difference (min firstStop secondStop) (max first.base second.base)
    return some ⟨max first.base second.base, size⟩
  else return none

def offsetOf (span : Span) (address : UInt64) : Except Overflow (Option UInt64) := do
  let inside ← span.contains address
  if inside then
    let offset ← Word.difference address span.base
    return some offset
  else return none

def slice (span : Span) (length : UInt64) (index : Nat) : Except Overflow Span := do
  let skipped ← Word.product (UInt64.ofNat index) length
  let base ← Word.sum span.base skipped
  return ⟨base, length⟩

def splitFlat (span : Span) (parts : UInt64) : Except Overflow (Option (List Span)) :=
  if parts = 0 ∨ span.size % parts ≠ 0 then .ok none
  else do
    let slices ← (List.range parts.toNat).mapM (span.slice (span.size / parts))
    return some slices

/-! ## Spans of ranges -/

theorem exists_range_iff (span : Span) :
    (∃ range : AddressRange, range.span = span) ↔
      0 < span.size.toNat ∧ span.base.toNat + span.size.toNat ≤ 2 ^ 64 - 1 := by
  constructor
  · rintro ⟨range, rfl⟩
    have fits := range.fits
    refine ⟨range.size_toNat_pos, ?_⟩
    change range.base.toNat + range.size.toNat ≤ 2 ^ 64 - 1
    omega
  · rintro ⟨positive, fits⟩
    have inside : span.base.toNat + span.size.toNat < 0x10000000000000000 := by omega
    exact ⟨⟨span.base, span.size, UInt64.lt_iff_toNat_lt.mpr positive, inside⟩, rfl⟩

variable (range first second : AddressRange)

@[simp] theorem base_span : range.span.base = range.base := rfl

@[simp] theorem size_span : range.span.size = range.size := rfl

theorem stop_span : range.span.stop = .ok range.stop :=
  (Word.sum_eq_ok_iff _ _ _).mpr range.toNat_stop

theorem last_span : range.span.last = .ok range.last := by
  have further : Word.difference range.size 1 = .ok (range.size - 1) := if_pos range.one_le_size
  rw [last, size_span, further, ok_bind, base_span, Word.sum_eq_ok_iff]
  exact range.toNat_last

theorem contains_span (address : UInt64) :
    range.span.contains address = .ok (range.contains address) := by
  rw [contains, stop_span, base_span, AddressRange.contains]
  split
  case isTrue above =>
    rw [ok_bind, decide_eq_true above, Bool.true_and]
    rfl
  case isFalse below =>
    rw [decide_eq_false below, Bool.false_and]

theorem overlaps_span : first.span.overlaps second.span = .ok (first.overlaps second) := by
  rw [overlaps, stop_span, stop_span, ok_bind, base_span, base_span, AddressRange.overlaps]
  split
  case isTrue before =>
    rw [ok_bind, decide_eq_true before, Bool.true_and]
    rfl
  case isFalse behind =>
    rw [decide_eq_false behind, Bool.false_and]
    rfl

theorem ofSize?_eq (base size : UInt64) :
    ofSize? base size = (AddressRange.ofSize base size).toOption.map AddressRange.span := by
  rw [ofSize?, AddressRange.ofSize]
  by_cases empty : size = 0
  · rw [if_pos empty, dif_neg (by rw [empty]; decide)]
    rfl
  · have positive : 0 < size := UInt64.pos_iff_ne_zero.mpr empty
    rw [if_neg empty, dif_pos positive, Word.sum]
    by_cases fits : base.toNat + size.toNat < UInt64.size
    · rw [if_pos fits, dif_pos fits]
      rfl
    · rw [if_neg fits, dif_neg fits]
      rfl

theorem ofSize?_span : ofSize? range.base range.size = some range.span := by
  rw [ofSize?_eq, (AddressRange.ofSize_eq_ok_iff _ _ range).mpr ⟨rfl, rfl⟩]
  rfl

theorem difference_stop_base : Word.difference range.stop range.base = .ok range.size := by
  rw [Word.difference_eq_ok_iff, range.toNat_stop, Nat.add_comm]

theorem ofBounds_eq (start stop : UInt64) :
    ofBounds start stop = .ok ((AddressRange.ofBounds? start stop).map AddressRange.span) := by
  rw [ofBounds]
  by_cases ordered : start < stop
  · rcases AddressRange.exists_of_lt ordered with ⟨range, made⟩
    rcases AddressRange.bounds_of_ofBounds? made with ⟨rfl, rfl⟩
    rw [if_neg (UInt64.not_le.mpr ordered), difference_stop_base, ok_bind, ofSize?_span, made]
    rfl
  · rw [if_pos (UInt64.not_lt.mp ordered), AddressRange.ofBounds?, dif_neg ordered]
    rfl

theorem intersection_span :
    first.span.intersection second.span =
      .ok ((first.intersection second).map AddressRange.span) := by
  rw [intersection, overlaps_span, ok_bind, AddressRange.intersection]
  by_cases shared : first.overlaps second = true
  · rcases AddressRange.exists_of_lt ((first.overlaps_iff_lt second).mp shared) with ⟨range, made⟩
    rcases AddressRange.bounds_of_ofBounds? made with ⟨base, stop⟩
    rw [if_pos shared, stop_span, ok_bind, stop_span, ok_bind, base_span, base_span, made, ← base,
      ← stop, difference_stop_base]
    rfl
  · have apart := mt (first.overlaps_iff_lt second).mpr shared
    rw [if_neg shared, AddressRange.ofBounds?, dif_neg apart]
    rfl

theorem offsetOf_span (address : UInt64) :
    range.span.offsetOf address = .ok (range.offsetOf address).toOption := by
  rw [offsetOf, contains_span, ok_bind, AddressRange.offsetOf]
  by_cases inside : range.contains address = true
  · have offset : Word.difference address range.base = .ok (address - range.base) :=
      if_pos (AddressRange.base_le_of_contains inside)
    rw [if_pos inside, if_pos inside, base_span, offset]
    rfl
  · rw [if_neg inside, if_neg inside]
    rfl

variable {range}

theorem slice_span {parts : UInt64} {index : Nat} (divides : range.size.toNat % parts.toNat = 0)
    (index_lt : index < parts.toNat) :
    range.span.slice (range.size / parts) index =
      .ok (range.part parts.toNat index divides index_lt).span := by
  have length : (range.size / parts).toNat = range.size.toNat / parts.toNat :=
    UInt64.toNat_div _ _
  have bounds := AddressRange.part_bounds range.size_toNat_pos divides index_lt
  have sizeBound := range.size.toNat_lt
  have number : (UInt64.ofNat index).toNat = index :=
    UInt64.toNat_ofNat_of_lt' (Nat.lt_trans index_lt parts.toNat_lt)
  have skipped : Word.product (UInt64.ofNat index) (range.size / parts) =
      .ok (UInt64.ofNat (index * (range.size.toNat / parts.toNat))) := by
    rw [Word.product_eq_ok_iff, number, length]
    exact UInt64.toNat_ofNat_of_lt' (by change _ < 18446744073709551616; omega)
  have base : Word.sum range.base (UInt64.ofNat (index * (range.size.toNat / parts.toNat))) =
      .ok (range.part parts.toNat index divides index_lt).base := by
    rw [Word.sum_eq_ok_iff, InterleavePlan.toNat_base_part]
    congr 1
    exact (UInt64.toNat_ofNat_of_lt' (by change _ < 18446744073709551616; omega)).symm
  have size : range.size / parts = (range.part parts.toNat index divides index_lt).size := by
    rw [← UInt64.toNat_inj, length, InterleavePlan.toNat_size_part]
  rw [slice, skipped, ok_bind, base_span, base, size]
  rfl

theorem not_uneven_iff (size parts : UInt64) :
    ¬ (parts = 0 ∨ size % parts ≠ 0) ↔ parts ≠ 0 ∧ size.toNat % parts.toNat = 0 := by
  rw [not_or, Classical.not_not, ← UInt64.toNat_mod, ← UInt64.toNat_zero, UInt64.toNat_inj]

theorem splitFlat_span (parts : UInt64) :
    range.span.splitFlat parts =
      .ok ((range.splitFlat parts).toOption.map (·.map AddressRange.span)) := by
  rw [splitFlat, size_span, AddressRange.splitFlat]
  by_cases divides : parts ≠ 0 ∧ range.size.toNat % parts.toNat = 0
  · have slices : ∀ index ∈ List.range parts.toNat,
        range.span.slice (range.size / parts) index =
          .ok ⟨UInt64.ofNat (range.base.toNat + index * (range.size.toNat / parts.toNat)),
            UInt64.ofNat (range.size.toNat / parts.toNat)⟩ :=
      fun index member => slice_span divides.2 (List.mem_range.mp member)
    rw [if_neg ((not_uneven_iff _ _).mpr divides), dif_pos divides, mapM_eq_ok slices, ok_bind]
    apply congrArg (Except.ok ∘ some)
    apply List.ext_getElem
    · simp
    · intro index _ _
      simp [AddressRange.part, AddressRange.span]
  · rw [if_pos (Classical.not_not.mp (mt (not_uneven_iff _ _).mp divides)), dif_neg divides]
    rfl

end Span

end MemoryFabric
