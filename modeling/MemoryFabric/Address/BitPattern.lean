/-! Numbers with some of their bits fixed, and two searches among the numbers of
a given width: the first one that agrees with a pattern, and the first one that
agrees with none of several. Both go down from the top bit and visit no number
in between. -/

namespace MemoryFabric

/-- The bits set in `mask` are fixed to those of `value`. -/
structure BitPattern where
  mask : Nat
  value : Nat
deriving DecidableEq, Repr

namespace BitPattern

def agrees (pattern : BitPattern) (number : Nat) : Bool :=
  number &&& pattern.mask == pattern.value &&& pattern.mask

def allows (pattern : BitPattern) (position : Nat) (bit : Bool) : Bool :=
  !pattern.mask.testBit position || pattern.value.testBit position == bit

def least (pattern : BitPattern) (width : Nat) : Nat :=
  (pattern.value &&& pattern.mask) % (1 <<< width)

def isFree (pattern : BitPattern) (width : Nat) : Bool :=
  pattern.mask % (1 <<< width) == 0

/-- The highest of the lowest `width` positions at which `number` has not the fixed bit. -/
def dispute? (pattern : BitPattern) (number : Nat) : (width : Nat) → Option Nat
  | 0 => none
  | width + 1 =>
      if pattern.allows width (number.testBit width) then pattern.dispute? number width
      else some width

def isRoom (pattern : BitPattern) (number position : Nat) : Bool :=
  !pattern.mask.testBit position && !number.testBit position

def raisedAt (pattern : BitPattern) (number position : Nat) : Nat :=
  (number >>> (position + 1)) <<< (position + 1) ||| 1 <<< position ||| pattern.least position

/-- The first number of `width` bits with the fixed bits that is not below the
lowest `width` bits of `start`. The answer follows `start` from the top down to the
highest position that is in dispute. If a one is fixed there, the answer lies above
`start` by this bit; a zero there makes it carry into the bits further up. -/
def firstFrom (pattern : BitPattern) (width start : Nat) : Option Nat :=
  let number := start % (1 <<< width)
  match pattern.dispute? number width with
  | none => some number
  | some place =>
      if pattern.value.testBit place then some (pattern.raisedAt number place)
      else
        ((List.range' (place + 1) (width - (place + 1))).find? (pattern.isRoom number)).map
          (pattern.raisedAt number)

/-- The first number of `width` bits that agrees with none of the patterns and is
not below the lowest `width` bits of `start`. Where no pattern fixes a bit, the
numbers with that bit set fare no better than those without. -/
def firstOutside : (patterns : List BitPattern) → (width start : Nat) → Option Nat
  | patterns, 0, _ => if patterns.isEmpty then some 0 else none
  | patterns, width + 1, start =>
      if patterns.isEmpty then some (start % (1 <<< (width + 1)))
      else if patterns.any (·.isFree (width + 1)) then none
      else
        let having := fun bit => patterns.filter (·.allows width bit)
        if start.testBit width then
          (firstOutside (having true) width start).map ((1 <<< width) + ·)
        else
          match firstOutside (having false) width start with
          | some number => some number
          | none =>
              if start % (1 <<< width) = 0 &&
                patterns.all (fun pattern => !pattern.mask.testBit width)
              then none
              else (firstOutside (having true) width 0).map ((1 <<< width) + ·)

def bitCount (width number : Nat) : Nat :=
  (List.range width).countP number.testBit

example : firstFrom ⟨192, 128⟩ 64 4224 = some 4224 := by decide +kernel
example : firstFrom ⟨192, 128⟩ 64 4288 = some 4480 := by decide +kernel
example : firstFrom ⟨1, 0⟩ 64 (2 ^ 64 - 1) = none := by decide +kernel
example : firstOutside [⟨192, 0⟩, ⟨192, 64⟩] 64 4096 = some 4224 := by decide +kernel
example : firstOutside [⟨64, 0⟩, ⟨64, 64⟩] 64 4096 = none := by decide +kernel

end BitPattern

end MemoryFabric
