/-! Finite magnitudes of the 64-bit binary floating point format, and exact
rounding of ratios to them. -/

namespace MemoryFabric

/-- The number `mantissa * 2 ^ exponent`. A mantissa has at most 53 bits, and 53
unless the exponent is the least one. -/
structure Binary64 where
  mantissa : Nat
  exponent : Int
deriving DecidableEq, Repr

namespace Binary64

def leastExponent : Int := -1074
def greatestExponent : Int := 971

def zero : Binary64 := ⟨0, leastExponent⟩

def powerRatio (base : Nat) (exponent : Int) : Nat × Nat :=
  (Nat.pow base exponent.toNat, Nat.pow base (-exponent).toNat)

def roundHalfEven (numerator denominator : Nat) : Nat :=
  let below := numerator / denominator
  let rest := 2 * (numerator % denominator)
  if rest < denominator || (rest == denominator && below % 2 == 0) then below else below + 1

/-- The nearest magnitude to a ratio, the one with an even mantissa of two;
nothing where that would be `2 ^ 1024`. -/
def ofRatio? (numerator denominator : Nat) : Option Binary64 :=
  if numerator = 0 then some zero
  else
    let scaled := fun exponent : Int =>
      let power := powerRatio 2 exponent
      (numerator * power.2, denominator * power.1)
    let estimate : Int := (numerator.log2 : Int) - denominator.log2 - 53
    let ratio := scaled estimate
    let full := if ratio.1 / ratio.2 < 1 <<< 53 then estimate else estimate + 1
    let exponent := max full leastExponent
    let ratio := scaled exponent
    let mantissa := roundHalfEven ratio.1 ratio.2
    let rounded : Binary64 :=
      if mantissa = 1 <<< 53 then ⟨1 <<< 52, exponent + 1⟩ else ⟨mantissa, exponent⟩
    if rounded.exponent > greatestExponent then none else some rounded

def toRatio (number : Binary64) : Nat × Nat :=
  let power := powerRatio 2 number.exponent
  (number.mantissa * power.1, power.2)

def mul? (first second : Binary64) : Option Binary64 :=
  let (numerator, denominator) := first.toRatio
  let (numerator', denominator') := second.toRatio
  ofRatio? (numerator * numerator') (denominator * denominator')

def div? (first second : Binary64) : Option Binary64 :=
  let (numerator, denominator) := first.toRatio
  let (numerator', denominator') := second.toRatio
  ofRatio? (numerator * denominator') (denominator * numerator')

def stepLimit : Nat := 308

/-- A decimal `significand * 10 ^ exponent`, scaled in the format itself: the
significand is rounded, and every product or quotient with a power of ten once
more. Nothing where a product leaves the format. -/
def ofDecimal? (significand : Nat) (exponent : Int) : Option Binary64 := do
  let start ← ofRatio? significand 1
  if exponent ≥ 0 then
    if exponent.toNat ≤ stepLimit then start.mul? (← ofRatio? (Nat.pow 10 exponent.toNat) 1)
    else if significand = 0 then some zero
    else none
  else
    let down := (-exponent).toNat
    if down ≤ stepLimit then start.div? (← ofRatio? (Nat.pow 10 down) 1)
    else if down ≤ 2 * stepLimit then
      let first ← start.div? (← ofRatio? (Nat.pow 10 stepLimit) 1)
      first.div? (← ofRatio? (Nat.pow 10 (down - stepLimit)) 1)
    else some zero

example : ofRatio? 1 10 = some ⟨7205759403792794, -56⟩ := by decide +kernel
example : ofRatio? (2 ^ 64 - 1) 1 = some ⟨2 ^ 52, 12⟩ := by decide +kernel
example : ofDecimal? 1 999 = none := by decide +kernel
example : ofDecimal? 5 (-324) = some ⟨1, -1074⟩ := by decide +kernel

end Binary64

end MemoryFabric
