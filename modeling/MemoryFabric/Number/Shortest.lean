import MemoryFabric.Number.Binary64

/-! The shortest decimal text of a binary floating point magnitude: the fewest
digits that read back, of those the nearest, and of two at one distance the one
whose last digit is even. -/

namespace MemoryFabric.Binary64

/-- The numbers that round to a magnitude, in quarters of its last place: from
`low` to `high`, ends included if the mantissa is even. Below a power of two the
neighbour is half as far away. -/
def roundingBounds (number : Binary64) : Nat × Nat :=
  let below := if number.mantissa = 1 <<< 52 && number.exponent > leastExponent then 1 else 2
  (4 * number.mantissa - below, 4 * number.mantissa + 2)

def readsBack (number : Binary64) (digits : Nat) (exponent : Int) : Bool :=
  let ten := powerRatio 10 exponent
  let two := powerRatio 2 (number.exponent - 2)
  let numerator := digits * ten.1 * two.2
  let denominator := ten.2 * two.1
  let (low, high) := number.roundingBounds
  if number.mantissa % 2 = 0 then
    low * denominator ≤ numerator && numerator ≤ high * denominator
  else low * denominator < numerator && numerator < high * denominator

def decimalExponent (number : Binary64) : Int :=
  let (numerator, denominator) := number.toRatio
  let isBelow := fun exponent : Int =>
    let ten := powerRatio 10 (exponent + 1)
    numerator * ten.2 < denominator * ten.1
  let candidates := (List.range 640).map fun index : Nat => (index : Int) - 330
  (candidates.find? isBelow).getD 0

/-- The better of the two decimals with `count` digits next to the magnitude, if
one of them reads back. -/
def decimalOfLength? (number : Binary64) (count : Nat) : Option (Nat × Int) :=
  let exponent := number.decimalExponent - count + 1
  let (numerator, denominator) := number.toRatio
  let ten := powerRatio 10 exponent
  let top := numerator * ten.2
  let bottom := denominator * ten.1
  let below := top / bottom
  let near := roundHalfEven top bottom
  let far := if near = below then below + 1 else below
  if number.readsBack near exponent then some (near, exponent)
  else if number.readsBack far exponent then some (far, exponent)
  else none

/-- Seventeen digits always read back. -/
def shortest (number : Binary64) : Nat × Int :=
  if number.mantissa = 0 then (0, 0)
  else ((List.range 17).findSome? fun index => number.decimalOfLength? (index + 1)).getD (0, 0)

def isPositional (exponent : Int) : Bool :=
  -5 ≤ exponent && exponent ≤ 15

def exponentText (exponent : Int) : String :=
  (if exponent < 0 then "-" else "+") ++ s!"{exponent.natAbs}"

/-- The shortest decimal, with a point and at least one digit on either side of
it where no power of ten is written, and with a point only before further digits
where one is. -/
def decimalText (number : Binary64) : String :=
  let (significand, last) := number.shortest
  let written := Nat.toDigits 10 significand
  let digits := (written.reverse.dropWhile (· == '0')).reverse
  if digits.isEmpty then "0.0"
  else
    let exponent : Int := last + written.length - 1
    let text := String.ofList
    if isPositional exponent then
      if exponent < 0 then
        "0." ++ text (List.replicate (exponent.natAbs - 1) '0' ++ digits)
      else
        let whole := exponent.toNat + 1
        if digits.length ≤ whole then
          text (digits ++ List.replicate (whole - digits.length) '0') ++ ".0"
        else text (digits.take whole) ++ "." ++ text (digits.drop whole)
    else
      text (digits.take 1) ++ (if digits.length = 1 then "" else "." ++ text (digits.drop 1)) ++
        "e" ++ exponentText exponent

def textOfRatio (numerator denominator : Nat) : Option String :=
  (ofRatio? numerator denominator).map decimalText

example : textOfRatio 0 1 = some "0.0" := by decide +kernel
example : textOfRatio 100 1 = some "100.0" := by decide +kernel
example : textOfRatio 3 10 = some "0.3" := by decide +kernel
example : textOfRatio (2 ^ 64) 1 = some "1.8446744073709552e+19" := by decide +kernel
example : textOfRatio 1 1000000 = some "1e-6" := by decide +kernel
example : textOfRatio 1 100000 = some "0.00001" := by decide +kernel
example : textOfRatio 1650335338306315 8 = some "206291917288289.38" := by decide +kernel
example : textOfRatio 1650335338306313 8 = some "206291917288289.12" := by decide +kernel

end MemoryFabric.Binary64
