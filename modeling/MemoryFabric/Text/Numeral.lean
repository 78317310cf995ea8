/-! Numerals: digits in a radix up to sixteen, read into natural numbers and
machine words, and written back. -/

namespace MemoryFabric.Text

/-- The value of a character as a digit; letters of both cases follow nine. -/
def digitValue? (radix : Nat) (character : Char) : Option Nat :=
  let code := character.toNat
  let value? :=
    if 48 ≤ code && code ≤ 57 then some (code - 48)
    else if 97 ≤ code && code ≤ 102 then some (code - 87)
    else if 65 ≤ code && code ≤ 70 then some (code - 55)
    else none
  value?.filter (· < radix)

/-- The value of a run of digits that continues a numeral worth `start`. -/
def readDigits (radix : Nat) (start : Nat) : List Char → Option Nat
  | [] => some start
  | character :: rest => do
      let digit ← digitValue? radix character
      readDigits radix (start * radix + digit) rest

def readNatural (radix : Nat) (text : List Char) : Option Nat :=
  if text.isEmpty then none else readDigits radix 0 text

def readWord (radix : Nat) (text : List Char) : Option UInt64 := do
  let value ← readNatural radix text
  if value < UInt64.size then some (UInt64.ofNat value) else none

def isDecimalDigit (character : Char) : Bool :=
  (digitValue? 10 character).isSome

def hexDigits (value : Nat) : String :=
  String.ofList (Nat.toDigits 16 value)

def hexadecimal (value : Nat) : String :=
  "0x" ++ hexDigits value

def address (value : UInt64) : String :=
  hexadecimal value.toNat

example : readWord 10 "18446744073709551616".toList = none := by decide
example : readWord 16 "fF".toList = some 255 := by decide
example : readWord 10 [] = none := by decide
example : hexadecimal 0 = "0x0" := by decide
example : hexadecimal 8589934656 = "0x200000040" := by decide

end MemoryFabric.Text
