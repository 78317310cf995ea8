import MemoryFabric.Text.Blank
import MemoryFabric.Text.Numeral
import MemoryFabric.Text.Quoted

/-! Byte counts and addresses as people write them: `8GiB`, `512 KB`,
`0x2_0000_0000` or `4096`. Suffixes are binary multiples, so `GB` and `GiB`
both mean `2 ^ 30` bytes. -/

namespace MemoryFabric

def unreadableQuantity (text : String) : String :=
  "cannot parse " ++ Text.quote text ++ " as a size, address, or latency"

structure ByteSize where
  bytes : UInt64
deriving DecidableEq, Repr

namespace ByteSize

def unitPower? (unit : List Char) : Option Nat :=
  match String.ofList unit with
  | "" | "B" => some 0
  | "K" | "k" | "KB" | "kB" | "KiB" => some 10
  | "M" | "MB" | "MiB" => some 20
  | "G" | "GB" | "GiB" => some 30
  | "T" | "TB" | "TiB" => some 40
  | _ => none

def scaled? (count : UInt64) (power : Nat) : Option ByteSize :=
  let total := count.toNat <<< power
  if total < UInt64.size then some ⟨UInt64.ofNat total⟩ else none

def ofKibibytes (count : UInt64) : ByteSize := ⟨count <<< 10⟩
def ofMebibytes (count : UInt64) : ByteSize := ⟨count <<< 20⟩
def ofGibibytes (count : UInt64) : ByteSize := ⟨count <<< 30⟩

def afterHexMark? : List Char → Option (List Char)
  | '0' :: 'x' :: rest => some rest
  | '0' :: 'X' :: rest => some rest
  | _ => none

/-- Underscores separate digits and carry no meaning. -/
def dropSeparators (text : List Char) : List Char :=
  text.filter (· != '_')

/-- Hexadecimal digits, which a single plus sign may precede. -/
def readHex? (digits : List Char) : Option UInt64 :=
  match digits with
  | '+' :: rest => Text.readWord 16 rest
  | _ => Text.readWord 16 digits

def isCountCharacter (character : Char) : Bool :=
  Text.isDecimalDigit character || character == '_'

def readTrimmed? (text : List Char) : Option ByteSize :=
  match afterHexMark? text with
  | some digits => (readHex? (dropSeparators digits)).map ByteSize.mk
  | none => do
      let count ← Text.readWord 10 (dropSeparators (text.takeWhile isCountCharacter))
      let power ← unitPower? (Text.trim (text.dropWhile isCountCharacter))
      scaled? count power

def ofText? (text : String) : Option ByteSize :=
  readTrimmed? (Text.trim text.toList)

def shownUnits : List (String × Nat) :=
  [("TiB", 40), ("GiB", 30), ("MiB", 20), ("KiB", 10)]

/-- A size is shown in the largest unit of which it is a whole positive number. -/
protected def toString (size : ByteSize) : String :=
  let count := size.bytes.toNat
  match shownUnits.find? (fun unit => count ≠ 0 && count % (1 <<< unit.2) = 0) with
  | some (name, power) => s!"{count >>> power}" ++ name
  | none => s!"{count}" ++ "B"

instance : ToString ByteSize := ⟨ByteSize.toString⟩

example : ofText? " 0x2_0000_0000 " = some ⟨8589934592⟩ := by decide +kernel
example : ofText? "1_6 GiB" = some ⟨17179869184⟩ := by decide +kernel
example : ofText? "16777216TiB" = none := by decide +kernel
example : toString (⟨1536 * 1024⟩ : ByteSize) = "1536KiB" := by decide +kernel
example : toString (⟨0⟩ : ByteSize) = "0B" := by decide +kernel

end ByteSize

end MemoryFabric
