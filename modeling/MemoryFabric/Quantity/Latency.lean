import MemoryFabric.Text.Blank
import MemoryFabric.Text.Numeral

/-! Delays, kept as whole seconds and a part of a second in nanoseconds. Sums
stop at the longest delay instead of wrapping around. -/

namespace MemoryFabric

abbrev nanosecondsPerSecond : Nat := 1000000000

structure Latency where
  seconds : UInt64
  nanoseconds : Nat
  nanoseconds_lt : nanoseconds < nanosecondsPerSecond
deriving DecidableEq

namespace Latency

instance : Zero Latency := ⟨⟨0, 0, by decide⟩⟩

def longest : Latency := ⟨UInt64.ofNat (UInt64.size - 1), nanosecondsPerSecond - 1, by decide⟩

def toNanoseconds (latency : Latency) : Nat :=
  latency.seconds.toNat * nanosecondsPerSecond + latency.nanoseconds

/-- Nanoseconds that fill a second carry over; a sum of `2 ^ 64` seconds or
more is the longest delay. -/
protected def add (first second : Latency) : Latency :=
  let nanoseconds := first.nanoseconds + second.nanoseconds
  let seconds := first.seconds.toNat + second.seconds.toNat +
    nanoseconds / nanosecondsPerSecond
  if seconds < UInt64.size then
    ⟨UInt64.ofNat seconds, nanoseconds % nanosecondsPerSecond, Nat.mod_lt _ (by decide)⟩
  else longest

instance : Add Latency := ⟨Latency.add⟩

inductive TimeUnit where
  | nanosecond
  | microsecond
  | millisecond
  | second
deriving DecidableEq, Repr

def TimeUnit.perSecond : TimeUnit → Nat
  | .nanosecond => nanosecondsPerSecond
  | .microsecond => 1000000
  | .millisecond => 1000
  | .second => 1

/-- Nanoseconds are understood where no unit is written. -/
def TimeUnit.ofText? (unit : List Char) : Option TimeUnit :=
  match String.ofList unit with
  | "" | "ns" => some .nanosecond
  | "us" => some .microsecond
  | "ms" => some .millisecond
  | "s" => some .second
  | _ => none

def ofUnits (count : UInt64) (unit : TimeUnit) : Latency where
  seconds := UInt64.ofNat (count.toNat / unit.perSecond)
  nanoseconds := count.toNat % unit.perSecond * (nanosecondsPerSecond / unit.perSecond)
  nanoseconds_lt := by
    cases unit <;> simp only [TimeUnit.perSecond, nanosecondsPerSecond] <;> omega

def ofNanoseconds (count : UInt64) : Latency :=
  ofUnits count .nanosecond

def readTrimmed? (text : List Char) : Option Latency := do
  let count ← Text.readWord 10 (text.takeWhile Text.isDecimalDigit)
  let unit ← TimeUnit.ofText? (Text.trim (text.dropWhile Text.isDecimalDigit))
  return ofUnits count unit

def ofText? (text : String) : Option Latency :=
  readTrimmed? (Text.trim text.toList)

protected def toString (latency : Latency) : String :=
  s!"{latency.toNanoseconds}" ++ "ns"

instance : ToString Latency := ⟨Latency.toString⟩

example : (ofText? "2us").map toString = some "2000ns" := by decide +kernel
example : ofText? "1_000" = none := by decide +kernel
example : longest + ofNanoseconds 1 = longest := by decide +kernel

end Latency

end MemoryFabric
