import MemoryFabric.Address.Predicate

/-! Division of a window of addresses among memory channels. In flat mode every
channel has an equal contiguous slice. In bit-interleaved mode every channel
spans the whole window and owns the addresses whose field just above the line
offset is its number, so that consecutive lines go round the channels. -/

namespace MemoryFabric

inductive InterleaveMode where
  | flat
  | bitInterleaved
deriving DecidableEq, Repr

instance : Inhabited InterleaveMode := ⟨.flat⟩

structure ChannelAssignment where
  channel : Nat
  predicate : AddressPredicate
deriving DecidableEq

structure InterleavePlan where
  window : AddressRange
  mode : InterleaveMode
  lineSize : UInt64
  channels : List ChannelAssignment
deriving DecidableEq

def powerOfTwo? (number : Nat) : Option Nat :=
  if number = 1 <<< number.log2 then some number.log2 else none

namespace InterleavePlan

/-- The widest field a plan may use, for 1024 channels. -/
def greatestFieldWidth : Nat := 10

/-- The width and the highest bit of the field that tells `channels` channels
apart, directly above the bits of a line offset. -/
def fieldFor (lineSize : UInt64) (channels : Nat) : Except Fault (Nat × Nat) :=
  match powerOfTwo? channels, powerOfTwo? lineSize.toNat with
  | none, _ => .error (.channelCountNotPowerOfTwo channels)
  | _, none => .error (.lineSizeNotPowerOfTwo lineSize)
  | some bits, some lineBits =>
      let highBit := lineBits + bits - 1
      if bits > greatestFieldWidth || highBit ≥ 64 then .error (.interleaveBitsOutOfRange highBit)
      else .ok (bits, highBit)

def flat (lineSize : UInt64) (window : AddressRange) (channels : Nat) :
    Except Fault InterleavePlan :=
  match window.splitFlat (UInt64.ofNat channels) with
  | .error _ => .error (.channelCountDoesNotDivide window.size channels)
  | .ok slices =>
      .ok {
        window
        mode := .flat
        lineSize
        channels := slices.mapIdx fun channel slice => ⟨channel, .whole slice⟩ }

def bitInterleaved (lineSize : UInt64) (window : AddressRange) (channels : Nat) :
    Except Fault InterleavePlan := do
  let (bits, highBit) ← fieldFor lineSize channels
  let shares ← (List.range channels).mapM fun channel => do
    let predicate ← AddressPredicate.ofField window bits highBit channel
    return ⟨channel, predicate⟩
  return { window, mode := .bitInterleaved, lineSize, channels := shares }

def ofMode (lineSize : UInt64) (window : AddressRange) (channels : Nat) :
    InterleaveMode → Except Fault InterleavePlan
  | .flat => flat lineSize window channels
  | .bitInterleaved => bitInterleaved lineSize window channels

def channelOf (plan : InterleavePlan) (address : UInt64) : Option Nat :=
  (plan.channels.find? (·.predicate.accepts address)).map (·.channel)

example : powerOfTwo? 0 = none ∧ powerOfTwo? 1 = some 0 ∧ powerOfTwo? 96 = none := by decide
example : (fieldFor 64 4).toOption = some (2, 7) := by decide +kernel

end InterleavePlan

end MemoryFabric
