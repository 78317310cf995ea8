import MemoryFabric.Address.Range.Basic
import MemoryFabric.Document.Flaw

/-! Everything that can be wrong with a memory fabric and its description, and
how it is reported. All faults are faults of the input: the same input leads to
the same fault again. -/

namespace MemoryFabric

/-- A setting outside its domain, or settings that do not fit together. -/
inductive Misconfiguration where
  | matchValueTooWide (value width : Nat)
  | tooManyFieldBits (count : Nat) (segment : AddressRange) (limit : Nat)
  | noCores
  | noThreads
  | noBusWidth
  | noLineSize
  | overlappingWindows (mmio main : AddressRange)
  | noChannels
  | noSuchCore (core count : Nat)
  | unreadableFile (name problem : String)
  | flawedDocument (flaw : Flaw)
deriving DecidableEq

inductive Fault where
  | emptyRange (base : UInt64)
  | addressOverflow (base size : UInt64)
  | outOfRange (range : AddressRange) (address : UInt64)
  | invalidPartition (range : AddressRange) (parts : UInt64)
  | channelCountDoesNotDivide (size : UInt64) (channels : Nat)
  | channelCountNotPowerOfTwo (channels : Nat)
  | lineSizeNotPowerOfTwo (lineSize : UInt64)
  | interleaveBitsOutOfRange (highBit : Nat)
  | endpointAlreadyConnected (endpoint peer : String)
  | incompatibleEndpoints (first second : String)
  | noSuchEndpoint (node endpoint : String)
  | unroutable (origin place : String) (address : UInt64)
  | ambiguousRoute (place first second : String) (address : UInt64)
  | routingLoop (origin : String) (address : UInt64)
  | overlappingPredicates (parent first second : String) (witness : UInt64)
  | duplicateInterleaveMatch (parent first second : String) (matchValue : Nat)
  | addressSpaceGap (bus : String) (range : AddressRange) (address : UInt64)
  | threadCountMismatch (core threads workloads : Nat)
  | unreadableQuantity (text : String)
  | misconfigured (cause : Misconfiguration)
deriving DecidableEq

namespace Misconfiguration

def message : Misconfiguration → String
  | .matchValueTooWide value width =>
      s!"interleave match value {value} does not fit in {width} bits"
  | .tooManyFieldBits count segment limit =>
      s!"{count} interleave bits constrain {segment}; at most {limit} can be checked"
  | .noCores => "system.core_count must be at least 1"
  | .noThreads => "system.threads_per_core must be at least 1"
  | .noBusWidth => "system.bus_width must be non-zero"
  | .noLineSize => "memory.line_size must be non-zero"
  | .overlappingWindows mmio main => s!"MMIO window {mmio} overlaps main memory {main}"
  | .noChannels => "memory.mmio_channel_count must be at least 1"
  | .noSuchCore core count =>
      s!"core {core} does not exist; the machine has {count} cores"
  | .unreadableFile name problem => s!"cannot read {name}: {problem}"
  | .flawedDocument flaw => flaw.message

end Misconfiguration

namespace Fault

open Text

def message : Fault → String
  | .emptyRange base => s!"address range at {address base} has zero size"
  | .addressOverflow base size =>
      s!"address range {address base} + {address size} overflows the 64-bit address space"
  | .outOfRange range place => s!"address {address place} is outside {range}"
  | .invalidPartition range parts => s!"{range} cannot be split into {parts} equal parts"
  | .channelCountDoesNotDivide size channels =>
      s!"window of {address size} bytes is not divisible by {channels} channels"
  | .channelCountNotPowerOfTwo channels =>
      s!"bit interleaving needs a power-of-two channel count, got {channels}"
  | .lineSizeNotPowerOfTwo lineSize =>
      s!"interleave line size must be a power of two, got {lineSize}"
  | .interleaveBitsOutOfRange highBit =>
      s!"interleave field ending at bit {highBit} does not fit in a 64-bit address"
  | .endpointAlreadyConnected endpoint peer =>
      s!"endpoint {endpoint} is already connected to {peer}"
  | .incompatibleEndpoints first second =>
      s!"cannot connect {first} to {second}: an edge joins one mem-side and one cpu-side port"
  | .noSuchEndpoint node endpoint => s!"node {node} has no {endpoint} port"
  | .unroutable origin place target =>
      s!"address {address target} from {origin} has no route past {place}"
  | .ambiguousRoute place first second target =>
      s!"address {address target} is accepted by both {first} and {second} below {place}"
  | .routingLoop origin target =>
      s!"route for {address target} from {origin} does not terminate"
  | .overlappingPredicates parent first second witness =>
      s!"{first} and {second} below {parent} both accept {address witness}"
  | .duplicateInterleaveMatch parent first second matchValue =>
      s!"{first} and {second} below {parent} both match interleave value {matchValue}"
  | .addressSpaceGap bus range target =>
      s!"no memory controller below {bus} covers {address target} (advertised range {range})"
  | .threadCountMismatch core threads workloads =>
      s!"core {core} declares {threads} hardware threads but has {workloads} workload replicas"
  | .unreadableQuantity text => MemoryFabric.unreadableQuantity text
  | .misconfigured cause => "invalid configuration: " ++ cause.message

end Fault

def misconfigured {α : Type} (cause : Misconfiguration) : Except Fault α :=
  .error (.misconfigured cause)

end MemoryFabric
