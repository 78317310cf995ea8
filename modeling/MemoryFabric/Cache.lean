import MemoryFabric.Quantity.Size

/-! Caches: their place in the hierarchy and their parameters. -/

namespace MemoryFabric

inductive CacheLevel where
  | l1Instruction
  | l1Data
  | l2
deriving DecidableEq, Repr

/-- Latencies are counted in cycles. -/
structure CacheParameters where
  size : ByteSize
  associativity : Nat
  tagLatency : UInt64
  dataLatency : UInt64
  responseLatency : UInt64
  missRegisters : Nat
  /-- How many requests may wait for one miss. -/
  targetsPerMiss : Nat
deriving DecidableEq, Repr

namespace CacheParameters

def l1 : CacheParameters := ⟨.ofKibibytes 32, 8, 2, 2, 2, 16, 8⟩

def l2 : CacheParameters := ⟨.ofKibibytes 256, 16, 12, 12, 12, 64, 16⟩

end CacheParameters

end MemoryFabric
