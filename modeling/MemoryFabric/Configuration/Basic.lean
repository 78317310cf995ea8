import MemoryFabric.Cache
import MemoryFabric.Core
import MemoryFabric.Interleave.Plan
import MemoryFabric.Quantity.Latency
import MemoryFabric.Workload

/-! Descriptions of machines. Each setting has a value in the two-core reference machine, for a
section that is left out as a whole, and one to fall back to, for a section that leaves out the
setting alone. -/

namespace MemoryFabric

structure SystemSettings where
  coreCount : Nat
  threadsPerCore : Nat
  /-- The width of every crossbar in bytes. -/
  busWidth : UInt64
  /-- The clock frequency, which only the simulator reads. -/
  clock : String
  coreModel : String
  capabilities : List Capability
deriving DecidableEq

/-- Main memory is cached; the MMIO window is not, and is divided among channels. -/
structure MemorySettings where
  mainBase : ByteSize
  mainSize : ByteSize
  mmioBase : ByteSize
  mmioSize : ByteSize
  mmioChannelCount : Nat
  mmioMode : InterleaveMode
  /-- The granularity of interleaving. -/
  lineSize : ByteSize
  mmioBacked : Bool
  mainConfigPath : String
  mmioConfigPath : String
  mainOutputStem : String
  mmioOutputStem : String
deriving DecidableEq

structure BridgeSettings where
  latency : Latency
  /-- The delay on the way around the caches, where it differs. -/
  bypassLatency : Option Latency
deriving DecidableEq

structure CacheSection where
  size : Option ByteSize
  associativity : Option Nat
  tagLatency : Option UInt64
  dataLatency : Option UInt64
  responseLatency : Option UInt64
  missRegisters : Option Nat
  targetsPerMiss : Option Nat

structure CacheSettings where
  l1Instruction : CacheParameters
  l1Data : CacheParameters
  l2 : CacheParameters
deriving DecidableEq

/-- The program that every hardware thread runs. -/
structure WorkloadSettings where
  binary : String
  arguments : List String
  environment : Environment
  /-- The threads of the program are spread over the machine. -/
  openMp : Bool
deriving DecidableEq

structure Configuration where
  system : SystemSettings
  memory : MemorySettings
  bridge : BridgeSettings
  cache : CacheSettings
  workload : Option WorkloadSettings
deriving DecidableEq

/-! ## The reference machine -/

namespace Reference

def coreCount : Nat := 2
def threadsPerCore : Nat := 1
def busWidth : UInt64 := 64
def clock : String := "3GHz"
def coreModel : String := "DerivO3CPU"
def mainBase : UInt64 := 0
def mainSize : UInt64 := 8 * 0x40000000
def mmioBase : UInt64 := 0x200000000
def mmioSize : UInt64 := 16 * 0x40000000
def mmioChannelCount : Nat := 2
def lineSize : UInt64 := 64
def bridgeNanoseconds : UInt64 := 1
def mainConfigPath : String := "ext/ramulator2/ramulator2/gem5_base_ram.yaml"
def mmioConfigPath : String := "ext/ramulator2/ramulator2/gem5_pum_ram.yaml"
def mainOutputStem : String := "ramulator_main"
def mmioOutputStem : String := "ramulator_mmio"

end Reference

/-! What a setting falls back to where its section leaves it out. -/

namespace SystemSettings

def fallbackCoreCount : Nat := Reference.coreCount
def fallbackThreadsPerCore : Nat := Reference.threadsPerCore
def fallbackBusWidth : UInt64 := Reference.busWidth
def fallbackClock : String := Reference.clock
def fallbackCoreModel : String := Reference.coreModel
def fallbackCapabilities : List Capability := Capability.all

def fallback : SystemSettings where
  coreCount := fallbackCoreCount
  threadsPerCore := fallbackThreadsPerCore
  busWidth := fallbackBusWidth
  clock := fallbackClock
  coreModel := fallbackCoreModel
  capabilities := fallbackCapabilities

def reference : SystemSettings where
  coreCount := Reference.coreCount
  threadsPerCore := Reference.threadsPerCore
  busWidth := Reference.busWidth
  clock := fallbackClock
  coreModel := fallbackCoreModel
  capabilities := fallbackCapabilities

end SystemSettings

namespace MemorySettings

def fallbackMainBase : ByteSize := ⟨Reference.mainBase⟩
def fallbackMainSize : ByteSize := ⟨Reference.mainSize⟩
def fallbackMmioBase : ByteSize := ⟨Reference.mmioBase⟩
def fallbackMmioSize : ByteSize := ⟨Reference.mmioSize⟩
def fallbackMmioChannelCount : Nat := Reference.mmioChannelCount
def fallbackLineSize : ByteSize := ⟨Reference.lineSize⟩
def fallbackMainConfigPath : String := Reference.mainConfigPath
def fallbackMmioConfigPath : String := Reference.mmioConfigPath
def fallbackMainOutputStem : String := Reference.mainOutputStem
def fallbackMmioOutputStem : String := Reference.mmioOutputStem

def fallback : MemorySettings where
  mainBase := fallbackMainBase
  mainSize := fallbackMainSize
  mmioBase := fallbackMmioBase
  mmioSize := fallbackMmioSize
  mmioChannelCount := fallbackMmioChannelCount
  mmioMode := default
  lineSize := fallbackLineSize
  mmioBacked := default
  mainConfigPath := fallbackMainConfigPath
  mmioConfigPath := fallbackMmioConfigPath
  mainOutputStem := fallbackMainOutputStem
  mmioOutputStem := fallbackMmioOutputStem

def reference : MemorySettings where
  mainBase := fallbackMainBase
  mainSize := fallbackMainSize
  mmioBase := fallbackMmioBase
  mmioSize := fallbackMmioSize
  mmioChannelCount := Reference.mmioChannelCount
  mmioMode := default
  lineSize := fallbackLineSize
  mmioBacked := false
  mainConfigPath := fallbackMainConfigPath
  mmioConfigPath := fallbackMmioConfigPath
  mainOutputStem := fallbackMainOutputStem
  mmioOutputStem := fallbackMmioOutputStem

end MemorySettings

namespace BridgeSettings

def fallbackLatency : Latency := .ofNanoseconds Reference.bridgeNanoseconds

def fallback : BridgeSettings where
  latency := fallbackLatency
  bypassLatency := default

def reference : BridgeSettings where
  latency := fallbackLatency
  bypassLatency := none

end BridgeSettings

namespace CacheSection

def empty : CacheSection := ⟨none, none, none, none, none, none, none⟩

def completedBy (written : CacheSection) (level : CacheParameters) : CacheParameters where
  size := written.size.getD level.size
  associativity := written.associativity.getD level.associativity
  tagLatency := written.tagLatency.getD level.tagLatency
  dataLatency := written.dataLatency.getD level.dataLatency
  responseLatency := written.responseLatency.getD level.responseLatency
  missRegisters := written.missRegisters.getD level.missRegisters
  targetsPerMiss := written.targetsPerMiss.getD level.targetsPerMiss

end CacheSection

namespace CacheSettings

def fallback : CacheSettings where
  l1Instruction := .l1
  l1Data := .l1
  l2 := .l2

def reference : CacheSettings where
  l1Instruction := .l1
  l1Data := .l1
  l2 := .l2

end CacheSettings

/-- The program has nothing to fall back to, so that a section must write it. -/
def WorkloadSettings.fallback (binary : String) : WorkloadSettings where
  binary := binary
  arguments := default
  environment := default
  openMp := default

namespace Configuration

def fallback : Configuration where
  system := .reference
  memory := .reference
  bridge := .reference
  cache := .reference
  workload := default

/-- The two-core reference machine. -/
def reference : Configuration where
  system := .reference
  memory := .reference
  bridge := .reference
  cache := .reference
  workload := none

end Configuration

/-! ## Reading settings -/

def MemorySettings.mainRange (memory : MemorySettings) : Except Fault AddressRange :=
  AddressRange.ofSize memory.mainBase.bytes memory.mainSize.bytes

def MemorySettings.mmioRange (memory : MemorySettings) : Except Fault AddressRange :=
  AddressRange.ofSize memory.mmioBase.bytes memory.mmioSize.bytes

def BridgeSettings.bypass (bridge : BridgeSettings) : Latency :=
  bridge.bypassLatency.getD bridge.latency

def WorkloadSettings.toWorkload (settings : WorkloadSettings) (threads : Nat) : Workload :=
  let workload : Workload := {
    binary := settings.binary
    arguments := settings.arguments
    environment := Environment.insertAll settings.environment [] }
  if settings.openMp then workload.withOpenMp threads else workload

namespace Configuration

/-- The hardware threads of all cores, as far as a machine word can count them. -/
def totalThreads (configuration : Configuration) : Nat :=
  min (configuration.system.coreCount * configuration.system.threadsPerCore) (UInt64.size - 1)

/-- Every setting lies in its domain, and the two windows have no address in common. -/
def validate (configuration : Configuration) : Except Fault Unit := do
  let system := configuration.system
  let memory := configuration.memory
  if system.coreCount = 0 then misconfigured .noCores
  if system.threadsPerCore = 0 then misconfigured .noThreads
  if system.busWidth = 0 then misconfigured .noBusWidth
  if memory.lineSize.bytes = 0 then misconfigured .noLineSize
  let main ← memory.mainRange
  let mmio ← memory.mmioRange
  if main.overlaps mmio then misconfigured (.overlappingWindows mmio main)
  if memory.mmioChannelCount = 0 then misconfigured .noChannels

end Configuration

end MemoryFabric
