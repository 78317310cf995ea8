import MemoryFabric.Graph.Wiring
import MemoryFabric.Machine.Blueprint

/-! The wiring of one core. Instructions go through their cache to the second
level. Data goes to a splitter, which sends main memory through the data cache
and the MMIO window around the caches. -/

namespace MemoryFabric

structure CoreBinding where
  index : Nat
  model : String
  instructionPort : NodeId
  dataPort : NodeId
  instructionCache : NodeId
  dataCache : NodeId
  /-- The crossbar that tells the two windows apart. -/
  dataSplitter : NodeId
  cachedBridge : NodeId
  bypassBridge : NodeId
  instructionWalker : Option NodeId
  dataWalker : Option NodeId
  interruptRequestor : Option NodeId
  workloads : List Workload
deriving DecidableEq

structure Surroundings where
  configuration : Configuration
  main : AddressRange
  mmio : AddressRange
  systemBus : NodeId
  secondLevelBus : NodeId

namespace Surroundings

def optionalRole : Capability → RequestorRole
  | .instructionWalker => .instructionWalker
  | .dataWalker => .dataWalker
  | .interruptController => .interruptRequestor

/-- Walkers read their tables from main memory. Interrupts go to other cores and
not to memory. -/
def optionalRanges (surroundings : Surroundings) : Capability → List AddressRange
  | .instructionWalker | .dataWalker => [surroundings.main]
  | .interruptController => []

def optionalName (core : Nat) : Capability → String
  | .instructionWalker => s!"core{core}.itb_walker"
  | .dataWalker => s!"core{core}.dtb_walker"
  | .interruptController => s!"core{core}.interrupts"

def wireOptional (surroundings : Surroundings) (core : Nat) (model : CoreModel)
    (capability : Capability) : Wiring (Option NodeId) := do
  if model.supports capability then
    let requestor : Requestor :=
      ⟨optionalRole capability, some core, surroundings.optionalRanges capability⟩
    let node ← Graph.addNode (optionalName core capability) (.requestor requestor)
    Graph.link node surroundings.systemBus
    return some node
  else return none

def wireCore (surroundings : Surroundings) (assignment : CoreAssignment) :
    Wiring CoreBinding := do
  let core := assignment.index
  let cache := surroundings.configuration.cache
  let bridge := surroundings.configuration.bridge
  let instructionPort ← Graph.addNode s!"core{core}.icache_port"
    (.requestor ⟨.instructionPort, some core, [surroundings.main]⟩)
  let instructionCache ← Graph.addNode s!"core{core}.icache"
    (.cache ⟨.l1Instruction, cache.l1Instruction⟩)
  Graph.link instructionPort instructionCache
  Graph.link instructionCache surroundings.secondLevelBus
  let dataPort ← Graph.addNode s!"core{core}.dcache_port"
    (.requestor ⟨.dataPort, some core, [surroundings.main, surroundings.mmio]⟩)
  let dataSplitter ← Graph.addNode s!"core{core}.dsplit"
    (.bus ⟨surroundings.configuration.system.busWidth⟩)
  Graph.link dataPort dataSplitter
  let cachedBridge ← Graph.addNode s!"core{core}.to_l1d"
    (.bridge ⟨[.whole surroundings.main], bridge.latency⟩)
  let bypassBridge ← Graph.addNode s!"core{core}.bypass_mmio"
    (.bridge ⟨[.whole surroundings.mmio], bridge.bypass⟩)
  Graph.link dataSplitter cachedBridge
  Graph.link dataSplitter bypassBridge
  let dataCache ← Graph.addNode s!"core{core}.dcache" (.cache ⟨.l1Data, cache.l1Data⟩)
  Graph.link cachedBridge dataCache
  Graph.link dataCache surroundings.secondLevelBus
  Graph.link bypassBridge surroundings.systemBus
  let optional := surroundings.wireOptional core assignment.model
  let instructionWalker ← optional .instructionWalker
  let dataWalker ← optional .dataWalker
  let interruptRequestor ← optional .interruptController
  return {
    index := core
    model := assignment.model.name
    instructionPort, dataPort, instructionCache, dataCache, dataSplitter
    cachedBridge, bypassBridge, instructionWalker, dataWalker, interruptRequestor
    workloads := assignment.workloads }

end Surroundings

end MemoryFabric
