import MemoryFabric.Check.All
import MemoryFabric.Machine.Core

/-! Whole machines: the memory side with its controllers, the shared second-level
cache, the cores, and a port for the host. A machine passes all checks. -/

namespace MemoryFabric

structure MachineNodes where
  systemBus : NodeId
  secondLevelBus : NodeId
  secondLevelCache : NodeId
  mainController : NodeId
  mmioControllers : List NodeId
  /-- The port through which the host loads programs. -/
  systemPort : NodeId
  cores : List CoreBinding
deriving DecidableEq

structure Machine where
  graph : Graph
  nodes : MachineNodes
  ranges : List AddressRange
  /-- The ranges that are mapped as they are and never cached. -/
  uncachedRanges : List AddressRange
  plan : InterleavePlan
  threadsPerCore : Nat

namespace Machine

def mainController (memory : MemorySettings) (main : AddressRange) : MemoryController where
  predicate := .whole main
  configPath := memory.mainConfigPath
  outputDirectory := MemoryController.singleDirectory memory.mainOutputStem

def wireController (systemBus : NodeId) (controller : MemoryController) : Wiring NodeId := do
  let node ← Graph.addNode s!"mmio_ch{controller.channel.getD 0}" (.controller controller)
  Graph.link systemBus node
  return node

def wire (configuration : Configuration) (main mmio : AddressRange) (plan : InterleavePlan)
    (assignments : List CoreAssignment) : Wiring MachineNodes := do
  let memory := configuration.memory
  let bus : Bus := ⟨configuration.system.busWidth⟩
  let systemBus ← Graph.addNode "membus" (.bus bus)
  let mainController ← Graph.addNode "main_ctrl" (.controller (mainController memory main))
  Graph.link systemBus mainController
  let mmioControllers ←
    (MemoryController.bank plan memory.mmioOutputStem memory.mmioConfigPath
      memory.mmioBacked).mapM (wireController systemBus)
  let secondLevelBus ← Graph.addNode "l2bus" (.bus bus)
  let secondLevelCache ← Graph.addNode "l2cache" (.cache ⟨.l2, configuration.cache.l2⟩)
  Graph.link secondLevelBus secondLevelCache
  Graph.link secondLevelCache systemBus
  let surroundings : Surroundings := { configuration, main, mmio, systemBus, secondLevelBus }
  let cores ← assignments.mapM surroundings.wireCore
  let systemPort ← Graph.addNode "system_port" (.requestor ⟨.systemPort, none, [main, mmio]⟩)
  Graph.link systemPort systemBus
  return {
    systemBus, secondLevelBus, secondLevelCache, mainController, mmioControllers, systemPort
    cores }

/-- The machine of a blueprint, or the first thing that is wrong with it. -/
def assemble (blueprint : Blueprint) : Except Fault Machine := do
  let configuration := blueprint.configuration
  let memory := configuration.memory
  configuration.validate
  blueprint.checkCores
  let main ← memory.mainRange
  let mmio ← memory.mmioRange
  let plan ← InterleavePlan.ofMode memory.lineSize.bytes mmio memory.mmioChannelCount
    memory.mmioMode
  let assignments ← blueprint.assignments
  match (wire configuration main mmio plan assignments).run Graph.empty with
  | .error fault _ => .error fault
  | .ok nodes graph =>
      let ranges := [main, mmio]
      Check.all graph nodes.systemBus ranges
      return {
        graph, nodes, ranges, plan
        uncachedRanges := [mmio]
        threadsPerCore := configuration.system.threadsPerCore }

def core? (machine : Machine) (index : Nat) : Option CoreBinding :=
  machine.nodes.cores[index]?

def route (machine : Machine) (origin : NodeId) (address : UInt64) : Except Fault Route :=
  machine.graph.route origin address

/-- The controllers with their names, that of main memory first. -/
def controllers (machine : Machine) : List (String × MemoryController) :=
  (machine.nodes.mainController :: machine.nodes.mmioControllers).filterMap fun node =>
    match machine.graph.node? node with
    | some ⟨name, .controller controller⟩ => some (name, controller)
    | _ => none

def outputDirectories (machine : Machine) : List String :=
  machine.controllers.map (·.2.outputDirectory)

end Machine

end MemoryFabric
