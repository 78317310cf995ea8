import MemoryFabric.Machine.Basic
import MemoryFabric.Proofs.Graph.Netlist

/-! The netlist of a machine: the memory side, one part for each core, and the
port of the host. Nodes are numbered in the order in which they are wired. -/

namespace MemoryFabric

open Netlist (Part)

namespace Surroundings

/-! ## One core -/

abbrev instructionPort (surroundings : Surroundings) (core : Nat) : Node :=
  ⟨s!"core{core}.icache_port", .requestor ⟨.instructionPort, some core, [surroundings.main]⟩⟩

abbrev instructionCache (surroundings : Surroundings) (core : Nat) : Node :=
  ⟨s!"core{core}.icache", .cache ⟨.l1Instruction, surroundings.configuration.cache.l1Instruction⟩⟩

abbrev dataPort (surroundings : Surroundings) (core : Nat) : Node :=
  ⟨s!"core{core}.dcache_port",
    .requestor ⟨.dataPort, some core, [surroundings.main, surroundings.mmio]⟩⟩

abbrev dataSplitter (surroundings : Surroundings) (core : Nat) : Node :=
  ⟨s!"core{core}.dsplit", .bus ⟨surroundings.configuration.system.busWidth⟩⟩

abbrev cachedBridge (surroundings : Surroundings) (core : Nat) : Node :=
  ⟨s!"core{core}.to_l1d",
    .bridge ⟨[.whole surroundings.main], surroundings.configuration.bridge.latency⟩⟩

abbrev bypassBridge (surroundings : Surroundings) (core : Nat) : Node :=
  ⟨s!"core{core}.bypass_mmio",
    .bridge ⟨[.whole surroundings.mmio], surroundings.configuration.bridge.bypass⟩⟩

abbrev dataCache (surroundings : Surroundings) (core : Nat) : Node :=
  ⟨s!"core{core}.dcache", .cache ⟨.l1Data, surroundings.configuration.cache.l1Data⟩⟩

def coreNodes (surroundings : Surroundings) (core : Nat) : List Node :=
  [surroundings.instructionPort core, surroundings.instructionCache core,
    surroundings.dataPort core, surroundings.dataSplitter core, surroundings.cachedBridge core,
    surroundings.bypassBridge core, surroundings.dataCache core]

def coreLinks (surroundings : Surroundings) (start : Nat) : List Link :=
  [⟨⟨start⟩, ⟨start + 1⟩⟩, ⟨⟨start + 1⟩, surroundings.secondLevelBus⟩,
    ⟨⟨start + 2⟩, ⟨start + 3⟩⟩, ⟨⟨start + 3⟩, ⟨start + 4⟩⟩, ⟨⟨start + 3⟩, ⟨start + 5⟩⟩,
    ⟨⟨start + 4⟩, ⟨start + 6⟩⟩, ⟨⟨start + 6⟩, surroundings.secondLevelBus⟩,
    ⟨⟨start + 5⟩, surroundings.systemBus⟩]

def basePart (surroundings : Surroundings) (core : Nat) : Part := fun start =>
  ⟨surroundings.coreNodes core, surroundings.coreLinks start⟩

def optionalPort (surroundings : Surroundings) (core : Nat) (capability : Capability) : Node :=
  ⟨optionalName core capability,
    .requestor ⟨optionalRole capability, some core, surroundings.optionalRanges capability⟩⟩

def optionalPart (surroundings : Surroundings) (core : Nat) (model : CoreModel)
    (capability : Capability) : Part := fun start =>
  if model.supports capability then
    ⟨[surroundings.optionalPort core capability], [⟨⟨start⟩, surroundings.systemBus⟩]⟩
  else .empty

def optionalParts (surroundings : Surroundings) (core : Nat) (model : CoreModel) : Part :=
  .sequence (Capability.all.map (surroundings.optionalPart core model))

def corePart (surroundings : Surroundings) (assignment : CoreAssignment) : Part :=
  (surroundings.basePart assignment.index).followedBy
    (surroundings.optionalParts assignment.index assignment.model)

/-- How many ports a model adds before that of a capability. -/
def portsBefore (model : CoreModel) (capability : Capability) : Nat :=
  (Capability.all.takeWhile (· ≠ capability)).countP model.supports

def optionalNode? (model : CoreModel) (start : Nat) (capability : Capability) : Option NodeId :=
  if model.supports capability then some ⟨start + portsBefore model capability⟩ else none

def binding (assignment : CoreAssignment) (start : Nat) : CoreBinding where
  index := assignment.index
  model := assignment.model.name
  instructionPort := ⟨start⟩
  dataPort := ⟨start + 2⟩
  instructionCache := ⟨start + 1⟩
  dataCache := ⟨start + 6⟩
  dataSplitter := ⟨start + 3⟩
  cachedBridge := ⟨start + 4⟩
  bypassBridge := ⟨start + 5⟩
  instructionWalker := optionalNode? assignment.model (start + 7) .instructionWalker
  dataWalker := optionalNode? assignment.model (start + 7) .dataWalker
  interruptRequestor := optionalNode? assignment.model (start + 7) .interruptController
  workloads := assignment.workloads

def coreSize (model : CoreModel) : Nat :=
  7 + Capability.all.countP model.supports

def bindings : (start : Nat) → List CoreAssignment → List CoreBinding
  | _, [] => []
  | start, assignment :: rest =>
      binding assignment start :: bindings (start + coreSize assignment.model) rest

end Surroundings

structure Assembly where
  configuration : Configuration
  main : AddressRange
  mmio : AddressRange
  plan : InterleavePlan
  assignments : List CoreAssignment

namespace Assembly

/-! ## The whole machine -/

def bank (assembly : Assembly) : List MemoryController :=
  let memory := assembly.configuration.memory
  MemoryController.bank assembly.plan memory.mmioOutputStem memory.mmioConfigPath
    memory.mmioBacked

def bankName (controller : MemoryController) : String :=
  s!"mmio_ch{controller.channel.getD 0}"

def bankNode (controller : MemoryController) : Node :=
  ⟨bankName controller, .controller controller⟩

def bankIds (start count : Nat) : List NodeId :=
  (List.range' start count).map NodeId.mk

def bankPart (systemBus : NodeId) (controllers : List MemoryController) : Part := fun start =>
  ⟨controllers.map bankNode, (bankIds start controllers.length).map (Link.mk systemBus)⟩

def mainNetlist (assembly : Assembly) : Netlist :=
  ⟨[⟨"membus", .bus ⟨assembly.configuration.system.busWidth⟩⟩,
      ⟨"main_ctrl",
        .controller (Machine.mainController assembly.configuration.memory assembly.main)⟩],
    [⟨⟨0⟩, ⟨1⟩⟩]⟩

def controllerNetlist (assembly : Assembly) : Netlist :=
  assembly.mainNetlist.place (bankPart ⟨0⟩ assembly.bank)

def secondLevelPart (assembly : Assembly) : Part := fun start =>
  ⟨[⟨"l2bus", .bus ⟨assembly.configuration.system.busWidth⟩⟩,
      ⟨"l2cache", .cache ⟨.l2, assembly.configuration.cache.l2⟩⟩],
    [⟨⟨start⟩, ⟨start + 1⟩⟩, ⟨⟨start + 1⟩, ⟨0⟩⟩]⟩

def memoryNetlist (assembly : Assembly) : Netlist :=
  assembly.controllerNetlist.place assembly.secondLevelPart

def surroundings (assembly : Assembly) : Surroundings where
  configuration := assembly.configuration
  main := assembly.main
  mmio := assembly.mmio
  systemBus := ⟨0⟩
  secondLevelBus := ⟨assembly.controllerNetlist.size⟩

def coreParts (assembly : Assembly) : Part :=
  .sequence (assembly.assignments.map assembly.surroundings.corePart)

def hostPart (assembly : Assembly) : Part := fun start =>
  ⟨[⟨"system_port", .requestor ⟨.systemPort, none, [assembly.main, assembly.mmio]⟩⟩],
    [⟨⟨start⟩, ⟨0⟩⟩]⟩

def coreNetlist (assembly : Assembly) : Netlist :=
  assembly.memoryNetlist.place assembly.coreParts

def netlist (assembly : Assembly) : Netlist :=
  assembly.coreNetlist.place assembly.hostPart

def nodes (assembly : Assembly) : MachineNodes where
  systemBus := ⟨0⟩
  secondLevelBus := ⟨assembly.controllerNetlist.size⟩
  secondLevelCache := ⟨assembly.controllerNetlist.size + 1⟩
  mainController := ⟨1⟩
  mmioControllers := bankIds 2 assembly.bank.length
  systemPort := ⟨assembly.coreNetlist.size⟩
  cores := Surroundings.bindings assembly.memoryNetlist.size assembly.assignments

end Assembly

end MemoryFabric
