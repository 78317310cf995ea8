import Mathlib.Data.List.Dedup
import MemoryFabric.Proofs.Machine.Delivery
import MemoryFabric.Proofs.Machine.Names

/-! What a machine is made of. The numbers of its nodes and edges follow from the channels, the
cores, and the capabilities of their models; every node is known by the part that it is, and
is of the kind of that part. -/

namespace MemoryFabric

open Netlist (Part)

def CoreModel.extent (model : CoreModel) : Nat :=
  Capability.all.countP model.supports

namespace CoreBinding

def optionalNode (binding : CoreBinding) : Capability → Option NodeId
  | .instructionWalker => binding.instructionWalker
  | .dataWalker => binding.dataWalker
  | .interruptController => binding.interruptRequestor

def nodes (binding : CoreBinding) : List NodeId :=
  [binding.instructionPort, binding.instructionCache, binding.dataPort, binding.dataSplitter,
    binding.cachedBridge, binding.bypassBridge, binding.dataCache] ++
      Capability.all.filterMap binding.optionalNode

end CoreBinding

def MachineNodes.all (nodes : MachineNodes) : List NodeId :=
  [nodes.systemBus, nodes.mainController] ++ nodes.mmioControllers ++
    [nodes.secondLevelBus, nodes.secondLevelCache] ++ nodes.cores.flatMap CoreBinding.nodes ++
      [nodes.systemPort]

structure MachineNodes.Kinds (nodes : MachineNodes) (graph : Graph)
    (configuration : Configuration) (main mmio : AddressRange) : Prop where
  systemBus : graph.kind? nodes.systemBus = some (.bus ⟨configuration.system.busWidth⟩)
  secondLevelBus : graph.kind? nodes.secondLevelBus = some (.bus ⟨configuration.system.busWidth⟩)
  secondLevelCache :
    graph.kind? nodes.secondLevelCache = some (.cache ⟨.l2, configuration.cache.l2⟩)
  mainController : graph.kind? nodes.mainController =
    some (.controller (Machine.mainController configuration.memory main))
  mmioControllers : ∀ (channel : Nat) (node : NodeId),
    nodes.mmioControllers[channel]? = some node →
      ∃ controller, graph.kind? node = some (.controller controller) ∧
        controller.channel = some channel
  systemPort :
    graph.kind? nodes.systemPort = some (.requestor ⟨.systemPort, none, [main, mmio]⟩)

structure CoreBinding.Kinds (binding : CoreBinding) (graph : Graph)
    (configuration : Configuration) (main mmio : AddressRange) (core : Nat) : Prop where
  instructionPort :
    graph.kind? binding.instructionPort =
      some (.requestor ⟨.instructionPort, some core, [main]⟩)
  dataPort :
    graph.kind? binding.dataPort = some (.requestor ⟨.dataPort, some core, [main, mmio]⟩)
  instructionCache :
    graph.kind? binding.instructionCache =
      some (.cache ⟨.l1Instruction, configuration.cache.l1Instruction⟩)
  dataCache :
    graph.kind? binding.dataCache = some (.cache ⟨.l1Data, configuration.cache.l1Data⟩)
  dataSplitter : graph.kind? binding.dataSplitter = some (.bus ⟨configuration.system.busWidth⟩)
  cachedBridge :
    graph.kind? binding.cachedBridge =
      some (.bridge ⟨[.whole main], configuration.bridge.latency⟩)
  bypassBridge :
    graph.kind? binding.bypassBridge =
      some (.bridge ⟨[.whole mmio], configuration.bridge.bypass⟩)
  instructionWalker : ∀ node, binding.instructionWalker = some node →
    graph.kind? node = some (.requestor ⟨.instructionWalker, some core, [main]⟩)
  dataWalker : ∀ node, binding.dataWalker = some node →
    graph.kind? node = some (.requestor ⟨.dataWalker, some core, [main]⟩)
  interruptRequestor : ∀ node, binding.interruptRequestor = some node →
    graph.kind? node = some (.requestor ⟨.interruptRequestor, some core, []⟩)

/-! ## Capabilities -/

namespace Surroundings

theorem nodup_supported (model : CoreModel) : (supported model).Nodup := by
  have all : Capability.all.Nodup := by decide
  exact all.filter _

theorem mem_supported_iff {model : CoreModel} {capability : Capability} :
    capability ∈ supported model ↔ capability ∈ model.capabilities := by
  have known : capability ∈ Capability.all := by cases capability <;> decide
  rw [supported, List.mem_filter, and_iff_right known, CoreModel.supports,
    List.contains_iff_mem]

end Surroundings

/-- It does not matter in which order and how often a capability is listed. -/
theorem CoreModel.extent_eq (model : CoreModel) :
    model.extent = model.capabilities.dedup.length := by
  rw [extent, ← Surroundings.length_supported]
  apply List.Perm.length_eq
  rw [List.perm_ext_iff_of_nodup (Surroundings.nodup_supported model) (List.nodup_dedup _)]
  intro capability
  rw [List.mem_dedup, Surroundings.mem_supported_iff]

/-! ## Numbers of nodes and of edges -/

theorem Netlist.Part.additive_sequence {α : Type} (measure : Netlist → Nat) {part : α → Part}
    {amount : α → Nat} (empty : measure .empty = 0)
    (append : ∀ first second, measure (first ++ second) = measure first + measure second)
    (own : ∀ item start, measure (part item start) = amount item) (items : List α)
    (start : Nat) : measure (Part.sequence (items.map part) start) = (items.map amount).sum := by
  induction items generalizing start with
  | nil => exact empty
  | cons item rest induction =>
      rw [List.map_cons, List.map_cons, List.sum_cons, Part.sequence, Part.followedBy, append,
        own, induction]

namespace Assembly

variable (assembly : Assembly)

theorem size_coreNetlist :
    assembly.coreNetlist.size = assembly.memoryNetlist.size +
      (assembly.assignments.map fun assignment => 7 + assignment.model.extent).sum := by
  rw [coreNetlist, Netlist.size_place]
  exact congrArg (assembly.memoryNetlist.size + ·) (Netlist.Part.additive_sequence Netlist.size
    Netlist.size_empty Netlist.size_append Surroundings.size_corePart _ _)

theorem size_netlist_eq :
    assembly.netlist.size = 5 + assembly.plan.channels.length +
      (assembly.assignments.map fun assignment => 7 + assignment.model.extent).sum := by
  rw [size_netlist, size_coreNetlist, size_memoryNetlist, size_controllerNetlist, length_bank]
  omega

theorem length_links_corePart {surroundings : Surroundings} (assignment : CoreAssignment)
    (start : Nat) :
    (surroundings.corePart assignment start).links.length = 8 + assignment.model.extent := by
  rw [Surroundings.corePart, Part.followedBy, Surroundings.optionalParts_eq,
    Netlist.links_append, List.length_append, List.length_map, bankIds, List.length_map,
    List.length_range', Surroundings.length_supported]
  rfl

theorem length_links :
    assembly.netlist.links.length = 4 + assembly.plan.channels.length +
      (assembly.assignments.map fun assignment => 8 + assignment.model.extent).sum := by
  have cores : (assembly.coreParts assembly.memoryNetlist.size).links.length =
      (assembly.assignments.map fun assignment => 8 + assignment.model.extent).sum :=
    Netlist.Part.additive_sequence (·.links.length) rfl (fun _ _ => List.length_append)
      length_links_corePart _ _
  have bank : (bankPart ⟨0⟩ assembly.bank 2).links.length = assembly.plan.channels.length := by
    rw [bankPart, List.length_map, bankIds, List.length_map, List.length_range', length_bank]
  have whole : assembly.netlist.links.length =
      1 + (bankPart ⟨0⟩ assembly.bank 2).links.length + 2 +
        (assembly.coreParts assembly.memoryNetlist.size).links.length + 1 := by
    rw [netlist, Netlist.length_links_place, coreNetlist, Netlist.length_links_place,
      memoryNetlist, Netlist.length_links_place, controllerNetlist, Netlist.length_links_place]
    rfl
  rw [whole, bank, cores]
  omega

/-! ## The nodes by their parts -/

theorem bankIds_append {start first middle : Nat} (meet : start + first = middle)
    (second : Nat) :
    bankIds start first ++ bankIds middle second = bankIds start (first + second) := by
  rw [← meet, bankIds, bankIds, bankIds, ← List.map_append, List.range'_append_1]

end Assembly

namespace Surroundings

theorem optionalNode_binding (assignment : CoreAssignment) (start : Nat)
    (capability : Capability) :
    (binding assignment start).optionalNode capability =
      optionalNode? assignment.model (start + 7) capability := by
  cases capability <;> rfl

theorem nodes_binding (assignment : CoreAssignment) (start : Nat) :
    (binding assignment start).nodes = Assembly.bankIds start (7 + assignment.model.extent) := by
  have optional : Capability.all.filterMap (optionalNode? assignment.model (start + 7)) =
      Assembly.bankIds (start + 7) assignment.model.extent := by
    rw [CoreModel.extent]
    simp only [Capability.all, List.filterMap_cons, List.filterMap_nil, optionalNode?,
      portsBefore_dataWalker, portsBefore_interruptController, List.countP_cons, List.countP_nil]
    cases assignment.model.supports .instructionWalker <;>
      cases assignment.model.supports .dataWalker <;>
        cases assignment.model.supports .interruptController <;> rfl
  rw [CoreBinding.nodes, funext (optionalNode_binding assignment start), optional]
  exact Assembly.bankIds_append (Eq.refl (start + 7)) assignment.model.extent

theorem nodes_bindings (start : Nat) (assignments : List CoreAssignment) :
    (bindings start assignments).flatMap CoreBinding.nodes = Assembly.bankIds start
      (assignments.map fun assignment => 7 + assignment.model.extent).sum := by
  induction assignments generalizing start with
  | nil => rfl
  | cons assignment rest induction =>
      rw [bindings, List.flatMap_cons, nodes_binding, induction, List.map_cons, List.sum_cons]
      exact Assembly.bankIds_append rfl _

end Surroundings

namespace Assembly

variable (assembly : Assembly)

/-- The parts of a machine are all of its nodes, and come in wiring order. -/
theorem all_nodes : assembly.nodes.all = bankIds 0 assembly.netlist.size := by
  have cores := Surroundings.nodes_bindings assembly.memoryNetlist.size assembly.assignments
  have order : assembly.nodes.all =
      bankIds 0 2 ++ bankIds 2 assembly.bank.length ++ bankIds assembly.controllerNetlist.size 2 ++
        assembly.nodes.cores.flatMap CoreBinding.nodes ++
          bankIds assembly.coreNetlist.size 1 := rfl
  -- Each group of nodes begins where the one before it ends.
  have end_bank : 0 + (2 + assembly.bank.length) = assembly.controllerNetlist.size := by
    rw [Nat.zero_add, size_controllerNetlist]
  have end_memory : 0 + (2 + assembly.bank.length + 2) = assembly.memoryNetlist.size := by
    rw [Nat.zero_add, size_memoryNetlist, size_controllerNetlist]
  have end_cores : 0 + (2 + assembly.bank.length + 2 + (assembly.assignments.map fun assignment =>
      7 + assignment.model.extent).sum) = assembly.coreNetlist.size := by
    rw [Nat.zero_add, size_coreNetlist, ← end_memory, Nat.zero_add]
  rw [order, nodes, cores, bankIds_append rfl, bankIds_append end_bank, bankIds_append end_memory,
    bankIds_append end_cores, size_netlist, ← end_cores, Nat.zero_add]

end Assembly

/-! ## The kinds of the nodes -/

theorem Surroundings.getElem?_supported {model : CoreModel} {capability : Capability}
    (supports : model.supports capability = true) :
    (supported model)[portsBefore model capability]? = some capability := by
  simp only [supported, Capability.all, List.filter_cons, List.filter_nil]
  cases capability with
  | instructionWalker =>
      rw [if_pos supports]
      rfl
  | dataWalker =>
      rw [portsBefore_dataWalker, if_pos supports]
      cases model.supports .instructionWalker <;> rfl
  | interruptController =>
      rw [portsBefore_interruptController, if_pos supports]
      cases model.supports .instructionWalker <;> cases model.supports .dataWalker <;> rfl

theorem Surroundings.isSome_optionalNode (assignment : CoreAssignment) (start : Nat)
    (capability : Capability) :
    ((binding assignment start).optionalNode capability).isSome =
      assignment.model.supports capability := by
  rw [optionalNode_binding, optionalNode?]
  cases assignment.model.supports capability <;> rfl

namespace Assembly

variable {assembly : Assembly} {graph : Graph} {owner : UInt64 → Nat}
  {assignment : CoreAssignment} {start : Nat}

theorem kind?_optionalNode (realizes : graph.Realizes assembly.netlist)
    (core : assembly.CoreAt assignment start) (capability : Capability) {node : NodeId}
    (found : (Surroundings.binding assignment start).optionalNode capability = some node) :
    graph.kind? node = some (.requestor ⟨Surroundings.optionalRole capability,
      some assignment.index, assembly.surroundings.optionalRanges capability⟩) := by
  rw [Surroundings.optionalNode_binding, Surroundings.optionalNode?] at found
  split at found
  case isTrue supports =>
    cases found
    exact realizes.kind?_of_station
      (core.optional _ (Surroundings.getElem?_supported supports))
  case isFalse => cases found

theorem kinds_binding (realizes : graph.Realizes assembly.netlist)
    (core : assembly.CoreAt assignment start) :
    (Surroundings.binding assignment start).Kinds graph assembly.configuration assembly.main
      assembly.mmio assignment.index where
  instructionPort := realizes.kind?_of_station (core.base 0 rfl rfl)
  instructionCache := realizes.kind?_of_station (core.base 1 rfl rfl)
  dataPort := realizes.kind?_of_station (core.base 2 rfl rfl)
  dataSplitter := realizes.kind?_of_station (core.base 3 rfl rfl)
  cachedBridge := realizes.kind?_of_station (core.base 4 rfl rfl)
  bypassBridge := realizes.kind?_of_station (core.base 5 rfl rfl)
  dataCache := realizes.kind?_of_station (core.base 6 rfl rfl)
  instructionWalker _ := kind?_optionalNode realizes core .instructionWalker
  dataWalker _ := kind?_optionalNode realizes core .dataWalker
  interruptRequestor _ := kind?_optionalNode realizes core .interruptController

theorem Planned.kinds_nodes (planned : assembly.Planned owner)
    (realizes : graph.Realizes assembly.netlist) :
    assembly.nodes.Kinds graph assembly.configuration assembly.main assembly.mmio where
  systemBus := realizes.kind?_of_station assembly.systemBus_station
  secondLevelBus := realizes.kind?_of_station assembly.secondLevelBus_station
  secondLevelCache := realizes.kind?_of_station assembly.secondLevelCache_station
  mainController := realizes.kind?_of_station assembly.mainController_station
  mmioControllers channel node found := by
    have inside := (List.getElem?_eq_some_iff.mp found).1
    rw [nodes, bankIds, List.length_map, List.length_range'] at inside
    rw [nodes, getElem?_bankIds inside] at found
    cases found
    rw [length_bank] at inside
    have share := List.getElem?_eq_getElem inside
    have controller := assembly.bank_eq channel
    rw [share, Option.map_some] at controller
    exact ⟨_, realizes.kind?_of_station (assembly.bank_station channel controller),
      congrArg some (planned.partition.numbered share)⟩
  systemPort := realizes.kind?_of_station assembly.systemPort_station

end Assembly

/-! ## The inventory -/

structure Machine.Inventory (machine : Machine) (blueprint : Blueprint)
    (main mmio : AddressRange) : Prop where
  size : machine.graph.size = 5 + machine.plan.channels.length +
    ((List.range blueprint.configuration.system.coreCount).map fun core =>
      7 + (blueprint.modelOf core).extent).sum
  edges : machine.graph.edges.size = 4 + machine.plan.channels.length +
    ((List.range blueprint.configuration.system.coreCount).map fun core =>
      8 + (blueprint.modelOf core).extent).sum
  distinct : (machine.graph.nodes.map (·.2.name)).Nodup
  found : ∀ node, node.index < machine.graph.size →
    machine.graph.find? (machine.graph.nameOf node) = some node
  /-- The parts are all nodes that there are, each of them once. -/
  parts : machine.nodes.all = machine.graph.nodes.map (·.1) ∧ machine.nodes.all.Nodup
  mmioControllers : machine.nodes.mmioControllers.length = machine.plan.channels.length
  cores : machine.nodes.cores.length = blueprint.configuration.system.coreCount
  kinds : machine.nodes.Kinds machine.graph blueprint.configuration main mmio
  coreKinds : ∀ core binding, machine.core? core = some binding →
    binding.Kinds machine.graph blueprint.configuration main mmio core
  optional : ∀ core binding, machine.core? core = some binding → ∀ capability,
    (binding.optionalNode capability).isSome = (blueprint.modelOf core).supports capability

theorem Blueprint.Drafted.inventory {blueprint : Blueprint} {assembly : Assembly} {graph : Graph}
    (drafted : blueprint.Drafted assembly) (realizes : graph.Realizes assembly.netlist) :
    (assembly.machine graph).Inventory blueprint assembly.main assembly.mmio := by
  rcases drafted.exists_planned with ⟨owner, planned⟩
  have assigned := Blueprint.eq_map_assigned drafted.assignments
  have channels : (assembly.plan.channels.map (·.channel)).Nodup := by
    rw [planned.partition.numbers]
    exact List.nodup_range
  have cores : (assembly.assignments.map (·.index)).Nodup := by
    rw [assigned, List.map_map]
    exact List.nodup_range.map Function.injective_id
  have distinct : (graph.nodes.map (·.2.name)).Nodup := by
    have names : graph.nodes.map (·.2.name) = assembly.duties.map Duty.name := by
      rw [← assembly.map_name_nodes, ← realizes.map_nodes, List.map_map]
      rfl
    rw [names]
    exact (assembly.nodup_duties channels cores).map Duty.name_injective
  have parts : assembly.nodes.all = graph.nodes.map (·.1) := by
    rw [assembly.all_nodes, graph.map_fst_nodes, realizes.size]
  constructor
  case size =>
    rw [Assembly.machine, realizes.size, assembly.size_netlist_eq, assigned, List.map_map]
    rfl
  case edges =>
    rw [Assembly.machine, realizes.edges, assembly.length_links, assigned, List.map_map]
    rfl
  case distinct => exact distinct
  case found => exact fun _ inside => Graph.find?_nameOf distinct inside
  case parts =>
    refine ⟨parts, ?_⟩
    rw [Assembly.machine, assembly.all_nodes]
    exact Assembly.nodup_bankIds 0 assembly.netlist.size
  case mmioControllers =>
    rw [Assembly.machine, Assembly.nodes, Assembly.bankIds, List.length_map, List.length_range',
      Assembly.length_bank]
  case cores => exact drafted.length_cores
  case kinds =>
    rw [← drafted.configuration]
    exact planned.kinds_nodes realizes
  case coreKinds =>
    intro core binding bound
    rcases drafted.exists_coreAt_assigned bound with ⟨start, stands, rfl⟩
    rw [← drafted.configuration]
    exact Assembly.kinds_binding realizes stands
  case optional =>
    intro core binding bound capability
    rcases drafted.exists_coreAt_assigned bound with ⟨start, stands, rfl⟩
    exact Surroundings.isSome_optionalNode (blueprint.assigned core) start capability

/-- A machine has its inventory, whatever its settings are and whatever models its cores are
given. What counts of a configured model are the capabilities that are listed for it, each
of them once. -/
theorem Machine.inventory_of_assembled {blueprint : Blueprint} {machine : Machine}
    (assembled : assemble blueprint = .ok machine) :
    let configuration := blueprint.configuration
    (configuration.memory.mmioChannelCount < 2 ^ 32 →
      machine.plan.channels.length = configuration.memory.mmioChannelCount) ∧
    (∀ core, blueprint.models.get? core = none →
      (blueprint.modelOf core).extent = configuration.system.capabilities.dedup.length) ∧
    ∃ main mmio, configuration.memory.mainRange = .ok main ∧
      configuration.memory.mmioRange = .ok mmio ∧ machine.Inventory blueprint main mmio := by
  intro configuration
  rcases exists_drafted assembled with ⟨assembly, drafted, graph, realizes, rfl⟩
  refine ⟨drafted.length_channels, ?_, assembly.main, assembly.mmio, drafted.main, drafted.mmio,
    drafted.inventory realizes⟩
  intro core given
  rw [Blueprint.modelOf, given, CoreModel.extent_eq]
  rfl

/-- Two cores, of which the first has the configured capabilities and the second has none. -/
def Blueprint.unlike : Blueprint where
  configuration := { Configuration.reference with
    system := { SystemSettings.reference with
      capabilities := [.dataWalker, .instructionWalker, .dataWalker] } }
  models := [(1, ⟨"bare", []⟩)]

theorem Blueprint.feasible_unlike : Blueprint.unlike.Feasible where
  valid := by decide +kernel
  exist core named := by
    rcases named with model | workload
    · cases List.mem_singleton.mp model
      decide
    · cases workload
  planned := ⟨_, rfl⟩
  staffed core workloads found := by cases found

theorem Machine.inventory_of_assembled_unlike : ∃ machine, assemble .unlike = .ok machine ∧
    machine.graph.size = 23 ∧ machine.graph.edges.size = 24 ∧
      machine.graph.find? (machine.graph.nameOf ⟨22⟩) = some ⟨22⟩ := by
  rcases Blueprint.feasible_unlike.assembles with ⟨machine, assembled⟩
  rcases inventory_of_assembled assembled with ⟨counted, -, main, mmio, -, -, inventory⟩
  have channels : machine.plan.channels.length = 2 := counted (by decide)
  have size : machine.graph.size = 23 := by
    rw [inventory.size, channels]
    decide
  have edges : machine.graph.edges.size = 24 := by
    rw [inventory.edges, channels]
    decide
  exact ⟨machine, assembled, size, edges, inventory.found ⟨22⟩ (by rw [size]; decide)⟩

end MemoryFabric
