import Mathlib.Data.List.Nodup
import MemoryFabric.Proofs.Machine.Stations
import MemoryFabric.Proofs.Text.Numeral

/-! Names of the nodes of a machine. What a node is for settles its name, and no two nodes
are for the same thing; so the name of a node tells it from all others, however many cores
and channels there are. -/

namespace MemoryFabric

open Netlist (Part)

inductive CoreDuty where
  | instructionPort
  | instructionCache
  | dataPort
  | dataSplitter
  | cachedBridge
  | bypassBridge
  | dataCache
  | optional (capability : Capability)
deriving DecidableEq

inductive Duty where
  | systemBus
  | mainController
  | channel (number : Nat)
  | secondLevelBus
  | secondLevelCache
  | core (index : Nat) (duty : CoreDuty)
  | systemPort

def CoreDuty.suffix : CoreDuty → String
  | .instructionPort => ".icache_port"
  | .instructionCache => ".icache"
  | .dataPort => ".dcache_port"
  | .dataSplitter => ".dsplit"
  | .cachedBridge => ".to_l1d"
  | .bypassBridge => ".bypass_mmio"
  | .dataCache => ".dcache"
  | .optional .instructionWalker => ".itb_walker"
  | .optional .dataWalker => ".dtb_walker"
  | .optional .interruptController => ".interrupts"

namespace CoreDuty

def base : List CoreDuty :=
  [.instructionPort, .instructionCache, .dataPort, .dataSplitter, .cachedBridge, .bypassBridge,
    .dataCache]

def all : List CoreDuty :=
  base ++ Capability.all.map CoreDuty.optional

def ofSuffix? (text : String) : Option CoreDuty :=
  all.find? (·.suffix = text)

theorem ofSuffix?_suffix (duty : CoreDuty) : ofSuffix? duty.suffix = some duty := by
  cases duty with
  | optional capability => cases capability <;> rfl
  | _ => rfl

/-- No digit begins a suffix, so that the number before it ends where it begins. -/
theorem suffix_stops (duty : CoreDuty) (character : Char)
    (first : duty.suffix.toList.head? = some character) :
    Text.isDecimalDigit character = false := by
  have dot : duty.suffix.toList.head? = some '.' := by
    cases duty with
    | optional capability => cases capability <;> rfl
    | _ => rfl
  rw [dot] at first
  cases first
  decide

theorem suffix_injective : Function.Injective suffix := by
  intro first second same
  have read := congrArg ofSuffix? same
  rw [ofSuffix?_suffix, ofSuffix?_suffix] at read
  exact Option.some.inj read

end CoreDuty

namespace Duty

def name : Duty → String
  | .systemBus => "membus"
  | .mainController => "main_ctrl"
  | .channel number => "mmio_ch" ++ toString number
  | .secondLevelBus => "l2bus"
  | .secondLevelCache => "l2cache"
  | .core index duty => "core" ++ toString index ++ duty.suffix
  | .systemPort => "system_port"

/-! ## Names by what the nodes are for -/

def letters : Duty → List Char
  | .systemBus => ['m', 'e']
  | .mainController => ['m', 'a']
  | .channel _ => ['m', 'm']
  | .secondLevelBus | .secondLevelCache => ['l', '2']
  | .core _ _ => ['c', 'o']
  | .systemPort => ['s', 'y']

theorem take_name (duty : Duty) : duty.name.toList.take 2 = duty.letters := by
  cases duty with
  | channel number =>
      rw [name, String.toList_append]
      rfl
  | core index duty =>
      rw [name, String.append_assoc, String.toList_append]
      rfl
  | _ => rfl

theorem name_injective : Function.Injective name := by
  intro first second same
  have letters : first.letters = second.letters := by
    rw [← take_name, ← take_name, same]
  cases first with
  | systemBus =>
      cases second with
      | systemBus => rfl
      | _ => cases letters
  | mainController =>
      cases second with
      | mainController => rfl
      | _ => cases letters
  | channel number =>
      cases second with
      | channel other =>
          rw [name, name, String.append_right_inj] at same
          rw [Text.toString_injective same]
      | _ => cases letters
  | secondLevelBus =>
      cases second with
      | secondLevelBus => rfl
      | secondLevelCache => exact absurd same (by decide)
      | _ => cases letters
  | secondLevelCache =>
      cases second with
      | secondLevelBus => exact absurd same (by decide)
      | secondLevelCache => rfl
      | _ => cases letters
  | core index duty =>
      cases second with
      | core other otherDuty =>
          rw [name, name, String.append_assoc, String.append_assoc, String.append_right_inj] at same
          have parts := Text.toString_append_inj duty.suffix_stops otherDuty.suffix_stops same
          rw [parts.1, CoreDuty.suffix_injective parts.2]
      | _ => cases letters
  | systemPort =>
      cases second with
      | systemPort => rfl
      | _ => cases letters

end Duty

/-! ## What the nodes of a machine are for -/

namespace Surroundings

variable {surroundings : Surroundings}

def coreDuties (model : CoreModel) : List CoreDuty :=
  CoreDuty.base ++ (supported model).map CoreDuty.optional

theorem nodup_coreDuties (model : CoreModel) : (coreDuties model).Nodup := by
  have sublist : (coreDuties model).Sublist CoreDuty.all :=
    List.Sublist.append (List.Sublist.refl _) (List.filter_sublist.map CoreDuty.optional)
  exact sublist.nodup (by decide)

def nodesOf (surroundings : Surroundings) (assignment : CoreAssignment) : List Node :=
  surroundings.coreNodes assignment.index ++
    (supported assignment.model).map (surroundings.optionalPort assignment.index)

theorem nodes_corePart (assignment : CoreAssignment) (start : Nat) :
    (surroundings.corePart assignment start).nodes = surroundings.nodesOf assignment := by
  rw [corePart, Part.followedBy, optionalParts_eq]
  rfl

theorem name_optionalPort (core : Nat) (capability : Capability) :
    (surroundings.optionalPort core capability).name =
      (Duty.core core (.optional capability)).name := by
  cases capability <;> rfl

def dutiesOf (assignment : CoreAssignment) : List Duty :=
  (coreDuties assignment.model).map (.core assignment.index)

theorem mem_dutiesOf {assignment : CoreAssignment} {duty : Duty} :
    duty ∈ dutiesOf assignment ↔
      ∃ own ∈ coreDuties assignment.model, Duty.core assignment.index own = duty :=
  List.mem_map

theorem map_name_nodesOf (assignment : CoreAssignment) :
    (surroundings.nodesOf assignment).map (·.name) = (dutiesOf assignment).map Duty.name := by
  have optional : (supported assignment.model).map
        (fun capability => (surroundings.optionalPort assignment.index capability).name) =
      (supported assignment.model).map
        (fun capability => (Duty.core assignment.index (.optional capability)).name) :=
    List.map_congr_left fun capability _ => name_optionalPort assignment.index capability
  rw [nodesOf, dutiesOf, coreDuties, List.map_append, List.map_append, List.map_append,
    List.map_map, List.map_map, List.map_map, List.map_map]
  exact congrArg (_ ++ ·) optional

end Surroundings

theorem Netlist.Part.nodes_sequence {α : Type} {part : α → Part} {nodes : α → List Node}
    (own : ∀ item start, (part item start).nodes = nodes item) (items : List α) (start : Nat) :
    (Part.sequence (items.map part) start).nodes = items.flatMap nodes := by
  induction items generalizing start with
  | nil => rfl
  | cons item rest induction =>
      rw [List.flatMap_cons, ← own item start, ← induction]
      rfl

namespace Assembly

variable (assembly : Assembly)

theorem nodes_netlist :
    assembly.netlist.nodes =
      assembly.mainNetlist.nodes ++ assembly.bank.map bankNode ++
        (assembly.secondLevelPart 0).nodes ++
          assembly.assignments.flatMap assembly.surroundings.nodesOf ++
            (assembly.hostPart 0).nodes := by
  have cores : (assembly.coreParts assembly.memoryNetlist.size).nodes =
      assembly.assignments.flatMap assembly.surroundings.nodesOf :=
    Netlist.Part.nodes_sequence Surroundings.nodes_corePart _ _
  rw [← cores]
  rfl

def duties : List Duty :=
  [Duty.systemBus, Duty.mainController] ++
    assembly.plan.channels.map (fun share => Duty.channel share.channel) ++
      [Duty.secondLevelBus, Duty.secondLevelCache] ++
        assembly.assignments.flatMap Surroundings.dutiesOf ++ [Duty.systemPort]

theorem map_name_nodes : assembly.netlist.nodes.map (·.name) = assembly.duties.map Duty.name := by
  have bank : (assembly.bank.map bankNode).map (·.name) =
      (assembly.plan.channels.map fun share => Duty.channel share.channel).map Duty.name := by
    rw [bank, MemoryController.bank, List.map_map, List.map_map, List.map_map]
    rfl
  rw [nodes_netlist, duties]
  simp only [List.map_append, List.map_flatMap, Surroundings.map_name_nodesOf, bank]
  rfl

/-- No two nodes are for the same thing if no two channels and no two cores have one number. -/
theorem nodup_duties (channels : (assembly.plan.channels.map (·.channel)).Nodup)
    (cores : (assembly.assignments.map (·.index)).Nodup) : assembly.duties.Nodup := by
  have channelDuties :
      (assembly.plan.channels.map fun share => Duty.channel share.channel).Nodup := by
    have made := channels.map fun _ _ same => Duty.channel.inj same
    rw [List.map_map] at made
    exact made
  have coreDuties : (assembly.assignments.flatMap Surroundings.dutiesOf).Nodup := by
    rw [List.nodup_flatMap]
    constructor
    · intro assignment _
      exact (Surroundings.nodup_coreDuties assignment.model).map
        fun _ _ same => (Duty.core.inj same).2
    · apply (List.pairwise_map.mp cores).imp
      intro first second different duty inFirst inSecond
      rcases List.mem_map.mp inFirst with ⟨_, _, rfl⟩
      rcases List.mem_map.mp inSecond with ⟨_, _, same⟩
      exact different (Duty.core.inj same).1.symm
  -- The groups are apart, as their nodes are for things of different kinds.
  simp only [duties, List.nodup_append, channelDuties, coreDuties, List.mem_append, List.mem_map,
    List.mem_flatMap, Surroundings.mem_dutiesOf]
  grind

end Assembly

/-! ## The nodes of a fabric -/

namespace Graph

theorem map_fst_nodes (graph : Graph) :
    graph.nodes.map (·.1) = Assembly.bankIds 0 graph.size := by
  apply List.ext_getElem
  · rw [List.length_map, length_nodes, Assembly.bankIds, List.length_map, List.length_range']
  · intro index _ _
    simp [nodes, Assembly.bankIds]

theorem Realizes.map_nodes {graph : Graph} {netlist : Netlist}
    (realizes : graph.Realizes netlist) : graph.nodes.map (·.2) = netlist.nodes := by
  apply List.ext_getElem?
  intro index
  rw [List.getElem?_map, getElem?_nodes, Option.map_map, realizes.nodes]
  exact Option.map_id_apply

end Graph

end MemoryFabric
