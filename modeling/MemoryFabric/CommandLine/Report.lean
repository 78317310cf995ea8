import MemoryFabric.Document.Printer
import MemoryFabric.Machine.Basic

/-! What the program says about a machine and about routes through it. -/

namespace MemoryFabric.Report

def modeName : InterleaveMode → String
  | .flat => "Flat"
  | .bitInterleaved => "BitInterleaved"

def padded (width : Nat) (text : String) : String :=
  text ++ String.ofList (List.replicate (width - text.length) ' ')

def controllerLine (name : String) (controller : MemoryController) : String :=
  "  " ++ padded 12 name ++ " " ++ padded 48 (toString controller.predicate) ++ " -> " ++
    controller.outputDirectory ++ (if controller.isBacked then "" else " (null)")

def machineLines (machine : Machine) : List String :=
  let rangeLine := fun range : AddressRange => "  " ++ toString range
  [s!"Topology OK: {machine.graph.size} nodes, {machine.graph.edges.size} edges, " ++
    s!"{machine.nodes.cores.length} cores x {machine.threadsPerCore} threads",
    "Memory ranges:"] ++
  machine.ranges.map rangeLine ++
  ["Uncached identity mappings:"] ++
  machine.uncachedRanges.map rangeLine ++
  [s!"Controllers ({modeName machine.plan.mode} MMIO):"] ++
  machine.controllers.map fun controller => controllerLine controller.1 controller.2

def natural (value : Nat) : Document :=
  .number (.natural value)

def texts {α : Type} [ToString α] (values : List α) : Document :=
  .list (values.map fun value => .text (toString value))

/-- Members stand in the order of their names. -/
def controllerRecord (name : String) (controller : MemoryController) : Document :=
  .record [
    ("backed", .boolean controller.isBacked),
    ("config_path", .text controller.configPath),
    ("name", .text name),
    ("output_dir", .text controller.outputDirectory),
    ("predicate", .text (toString controller.predicate))] true

def coreRecord (core : CoreBinding) : Document :=
  .record [
    ("index", natural core.index),
    ("interrupts", .boolean core.interruptRequestor.isSome),
    ("model", .text core.model),
    ("threads", natural core.workloads.length),
    ("walkers", natural (core.instructionWalker.isSome.toNat + core.dataWalker.isSome.toNat))] true

def machineRecord (machine : Machine) : Document :=
  .record [
    ("controllers", .list (machine.controllers.map fun controller =>
      controllerRecord controller.1 controller.2)),
    ("cores", .list (machine.nodes.cores.map coreRecord)),
    ("edges", natural machine.graph.edges.size),
    ("mem_ranges", texts machine.ranges),
    ("mmio_mode", .text (modeName machine.plan.mode)),
    ("nodes", natural machine.graph.size),
    ("uncached", texts machine.uncachedRanges)] true

def routeLine (graph : Graph) (address : UInt64) (route : Route) : String :=
  Text.address address ++ ": " ++ " -> ".intercalate (route.hops.map graph.nameOf) ++
    s!" (+{route.latency})"

end MemoryFabric.Report
