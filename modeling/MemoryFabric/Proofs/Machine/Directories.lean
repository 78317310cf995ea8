import Mathlib.Data.List.Nodup
import MemoryFabric.Proofs.Machine.Delivery
import MemoryFabric.Proofs.Text.Numeral

/-! Where the controllers of a machine write. The channels of the MMIO window write to
different directories, whatever the stems of the directories are; main memory shares the
directory of a channel exactly if its stem is the one that the channel's number makes. -/

namespace MemoryFabric

namespace MemoryController

theorem channelDirectory_eq (stem : String) (channel : Nat) :
    channelDirectory stem channel = stem ++ "_ch" ++ toString channel ++ "_out" := rfl

theorem singleDirectory_eq (stem : String) : singleDirectory stem = stem ++ "_out" := rfl

theorem channelDirectory_injective (stem : String) :
    Function.Injective (channelDirectory stem) := by
  intro first second same
  rw [channelDirectory_eq, channelDirectory_eq, String.append_left_inj,
    String.append_right_inj] at same
  exact Text.toString_injective same

theorem channelDirectory_eq_singleDirectory_iff (stem other : String) (channel : Nat) :
    channelDirectory stem channel = singleDirectory other ↔
      other = stem ++ "_ch" ++ toString channel := by
  rw [channelDirectory_eq, singleDirectory_eq, String.append_left_inj, eq_comm]

theorem nodup_channelDirectories (stem : String) (count : Nat) :
    ((List.range count).map (channelDirectory stem)).Nodup :=
  List.nodup_range.map (channelDirectory_injective stem)

/-- Main memory and the channels write to different directories unless the stem for main
memory is the one that the number of a channel makes. -/
theorem nodup_directories_iff (main mmio : String) (count : Nat) :
    (singleDirectory main :: (List.range count).map (channelDirectory mmio)).Nodup ↔
      ∀ channel < count, main ≠ mmio ++ "_ch" ++ toString channel := by
  rw [List.nodup_cons, and_iff_left (nodup_channelDirectories mmio count), List.mem_map]
  simp only [channelDirectory_eq_singleDirectory_iff, List.mem_range, not_exists, not_and, ne_eq]

end MemoryController

theorem Machine.controllers_eq {machine : Machine}
    {controllers : List (String × MemoryController)}
    (standing : (machine.nodes.mainController :: machine.nodes.mmioControllers).map
      machine.graph.node? = controllers.map fun entry => some ⟨entry.1, .controller entry.2⟩) :
    machine.controllers = controllers := by
  rw [Machine.controllers]
  generalize machine.nodes.mainController :: machine.nodes.mmioControllers = nodes at standing
  induction nodes generalizing controllers with
  | nil => exact (List.map_eq_nil_iff.mp standing.symm).symm
  | cons node rest induction =>
      cases controllers with
      | nil => cases standing
      | cons entry others =>
          rw [List.map_cons, List.map_cons, List.cons.injEq] at standing
          rw [List.filterMap_cons, standing.1, induction standing.2]

namespace Assembly

variable {assembly : Assembly} {graph : Graph} {owner : UInt64 → Nat}

theorem map_node?_bankIds (realizes : graph.Realizes assembly.netlist) :
    (bankIds 2 assembly.bank.length).map graph.node? =
      assembly.bank.map fun controller => some (bankNode controller) := by
  apply List.ext_getElem?
  intro index
  rw [List.getElem?_map, List.getElem?_map]
  cases found : assembly.bank[index]? with
  | none =>
      rw [List.getElem?_eq_none_iff] at found
      rw [bankIds, List.getElem?_eq_none (by simpa using found)]
      rfl
  | some controller =>
      have inside := (List.getElem?_eq_some_iff.mp found).1
      rw [getElem?_bankIds inside, Option.map_some, Option.map_some, realizes.nodes,
        (assembly.bank_station index found).node]

theorem controllers_machine (realizes : graph.Realizes assembly.netlist) :
    (assembly.machine graph).controllers =
      ("main_ctrl", Machine.mainController assembly.configuration.memory assembly.main) ::
        assembly.bank.map fun controller => (bankName controller, controller) := by
  apply Machine.controllers_eq
  have main := (realizes.nodes ⟨1⟩).trans assembly.mainController_station.node
  have bank := map_node?_bankIds realizes
  rw [List.map_cons, List.map_cons, List.map_map]
  exact congrArg₂ List.cons main bank

theorem Planned.outputDirectories_machine (planned : assembly.Planned owner)
    (realizes : graph.Realizes assembly.netlist) :
    (assembly.machine graph).outputDirectories =
      MemoryController.singleDirectory assembly.configuration.memory.mainOutputStem ::
        (List.range assembly.plan.channels.length).map
          (MemoryController.channelDirectory assembly.configuration.memory.mmioOutputStem) := by
  rw [Machine.outputDirectories, controllers_machine realizes, ← planned.partition.numbers,
    List.map_cons, List.map_map, List.map_map, bank, MemoryController.bank, List.map_map]
  rfl

end Assembly

/-- A machine writes to the directory of main memory and to one for each channel, in channel
order. Those of the channels are different, and that of main memory is one of them exactly
if its stem is that of the channels with the mark and the number of a channel. -/
theorem Machine.directories_of_assembled {blueprint : Blueprint} {machine : Machine}
    (assembled : assemble blueprint = .ok machine) :
    let memory := blueprint.configuration.memory
    let channels := machine.plan.channels.length
    let bank := (List.range channels).map fun channel => s!"{memory.mmioOutputStem}_ch{channel}_out"
    (memory.mmioChannelCount < 2 ^ 32 → channels = memory.mmioChannelCount) ∧
      machine.outputDirectories = s!"{memory.mainOutputStem}_out" :: bank ∧
      bank.Nodup ∧
      (¬ machine.outputDirectories.Nodup ↔
        ∃ channel < channels,
          memory.mainOutputStem = memory.mmioOutputStem ++ "_ch" ++ toString channel) := by
  intro memory channels bank
  rcases exists_drafted assembled with ⟨assembly, drafted, graph, realizes, rfl⟩
  rcases drafted.exists_planned with ⟨owner, planned⟩
  have listed := planned.outputDirectories_machine realizes
  rw [drafted.configuration] at listed
  have distinct : bank.Nodup :=
    MemoryController.nodup_channelDirectories memory.mmioOutputStem channels
  refine ⟨drafted.length_channels, listed, distinct, ?_⟩
  rw [listed, MemoryController.nodup_directories_iff]
  simp only [not_forall, ne_eq, Classical.not_not, exists_prop]
  rfl

/-- The reference machine, where main memory has the stem of the second channel. -/
def Configuration.sharedStem : Configuration :=
  { Configuration.reference with
    memory := { MemorySettings.reference with mainOutputStem := "ramulator_mmio_ch1" } }

theorem Blueprint.feasible_sharedStem : Blueprint.Feasible ⟨.sharedStem, [], []⟩ :=
  feasible_of_configuration (by decide +kernel) ⟨_, rfl⟩

theorem Machine.directories_of_assembled_shared : ∃ machine,
    assemble ⟨.sharedStem, [], []⟩ = .ok machine ∧
      machine.outputDirectories =
        ["ramulator_mmio_ch1_out", "ramulator_mmio_ch0_out", "ramulator_mmio_ch1_out"] ∧
      ¬ machine.outputDirectories.Nodup := by
  rcases Blueprint.feasible_sharedStem.assembles with ⟨machine, assembled⟩
  rcases directories_of_assembled assembled with ⟨counted, listed, -, shared⟩
  have channels : machine.plan.channels.length = 2 := counted (by decide)
  rw [channels] at listed shared
  exact ⟨machine, assembled, listed, shared.mpr ⟨1, by decide, rfl⟩⟩

end MemoryFabric
