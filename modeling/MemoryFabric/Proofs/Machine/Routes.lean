import MemoryFabric.Proofs.Graph.Decisions
import MemoryFabric.Proofs.Interleave.Partition
import MemoryFabric.Proofs.Machine.Stations

/-! Routes of a machine. Every address of the two windows has one home, the
controller that serves it, and every way down leads there or stops at a filter. -/

namespace MemoryFabric.Assembly

open Surroundings (CoreStands)

/-- The windows of the assembly are disjoint and its plan divides the MMIO window. -/
structure Planned (assembly : Assembly) (owner : UInt64 → Nat) : Prop where
  apart : assembly.main.overlaps assembly.mmio = false
  window : assembly.plan.window = assembly.mmio
  partition : assembly.plan.Partition owner

def home (assembly : Assembly) (owner : UInt64 → Nat) (address : UInt64) : NodeId :=
  if assembly.main.contains address then ⟨1⟩ else ⟨2 + owner address⟩

def Mapped (assembly : Assembly) (address : UInt64) : Prop :=
  assembly.main.contains address = true ∨ assembly.mmio.contains address = true

variable {assembly : Assembly} {owner : UInt64 → Nat} {graph : Graph}

theorem Planned.not_both (planned : assembly.Planned owner) {address : UInt64}
    (inMain : assembly.main.contains address = true) :
    ¬ assembly.mmio.contains address = true := by
  intro inMmio
  have overlapping := AddressRange.overlaps_of_contains inMain inMmio
  rw [planned.apart] at overlapping
  cases overlapping

theorem home_of_main {address : UInt64} (inMain : assembly.main.contains address = true) :
    assembly.home owner address = ⟨1⟩ :=
  if_pos inMain

theorem Planned.home_of_mmio (planned : assembly.Planned owner) {address : UInt64}
    (inMmio : assembly.mmio.contains address = true) :
    assembly.home owner address = ⟨2 + owner address⟩ :=
  if_neg fun inMain => planned.not_both inMain inMmio

/-! ## Controllers -/

theorem bank_eq (assembly : Assembly) (index : Nat) :
    assembly.bank[index]? = (assembly.plan.channels[index]?).map fun share => {
      predicate := share.predicate
      channel := some share.channel
      configPath := assembly.configuration.memory.mmioConfigPath
      outputDirectory := MemoryController.channelDirectory
        assembly.configuration.memory.mmioOutputStem share.channel
      isBacked := assembly.configuration.memory.mmioBacked } := by
  rw [bank, MemoryController.bank, List.getElem?_map]

theorem length_bank (assembly : Assembly) :
    assembly.bank.length = assembly.plan.channels.length :=
  List.length_map _

theorem accepts_mainController (realizes : graph.Realizes assembly.netlist) (address : UInt64) :
    graph.accepts ⟨1⟩ address = assembly.main.contains address := by
  rw [Graph.accepts_of_kind (realizes.kind?_of_station assembly.mainController_station)]
  exact AddressPredicate.accepts_whole _ _

theorem Planned.bank_accepts_iff (planned : assembly.Planned owner) {index : Nat}
    {controller : MemoryController} (found : assembly.bank[index]? = some controller)
    (address : UInt64) :
    controller.accepts address = true ↔
      assembly.mmio.contains address = true ∧ owner address = index := by
  rw [bank_eq, Option.map_eq_some_iff] at found
  rcases found with ⟨share, found, rfl⟩
  change share.predicate.accepts address = true ↔ _
  rw [planned.partition.owned (List.mem_of_getElem? found), planned.window,
    planned.partition.numbered found]

theorem mem_controllerIds_iff (node : NodeId) :
    node ∈ assembly.controllerIds ↔
      node = ⟨1⟩ ∨ ∃ index controller, assembly.bank[index]? = some controller ∧
        node = ⟨2 + index⟩ := by
  rw [controllerIds, List.mem_cons, bankIds, List.mem_map]
  constructor
  · rintro (main | ⟨number, bounds, rfl⟩)
    · exact Or.inl main
    · rw [List.mem_range'_1] at bounds
      have inside : number - 2 < assembly.bank.length := by omega
      refine Or.inr ⟨number - 2, _, List.getElem?_eq_getElem inside, ?_⟩
      rw [Nat.add_sub_cancel' bounds.1]
  · rintro (main | ⟨index, controller, found, rfl⟩)
    · exact Or.inl main
    · have inside := (List.getElem?_eq_some_iff.mp found).1
      exact Or.inr ⟨2 + index, List.mem_range'_1.mpr (by omega), rfl⟩

theorem exists_controller_of_mem (realizes : graph.Realizes assembly.netlist) {node : NodeId}
    (member : node ∈ assembly.controllerIds) :
    ∃ controller, graph.kind? node = some (.controller controller) := by
  rcases (mem_controllerIds_iff node).mp member with rfl | ⟨index, controller, found, rfl⟩
  · exact ⟨_, realizes.kind?_of_station assembly.mainController_station⟩
  · exact ⟨controller, realizes.kind?_of_station (assembly.bank_station index found)⟩

theorem nodup_bankIds (start count : Nat) : (bankIds start count).Nodup := by
  apply List.Pairwise.map _ _ List.nodup_range'
  intro first second different equal
  exact different (congrArg NodeId.index equal)

theorem nodup_controllerIds (assembly : Assembly) : assembly.controllerIds.Nodup := by
  rw [controllerIds, List.nodup_cons]
  constructor
  · rw [bankIds, List.mem_map]
    rintro ⟨number, bounds, equal⟩
    rw [List.mem_range'_1] at bounds
    have same : number = 1 := congrArg NodeId.index equal
    omega
  · exact nodup_bankIds 2 assembly.bank.length

theorem Planned.accepts_controllerIds_iff (planned : assembly.Planned owner)
    (realizes : graph.Realizes assembly.netlist) {node : NodeId}
    (member : node ∈ assembly.controllerIds) (address : UInt64) :
    graph.accepts node address = true ↔
      assembly.Mapped address ∧ node = assembly.home owner address := by
  rcases (mem_controllerIds_iff node).mp member with rfl | ⟨index, controller, found, rfl⟩
  · rw [accepts_mainController realizes]
    constructor
    · intro inMain
      exact ⟨Or.inl inMain, (home_of_main inMain).symm⟩
    · rintro ⟨inMain | inMmio, equal⟩
      · exact inMain
      · rw [planned.home_of_mmio inMmio] at equal
        have same : 1 = 2 + owner address := congrArg NodeId.index equal
        omega
  · rw [Graph.accepts_of_kind (realizes.kind?_of_station (assembly.bank_station index found))]
    change controller.accepts address = true ↔ _
    rw [planned.bank_accepts_iff found]
    constructor
    · rintro ⟨inMmio, rfl⟩
      exact ⟨Or.inr inMmio, (planned.home_of_mmio inMmio).symm⟩
    · rintro ⟨inMain | inMmio, equal⟩
      · rw [home_of_main inMain] at equal
        have same : 2 + index = 1 := congrArg NodeId.index equal
        omega
      · rw [planned.home_of_mmio inMmio] at equal
        have same : 2 + index = 2 + owner address := congrArg NodeId.index equal
        exact ⟨inMmio, (Nat.add_left_cancel same).symm⟩

theorem Planned.home_mem (planned : assembly.Planned owner) {address : UInt64}
    (mapped : assembly.Mapped address) :
    assembly.home owner address ∈ assembly.controllerIds := by
  rw [mem_controllerIds_iff]
  rcases mapped with inMain | inMmio
  · exact Or.inl (home_of_main inMain)
  · rw [← planned.window] at inMmio
    have bound := planned.partition.bounded inMmio
    rw [← length_bank] at bound
    rw [planned.window] at inMmio
    exact Or.inr ⟨owner address, _, List.getElem?_eq_getElem bound, planned.home_of_mmio inMmio⟩

/-! ## The memory side -/

theorem Planned.exclusive_systemBus (planned : assembly.Planned owner)
    (realizes : graph.Realizes assembly.netlist) : graph.Exclusive ⟨0⟩ := by
  intro address
  rw [realizes.downstream_of_station assembly.systemBus_station]
  refine List.Pairwise.imp_of_mem ?_ assembly.nodup_controllerIds
  rintro first second firstMember secondMember different ⟨acceptsFirst, acceptsSecond⟩
  rw [planned.accepts_controllerIds_iff realizes firstMember] at acceptsFirst
  rw [planned.accepts_controllerIds_iff realizes secondMember] at acceptsSecond
  exact different (acceptsFirst.2.trans acceptsSecond.2.symm)

theorem Planned.settles_systemBus (planned : assembly.Planned owner)
    (realizes : graph.Realizes assembly.netlist) : graph.Settles ⟨0⟩ := by
  refine Graph.settles_bus (realizes.kind?_of_station assembly.systemBus_station)
    (planned.exclusive_systemBus realizes) ?_
  intro node member
  rw [realizes.downstream_of_station assembly.systemBus_station] at member
  rcases exists_controller_of_mem realizes member with ⟨controller, kind⟩
  exact Graph.settles_controller kind

theorem few_below (realizes : graph.Realizes assembly.netlist) {place next : NodeId} {node : Node}
    (station : assembly.netlist.Station place node [next]) :
    (graph.downstream place).length ≤ 1 := by
  rw [realizes.downstream_of_station station]
  exact Nat.le_refl 1

theorem settles_requestor (realizes : graph.Realizes assembly.netlist) {place next : NodeId}
    {name : String} {requestor : Requestor}
    (station : assembly.netlist.Station place ⟨name, .requestor requestor⟩ [next])
    (settles : graph.Settles next) : graph.Settles place :=
  Graph.settles_requestor realizes.sound (realizes.kind?_of_station station)
    (realizes.downstream_of_station station) settles

theorem settles_cache (realizes : graph.Realizes assembly.netlist) {place next : NodeId}
    {name : String} {cache : Cache}
    (station : assembly.netlist.Station place ⟨name, .cache cache⟩ [next])
    (settles : graph.Settles next) : graph.Settles place :=
  Graph.settles_cache realizes.sound (realizes.kind?_of_station station)
    (realizes.downstream_of_station station) settles

theorem settles_bridge (realizes : graph.Realizes assembly.netlist) {place next : NodeId}
    {name : String} {bridge : Bridge}
    (station : assembly.netlist.Station place ⟨name, .bridge bridge⟩ [next])
    (settles : graph.Settles next) : graph.Settles place :=
  Graph.settles_bridge realizes.sound (realizes.kind?_of_station station)
    (realizes.downstream_of_station station) settles

theorem Planned.settles_secondLevelBus (planned : assembly.Planned owner)
    (realizes : graph.Realizes assembly.netlist) :
    graph.Settles ⟨assembly.controllerNetlist.size⟩ := by
  have bus := assembly.secondLevelBus_station
  have cache := settles_cache realizes assembly.secondLevelCache_station
    (planned.settles_systemBus realizes)
  refine Graph.settles_bus (realizes.kind?_of_station bus)
    (Graph.exclusive_of_length_le_one (few_below realizes bus)) ?_
  intro node member
  rw [realizes.downstream_of_station bus, List.mem_singleton] at member
  subst member
  exact cache

theorem Planned.follows_systemBus (planned : assembly.Planned owner)
    (realizes : graph.Realizes assembly.netlist) (origin : NodeId) {address : UInt64}
    (mapped : assembly.Mapped address) :
    graph.Follows origin address ⟨0⟩ [⟨0⟩, assembly.home owner address] (.ok 0) := by
  have member := planned.home_mem mapped
  have accepted := (planned.accepts_controllerIds_iff realizes member address).mpr ⟨mapped, rfl⟩
  have bus := assembly.systemBus_station
  rcases exists_controller_of_mem realizes member with ⟨controller, kind⟩
  refine .behind ?_ (.served (Graph.hop_controller_of_accepts kind accepted))
  refine Graph.hop_bus_of_accepts (realizes.kind?_of_station bus)
    (planned.exclusive_systemBus realizes) ?_ accepted
  rw [realizes.downstream_of_station bus]
  exact member

theorem Planned.follows_secondLevelBus (planned : assembly.Planned owner)
    (realizes : graph.Realizes assembly.netlist) (origin : NodeId) {address : UInt64}
    (mapped : assembly.Mapped address) :
    graph.Follows origin address ⟨assembly.controllerNetlist.size⟩
      [⟨assembly.controllerNetlist.size⟩, ⟨assembly.controllerNetlist.size + 1⟩, ⟨0⟩,
        assembly.home owner address] (.ok 0) := by
  have cache := assembly.secondLevelCache_station
  have bus := assembly.secondLevelBus_station
  refine .behind ?_ (.behind (Graph.hop_cache realizes.sound (realizes.kind?_of_station cache)
    (realizes.downstream_of_station cache)) (planned.follows_systemBus realizes origin mapped))
  refine Graph.hop_bus_of_accepts (realizes.kind?_of_station bus)
    (Graph.exclusive_of_length_le_one (few_below realizes bus)) ?_ ?_
  · rw [realizes.downstream_of_station bus]
    exact List.mem_singleton_self _
  · exact Graph.accepts_of_kind (realizes.kind?_of_station cache)

end MemoryFabric.Assembly
