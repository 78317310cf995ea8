import MemoryFabric.Proofs.Machine.Wiring

/-! Where the nodes of a machine stand in its netlist and what is below them: the
buses, the second-level cache, the controllers, the nodes of every core, and the
port of the host. These are all nodes that there are. -/

namespace MemoryFabric

open Netlist (Part share)

namespace Surroundings

variable {surroundings : Surroundings} {before : Netlist}

def coreBelow (surroundings : Surroundings) (start : Nat) : List (List NodeId) :=
  [[⟨start + 1⟩], [surroundings.secondLevelBus], [⟨start + 3⟩], [⟨start + 4⟩, ⟨start + 5⟩],
    [⟨start + 6⟩], [surroundings.systemBus], [surroundings.secondLevelBus]]

def supported (model : CoreModel) : List Capability :=
  Capability.all.filter model.supports

structure CoreStands (surroundings : Surroundings) (netlist : Netlist)
    (assignment : CoreAssignment) (start : Nat) : Prop where
  base : ∀ (offset : Nat) {node : Node} {below : List NodeId},
    (surroundings.coreNodes assignment.index)[offset]? = some node →
      (surroundings.coreBelow start)[offset]? = some below →
        netlist.Station ⟨start + offset⟩ node below
  optional : ∀ (offset : Nat) {capability : Capability},
    (supported assignment.model)[offset]? = some capability →
      netlist.Station ⟨start + 7 + offset⟩
        (surroundings.optionalPort assignment.index capability) [surroundings.systemBus]

theorem CoreStands.place {assignment : CoreAssignment} {start : Nat}
    (stands : surroundings.CoreStands before assignment start) {part : Part} {ground : Nat}
    (leads : part.LeadsDown ground) (above : ground ≤ before.size) :
    surroundings.CoreStands (before.place part) assignment start where
  base offset _ _ node below := (stands.base offset node below).place leads above
  optional offset _ found := (stands.optional offset found).place leads above

theorem coreLinks_below (start offset : Nat) {below : List NodeId}
    (found : (surroundings.coreBelow start)[offset]? = some below) :
    (surroundings.coreLinks start).filterMap (share ⟨start + offset⟩ .mem) = below := by
  match offset with
  | 0 | 1 | 2 | 3 | 4 | 5 | 6 =>
      cases found
      simp [coreLinks, share]
  | offset + 7 => cases found

theorem optionalParts_eq (core : Nat) (model : CoreModel) (start : Nat) :
    surroundings.optionalParts core model start =
      ⟨(supported model).map (surroundings.optionalPort core),
        (Assembly.bankIds start (supported model).length).map
          fun node => ⟨node, surroundings.systemBus⟩⟩ := by
  simp only [optionalParts, supported, Capability.all, List.map_cons, List.map_nil, Part.sequence,
    Part.followedBy, optionalPart, List.filter_cons, List.filter_nil]
  cases model.supports .instructionWalker <;> cases model.supports .dataWalker <;>
    cases model.supports .interruptController <;> rfl

theorem length_supported (model : CoreModel) :
    (supported model).length = Capability.all.countP model.supports :=
  List.countP_eq_length_filter.symm

theorem uplinks_below (bus : NodeId) : ∀ (count start offset : Nat), offset < count →
    ((Assembly.bankIds start count).map fun node => (⟨node, bus⟩ : Link)).filterMap
      (share ⟨start + offset⟩ .mem) = [bus]
  | count + 1, start, offset, inside => by
      rw [Assembly.bankIds, List.range'_succ, List.map_cons, List.map_cons]
      cases offset with
      | zero =>
          have nothing : (((List.range' (start + 1) count).map NodeId.mk).map fun node =>
              (⟨node, bus⟩ : Link)).filterMap (share ⟨start⟩ .mem) = [] := by
            rw [List.filterMap_eq_nil_iff]
            intro link member
            simp only [List.mem_map, List.mem_range'_1] at member
            rcases member with ⟨_, ⟨index, bounds, rfl⟩, rfl⟩
            refine if_neg fun equal => ?_
            have same : index = start := congrArg NodeId.index equal
            omega
          have first : share ⟨start + 0⟩ .mem ⟨⟨start⟩, bus⟩ = some bus := if_pos rfl
          rw [List.filterMap_cons_some first]
          exact congrArg (bus :: ·) nothing
      | succ offset =>
          have induction := uplinks_below bus count (start + 1) offset
            (Nat.lt_of_succ_lt_succ inside)
          rw [Nat.add_right_comm] at induction
          have other : share ⟨start + (offset + 1)⟩ .mem ⟨⟨start⟩, bus⟩ = none := by
            refine if_neg fun equal => ?_
            have same : start = start + (offset + 1) := congrArg NodeId.index equal
            omega
          rw [List.filterMap_cons_none other]
          exact induction

theorem coreStands_own (standing : surroundings.Standing before) (assignment : CoreAssignment) :
    surroundings.CoreStands (before.place (surroundings.corePart assignment)) assignment
      before.size := by
  have baseStanding := standing.place (basePart_leadsDown assignment.index) standing.ground_le
  have baseSize : (before.place (surroundings.basePart assignment.index)).size =
      before.size + 7 := Netlist.size_append _ _
  have optionalLeads : (surroundings.optionalParts assignment.index assignment.model).LeadsDown
      surroundings.ground := by
    apply Part.LeadsDown.sequence
    intro part member
    rcases List.mem_map.mp member with ⟨capability, _, rfl⟩
    exact optionalPart_leadsDown assignment.index assignment.model capability
  rw [corePart, Netlist.place_followedBy]
  constructor
  · intro offset node below foundNode foundBelow
    refine (Netlist.station_own standing.closed offset foundNode ?_).place optionalLeads
      baseStanding.ground_le
    exact coreLinks_below _ _ foundBelow
  · intro offset capability found
    rw [← baseSize]
    apply Netlist.station_own baseStanding.closed offset
    · rw [optionalParts_eq, List.getElem?_map, found, Option.map_some]
    · rw [optionalParts_eq]
      exact uplinks_below _ _ _ _ (List.getElem?_eq_some_iff.mp found).1

theorem corePart_sequence_leadsDown (assignments : List CoreAssignment) :
    (Part.sequence (assignments.map surroundings.corePart)).LeadsDown surroundings.ground := by
  apply Part.LeadsDown.sequence
  intro part member
  rcases List.mem_map.mp member with ⟨assignment, _, rfl⟩
  exact corePart_leadsDown assignment

/-- Every core of a list that is wired behind the nodes of `before` stands at the
place that its binding names. -/
theorem exists_coreStands (assignments : List CoreAssignment) (before : Netlist)
    (standing : surroundings.Standing before) {index : Nat} {assignment : CoreAssignment}
    (found : assignments[index]? = some assignment) :
    ∃ start, (bindings before.size assignments)[index]? = some (binding assignment start) ∧
      surroundings.CoreStands
        (before.place (.sequence (assignments.map surroundings.corePart))) assignment start := by
  induction assignments generalizing before index with
  | nil => cases found
  | cons first rest induction =>
      have next := standing.place (corePart_leadsDown first) standing.ground_le
      have size := surroundings.size_place_corePart before first
      rw [List.map_cons, Part.sequence, Netlist.place_followedBy, bindings]
      cases index with
      | zero =>
          cases found
          exact ⟨before.size, rfl, (coreStands_own standing assignment).place
            (corePart_sequence_leadsDown rest) next.ground_le⟩
      | succ index =>
          rcases induction _ next found with ⟨start, foundBinding, stands⟩
          rw [size] at foundBinding
          exact ⟨start, foundBinding, stands⟩

theorem exists_core_of_node (assignments : List CoreAssignment) (before : Netlist)
    (standing : surroundings.Standing before) {node : NodeId}
    (outside : before.size ≤ node.index)
    (inside : node.index <
      (before.place (.sequence (assignments.map surroundings.corePart))).size) :
    ∃ assignment ∈ assignments, ∃ start offset,
      surroundings.CoreStands
          (before.place (.sequence (assignments.map surroundings.corePart))) assignment start ∧
        offset < coreSize assignment.model ∧ node = ⟨start + offset⟩ := by
  induction assignments generalizing before with
  | nil =>
      rw [List.map_nil, Part.sequence, Netlist.place_empty] at inside
      omega
  | cons first rest induction =>
      have next := standing.place (corePart_leadsDown first) standing.ground_le
      have size := surroundings.size_place_corePart before first
      rw [List.map_cons, Part.sequence, Netlist.place_followedBy] at inside ⊢
      by_cases own : node.index < before.size + coreSize first.model
      · refine ⟨first, List.mem_cons_self, before.size, node.index - before.size,
          (coreStands_own standing first).place (corePart_sequence_leadsDown rest) next.ground_le,
          by omega, ?_⟩
        rw [Nat.add_sub_cancel' outside]
      · rcases induction _ next (by omega) inside with
          ⟨assignment, member, start, offset, stands, bound, equal⟩
        exact ⟨assignment, List.mem_cons_of_mem first member, start, offset, stands, bound, equal⟩

end Surroundings

namespace Assembly

variable (assembly : Assembly)

/-! ## The memory side -/

theorem hostPart_leadsDown : assembly.hostPart.LeadsDown 0 := by
  intro start _ link member
  rw [hostPart, List.mem_singleton] at member
  subst member
  exact ⟨Nat.le_refl _, Nat.lt_succ_self _, Nat.succ_pos _⟩

theorem station_of_memoryNetlist {id : NodeId} {node : Node} {below : List NodeId}
    (station : assembly.memoryNetlist.Station id node below) :
    assembly.netlist.Station id node below :=
  (station.place assembly.coreParts_leadDown assembly.surroundings_standing.ground_le).place
    assembly.hostPart_leadsDown (Nat.zero_le _)

theorem station_of_controllerNetlist {id : NodeId} {node : Node} {below : List NodeId}
    (station : assembly.controllerNetlist.Station id node below) :
    assembly.netlist.Station id node below :=
  assembly.station_of_memoryNetlist (station.place assembly.secondLevelPart_leadsDown
    (Nat.zero_le _))

def controllerIds (assembly : Assembly) : List NodeId :=
  ⟨1⟩ :: bankIds 2 assembly.bank.length

theorem bankPart_below_other {node : NodeId} (different : node ≠ ⟨0⟩) (start : Nat)
    (controllers : List MemoryController) : (bankPart ⟨0⟩ controllers start).below node = [] := by
  rw [Netlist.below, Netlist.neighbours, List.filterMap_eq_nil_iff]
  intro link member
  rcases List.mem_map.mp member with ⟨_, _, rfl⟩
  exact if_neg different.symm

theorem systemBus_station :
    assembly.netlist.Station ⟨0⟩ ⟨"membus", .bus ⟨assembly.configuration.system.busWidth⟩⟩
      assembly.controllerIds := by
  apply assembly.station_of_controllerNetlist
  refine ⟨rfl, ?_⟩
  have all : ∀ ids : List NodeId,
      (ids.map (Link.mk ⟨0⟩)).filterMap (share ⟨0⟩ .mem) = ids := by
    intro ids
    rw [List.filterMap_map]
    exact List.filterMap_some
  rw [Netlist.below, controllerNetlist, Netlist.place, Netlist.neighbours_append]
  exact congrArg (NodeId.mk 1 :: ·) (all _)

theorem mainController_station :
    assembly.netlist.Station ⟨1⟩
      ⟨"main_ctrl",
        .controller (Machine.mainController assembly.configuration.memory assembly.main)⟩ [] := by
  apply assembly.station_of_controllerNetlist
  refine ⟨rfl, ?_⟩
  rw [Netlist.below, controllerNetlist, Netlist.place, Netlist.neighbours_append]
  exact bankPart_below_other (by simp) _ _

theorem bank_station (index : Nat) {controller : MemoryController}
    (found : assembly.bank[index]? = some controller) :
    assembly.netlist.Station ⟨2 + index⟩ (bankNode controller) [] := by
  apply assembly.station_of_controllerNetlist
  apply Netlist.station_own assembly.mainNetlist_closed index
  · rw [bankPart, List.getElem?_map, found, Option.map_some]
  · refine bankPart_below_other ?_ _ _
    intro equal
    exact Nat.succ_ne_zero _ ((Nat.add_comm _ _).trans (congrArg NodeId.index equal))

theorem secondLevelBus_station :
    assembly.netlist.Station ⟨assembly.controllerNetlist.size⟩
      ⟨"l2bus", .bus ⟨assembly.configuration.system.busWidth⟩⟩
      [⟨assembly.controllerNetlist.size + 1⟩] := by
  apply assembly.station_of_memoryNetlist
  apply Netlist.station_own assembly.controllerNetlist_closed 0 rfl
  simp [secondLevelPart, Netlist.below, Netlist.neighbours, share]

theorem secondLevelCache_station :
    assembly.netlist.Station ⟨assembly.controllerNetlist.size + 1⟩
      ⟨"l2cache", .cache ⟨.l2, assembly.configuration.cache.l2⟩⟩ [⟨0⟩] := by
  apply assembly.station_of_memoryNetlist
  apply Netlist.station_own assembly.controllerNetlist_closed 1 rfl
  simp [secondLevelPart, Netlist.below, Netlist.neighbours, share]

/-! ## The cores and the host -/

theorem systemPort_station :
    assembly.netlist.Station ⟨assembly.coreNetlist.size⟩
      ⟨"system_port", .requestor ⟨.systemPort, none, [assembly.main, assembly.mmio]⟩⟩ [⟨0⟩] := by
  apply Netlist.station_own assembly.coreNetlist_standing.closed 0 rfl
  simp [hostPart, Netlist.below, Netlist.neighbours, share]

abbrev CoreAt (assembly : Assembly) (assignment : CoreAssignment) (start : Nat) : Prop :=
  assembly.surroundings.CoreStands assembly.netlist assignment start

theorem exists_coreAt {index : Nat} {assignment : CoreAssignment}
    (found : assembly.assignments[index]? = some assignment) :
    ∃ start, assembly.nodes.cores[index]? = some (Surroundings.binding assignment start) ∧
      assembly.CoreAt assignment start := by
  rcases Surroundings.exists_coreStands assembly.assignments _ assembly.surroundings_standing
    found with ⟨start, foundBinding, stands⟩
  exact ⟨start, foundBinding, stands.place assembly.hostPart_leadsDown (Nat.zero_le _)⟩

/-- What stands at each place of the machine, and what is below it. -/
inductive Stands (assembly : Assembly) : NodeId → Node → List NodeId → Prop where
  | systemBus :
      Stands assembly ⟨0⟩ ⟨"membus", .bus ⟨assembly.configuration.system.busWidth⟩⟩
        assembly.controllerIds
  | mainController :
      Stands assembly ⟨1⟩ ⟨"main_ctrl",
        .controller (Machine.mainController assembly.configuration.memory assembly.main)⟩ []
  | bank {index : Nat} {controller : MemoryController}
      (found : assembly.bank[index]? = some controller) :
      Stands assembly ⟨2 + index⟩ (bankNode controller) []
  | secondLevelBus :
      Stands assembly ⟨assembly.controllerNetlist.size⟩
        ⟨"l2bus", .bus ⟨assembly.configuration.system.busWidth⟩⟩
        [⟨assembly.controllerNetlist.size + 1⟩]
  | secondLevelCache :
      Stands assembly ⟨assembly.controllerNetlist.size + 1⟩
        ⟨"l2cache", .cache ⟨.l2, assembly.configuration.cache.l2⟩⟩ [⟨0⟩]
  | instructionPort {assignment : CoreAssignment} {start : Nat}
      (member : assignment ∈ assembly.assignments) (core : assembly.CoreAt assignment start) :
      Stands assembly ⟨start⟩ (assembly.surroundings.instructionPort assignment.index)
        [⟨start + 1⟩]
  | instructionCache {assignment : CoreAssignment} {start : Nat}
      (member : assignment ∈ assembly.assignments) (core : assembly.CoreAt assignment start) :
      Stands assembly ⟨start + 1⟩ (assembly.surroundings.instructionCache assignment.index)
        [⟨assembly.controllerNetlist.size⟩]
  | dataPort {assignment : CoreAssignment} {start : Nat}
      (member : assignment ∈ assembly.assignments) (core : assembly.CoreAt assignment start) :
      Stands assembly ⟨start + 2⟩ (assembly.surroundings.dataPort assignment.index) [⟨start + 3⟩]
  | dataSplitter {assignment : CoreAssignment} {start : Nat}
      (member : assignment ∈ assembly.assignments) (core : assembly.CoreAt assignment start) :
      Stands assembly ⟨start + 3⟩ (assembly.surroundings.dataSplitter assignment.index)
        [⟨start + 4⟩, ⟨start + 5⟩]
  | cachedBridge {assignment : CoreAssignment} {start : Nat}
      (member : assignment ∈ assembly.assignments) (core : assembly.CoreAt assignment start) :
      Stands assembly ⟨start + 4⟩ (assembly.surroundings.cachedBridge assignment.index)
        [⟨start + 6⟩]
  | bypassBridge {assignment : CoreAssignment} {start : Nat}
      (member : assignment ∈ assembly.assignments) (core : assembly.CoreAt assignment start) :
      Stands assembly ⟨start + 5⟩ (assembly.surroundings.bypassBridge assignment.index) [⟨0⟩]
  | dataCache {assignment : CoreAssignment} {start : Nat}
      (member : assignment ∈ assembly.assignments) (core : assembly.CoreAt assignment start) :
      Stands assembly ⟨start + 6⟩ (assembly.surroundings.dataCache assignment.index)
        [⟨assembly.controllerNetlist.size⟩]
  | optionalPort {assignment : CoreAssignment} {start offset : Nat} {capability : Capability}
      (member : assignment ∈ assembly.assignments) (core : assembly.CoreAt assignment start)
      (supports : (Surroundings.supported assignment.model)[offset]? = some capability) :
      Stands assembly ⟨start + 7 + offset⟩
        (assembly.surroundings.optionalPort assignment.index capability) [⟨0⟩]
  | systemPort :
      Stands assembly ⟨assembly.coreNetlist.size⟩
        ⟨"system_port", .requestor ⟨.systemPort, none, [assembly.main, assembly.mmio]⟩⟩ [⟨0⟩]

variable {assembly}

theorem Stands.station {place : NodeId} {node : Node} {below : List NodeId}
    (stands : assembly.Stands place node below) : assembly.netlist.Station place node below := by
  cases stands with
  | systemBus => exact assembly.systemBus_station
  | mainController => exact assembly.mainController_station
  | bank found => exact assembly.bank_station _ found
  | secondLevelBus => exact assembly.secondLevelBus_station
  | secondLevelCache => exact assembly.secondLevelCache_station
  | instructionPort _ core => exact core.base 0 rfl rfl
  | instructionCache _ core => exact core.base 1 rfl rfl
  | dataPort _ core => exact core.base 2 rfl rfl
  | dataSplitter _ core => exact core.base 3 rfl rfl
  | cachedBridge _ core => exact core.base 4 rfl rfl
  | bypassBridge _ core => exact core.base 5 rfl rfl
  | dataCache _ core => exact core.base 6 rfl rfl
  | optionalPort _ core supports => exact core.optional _ supports
  | systemPort => exact assembly.systemPort_station

theorem exists_stands_of_core {assignment : CoreAssignment} {start offset : Nat}
    (member : assignment ∈ assembly.assignments) (core : assembly.CoreAt assignment start)
    (small : offset < 7) : ∃ node below, assembly.Stands ⟨start + offset⟩ node below := by
  match offset with
  | 0 => exact ⟨_, _, .instructionPort member core⟩
  | 1 => exact ⟨_, _, .instructionCache member core⟩
  | 2 => exact ⟨_, _, .dataPort member core⟩
  | 3 => exact ⟨_, _, .dataSplitter member core⟩
  | 4 => exact ⟨_, _, .cachedBridge member core⟩
  | 5 => exact ⟨_, _, .bypassBridge member core⟩
  | 6 => exact ⟨_, _, .dataCache member core⟩

theorem exists_stands {place : NodeId} (inside : place.index < assembly.netlist.size) :
    ∃ node below, assembly.Stands place node below := by
  have controllers := assembly.size_controllerNetlist
  have memory := assembly.size_memoryNetlist
  have machine := assembly.size_netlist
  have at_index : ∀ {index node below}, assembly.Stands ⟨index⟩ node below →
      place.index = index → ∃ node below, assembly.Stands place node below := by
    rintro _ node below stands rfl
    exact ⟨node, below, stands⟩
  by_cases inMemory : place.index < assembly.memoryNetlist.size
  · by_cases inBank : place.index < assembly.controllerNetlist.size
    · by_cases small : place.index < 2
      · by_cases zero : place.index = 0
        · exact at_index .systemBus zero
        · exact at_index .mainController (by omega)
      · have bound : place.index - 2 < assembly.bank.length := by omega
        exact at_index (.bank (List.getElem?_eq_getElem bound)) (by omega)
    · by_cases first : place.index = assembly.controllerNetlist.size
      · exact at_index .secondLevelBus first
      · exact at_index .secondLevelCache (by omega)
  · by_cases inCores : place.index < assembly.coreNetlist.size
    · rcases Surroundings.exists_core_of_node assembly.assignments _
        assembly.surroundings_standing (Nat.le_of_not_lt inMemory) inCores with
        ⟨assignment, member, start, offset, stands, bound, rfl⟩
      have core := stands.place assembly.hostPart_leadsDown (Nat.zero_le _)
      by_cases inBase : offset < 7
      · exact exists_stands_of_core member core inBase
      · have inOptional : offset - 7 < (Surroundings.supported assignment.model).length := by
          rw [Surroundings.coreSize] at bound
          rw [Surroundings.length_supported]
          omega
        exact at_index (.optionalPort member core (List.getElem?_eq_getElem inOptional))
          (by dsimp only; omega)
    · exact at_index .systemPort (by omega)

theorem exists_stands_of_kind {graph : Graph} (realizes : graph.Realizes assembly.netlist)
    {place : NodeId} {kind : NodeKind} (found : graph.kind? place = some kind) :
    ∃ node below, assembly.Stands place node below ∧ node.kind = kind := by
  have inside := Graph.index_lt_size_of_kind? found
  rw [realizes.size] at inside
  rcases exists_stands inside with ⟨node, below, stands⟩
  rw [realizes.kind?_of_station stands.station] at found
  exact ⟨node, below, stands, Option.some.inj found⟩

end Assembly

end MemoryFabric
