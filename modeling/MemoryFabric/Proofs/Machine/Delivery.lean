import MemoryFabric.Proofs.Interleave.Ownership
import MemoryFabric.Proofs.Machine.Assembling

/-! Delivery. Requests for data take one of two ways through a machine, or none,
and whatever a requestor of a machine may ask for comes to one controller. -/

namespace MemoryFabric

def Machine.cachedHops (machine : Machine) (core : CoreBinding) : List NodeId :=
  [core.dataPort, core.dataSplitter, core.cachedBridge, core.dataCache,
    machine.nodes.secondLevelBus, machine.nodes.secondLevelCache, machine.nodes.systemBus,
    machine.nodes.mainController]

def Machine.bypassHops (machine : Machine) (core : CoreBinding) (controller : NodeId) :
    List NodeId :=
  [core.dataPort, core.dataSplitter, core.bypassBridge, machine.nodes.systemBus, controller]

namespace Assembly

variable {assembly : Assembly} {owner : UInt64 → Nat} {graph : Graph} {address : UInt64}

theorem getElem?_bankIds {start count index : Nat} (inside : index < count) :
    (bankIds start count)[index]? = some ⟨start + index⟩ := by
  rw [bankIds, List.getElem?_map, List.getElem?_range' inside, Option.map_some, Nat.one_mul]

theorem Planned.home_of_channel (planned : assembly.Planned owner)
    (inMmio : assembly.mmio.contains address = true) :
    assembly.plan.channelOf address = some (owner address) ∧
      assembly.nodes.mmioControllers[owner address]? = some (assembly.home owner address) := by
  rw [planned.partition.channelOf_eq, planned.window, planned.home_of_mmio inMmio]
  refine ⟨if_pos inMmio, getElem?_bankIds ?_⟩
  rw [length_bank]
  rw [← planned.window] at inMmio
  exact planned.partition.bounded inMmio

/-! ## Data -/

section

variable {assignment : CoreAssignment} {start : Nat}

theorem Planned.route_dataPort_main (planned : assembly.Planned owner)
    (realizes : graph.Realizes assembly.netlist) (core : assembly.CoreAt assignment start)
    (inMain : assembly.main.contains address = true) :
    (assembly.machine graph).route ⟨start + 2⟩ address =
      .ok ⟨(assembly.machine graph).cachedHops (Surroundings.binding assignment start),
        assembly.configuration.bridge.latency⟩ := by
  have follows := Graph.Follows.behind (hop_dataPort realizes core ⟨start + 2⟩ address)
    (planned.follows_splitter_main realizes core ⟨start + 2⟩ inMain)
  rw [home_of_main inMain] at follows
  exact follows.route_eq realizes.sound
    (realizes.index_lt_size_of_station (core.base 2 rfl rfl))

theorem Planned.route_dataPort_mmio (planned : assembly.Planned owner)
    (realizes : graph.Realizes assembly.netlist) (core : assembly.CoreAt assignment start)
    (inMmio : assembly.mmio.contains address = true) :
    (assembly.machine graph).route ⟨start + 2⟩ address =
      .ok ⟨(assembly.machine graph).bypassHops (Surroundings.binding assignment start)
        (assembly.home owner address), assembly.configuration.bridge.bypass⟩ := by
  have follows := Graph.Follows.behind (hop_dataPort realizes core ⟨start + 2⟩ address)
    (planned.follows_splitter_mmio realizes core ⟨start + 2⟩ inMmio)
  exact follows.route_eq realizes.sound
    (realizes.index_lt_size_of_station (core.base 2 rfl rfl))

theorem route_dataPort_unmapped (realizes : graph.Realizes assembly.netlist)
    (core : assembly.CoreAt assignment start) (unmapped : ¬ assembly.Mapped address) :
    (assembly.machine graph).route ⟨start + 2⟩ address =
      .error (.unroutable s!"core{assignment.index}.dcache_port"
        s!"core{assignment.index}.dsplit" address) := by
  have port := core.base 2 rfl rfl
  have splitter := core.base 3 rfl rfl
  have follows := Graph.Follows.forwarded (hop_dataPort realizes core ⟨start + 2⟩ address)
    (follows_splitter_unmapped realizes core ⟨start + 2⟩ unmapped)
  refine (follows.route_eq realizes.sound (realizes.index_lt_size_of_station port)).trans ?_
  rw [Graph.unroutable, realizes.nameOf_of_station port, realizes.nameOf_of_station splitter]
  rfl

end

theorem Planned.fault_of_route (planned : assembly.Planned owner)
    (realizes : graph.Realizes assembly.netlist) {origin : NodeId} {fault : Fault}
    (failed : graph.route origin address = .error fault) :
    (∃ last, fault = graph.unroutable origin last address) ∨
      fault = .noSuchEndpoint (toString origin) "origin" := by
  cases found : graph.node? origin with
  | none =>
      rw [Graph.route, found] at failed
      cases failed
      exact Or.inr rfl
  | some node =>
      have inside := Graph.index_lt_size_of_node? found
      have settles := planned.settles realizes (realizes.size ▸ inside)
      exact Or.inl (settles.unroutable_of_route realizes.sound inside failed)

end Assembly

theorem Surroundings.length_bindings :
    ∀ (start : Nat) (assignments : List CoreAssignment),
      (bindings start assignments).length = assignments.length
  | _, [] => rfl
  | start, assignment :: rest =>
      congrArg (· + 1) (length_bindings (start + coreSize assignment.model) rest)

namespace Blueprint.Drafted

variable {blueprint : Blueprint} {assembly : Assembly}

theorem length_assignments (drafted : blueprint.Drafted assembly) :
    assembly.assignments.length = blueprint.configuration.system.coreCount :=
  (getElem?_of_mapM_eq_ok drafted.assignments).1.trans List.length_range

theorem length_channels (drafted : blueprint.Drafted assembly)
    (small : blueprint.configuration.memory.mmioChannelCount < 2 ^ 32) :
    assembly.plan.channels.length = blueprint.configuration.memory.mmioChannelCount :=
  (InterleavePlan.partition_of_ofMode small drafted.plan).2.1

theorem length_cores (drafted : blueprint.Drafted assembly) :
    assembly.nodes.cores.length = blueprint.configuration.system.coreCount :=
  (Surroundings.length_bindings _ _).trans drafted.length_assignments

theorem lt_coreCount (drafted : blueprint.Drafted assembly) {core : Nat} {binding : CoreBinding}
    (found : assembly.nodes.cores[core]? = some binding) :
    core < blueprint.configuration.system.coreCount := by
  rw [← drafted.length_cores]
  exact (List.getElem?_eq_some_iff.mp found).1

theorem exists_coreAt_assigned (drafted : blueprint.Drafted assembly) {core : Nat}
    {binding : CoreBinding} (found : assembly.nodes.cores[core]? = some binding) :
    ∃ start, assembly.CoreAt (blueprint.assigned core) start ∧
      binding = Surroundings.binding (blueprint.assigned core) start := by
  have inside := drafted.lt_coreCount found
  have foundAssignment : assembly.assignments[core]? = some (blueprint.assigned core) := by
    rw [eq_map_assigned drafted.assignments, List.getElem?_map, List.getElem?_range inside,
      Option.map_some]
  rcases assembly.exists_coreAt foundAssignment with ⟨start, foundBinding, stands⟩
  rw [found] at foundBinding
  exact ⟨start, stands, Option.some.inj foundBinding⟩

theorem exists_coreAt (drafted : blueprint.Drafted assembly) {core : Nat} {binding : CoreBinding}
    (found : assembly.nodes.cores[core]? = some binding) :
    ∃ assignment start, assignment.index = core ∧ assembly.CoreAt assignment start ∧
      binding = Surroundings.binding assignment start := by
  rcases drafted.exists_coreAt_assigned found with ⟨start, stands, bound⟩
  exact ⟨blueprint.assigned core, start, rfl, stands, bound⟩

end Blueprint.Drafted

/-- A blueprint that gives no core anything of its own is as good as its configuration. -/
theorem Blueprint.feasible_of_configuration {configuration : Configuration}
    (valid : configuration.validate = .ok ())
    (planned : ∃ plan, mmioPlan ⟨configuration, [], []⟩ = .ok plan) :
    Feasible ⟨configuration, [], []⟩ where
  valid := valid
  exist core named := by rcases named with named | named <;> cases named
  planned := planned
  staffed core workloads found := by cases found

theorem Blueprint.feasible_reference : Blueprint.Feasible ⟨.reference, [], []⟩ :=
  feasible_of_configuration (by decide +kernel) ⟨_, rfl⟩

/-- From the data port of a core, an address of main memory goes through the
caches, one of the MMIO window around them to the controller of its channel, and
any other no further than the splitter. -/
theorem Machine.route_of_dataPort {blueprint : Blueprint} {machine : Machine}
    (assembled : assemble blueprint = .ok machine) :
    machine.nodes.cores.length = blueprint.configuration.system.coreCount ∧
    ∃ main mmio, blueprint.configuration.memory.mainRange = .ok main ∧
      blueprint.configuration.memory.mmioRange = .ok mmio ∧
      ∀ core binding, machine.core? core = some binding → binding.index = core ∧
        ∀ address : UInt64,
          (main.contains address = true →
            machine.route binding.dataPort address =
              .ok ⟨machine.cachedHops binding, blueprint.configuration.bridge.latency⟩) ∧
          (mmio.contains address = true → ∃ channel controller,
            machine.plan.channelOf address = some channel ∧
            machine.nodes.mmioControllers[channel]? = some controller ∧
            machine.route binding.dataPort address =
              .ok ⟨machine.bypassHops binding controller,
                blueprint.configuration.bridge.bypass⟩) ∧
          (main.contains address = false → mmio.contains address = false →
            machine.route binding.dataPort address =
              .error (.unroutable s!"core{core}.dcache_port" s!"core{core}.dsplit"
                address)) := by
  rcases exists_drafted assembled with ⟨assembly, drafted, graph, realizes, rfl⟩
  rcases drafted.exists_planned with ⟨owner, planned⟩
  refine ⟨(Surroundings.length_bindings _ _).trans drafted.length_assignments,
    assembly.main, assembly.mmio, drafted.main, drafted.mmio, ?_⟩
  intro core binding found
  rcases drafted.exists_coreAt found with ⟨assignment, start, rfl, stands, rfl⟩
  refine ⟨rfl, fun address => ⟨fun inMain => ?_, fun inMmio => ?_, fun outMain outMmio => ?_⟩⟩
  · rw [← drafted.configuration]
    exact planned.route_dataPort_main realizes stands inMain
  · have channel := planned.home_of_channel inMmio
    refine ⟨owner address, assembly.home owner address, channel.1, channel.2, ?_⟩
    rw [← drafted.configuration]
    exact planned.route_dataPort_mmio realizes stands inMmio
  · refine Assembly.route_dataPort_unmapped realizes stands ?_
    rintro (inMain | inMmio)
    · exact absurd inMain (Bool.eq_false_iff.mp outMain)
    · exact absurd inMmio (Bool.eq_false_iff.mp outMmio)

/-- What the first core of the reference machine asks for in main memory and past
both windows. -/
theorem Machine.reference_routes_data : ∃ machine binding,
    assemble ⟨.reference, [], []⟩ = .ok machine ∧ machine.core? 0 = some binding ∧
      machine.route binding.dataPort 0x1000 =
        .ok ⟨machine.cachedHops binding, .ofNanoseconds 1⟩ ∧
      machine.route binding.dataPort 0x600000000 =
        .error (.unroutable "core0.dcache_port" "core0.dsplit" 0x600000000) := by
  rcases Blueprint.feasible_reference.assembles with ⟨machine, assembled⟩
  rcases route_of_dataPort assembled with ⟨count, main, mmio, madeMain, madeMmio, routes⟩
  have first : 0 < machine.nodes.cores.length := by
    rw [count]
    decide
  have found : machine.core? 0 = some machine.nodes.cores[0] := List.getElem?_eq_getElem first
  have inMain : Configuration.reference.memory.mainRange.map (fun range =>
      (range.contains 0x1000, range.contains 0x600000000)) = .ok (true, false) := by
    decide +kernel
  have inMmio : Configuration.reference.memory.mmioRange.map
      (·.contains 0x600000000) = .ok false := by
    decide +kernel
  rw [madeMain] at inMain
  rw [madeMmio] at inMmio
  have inMain := Prod.mk.inj (Except.ok.inj inMain)
  have inMmio := Except.ok.inj inMmio
  rcases routes 0 _ found with ⟨-, routes⟩
  exact ⟨machine, _, assembled, found, (routes 0x1000).1 inMain.1,
    (routes 0x600000000).2.2 inMain.2 inMmio⟩

/-- Requests end in a machine, and whatever a requestor may ask for comes to the
one controller that accepts it, past the caches if it lies in the MMIO window. -/
theorem Machine.requests_come_home {blueprint : Blueprint} {machine : Machine}
    (assembled : assemble blueprint = .ok machine) :
    (∀ origin address fault, machine.route origin address = .error fault →
      (∀ name target, fault ≠ .routingLoop name target) ∧
      ∀ place first second target, fault ≠ .ambiguousRoute place first second target) ∧
    ∃ main mmio, blueprint.configuration.memory.mainRange = .ok main ∧
      blueprint.configuration.memory.mmioRange = .ok mmio ∧
      ∀ place requestor, machine.graph.kind? place = some (.requestor requestor) →
        ∀ range ∈ requestor.ranges, ∀ address, range.contains address = true →
          (main.contains address = true ∨ mmio.contains address = true) ∧
          ∃ route terminal controller, machine.route place address = .ok route ∧
            route.terminal? = some terminal ∧
            machine.graph.kind? terminal = some (.controller controller) ∧
            controller.accepts address = true ∧
            (∀ other otherController,
              machine.graph.kind? other = some (.controller otherController) →
                otherController.accepts address = true → other = terminal) ∧
            (main.contains address = true → terminal = machine.nodes.mainController) ∧
            (mmio.contains address = true →
              (∃ channel, machine.plan.channelOf address = some channel ∧
                machine.nodes.mmioControllers[channel]? = some terminal) ∧
              ∀ hop ∈ route.hops, ∀ cache, machine.graph.kind? hop ≠ some (.cache cache)) := by
  rcases exists_drafted assembled with ⟨assembly, drafted, graph, realizes, rfl⟩
  rcases drafted.exists_planned with ⟨owner, planned⟩
  refine ⟨?_, assembly.main, assembly.mmio, drafted.main, drafted.mmio, ?_⟩
  · intro origin address fault failed
    rcases planned.fault_of_route realizes failed with ⟨last, rfl⟩ | rfl
    · exact ⟨fun _ _ loops => (by cases loops), fun _ _ _ _ ambiguous => (by cases ambiguous)⟩
    · exact ⟨fun _ _ loops => (by cases loops), fun _ _ _ _ ambiguous => (by cases ambiguous)⟩
  · intro place requestor found range member address inRange
    rcases planned.answered realizes found range member address inRange with ⟨mapped, comes⟩
    rcases comes place with ⟨hops, latency, follows, last, uncached⟩
    have home := planned.home_mem mapped
    rcases Assembly.exists_controller_of_mem realizes home with ⟨controller, kind⟩
    have route := follows.route_eq realizes.sound (Graph.index_lt_size_of_kind? found)
    refine ⟨mapped, _, _, controller, route, last, kind,
      (planned.controller_accepts_iff realizes kind address).mpr ⟨mapped, rfl⟩, ?_,
      Assembly.home_of_main, fun inMmio => ⟨⟨_, planned.home_of_channel inMmio⟩,
        uncached inMmio⟩⟩
    intro other otherController otherKind accepted
    exact ((planned.controller_accepts_iff realizes otherKind address).mp accepted).2

/-- The host of the reference machine loads from the first address of the MMIO window. -/
theorem Machine.reference_answers_host : ∃ machine route channel controller,
    assemble ⟨.reference, [], []⟩ = .ok machine ∧
      machine.route machine.nodes.systemPort 0x200000000 = .ok route ∧
      machine.plan.channelOf 0x200000000 = some channel ∧
      machine.nodes.mmioControllers[channel]? = some controller ∧
      route.terminal? = some controller := by
  rcases Blueprint.feasible_reference.exists_drafted with ⟨assembly, drafted⟩
  rcases drafted.assembles with ⟨graph, realizes, assembled⟩
  rcases requests_come_home assembled with ⟨-, main, mmio, -, madeMmio, home⟩
  have inMmio : Configuration.reference.memory.mmioRange.map (·.contains 0x200000000) =
      .ok true := by
    decide +kernel
  rw [madeMmio] at inMmio
  have inMmio := Except.ok.inj inMmio
  have same : assembly.mmio = mmio := Except.ok.inj (drafted.mmio.symm.trans madeMmio)
  have port := realizes.kind?_of_station assembly.systemPort_station
  rcases home _ _ port assembly.mmio (by simp) 0x200000000 (same ▸ inMmio) with
    ⟨-, route, terminal, controller, found, ends, -, -, -, -, served⟩
  rcases (served inMmio).1 with ⟨channel, owned, bank⟩
  exact ⟨_, route, channel, terminal, assembled, found, owned, bank, ends⟩

end MemoryFabric
