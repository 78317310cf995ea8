import MemoryFabric.Proofs.Machine.Routes

/-! Routes of a core. Its splitter sends an address of main memory through the
data cache, one of the MMIO window around the caches, and any other nowhere. -/

namespace MemoryFabric.Assembly

variable {assembly : Assembly} {owner : UInt64 → Nat} {graph : Graph}
variable {assignment : CoreAssignment} {start : Nat} {address : UInt64}

@[simp] theorem accepts_window_bridge (range : AddressRange) (latency : Latency)
    (address : UInt64) :
    Bridge.accepts ⟨[.whole range], latency⟩ address = range.contains address := by
  simp [Bridge.accepts]

/-! ## The splitter -/

theorem accepts_cachedBridge (realizes : graph.Realizes assembly.netlist)
    (core : assembly.CoreAt assignment start) (address : UInt64) :
    graph.accepts ⟨start + 4⟩ address = assembly.main.contains address := by
  rw [Graph.accepts_of_kind (realizes.kind?_of_station (core.base 4 rfl rfl))]
  exact accepts_window_bridge _ _ _

theorem accepts_bypassBridge (realizes : graph.Realizes assembly.netlist)
    (core : assembly.CoreAt assignment start) (address : UInt64) :
    graph.accepts ⟨start + 5⟩ address = assembly.mmio.contains address := by
  rw [Graph.accepts_of_kind (realizes.kind?_of_station (core.base 5 rfl rfl))]
  exact accepts_window_bridge _ _ _

theorem downstream_splitter (realizes : graph.Realizes assembly.netlist)
    (core : assembly.CoreAt assignment start) :
    graph.downstream ⟨start + 3⟩ = [⟨start + 4⟩, ⟨start + 5⟩] :=
  realizes.downstream_of_station (core.base 3 rfl rfl)

theorem Planned.exclusive_splitter (planned : assembly.Planned owner)
    (realizes : graph.Realizes assembly.netlist) (core : assembly.CoreAt assignment start) :
    graph.Exclusive ⟨start + 3⟩ := by
  intro address
  rw [downstream_splitter realizes core, List.pairwise_cons]
  refine ⟨?_, List.pairwise_singleton _ _⟩
  rintro other member ⟨cached, bypassed⟩
  rw [List.mem_singleton] at member
  subst member
  rw [accepts_cachedBridge realizes core] at cached
  rw [accepts_bypassBridge realizes core] at bypassed
  exact planned.not_both cached bypassed

theorem Planned.follows_dataCache (planned : assembly.Planned owner)
    (realizes : graph.Realizes assembly.netlist) (core : assembly.CoreAt assignment start)
    (origin : NodeId) (mapped : assembly.Mapped address) :
    graph.Follows origin address ⟨start + 6⟩
      [⟨start + 6⟩, ⟨assembly.controllerNetlist.size⟩, ⟨assembly.controllerNetlist.size + 1⟩,
        ⟨0⟩, assembly.home owner address] (.ok 0) := by
  have cache := core.base 6 rfl rfl
  exact .behind (Graph.hop_cache realizes.sound (realizes.kind?_of_station cache)
    (realizes.downstream_of_station cache)) (planned.follows_secondLevelBus realizes origin mapped)

theorem Planned.follows_splitter_main (planned : assembly.Planned owner)
    (realizes : graph.Realizes assembly.netlist) (core : assembly.CoreAt assignment start)
    (origin : NodeId) (inMain : assembly.main.contains address = true) :
    graph.Follows origin address ⟨start + 3⟩
      [⟨start + 3⟩, ⟨start + 4⟩, ⟨start + 6⟩, ⟨assembly.controllerNetlist.size⟩,
        ⟨assembly.controllerNetlist.size + 1⟩, ⟨0⟩, assembly.home owner address]
      (.ok assembly.configuration.bridge.latency) := by
  have bridge := core.base 4 rfl rfl
  have crossing : graph.hop origin ⟨start + 4⟩ address =
      .ok (.forwarded ⟨start + 6⟩ assembly.configuration.bridge.latency) := by
    rw [Graph.hop_bridge realizes.sound (realizes.kind?_of_station bridge)
      (realizes.downstream_of_station bridge)]
    exact if_pos ((accepts_window_bridge _ _ _).trans inMain)
  refine .behind ?_ (.delayed crossing
    (planned.follows_dataCache realizes core origin (Or.inl inMain)))
  refine Graph.hop_bus_of_accepts (realizes.kind?_of_station (core.base 3 rfl rfl))
    (planned.exclusive_splitter realizes core) ?_ ?_
  · rw [downstream_splitter realizes core]
    exact List.mem_cons_self
  · rw [accepts_cachedBridge realizes core]
    exact inMain

theorem Planned.follows_splitter_mmio (planned : assembly.Planned owner)
    (realizes : graph.Realizes assembly.netlist) (core : assembly.CoreAt assignment start)
    (origin : NodeId) (inMmio : assembly.mmio.contains address = true) :
    graph.Follows origin address ⟨start + 3⟩
      [⟨start + 3⟩, ⟨start + 5⟩, ⟨0⟩, assembly.home owner address]
      (.ok assembly.configuration.bridge.bypass) := by
  have bridge := core.base 5 rfl rfl
  have crossing : graph.hop origin ⟨start + 5⟩ address =
      .ok (.forwarded ⟨0⟩ assembly.configuration.bridge.bypass) := by
    rw [Graph.hop_bridge realizes.sound (realizes.kind?_of_station bridge)
      (realizes.downstream_of_station bridge)]
    exact if_pos ((accepts_window_bridge _ _ _).trans inMmio)
  refine .behind ?_ (.delayed crossing
    (planned.follows_systemBus realizes origin (Or.inr inMmio)))
  refine Graph.hop_bus_of_accepts (realizes.kind?_of_station (core.base 3 rfl rfl))
    (planned.exclusive_splitter realizes core) ?_ ?_
  · rw [downstream_splitter realizes core]
    exact List.mem_cons_of_mem _ List.mem_cons_self
  · rw [accepts_bypassBridge realizes core]
    exact inMmio

theorem follows_splitter_unmapped (realizes : graph.Realizes assembly.netlist)
    (core : assembly.CoreAt assignment start) (origin : NodeId)
    (unmapped : ¬ assembly.Mapped address) :
    graph.Follows origin address ⟨start + 3⟩ [⟨start + 3⟩]
      (.error (graph.unroutable origin ⟨start + 3⟩ address)) := by
  refine .refused (Graph.hop_bus_of_refused
    (realizes.kind?_of_station (core.base 3 rfl rfl)) ?_)
  intro other member
  rw [downstream_splitter realizes core, List.mem_cons, List.mem_singleton] at member
  rcases member with rfl | rfl
  · rw [accepts_cachedBridge realizes core]
    exact fun inMain => unmapped (Or.inl inMain)
  · rw [accepts_bypassBridge realizes core]
    exact fun inMmio => unmapped (Or.inr inMmio)

/-! ## The ports -/

theorem hop_dataPort (realizes : graph.Realizes assembly.netlist)
    (core : assembly.CoreAt assignment start) (origin : NodeId) (address : UInt64) :
    graph.hop origin ⟨start + 2⟩ address = .ok (.forwarded ⟨start + 3⟩ 0) := by
  have port := core.base 2 rfl rfl
  exact Graph.hop_requestor realizes.sound (realizes.kind?_of_station port)
    (realizes.downstream_of_station port)

theorem Planned.follows_instructionPort (planned : assembly.Planned owner)
    (realizes : graph.Realizes assembly.netlist) (core : assembly.CoreAt assignment start)
    (origin : NodeId) (mapped : assembly.Mapped address) :
    graph.Follows origin address ⟨start⟩
      [⟨start⟩, ⟨start + 1⟩, ⟨assembly.controllerNetlist.size⟩,
        ⟨assembly.controllerNetlist.size + 1⟩, ⟨0⟩, assembly.home owner address] (.ok 0) := by
  have port := core.base 0 rfl rfl
  have cache := core.base 1 rfl rfl
  exact .behind (Graph.hop_requestor realizes.sound (realizes.kind?_of_station port)
      (realizes.downstream_of_station port))
    (.behind (Graph.hop_cache realizes.sound (realizes.kind?_of_station cache)
        (realizes.downstream_of_station cache))
      (planned.follows_secondLevelBus realizes origin mapped))

theorem Planned.follows_uplink (planned : assembly.Planned owner)
    (realizes : graph.Realizes assembly.netlist) {place : NodeId} {name : String}
    {requestor : Requestor}
    (station : assembly.netlist.Station place ⟨name, .requestor requestor⟩ [⟨0⟩])
    (origin : NodeId) (mapped : assembly.Mapped address) :
    graph.Follows origin address place [place, ⟨0⟩, assembly.home owner address] (.ok 0) :=
  .behind (Graph.hop_requestor realizes.sound (realizes.kind?_of_station station)
      (realizes.downstream_of_station station))
    (planned.follows_systemBus realizes origin mapped)

/-! ## Every node of the machine -/

/-- Only the system bus and the splitters have several nodes below them. -/
theorem downstream_cases (realizes : graph.Realizes assembly.netlist) {node : NodeId}
    (inside : node.index < assembly.netlist.size) :
    node = ⟨0⟩ ∨ (∃ assignment start, assembly.CoreAt assignment start ∧ node = ⟨start + 3⟩) ∨
      (graph.downstream node).length ≤ 1 := by
  rcases exists_stands inside with ⟨found, below, stands⟩
  rw [realizes.downstream_of_station stands.station]
  cases stands with
  | systemBus => exact Or.inl rfl
  | @dataSplitter assignment start _ core => exact Or.inr (Or.inl ⟨assignment, start, core, rfl⟩)
  | mainController | bank => exact Or.inr (Or.inr (Nat.zero_le 1))
  | secondLevelBus | secondLevelCache | instructionPort | instructionCache | dataPort |
    cachedBridge | bypassBridge | dataCache | optionalPort | systemPort =>
      exact Or.inr (Or.inr (Nat.le_refl 1))

theorem Planned.exclusive (planned : assembly.Planned owner)
    (realizes : graph.Realizes assembly.netlist) {node : NodeId}
    (inside : node.index < assembly.netlist.size) : graph.Exclusive node := by
  rcases downstream_cases realizes inside with rfl | ⟨assignment, start, core, rfl⟩ | few
  · exact planned.exclusive_systemBus realizes
  · exact planned.exclusive_splitter realizes core
  · exact Graph.exclusive_of_length_le_one few

theorem Planned.settles_dataCache (planned : assembly.Planned owner)
    (realizes : graph.Realizes assembly.netlist) (core : assembly.CoreAt assignment start) :
    graph.Settles ⟨start + 6⟩ :=
  settles_cache realizes (core.base 6 rfl rfl) (planned.settles_secondLevelBus realizes)

theorem Planned.settles_cachedBridge (planned : assembly.Planned owner)
    (realizes : graph.Realizes assembly.netlist) (core : assembly.CoreAt assignment start) :
    graph.Settles ⟨start + 4⟩ :=
  settles_bridge realizes (core.base 4 rfl rfl) (planned.settles_dataCache realizes core)

theorem Planned.settles_bypassBridge (planned : assembly.Planned owner)
    (realizes : graph.Realizes assembly.netlist) (core : assembly.CoreAt assignment start) :
    graph.Settles ⟨start + 5⟩ :=
  settles_bridge realizes (core.base 5 rfl rfl) (planned.settles_systemBus realizes)

theorem Planned.settles_splitter (planned : assembly.Planned owner)
    (realizes : graph.Realizes assembly.netlist) (core : assembly.CoreAt assignment start) :
    graph.Settles ⟨start + 3⟩ := by
  refine Graph.settles_bus (realizes.kind?_of_station (core.base 3 rfl rfl))
    (planned.exclusive_splitter realizes core) ?_
  intro next member
  rw [downstream_splitter realizes core, List.mem_cons, List.mem_singleton] at member
  rcases member with rfl | rfl
  · exact planned.settles_cachedBridge realizes core
  · exact planned.settles_bypassBridge realizes core

theorem Planned.settles (planned : assembly.Planned owner)
    (realizes : graph.Realizes assembly.netlist) {node : NodeId}
    (inside : node.index < assembly.netlist.size) : graph.Settles node := by
  have systemBus := planned.settles_systemBus realizes
  have secondLevelBus := planned.settles_secondLevelBus realizes
  rcases exists_stands inside with ⟨found, below, stands⟩
  have station := stands.station
  cases stands with
  | systemBus => exact systemBus
  | mainController => exact Graph.settles_controller (realizes.kind?_of_station station)
  | bank => exact Graph.settles_controller (realizes.kind?_of_station station)
  | secondLevelBus => exact secondLevelBus
  | secondLevelCache => exact settles_cache realizes station systemBus
  | instructionPort _ core =>
      exact settles_requestor realizes station
        (settles_cache realizes (core.base 1 rfl rfl) secondLevelBus)
  | instructionCache => exact settles_cache realizes station secondLevelBus
  | dataPort _ core =>
      exact settles_requestor realizes station (planned.settles_splitter realizes core)
  | dataSplitter _ core => exact planned.settles_splitter realizes core
  | cachedBridge _ core => exact planned.settles_cachedBridge realizes core
  | bypassBridge _ core => exact planned.settles_bypassBridge realizes core
  | dataCache _ core => exact planned.settles_dataCache realizes core
  | optionalPort => exact settles_requestor realizes station systemBus
  | systemPort => exact settles_requestor realizes station systemBus

end MemoryFabric.Assembly
