import MemoryFabric.Proofs.Machine.CoreRoutes

/-! Requests come home: what a requestor of a machine may ask for ends at the one
controller that accepts it, past the caches if it lies in the MMIO window. -/

namespace MemoryFabric.Assembly

variable {assembly : Assembly} {owner : UInt64 → Nat} {graph : Graph}

/-! ## Requests -/

def Uncached (graph : Graph) (node : NodeId) : Prop :=
  ∀ cache, graph.kind? node ≠ some (.cache cache)

theorem uncached_of_kind {node : NodeId} {kind : NodeKind} (found : graph.kind? node = some kind)
    (other : ∀ cache, kind ≠ .cache cache) : Uncached graph node := by
  intro cache cached
  rw [found] at cached
  cases cached
  exact other cache rfl

/-- A request for the address ends at its home, and passes no cache if the address
lies in the MMIO window. -/
def ComesHome (assembly : Assembly) (owner : UInt64 → Nat) (graph : Graph) (place : NodeId)
    (address : UInt64) : Prop :=
  ∀ origin, ∃ hops latency, graph.Follows origin address place hops (.ok latency) ∧
    hops.getLast? = some (assembly.home owner address) ∧
      (assembly.mmio.contains address = true → ∀ hop ∈ hops, Uncached graph hop)

theorem Planned.uncached_home (planned : assembly.Planned owner)
    (realizes : graph.Realizes assembly.netlist) {address : UInt64}
    (mapped : assembly.Mapped address) : Uncached graph (assembly.home owner address) := by
  rcases exists_controller_of_mem realizes (planned.home_mem mapped) with ⟨controller, kind⟩
  exact uncached_of_kind kind fun _ equal => by cases equal

theorem uncached_systemBus (realizes : graph.Realizes assembly.netlist) : Uncached graph ⟨0⟩ :=
  uncached_of_kind (realizes.kind?_of_station assembly.systemBus_station)
    fun _ equal => by cases equal

theorem Planned.comesHome_uplink (planned : assembly.Planned owner)
    (realizes : graph.Realizes assembly.netlist) {place : NodeId} {name : String}
    {requestor : Requestor}
    (station : assembly.netlist.Station place ⟨name, .requestor requestor⟩ [⟨0⟩])
    {address : UInt64} (mapped : assembly.Mapped address) :
    assembly.ComesHome owner graph place address := by
  intro origin
  refine ⟨_, _, planned.follows_uplink realizes station origin mapped, rfl, ?_⟩
  intro _ hop member
  simp only [List.mem_cons, List.not_mem_nil, or_false] at member
  rcases member with rfl | rfl | rfl
  · exact uncached_of_kind (realizes.kind?_of_station station) fun _ equal => by cases equal
  · exact uncached_systemBus realizes
  · exact planned.uncached_home realizes mapped

theorem Planned.comesHome_instructionPort (planned : assembly.Planned owner)
    (realizes : graph.Realizes assembly.netlist) {assignment : CoreAssignment} {start : Nat}
    (core : assembly.CoreAt assignment start) {address : UInt64}
    (inMain : assembly.main.contains address = true) :
    assembly.ComesHome owner graph ⟨start⟩ address := by
  intro origin
  exact ⟨_, _, planned.follows_instructionPort realizes core origin (Or.inl inMain), rfl,
    fun inMmio => absurd inMmio (planned.not_both inMain)⟩

theorem Planned.comesHome_dataPort (planned : assembly.Planned owner)
    (realizes : graph.Realizes assembly.netlist) {assignment : CoreAssignment} {start : Nat}
    (core : assembly.CoreAt assignment start) {address : UInt64}
    (mapped : assembly.Mapped address) :
    assembly.ComesHome owner graph ⟨start + 2⟩ address := by
  intro origin
  have first := hop_dataPort realizes core origin address
  rcases mapped with inMain | inMmio
  · exact ⟨_, _, .behind first (planned.follows_splitter_main realizes core origin inMain), rfl,
      fun inMmio => absurd inMmio (planned.not_both inMain)⟩
  · refine ⟨_, _, .behind first (planned.follows_splitter_mmio realizes core origin inMmio), rfl,
      ?_⟩
    intro _ hop member
    simp only [List.mem_cons, List.not_mem_nil, or_false] at member
    rcases member with rfl | rfl | rfl | rfl | rfl
    · exact uncached_of_kind (realizes.kind?_of_station (core.base 2 rfl rfl))
        fun _ equal => by cases equal
    · exact uncached_of_kind (realizes.kind?_of_station (core.base 3 rfl rfl))
        fun _ equal => by cases equal
    · exact uncached_of_kind (realizes.kind?_of_station (core.base 5 rfl rfl))
        fun _ equal => by cases equal
    · exact uncached_systemBus realizes
    · exact planned.uncached_home realizes (Or.inr inMmio)

/-- The addresses of the ranges that a node of the kind asks for come home from it. -/
def Answered (assembly : Assembly) (owner : UInt64 → Nat) (graph : Graph) (place : NodeId)
    (kind : NodeKind) : Prop :=
  ∀ range ∈ Check.requestedRanges kind, ∀ address, range.contains address = true →
    assembly.Mapped address ∧ assembly.ComesHome owner graph place address

theorem answered_of_silent {place : NodeId} {kind : NodeKind}
    (silent : Check.requestedRanges kind = []) : assembly.Answered owner graph place kind := by
  intro range member
  rw [silent] at member
  cases member

theorem answered_of_windows {place : NodeId} {requestor : Requestor}
    (windows : requestor.ranges = [assembly.main, assembly.mmio])
    (comes : ∀ address, assembly.Mapped address → assembly.ComesHome owner graph place address) :
    assembly.Answered owner graph place (.requestor requestor) := by
  intro range member address inRange
  rw [Check.requestedRanges, windows, List.mem_cons, List.mem_singleton] at member
  rcases member with rfl | rfl
  · exact ⟨Or.inl inRange, comes address (Or.inl inRange)⟩
  · exact ⟨Or.inr inRange, comes address (Or.inr inRange)⟩

theorem answered_of_main {place : NodeId} {requestor : Requestor}
    (within : ∀ range ∈ requestor.ranges, range = assembly.main)
    (comes : ∀ address, assembly.main.contains address = true →
      assembly.ComesHome owner graph place address) :
    assembly.Answered owner graph place (.requestor requestor) := by
  intro range member address inRange
  rw [within range member] at inRange
  exact ⟨Or.inl inRange, comes address inRange⟩

theorem optionalRanges_subset (assembly : Assembly) (capability : Capability) :
    ∀ range ∈ assembly.surroundings.optionalRanges capability, range = assembly.main := by
  intro range member
  cases capability with
  | instructionWalker => exact List.mem_singleton.mp member
  | dataWalker => exact List.mem_singleton.mp member
  | interruptController => cases member

theorem Planned.answered (planned : assembly.Planned owner)
    (realizes : graph.Realizes assembly.netlist) {place : NodeId} {kind : NodeKind}
    (found : graph.kind? place = some kind) : assembly.Answered owner graph place kind := by
  rcases exists_stands_of_kind realizes found with ⟨node, below, stands, rfl⟩
  have station := stands.station
  cases stands with
  | systemBus | mainController | bank | secondLevelBus | secondLevelCache | instructionCache |
    dataSplitter | cachedBridge | bypassBridge | dataCache =>
      exact answered_of_silent rfl
  | instructionPort _ core =>
      exact answered_of_main (fun range member => List.mem_singleton.mp member)
        fun address inMain => planned.comesHome_instructionPort realizes core inMain
  | dataPort _ core =>
      exact answered_of_windows rfl fun address mapped =>
        planned.comesHome_dataPort realizes core mapped
  | @optionalPort _ _ _ capability =>
      exact answered_of_main (optionalRanges_subset assembly capability) fun address inMain =>
        planned.comesHome_uplink realizes station (Or.inl inMain)
  | systemPort =>
      exact answered_of_windows rfl fun address mapped =>
        planned.comesHome_uplink realizes station mapped

/-! ## Controllers of the whole machine -/

theorem mem_controllerIds_of_kind (realizes : graph.Realizes assembly.netlist) {node : NodeId}
    {controller : MemoryController} (found : graph.kind? node = some (.controller controller)) :
    node ∈ assembly.controllerIds := by
  rcases exists_stands_of_kind realizes found with ⟨standing, below, stands, equal⟩
  cases stands with
  | mainController => exact (mem_controllerIds_iff _).mpr (Or.inl rfl)
  | bank inBank => exact (mem_controllerIds_iff _).mpr (Or.inr ⟨_, _, inBank, rfl⟩)
  | systemBus | secondLevelBus | secondLevelCache | instructionPort | instructionCache |
    dataPort | dataSplitter | cachedBridge | bypassBridge | dataCache | optionalPort |
    systemPort => cases equal

theorem Planned.controller_accepts_iff (planned : assembly.Planned owner)
    (realizes : graph.Realizes assembly.netlist) {node : NodeId} {controller : MemoryController}
    (found : graph.kind? node = some (.controller controller)) (address : UInt64) :
    controller.accepts address = true ↔
      assembly.Mapped address ∧ node = assembly.home owner address := by
  rw [← planned.accepts_controllerIds_iff realizes (mem_controllerIds_of_kind realizes found),
    Graph.accepts_of_kind found]
  rfl

end MemoryFabric.Assembly
