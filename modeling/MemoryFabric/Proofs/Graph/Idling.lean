import MemoryFabric.Proofs.Graph.Decisions
import MemoryFabric.Proofs.Graph.Paths

/-! Steps of wiring that join nothing. They may add nodes and ports, but no request that
the fabric had an answer for fares differently: what a node does with it depends on what
the ports of the node are joined to, and a request that goes round does so in a fabric of
any size. -/

namespace MemoryFabric.Graph

variable {graph next : Graph} {origin place : NodeId} {address : UInt64}

/-- The step joins nothing: it adds a node or asks for a port, it fails, or the two ports
are joined already. -/
inductive JoinsNothing (graph : Graph) : WiringStep → Prop where
  | addNode (name : String) (kind : NodeKind) : JoinsNothing graph (.addNode name kind)
  | port (node : NodeId) (side : Side) : JoinsNothing graph (.port node side)
  | connectFails {first second : Endpoint} {fault : Fault} {next : Graph}
      (failed : connect first second graph = .error fault next) :
      JoinsNothing graph (.connect first second)
  | linkFails {upper lower : NodeId} {fault : Fault} {next : Graph}
      (failed : link upper lower graph = .error fault next) :
      JoinsNothing graph (.link upper lower)
  | connectAgain {first second : Endpoint} (joined : graph.peer? first = some second) :
      JoinsNothing graph (.connect first second)

/-- The nodes stay and what their ports are joined to; nodes and ports may be added. -/
structure Preserves (graph next : Graph) : Prop where
  size : graph.size ≤ next.size
  nodes : ∀ node, node.index < graph.size → next.node? node = graph.node? node
  peers : ∀ endpoint, next.peer? endpoint = graph.peer? endpoint
  neighbours : ∀ node side, next.neighbours node side = graph.neighbours node side
  edges : next.edges = graph.edges

/-! ## What the steps preserve -/

theorem Preserves.refl (graph : Graph) : Preserves graph graph where
  size := Nat.le_refl _
  nodes _ _ := rfl
  peers _ := rfl
  neighbours _ _ := rfl
  edges := rfl

theorem Preserves.trans {between : Graph} (earlier : Preserves graph between)
    (later : Preserves between next) : Preserves graph next where
  size := Nat.le_trans earlier.size later.size
  nodes node inside :=
    (later.nodes node (Nat.lt_of_lt_of_le inside earlier.size)).trans (earlier.nodes node inside)
  peers endpoint := (later.peers endpoint).trans (earlier.peers endpoint)
  neighbours node side := (later.neighbours node side).trans (earlier.neighbours node side)
  edges := later.edges.trans earlier.edges

theorem preserves_withNode (graph : Graph) (node : Node) :
    Preserves graph (graph.withNode node) where
  size := by
    rw [size_withNode]
    exact Nat.le_succ _
  nodes other inside := by
    rw [node?_withNode, if_neg (Nat.ne_of_lt inside)]
  peers := peer?_withNode graph node
  neighbours := neighbours_withNode graph node
  edges := edges_withNode graph node

theorem preserves_addPort (graph : Graph) (node : NodeId) (side : Side) :
    Preserves graph (graph.addPort node side) where
  size := by rw [size_addPort]
  nodes other _ := node?_addPort graph node side other
  peers := peer?_addPort graph node side
  neighbours other otherSide := neighbours_addPort graph node other side otherSide
  edges := edges_addPort graph node side

theorem preserves_port (graph : Graph) (node : NodeId) (side : Side) :
    Preserves graph ((port node side).after graph) := by
  rcases port_cases graph node side with ⟨fault, failed⟩ | ⟨vertex, -, -, made⟩ |
    ⟨vertex, -, -, made⟩
  · rw [Wiring.after_of_error failed]
    exact .refl graph
  · rw [Wiring.after_of_ok made]
    exact .refl graph
  · rw [Wiring.after_of_ok made]
    exact preserves_addPort graph node side

theorem eq_of_connect_eq_error {first second : Endpoint} {fault : Fault}
    (failed : connect first second graph = .error fault next) : next = graph := by
  rcases connect_cases graph first second with ⟨other, same⟩ | made | ⟨mem, cpu, -, -, made⟩
  · rw [same] at failed
    cases failed
    rfl
  · rw [made] at failed
    cases failed
  · rw [made] at failed
    cases failed

/-- A link that fails leaves at most ports behind that are not joined to anything. -/
theorem preserves_of_link_eq_error {upper lower : NodeId} {fault : Fault}
    (failed : link upper lower graph = .error fault next) : Preserves graph next := by
  have above := preserves_port graph upper .mem
  rcases Wiring.bind_eq_error failed with stopped | ⟨mem, first, madeMem, failed⟩
  · rwa [Wiring.after_of_error stopped] at above
  · rw [Wiring.after_of_ok madeMem] at above
    have below := preserves_port first lower .cpu
    rcases Wiring.bind_eq_error failed with stopped | ⟨cpu, second, madeCpu, failed⟩
    · rw [Wiring.after_of_error stopped] at below
      exact above.trans below
    · rw [Wiring.after_of_ok madeCpu] at below
      rw [eq_of_connect_eq_error failed]
      exact above.trans below

theorem Sound.connect_of_joined (sound : graph.Sound) {first second : Endpoint}
    (joined : graph.peer? first = some second) : connect first second graph = .ok () graph := by
  have back := sound.symmetric first second joined
  have possible : ¬ (first.side = second.side ∨ first.node = second.node) := by
    rintro (sameSide | sameNode)
    · have opposite := sound.opposite first second joined
      rw [← sameSide] at opposite
      cases side : first.side <;> rw [side] at opposite <;> cases opposite
    · exact sound.apart first second joined sameNode.symm
  rw [connect, if_neg (by simp [hasEndpoint_of_peer? joined]),
    if_neg (by simp [hasEndpoint_of_peer? back]), if_neg possible, if_pos joined]

theorem Sound.preserves_advance (sound : graph.Sound) {step : WiringStep}
    (idle : graph.JoinsNothing step) : Preserves graph (graph.advance step) := by
  cases idle with
  | addNode name kind => exact preserves_withNode graph ⟨name, kind⟩
  | port node side => exact preserves_port graph node side
  | connectFails failed =>
      rw [Graph.advance, Wiring.after_of_error failed, eq_of_connect_eq_error failed]
      exact .refl graph
  | linkFails failed =>
      rw [Graph.advance, Wiring.after_of_error failed]
      exact preserves_of_link_eq_error failed
  | connectAgain joined =>
      rw [Graph.advance, Wiring.after_of_ok (sound.connect_of_joined joined)]
      exact .refl graph

inductive Idles : Graph → List WiringStep → Prop where
  | nil (graph : Graph) : Idles graph []
  | cons {graph : Graph} {step : WiringStep} {rest : List WiringStep}
      (idle : graph.JoinsNothing step) (later : Idles (graph.advance step) rest) :
      Idles graph (step :: rest)

theorem Sound.preserves_foldl_advance (sound : graph.Sound) {steps : List WiringStep}
    (idles : graph.Idles steps) : Preserves graph (steps.foldl Graph.advance graph) := by
  induction idles with
  | nil graph => exact .refl graph
  | @cons graph step rest idle later induction =>
      exact (sound.preserves_advance idle).trans (induction (sound.advance step))

/-! ## What requests meet -/

namespace Preserves

theorem kind?_eq (preserves : Preserves graph next) (inside : place.index < graph.size) :
    next.kind? place = graph.kind? place := by
  rw [kind?, kind?, preserves.nodes place inside]

theorem nameOf_eq (preserves : Preserves graph next) (inside : place.index < graph.size) :
    next.nameOf place = graph.nameOf place := by
  rw [nameOf, nameOf, preserves.nodes place inside]

theorem unroutable_eq (preserves : Preserves graph next) (insideOrigin : origin.index < graph.size)
    (inside : place.index < graph.size) (address : UInt64) :
    next.unroutable origin place address = graph.unroutable origin place address := by
  rw [unroutable, unroutable, preserves.nameOf_eq insideOrigin, preserves.nameOf_eq inside]

theorem accepting_eq (preserves : Preserves graph next) (sound : graph.Sound) (place : NodeId)
    (address : UInt64) :
    (next.downstream place).filter (next.accepts · address) =
      (graph.downstream place).filter (graph.accepts · address) := by
  rw [downstream, preserves.neighbours]
  apply List.filter_congr
  intro below member
  rw [accepts, accepts, preserves.kind?_eq (sound.neighbour_lt_size member)]

theorem select_eq (preserves : Preserves graph next) (sound : graph.Sound)
    (insideOrigin : origin.index < graph.size) (inside : place.index < graph.size)
    (address : UInt64) :
    next.select origin place address = graph.select origin place address := by
  rw [select, select, preserves.accepting_eq sound]
  cases here : (graph.downstream place).filter (graph.accepts · address) with
  | nil => exact congrArg Except.error (preserves.unroutable_eq insideOrigin inside address)
  | cons first rest =>
      cases rest with
      | nil => rfl
      | cons second rest =>
          have below : ∀ node ∈ first :: second :: rest, node.index < graph.size := by
            intro node member
            rw [← here] at member
            exact sound.neighbour_lt_size (List.mem_of_mem_filter member)
          dsimp only
          rw [preserves.nameOf_eq inside, preserves.nameOf_eq (below first (by simp)),
            preserves.nameOf_eq (below second (by simp))]

theorem soleDownstream_eq (preserves : Preserves graph next)
    (insideOrigin : origin.index < graph.size) (inside : place.index < graph.size)
    (address : UInt64) :
    next.soleDownstream origin place address = graph.soleDownstream origin place address := by
  rw [soleDownstream, soleDownstream, preserves.peers, preserves.unroutable_eq insideOrigin inside]

theorem hop_eq (preserves : Preserves graph next) (sound : graph.Sound)
    (insideOrigin : origin.index < graph.size) (inside : place.index < graph.size)
    (address : UInt64) : next.hop origin place address = graph.hop origin place address :=
  hop_congr (preserves.kind?_eq inside) (preserves.unroutable_eq insideOrigin inside address)
    (fun _ _ => preserves.select_eq sound insideOrigin inside address)
    fun _ => preserves.soleDownstream_eq insideOrigin inside address

theorem passes (preserves : Preserves graph next) (sound : graph.Sound) {lower : NodeId}
    (inside : place.index < graph.size) (step : graph.Passes address place lower) :
    next.Passes address place lower := by
  have here := step.hop_eq place
  rw [← preserves.hop_eq sound inside inside] at here
  exact (forwarded_iff.mp here).1

theorem follows (preserves : Preserves graph next) (sound : graph.Sound)
    (insideOrigin : origin.index < graph.size) (inside : place.index < graph.size)
    {hops : List NodeId} {outcome : Except Fault Latency}
    (follows : graph.Follows origin address place hops outcome) :
    next.Follows origin address place hops outcome := by
  induction follows with
  | served here =>
      rw [← preserves.hop_eq sound insideOrigin inside] at here
      exact .served here
  | refused here =>
      rw [← preserves.hop_eq sound insideOrigin inside] at here
      exact .refused here
  | forwarded here rest induction =>
      have later := induction (sound.neighbour_lt_size (downstream_of_hop sound here))
      rw [← preserves.hop_eq sound insideOrigin inside] at here
      exact .forwarded here later

theorem circles (preserves : Preserves graph next) (sound : graph.Sound)
    (inside : place.index < graph.size) (circles : graph.Circles address place) :
    next.Circles address place := by
  rcases circles with ⟨visited, chain, twice⟩
  have insideAll := sound.index_lt_size_of_isChain inside chain
  refine ⟨visited, chain.imp_of_mem_imp ?_, twice⟩
  intro upper lower member _ step
  exact preserves.passes sound (insideAll upper member) step

/-- How long a request is followed depends on the number of nodes, but what becomes of it
does not: one that ends does so within the nodes that were there, and one that goes round
never ends. -/
theorem route_eq (preserves : Preserves graph next) (sound : graph.Sound)
    (nextSound : next.Sound) (inside : origin.index < graph.size) (address : UInt64) :
    next.route origin address = graph.route origin address := by
  have insideNext := Nat.lt_of_lt_of_le inside preserves.size
  rcases sound.route_cases inside address with ⟨hops, outcome, follows, ends⟩ | ⟨circles, loops⟩
  · rw [ends]
    exact (preserves.follows sound inside inside follows).route_eq nextSound insideNext
  · rw [loops, nextSound.route_eq_routingLoop_iff insideNext]
    exact ⟨(preserves.nameOf_eq inside).symm, rfl, preserves.circles sound inside circles⟩

end Preserves

/-! ## Routes of wired fabrics -/

/-- Adding a node, asking for a port, a joining that fails and joining what is joined
already make no edge and change no route from a node that was there, no other end of a
port, and nothing of what is below or above a node. -/
theorem Wired.idle_step_keeps_routes (wired : graph.Wired) {step : WiringStep}
    (idle : graph.JoinsNothing step) :
    (∀ origin : NodeId, origin.index < graph.size → ∀ address,
      (graph.advance step).route origin address = graph.route origin address) ∧
    (graph.advance step).edges = graph.edges ∧
    (∀ endpoint, (graph.advance step).peer? endpoint = graph.peer? endpoint) ∧
    ∀ node, (graph.advance step).downstream node = graph.downstream node ∧
      (graph.advance step).upstream node = graph.upstream node := by
  have sound := wired.sound
  have preserves := sound.preserves_advance idle
  refine ⟨fun origin inside address => ?_, preserves.edges, preserves.peers,
    fun node => ⟨?_, ?_⟩⟩
  · exact preserves.route_eq sound (sound.advance step) inside address
  · exact preserves.neighbours node .mem
  · exact preserves.neighbours node .cpu

/-- A link to a bridge that is taken fails, but the crossbar above keeps the port that was
made for it. -/
theorem idle_step_keeps_routes_roundabout :
    roundabout.Wired ∧ roundabout.JoinsNothing (.link ⟨1⟩ ⟨2⟩) ∧
      (⟨0⟩ : NodeId).index < roundabout.size ∧
        (roundabout.advance (.link ⟨1⟩ ⟨2⟩)).portCount ⟨1⟩ .mem =
            roundabout.portCount ⟨1⟩ .mem + 1 ∧
          (roundabout.advance (.link ⟨1⟩ ⟨2⟩)).route ⟨0⟩ 0x40 =
              .ok ⟨[⟨0⟩, ⟨1⟩, ⟨2⟩, ⟨3⟩], .ofNanoseconds 7⟩ ∧
            (roundabout.advance (.link ⟨1⟩ ⟨2⟩)).route ⟨0⟩ 0xC0 =
              .error (.routingLoop "cpu" 0xC0) := by
  have wired : roundabout.Wired := ⟨_, rfl⟩
  have idle : roundabout.JoinsNothing (.link ⟨1⟩ ⟨2⟩) := .linkFails rfl
  have inside : (⟨0⟩ : NodeId).index < roundabout.size := by decide
  have keeps := (wired.idle_step_keeps_routes idle).1 ⟨0⟩ inside
  refine ⟨wired, idle, inside, by decide +kernel, ?_, ?_⟩
  · rw [keeps 0x40]
    decide +kernel
  · rw [keeps 0xC0]
    decide +kernel

theorem Wired.route_eq_of_idles (wired : graph.Wired) {steps : List WiringStep}
    (idles : graph.Idles steps) (inside : origin.index < graph.size) (address : UInt64) :
    (steps.foldl Graph.advance graph).route origin address = graph.route origin address :=
  (wired.sound.preserves_foldl_advance idles).route_eq wired.sound
    (wired.sound.foldl_advance steps) inside address

end MemoryFabric.Graph
