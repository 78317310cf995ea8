import MemoryFabric.Proofs.Graph.Idling
import MemoryFabric.Proofs.Graph.LinkOrder

/-! Wiring steps are all or nothing. A port that is refused and a joining that fails leave
the fabric as it was; ports are joined exactly where they fit and are both unconnected, or
joined to each other already, in whichever order they are given; and a link that fails
leaves no more behind than the ports that were made for it. -/

namespace MemoryFabric.Graph

variable {graph next : Graph} {first second : Endpoint}

structure Fitting (graph : Graph) (first second : Endpoint) : Prop where
  has_first : graph.HasPort first
  has_second : graph.HasPort second
  sides : first.side ≠ second.side
  apart : first.node ≠ second.node

def Joined (graph : Graph) (first second : Endpoint) : Prop :=
  graph.peer? first = some second ∧ graph.peer? second = some first

def Unconnected (graph : Graph) (first second : Endpoint) : Prop :=
  graph.peer? first = none ∧ graph.peer? second = none

/-- One edge comes last in the list, its two ends are joined to each other, and nothing
else is different. -/
structure GainsEdge (graph next : Graph) (edge : Edge) : Prop where
  nodes : next.nodes = graph.nodes
  edges : next.edges.toList = graph.edges.toList ++ [edge]
  peers : ∀ endpoint, next.peer? endpoint =
    if endpoint = edge.mem then some edge.cpu
    else if endpoint = edge.cpu then some edge.mem
    else graph.peer? endpoint
  ports : ∀ node side, next.portCount node side = graph.portCount node side

/-- Nothing is different, except that one port more may have been made on a side in
question. -/
structure MayGainPorts (graph next : Graph) (inQuestion : NodeId → Side → Prop) : Prop where
  nodes : next.nodes = graph.nodes
  edges : next.edges = graph.edges
  peers : ∀ endpoint, next.peer? endpoint = graph.peer? endpoint
  least : ∀ node side, graph.portCount node side ≤ next.portCount node side
  most : ∀ node side, next.portCount node side ≤ graph.portCount node side + 1
  others : ∀ node side, ¬ inQuestion node side →
    next.portCount node side = graph.portCount node side

/-! ## Views of extended fabrics -/

theorem nodes_congr (same : ∀ node, next.node? node = graph.node? node) :
    next.nodes = graph.nodes := by
  apply List.ext_getElem?
  intro index
  rw [getElem?_nodes, getElem?_nodes, same]

theorem portCount_of_vertex? {node : NodeId} {vertex : Vertex} (side : Side)
    (found : graph.vertex? node = some vertex) :
    graph.portCount node side =
      if vertex.node.kind.isVector side then (vertex.ports side).size else 0 := by
  rw [portCount, found]

theorem portCount_attach (graph : Graph) (endpoint peer : Endpoint) (node : NodeId)
    (side : Side) : (graph.attach endpoint peer).portCount node side =
      graph.portCount node side := by
  rw [portCount, portCount, vertex?_attach]
  by_cases sameNode : node = endpoint.node
  · rw [if_pos sameNode]
    cases graph.vertex? node with
    | none => rfl
    | some vertex =>
        by_cases sameSide : side = endpoint.side
        · simp [sameSide]
        · simp [Vertex.ports_modifyPorts_other vertex sameSide]
  · rw [if_neg sameNode]

theorem portCount_addEdge (graph : Graph) (mem cpu : Endpoint) (node : NodeId) (side : Side) :
    (graph.addEdge mem cpu).portCount node side = graph.portCount node side := by
  change ((graph.attach mem cpu).attach cpu mem).portCount node side = _
  rw [portCount_attach, portCount_attach]

theorem portCount_addPort {changed : NodeId} {side : Side} {vertex : Vertex}
    (found : graph.vertex? changed = some vertex)
    (vector : vertex.node.kind.isVector side = true) (node : NodeId) (other : Side) :
    (graph.addPort changed side).portCount node other =
      graph.portCount node other + if node = changed ∧ other = side then 1 else 0 := by
  rw [portCount, portCount, vertex?_addPort]
  by_cases sameNode : node = changed
  · subst sameNode
    rw [if_pos rfl, found]
    by_cases sameSide : other = side
    · subst sameSide
      simp [vector]
    · simp [sameSide, Vertex.ports_modifyPorts_other vertex sameSide]
  · simp [sameNode]

/-! ## Joining -/

theorem Sound.hasEndpoint_iff (sound : graph.Sound) (endpoint : Endpoint) :
    graph.hasEndpoint endpoint = true ↔ graph.HasPort endpoint := by
  refine ⟨sound.hasPort, ?_⟩
  intro has
  rcases has with ⟨kind, foundKind, hasSide, numbered⟩
  rw [kind?, node?_eq, Option.map_map, Option.map_eq_some_iff] at foundKind
  rcases foundKind with ⟨vertex, found, rfl⟩
  rw [Function.comp_apply] at hasSide numbered
  rw [hasEndpoint_eq_true_iff]
  refine ⟨vertex, found, ?_⟩
  cases isBus : vertex.node.kind.isBus with
  | true =>
      have vector : vertex.node.kind.isVector endpoint.side = true := by
        simp [NodeKind.isVector, isBus, hasSide]
      rwa [if_pos isBus, portCount_of_vertex? _ found, if_pos vector] at numbered
  | false =>
      have scalar : vertex.node.kind.isVector endpoint.side = false := by
        simp [NodeKind.isVector, isBus]
      rw [if_neg (by simp [isBus])] at numbered
      rw [sound.scalar_ports _ vertex _ found scalar, numbered, Vertex.firstPorts,
        if_pos (by simp [hasSide, scalar])]
      exact Nat.zero_lt_one

theorem Fitting.symm (fitting : graph.Fitting first second) : graph.Fitting second first :=
  ⟨fitting.has_second, fitting.has_first, fitting.sides.symm, fitting.apart.symm⟩

theorem Joined.symm (joined : graph.Joined first second) : graph.Joined second first :=
  And.symm joined

theorem Unconnected.symm (unconnected : graph.Unconnected first second) :
    graph.Unconnected second first :=
  And.symm unconnected

theorem between_comm (sides : first.side ≠ second.side) :
    Edge.between first.side first second = Edge.between second.side second first := by
  cases firstSide : first.side <;> cases secondSide : second.side
  · exact absurd (firstSide.trans secondSide.symm) sides
  · rfl
  · rfl
  · exact absurd (firstSide.trans secondSide.symm) sides

theorem Sound.joinable (sound : graph.Sound) (fitting : graph.Fitting first second)
    (unconnected : graph.Unconnected first second) :
    graph.Joinable (Edge.between first.side first second).mem
      (Edge.between first.side first second).cpu := by
  have hasFirst := (sound.hasEndpoint_iff first).mpr fitting.has_first
  have hasSecond := (sound.hasEndpoint_iff second).mpr fitting.has_second
  cases firstSide : first.side <;> cases secondSide : second.side
  · exact absurd (firstSide.trans secondSide.symm) fitting.sides
  · exact ⟨secondSide, firstSide, fitting.apart.symm, hasSecond, hasFirst, unconnected.2,
      unconnected.1⟩
  · exact ⟨firstSide, secondSide, fitting.apart, hasFirst, hasSecond, unconnected.1,
      unconnected.2⟩
  · exact absurd (firstSide.trans secondSide.symm) fitting.sides

theorem Joinable.gainsEdge {edge : Edge} (joinable : graph.Joinable edge.mem edge.cpu) :
    graph.GainsEdge (graph.addEdge edge.mem edge.cpu) edge where
  nodes := nodes_congr (node?_addEdge graph _ _)
  edges := by rw [edges_addEdge, Array.toList_push]
  peers endpoint := by
    rw [peer?_addEdge graph joinable.has_mem joinable.has_cpu]
    by_cases atMem : endpoint = edge.mem
    · rw [if_neg (atMem ▸ joinable.different), if_pos atMem, if_pos atMem]
    · rw [if_neg atMem, if_neg atMem]
  ports := portCount_addEdge graph _ _

theorem Sound.connect_of_unconnected (sound : graph.Sound)
    (fitting : graph.Fitting first second) (unconnected : graph.Unconnected first second) :
    connect first second graph = .ok () (graph.addEdge
      (Edge.between first.side first second).mem (Edge.between first.side first second).cpu) := by
  have hasFirst := (sound.hasEndpoint_iff first).mpr fitting.has_first
  have hasSecond := (sound.hasEndpoint_iff second).mpr fitting.has_second
  have possible : ¬ (first.side = second.side ∨ first.node = second.node) :=
    not_or.mpr ⟨fitting.sides, fitting.apart⟩
  have noFault : graph.connectionFault? first second = none := by
    simp [connectionFault?, unconnected.1, unconnected.2]
  rw [connect, if_neg (by simp [hasFirst]), if_neg (by simp [hasSecond]), if_neg possible,
    if_neg (by simp [unconnected.1]), noFault]
  cases first.side <;> rfl

theorem Sound.cases_of_connect (sound : graph.Sound)
    (made : connect first second graph = .ok () next) :
    graph.Fitting first second ∧
      (graph.Joined first second ∨ graph.Unconnected first second) := by
  rw [connect] at made
  split at made
  case isTrue => cases made
  case isFalse hasFirst =>
    split at made
    case isTrue => cases made
    case isFalse hasSecond =>
      split at made
      case isTrue => cases made
      case isFalse possible =>
        rw [not_or] at possible
        refine ⟨⟨sound.hasPort (by simpa using hasFirst), sound.hasPort (by simpa using hasSecond),
          possible.1, possible.2⟩, ?_⟩
        split at made
        case isTrue joined => exact Or.inl ⟨joined, sound.symmetric _ _ joined⟩
        case isFalse =>
          split at made
          case h_1 => cases made
          case h_2 noFault => exact Or.inr (free_of_connectionFault? noFault)

/-- Ports are joined where they fit and are joined to each other already, which changes
nothing, or are both unconnected, which makes one edge. -/
theorem Sound.connect_eq_ok_iff (sound : graph.Sound) :
    connect first second graph = .ok () next ↔
      graph.Fitting first second ∧
        (graph.Joined first second ∧ next = graph ∨
          graph.Unconnected first second ∧
            next = graph.addEdge (Edge.between first.side first second).mem
              (Edge.between first.side first second).cpu) := by
  constructor
  · intro made
    rcases sound.cases_of_connect made with ⟨fitting, joined | unconnected⟩
    · rw [sound.connect_of_joined joined.1] at made
      cases made
      exact ⟨fitting, Or.inl ⟨joined, rfl⟩⟩
    · rw [sound.connect_of_unconnected fitting unconnected] at made
      cases made
      exact ⟨fitting, Or.inr ⟨unconnected, rfl⟩⟩
  · intro holds
    rcases holds with ⟨fitting, ⟨joined, rfl⟩ | ⟨unconnected, rfl⟩⟩
    · exact sound.connect_of_joined joined.1
    · exact sound.connect_of_unconnected fitting unconnected

theorem Sound.connect_comm (sound : graph.Sound)
    (made : connect first second graph = .ok () next) :
    connect second first graph = .ok () next := by
  rw [sound.connect_eq_ok_iff] at made ⊢
  rcases made with ⟨fitting, ⟨joined, same⟩ | ⟨unconnected, same⟩⟩
  · exact ⟨fitting.symm, Or.inl ⟨joined.symm, same⟩⟩
  · rw [between_comm fitting.sides] at same
    exact ⟨fitting.symm, Or.inr ⟨unconnected.symm, same⟩⟩

/-! ## Ports made on the way -/

theorem MayGainPorts.refl (graph : Graph) (inQuestion : NodeId → Side → Prop) :
    graph.MayGainPorts graph inQuestion where
  nodes := rfl
  edges := rfl
  peers _ := rfl
  least _ _ := Nat.le_refl _
  most _ _ := Nat.le_succ _
  others _ _ _ := rfl

theorem MayGainPorts.trans {between : Graph} {earlier later : NodeId → Side → Prop}
    (gainsEarlier : graph.MayGainPorts between earlier)
    (gainsLater : between.MayGainPorts next later)
    (apart : ∀ node side, earlier node side → ¬ later node side) :
    graph.MayGainPorts next fun node side => earlier node side ∨ later node side where
  nodes := gainsLater.nodes.trans gainsEarlier.nodes
  edges := gainsLater.edges.trans gainsEarlier.edges
  peers endpoint := (gainsLater.peers endpoint).trans (gainsEarlier.peers endpoint)
  least node side := Nat.le_trans (gainsEarlier.least node side) (gainsLater.least node side)
  most node side := by
    by_cases here : earlier node side
    · rw [gainsLater.others node side (apart node side here)]
      exact gainsEarlier.most node side
    · rw [← gainsEarlier.others node side here]
      exact gainsLater.most node side
  others node side outside := by
    rw [not_or] at outside
    rw [gainsLater.others node side outside.2, gainsEarlier.others node side outside.1]

theorem mayGainPorts_port (graph : Graph) (node : NodeId) (side : Side) :
    graph.MayGainPorts ((port node side).after graph)
      fun other otherSide => other = node ∧ otherSide = side := by
  rcases port_cases graph node side with ⟨fault, failed⟩ | ⟨vertex, -, -, made⟩ |
    ⟨vertex, found, vector, made⟩
  · rw [Wiring.after_of_error failed]
    exact .refl graph _
  · rw [Wiring.after_of_ok made]
    exact .refl graph _
  · rw [Wiring.after_of_ok made]
    have counts := portCount_addPort found vector
    exact {
      nodes := nodes_congr (node?_addPort graph node side)
      edges := rfl
      peers := peer?_addPort graph node side
      least := fun other otherSide => by
        rw [counts]
        exact Nat.le_add_right _ _
      most := fun other otherSide => by
        rw [counts]
        split
        · exact Nat.le_refl _
        · exact Nat.le_succ _
      others := fun other otherSide outside => by
        rw [counts, if_neg outside, Nat.add_zero] }

theorem eq_of_port_eq_error {node : NodeId} {side : Side} {fault : Fault}
    (failed : port node side graph = .error fault next) : next = graph := by
  rcases port_cases graph node side with ⟨other, same⟩ | ⟨vertex, -, -, made⟩ |
    ⟨vertex, -, -, made⟩
  · rw [same] at failed
    cases failed
    rfl
  · rw [made] at failed
    cases failed
  · rw [made] at failed
    cases failed

theorem mayGainPorts_of_link_eq_error {upper lower : NodeId} {fault : Fault}
    (failed : link upper lower graph = .error fault next) :
    graph.MayGainPorts next fun node side =>
      node = upper ∧ side = .mem ∨ node = lower ∧ side = .cpu := by
  have apart : ∀ node side, node = upper ∧ side = Side.mem →
      ¬ (node = lower ∧ side = Side.cpu) := by
    intro node side above below
    cases above.2.symm.trans below.2
  have above := mayGainPorts_port graph upper .mem
  rcases Wiring.bind_eq_error failed with stopped | ⟨mem, first, madeMem, failed⟩
  · rw [Wiring.after_of_error stopped] at above
    exact above.trans (.refl next _) apart
  · rw [Wiring.after_of_ok madeMem] at above
    have below := mayGainPorts_port first lower .cpu
    rcases Wiring.bind_eq_error failed with stopped | ⟨cpu, second, madeCpu, failed⟩
    · rw [Wiring.after_of_error stopped] at below
      exact above.trans below apart
    · rw [Wiring.after_of_ok madeCpu] at below
      rw [eq_of_connect_eq_error failed]
      exact above.trans below apart

/-! ## Steps of wired fabrics -/

/-- Whatever steps were taken: a port that is refused and a joining that fails change
nothing. Two ports are joined if and only if they exist on opposite sides of different
nodes, and are joined to each other already or both unconnected; the former changes
nothing, the latter makes their edge and changes nothing else, and the order in which the
ports are given is immaterial. A link that fails makes at most one port on each of the two
sides that it would have joined, and changes nothing else. -/
theorem Wired.steps_all_or_nothing (wired : graph.Wired) :
    (∀ node side fault next, port node side graph = .error fault next → next = graph) ∧
    (∀ first second fault next,
      connect first second graph = .error fault next → next = graph) ∧
    (∀ first second,
      ((∃ next, connect first second graph = .ok () next) ↔
        graph.Fitting first second ∧
          (graph.Joined first second ∨ graph.Unconnected first second)) ∧
      (graph.Joined first second →
        connect first second graph = .ok () graph ∧
          connect second first graph = .ok () graph) ∧
      (graph.Fitting first second → graph.Unconnected first second →
        ∃ next, connect first second graph = .ok () next ∧
          graph.GainsEdge next (.between first.side first second)) ∧
      ∀ next, connect first second graph = .ok () next ↔
        connect second first graph = .ok () next) ∧
    ∀ upper lower fault next, link upper lower graph = .error fault next →
      graph.MayGainPorts next fun node side =>
        node = upper ∧ side = .mem ∨ node = lower ∧ side = .cpu := by
  have sound := wired.sound
  refine ⟨fun _ _ _ _ => eq_of_port_eq_error, fun _ _ _ _ => eq_of_connect_eq_error,
    fun first second => ⟨⟨?_, ?_⟩, ?_, ?_, fun next => ⟨?_, ?_⟩⟩,
    fun _ _ _ _ => mayGainPorts_of_link_eq_error⟩
  · rintro ⟨next, made⟩
    exact sound.cases_of_connect made
  · rintro ⟨fitting, joined | unconnected⟩
    · exact ⟨graph, sound.connect_of_joined joined.1⟩
    · exact ⟨_, sound.connect_of_unconnected fitting unconnected⟩
  · intro joined
    exact ⟨sound.connect_of_joined joined.1, sound.connect_of_joined joined.2⟩
  · intro fitting unconnected
    exact ⟨_, sound.connect_of_unconnected fitting unconnected,
      (sound.joinable fitting unconnected).gainsEdge⟩
  · exact sound.connect_comm
  · exact sound.connect_comm

/-- A requestor has no port for requests to come in by, a link to a bridge that is taken
leaves a port behind, and a port that such a link had left is joined. -/
theorem steps_all_or_nothing_tangled :
    tangled.Wired ∧
      (∃ fault next, port ⟨0⟩ .cpu tangled = .error fault next ∧ next = tangled) ∧
      (tangled.Fitting ⟨⟨4⟩, .cpu, 1⟩ ⟨⟨5⟩, .mem, 0⟩ ∧
        tangled.Unconnected ⟨⟨4⟩, .cpu, 1⟩ ⟨⟨5⟩, .mem, 0⟩ ∧
        ∃ next, connect ⟨⟨4⟩, .cpu, 1⟩ ⟨⟨5⟩, .mem, 0⟩ tangled = .ok () next ∧
          tangled.GainsEdge next ⟨⟨⟨5⟩, .mem, 0⟩, ⟨⟨4⟩, .cpu, 1⟩⟩ ∧
          connect ⟨⟨5⟩, .mem, 0⟩ ⟨⟨4⟩, .cpu, 1⟩ tangled = .ok () next) ∧
      ∃ fault next, link ⟨3⟩ ⟨2⟩ tangled = .error fault next ∧
        next.portCount ⟨3⟩ .mem = 7 ∧ next.edges = tangled.edges := by
  have wired : tangled.Wired := ⟨tangles, rfl⟩
  have fitting : tangled.Fitting ⟨⟨4⟩, .cpu, 1⟩ ⟨⟨5⟩, .mem, 0⟩ := {
    has_first := wired.sound.hasPort (by decide +kernel)
    has_second := wired.sound.hasPort (by decide +kernel)
    sides := by decide
    apart := by decide }
  have unconnected : tangled.Unconnected ⟨⟨4⟩, .cpu, 1⟩ ⟨⟨5⟩, .mem, 0⟩ :=
    ⟨by decide +kernel, by decide +kernel⟩
  have refused : port ⟨0⟩ .cpu tangled = .error (.noSuchEndpoint "cpu" "cpu_side") tangled := by
    rfl
  have failed : link ⟨3⟩ ⟨2⟩ tangled =
      .error (.endpointAlreadyConnected "gate.cpu_side[0]" "cpu.mem_side[0]")
        (tangled.addPort ⟨3⟩ .mem) := by
    rfl
  rcases wired.steps_all_or_nothing with ⟨ports, -, connects, links⟩
  rcases (connects _ _).2.2.1 fitting unconnected with ⟨next, made, gains⟩
  refine ⟨wired, ⟨_, _, refused, ports _ _ _ _ refused⟩, ⟨fitting, unconnected, next, made, gains,
    ((connects _ _).2.2.2 next).mp made⟩, _, _, failed, by decide +kernel, ?_⟩
  exact (links _ _ _ _ failed).edges

end MemoryFabric.Graph
