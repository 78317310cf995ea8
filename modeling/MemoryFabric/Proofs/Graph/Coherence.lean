import Mathlib.Data.List.Nodup
import MemoryFabric.Proofs.Check.Peers
import MemoryFabric.Proofs.Graph.Routing
import MemoryFabric.Proofs.Graph.Wired

/-! The ports of a wired fabric and its list of edges tell the same. Connections go both
ways between ports that exist, each is listed as one edge, and wherever a request is
passed on to there is a node. -/

namespace MemoryFabric

def Edge.touches (edge : Edge) (endpoint : Endpoint) : Bool :=
  edge.mem = endpoint || edge.cpu = endpoint

namespace Graph

variable {graph : Graph} {origin place next : NodeId} {address : UInt64}

/-- The node has the side; a crossbar has made the port, and any other node has only the
first port of a side. -/
def HasPort (graph : Graph) (endpoint : Endpoint) : Prop :=
  ∃ kind, graph.kind? endpoint.node = some kind ∧ kind.hasSide endpoint.side = true ∧
    if kind.isBus then endpoint.index < graph.portCount endpoint.node endpoint.side
    else endpoint.index = 0

structure Coherent (graph : Graph) : Prop where
  symmetric : ∀ first second,
    graph.peer? first = some second ↔ graph.peer? second = some first
  opposite : ∀ first second, graph.peer? first = some second →
    second.side = first.side.opposite
  apart : ∀ first second, graph.peer? first = some second → second.node ≠ first.node
  placed : ∀ first second, graph.peer? first = some second → graph.HasPort first
  listed : ∀ mem cpu, graph.edges.toList.count ⟨mem, cpu⟩ =
    if mem.side = .mem ∧ graph.peer? mem = some cpu then 1 else 0
  single : ∀ endpoint, graph.edges.toList.countP (·.touches endpoint) ≤ 1

inductive Visits (graph : Graph) (origin : NodeId) (address : UInt64) : NodeId → Prop where
  | start : Visits graph origin address origin
  | forwarded {place next : NodeId} {delay : Latency} (earlier : Visits graph origin address place)
      (here : graph.hop origin place address = .ok (.forwarded next delay)) :
      Visits graph origin address next

/-! ## Ports -/

theorem kind?_of_vertex? {node : NodeId} {vertex : Vertex}
    (found : graph.vertex? node = some vertex) : graph.kind? node = some vertex.node.kind := by
  rw [kind?, node?_eq, found, Option.map_some, Option.map_some]

theorem Sound.hasPort (sound : graph.Sound) {endpoint : Endpoint}
    (has : graph.hasEndpoint endpoint = true) : graph.HasPort endpoint := by
  rcases (hasEndpoint_eq_true_iff _ _).mp has with ⟨vertex, found, inside⟩
  refine ⟨vertex.node.kind, kind?_of_vertex? found, ?_⟩
  cases vector : vertex.node.kind.isVector endpoint.side with
  | true =>
      have parts := vector
      rw [NodeKind.isVector, Bool.and_eq_true] at parts
      refine ⟨parts.2, ?_⟩
      rw [if_pos parts.1, portCount, found]
      dsimp only
      rw [if_pos vector]
      exact inside
  | false =>
      rw [sound.scalar_ports _ vertex _ found vector, Vertex.firstPorts] at inside
      split at inside
      case isTrue first =>
        rw [Bool.and_eq_true] at first
        have scalar : vertex.node.kind.isBus = false := by
          simpa [NodeKind.isVector, first.1] using vector
        refine ⟨first.1, ?_⟩
        rw [scalar]
        exact Nat.lt_one_iff.mp inside
      case isFalse => exact absurd inside (Nat.not_lt_zero _)

/-! ## Edges -/

theorem Sound.cpu_side_of_mem_edges (sound : graph.Sound) {edge : Edge}
    (member : edge ∈ graph.edges.toList) : edge.cpu.side = .cpu := by
  have joined := (sound.mem_edges edge).mp member
  rw [sound.opposite _ _ joined.2, joined.1]
  rfl

theorem Sound.eq_of_touches (sound : graph.Sound) {first second : Edge}
    (firstMember : first ∈ graph.edges.toList) (secondMember : second ∈ graph.edges.toList)
    {endpoint : Endpoint} (firstTouches : first.touches endpoint = true)
    (secondTouches : second.touches endpoint = true) : first = second := by
  have firstJoined := (sound.mem_edges first).mp firstMember
  have secondJoined := (sound.mem_edges second).mp secondMember
  have firstBack := sound.symmetric _ _ firstJoined.2
  have secondBack := sound.symmetric _ _ secondJoined.2
  have firstCpu := sound.cpu_side_of_mem_edges firstMember
  have secondCpu := sound.cpu_side_of_mem_edges secondMember
  rcases first with ⟨mem, cpu⟩
  rcases second with ⟨otherMem, otherCpu⟩
  simp only [Edge.touches, Bool.or_eq_true, decide_eq_true_eq] at firstTouches secondTouches
  rcases firstTouches with rfl | rfl <;> rcases secondTouches with rfl | rfl
  · have sameCpu : cpu = otherCpu := Option.some.inj (firstJoined.2.symm.trans secondJoined.2)
    rw [sameCpu]
  · exact absurd (firstJoined.1.symm.trans secondCpu) (by decide)
  · exact absurd (secondJoined.1.symm.trans firstCpu) (by decide)
  · have sameMem : mem = otherMem := Option.some.inj (firstBack.symm.trans secondBack)
    rw [sameMem]

theorem Sound.count_edges (sound : graph.Sound) (mem cpu : Endpoint) :
    graph.edges.toList.count ⟨mem, cpu⟩ =
      if mem.side = .mem ∧ graph.peer? mem = some cpu then 1 else 0 := by
  split
  case isTrue joined =>
    exact List.count_eq_one_of_mem sound.edges_nodup ((sound.mem_edges ⟨mem, cpu⟩).mpr joined)
  case isFalse free =>
    exact List.count_eq_zero.mpr fun member => free ((sound.mem_edges ⟨mem, cpu⟩).mp member)

theorem Sound.countP_touches_le_one (sound : graph.Sound) (endpoint : Endpoint) :
    graph.edges.toList.countP (·.touches endpoint) ≤ 1 := by
  rw [List.countP_eq_length_filter]
  cases touching : graph.edges.toList.filter (·.touches endpoint) with
  | nil => exact Nat.zero_le 1
  | cons first rest =>
      have nodup : (graph.edges.toList.filter (·.touches endpoint)).Nodup :=
        sound.edges_nodup.filter _
      have members : ∀ edge ∈ first :: rest,
          edge ∈ graph.edges.toList ∧ edge.touches endpoint = true := by
        intro edge member
        rw [← touching] at member
        exact List.mem_filter.mp member
      have subset : first :: rest ⊆ [first] := by
        intro edge member
        have here := members edge member
        have head := members first List.mem_cons_self
        exact List.mem_singleton.mpr (sound.eq_of_touches here.1 head.1 here.2 head.2)
      rw [touching] at nodup
      exact nodup.length_le_of_subset subset

theorem Sound.coherent (sound : graph.Sound) : graph.Coherent where
  symmetric first second := ⟨sound.symmetric first second, sound.symmetric second first⟩
  opposite := sound.opposite
  apart := sound.apart
  placed _ _ joined := sound.hasPort (hasEndpoint_of_peer? joined)
  listed := sound.count_edges
  single := sound.countP_touches_le_one

/-! ## Places -/

theorem exists_node?_of_lt_size (inside : place.index < graph.size) :
    ∃ node, graph.node? place = some node := by
  rcases exists_vertex?_of_lt_size inside with ⟨vertex, found⟩
  exact ⟨vertex.node, by rw [node?_eq, found, Option.map_some]⟩

theorem Sound.index_lt_size_of_visits (sound : graph.Sound) (inside : origin.index < graph.size)
    (visits : graph.Visits origin address place) : place.index < graph.size := by
  induction visits with
  | start => exact inside
  | forwarded earlier here _ => exact sound.neighbour_lt_size (downstream_of_hop sound here)

/-- Whatever steps were taken, the connections of a fabric are coherent and pass the check
of peers; and where a request comes to, and where a crossbar could send it next, there
always is a node. -/
theorem Wired.connections_cohere (wired : graph.Wired) :
    graph.Coherent ∧ Check.singlePeer graph = .ok () ∧
      ∀ origin node, graph.node? origin = some node → ∀ address place,
        graph.Visits origin address place →
          (∃ found, graph.node? place = some found) ∧
            ∀ next ∈ graph.downstream place, ∃ found, graph.node? next = some found := by
  have sound := wired.sound
  refine ⟨sound.coherent, Check.singlePeer_of_sound sound, ?_⟩
  intro origin node found address place visits
  constructor
  · have inside := index_lt_size_of_node? found
    exact exists_node?_of_lt_size (sound.index_lt_size_of_visits inside visits)
  · intro next below
    exact exists_node?_of_lt_size (sound.neighbour_lt_size below)

/-- Two nodes and a crossbar between them, wired with steps that fail: a port that was not
made, a node that is not there, ends of one side, and a controller that is taken. -/
def botched : Graph :=
  [.addNode "cpu" (.requestor ⟨.dataPort, none, []⟩),
    .addNode "bus" (.bus ⟨64⟩),
    .addNode "ctrl" (.controller {
      predicate := .whole ⟨0, 0x200, by decide, by decide⟩
      outputDirectory := "out" }),
    .connect ⟨⟨1⟩, .mem, 5⟩ ⟨⟨2⟩, .cpu, 0⟩, .link ⟨7⟩ ⟨1⟩, .link ⟨0⟩ ⟨1⟩,
    .connect ⟨⟨1⟩, .cpu, 0⟩ ⟨⟨2⟩, .cpu, 0⟩, .port ⟨1⟩ .mem, .link ⟨1⟩ ⟨2⟩, .link ⟨1⟩ ⟨2⟩,
    .connect ⟨⟨2⟩, .cpu, 0⟩ ⟨⟨1⟩, .mem, 1⟩].foldl advance empty

theorem connections_cohere_botched :
    botched.Wired ∧ botched.Coherent ∧ botched.portCount ⟨1⟩ .mem = 3 ∧
      botched.Visits ⟨0⟩ 0x40 ⟨2⟩ ∧ ∃ found, botched.node? ⟨2⟩ = some found := by
  have wired : botched.Wired := ⟨_, rfl⟩
  have visits : botched.Visits ⟨0⟩ 0x40 ⟨2⟩ := by
    apply Visits.forwarded (Visits.forwarded .start _) _
    · exact ⟨1⟩
    · exact 0
    · exact 0
    · decide +kernel
    · decide +kernel
  refine ⟨wired, wired.connections_cohere.1, by decide +kernel, visits, ?_⟩
  exact (wired.connections_cohere.2.2 ⟨0⟩ _ rfl 0x40 ⟨2⟩ visits).1

end Graph

end MemoryFabric
