import MemoryFabric.Proofs.Graph.Idling
import MemoryFabric.Proofs.Graph.PortOrder

/-! The order in which edges are made, and the order of the ports at which they end. Edges
are listed as they are made. A link takes ports behind those that the nodes have, so where
ports are only made by linking, neighbours are listed as their edges were made. -/

namespace MemoryFabric

/-- The step adds a node or links two nodes; it does not ask for a port, and does not join
ports on its own. -/
def WiringStep.addsOrLinks : WiringStep → Bool
  | .addNode _ _ | .link _ _ => true
  | .port _ _ | .connect _ _ => false

namespace Graph

variable {graph next : Graph} {node upper lower : NodeId} {side : Side} {endpoint : Endpoint}

def WiredByLinks (graph : Graph) : Prop :=
  ∃ steps : List WiringStep, (∀ step ∈ steps, step.addsOrLinks = true) ∧
    steps.foldl advance empty = graph

def Extends (graph next : Graph) : Prop :=
  ∃ made : List Edge, made.length ≤ 1 ∧ next.edges.toList = graph.edges.toList ++ made

/-- At each side of a node, edges made later end at ports with greater numbers. -/
def Chronological (graph : Graph) : Prop :=
  ∀ side, graph.edges.toList.Pairwise fun earlier later =>
    (earlier.ending side).node = (later.ending side).node →
      (earlier.ending side).index < (later.ending side).index

def Latest (graph : Graph) (endpoint : Endpoint) : Prop :=
  ∀ index, graph.hasEndpoint ⟨endpoint.node, endpoint.side, index⟩ = true →
    index ≤ endpoint.index

def Behind (graph : Graph) (edge : Edge) : Prop :=
  ∀ side, ∀ earlier ∈ graph.edges.toList,
    (earlier.ending side).node = (edge.ending side).node →
      (earlier.ending side).index < (edge.ending side).index

theorem extends_of_edges (same : next.edges = graph.edges) : Extends graph next :=
  ⟨[], by decide, by rw [same, List.append_nil]⟩

theorem extends_addEdge (graph : Graph) (mem cpu : Endpoint) :
    Extends graph (graph.addEdge mem cpu) :=
  ⟨[⟨mem, cpu⟩], Nat.le_refl 1, by rw [edges_addEdge, Array.toList_push]⟩

theorem extends_connect (graph : Graph) (first second : Endpoint) :
    Extends graph ((connect first second).after graph) := by
  rcases connect_cases graph first second with ⟨fault, failed⟩ | made | ⟨mem, cpu, -, -, made⟩
  · rw [Wiring.after_of_error failed]
    exact extends_of_edges rfl
  · rw [Wiring.after_of_ok made]
    exact extends_of_edges rfl
  · rw [Wiring.after_of_ok made]
    exact extends_addEdge graph mem cpu

/-! ## Links -/

theorem Sound.latest_of_port (sound : graph.Sound)
    (made : port node side graph = .ok endpoint next) :
    endpoint.node = node ∧ endpoint.side = side ∧ graph.Latest endpoint := by
  rcases port_cases graph node side with ⟨fault, failed⟩ | ⟨vertex, found, scalar, offered⟩ |
    ⟨vertex, found, vector, offered⟩
  · rw [failed] at made
    cases made
  · rw [offered] at made
    cases made
    refine ⟨rfl, rfl, fun index has => ?_⟩
    rcases (hasEndpoint_eq_true_iff _ _).mp has with ⟨same, foundSame, inside⟩
    rw [found] at foundSame
    cases foundSame
    rw [sound.scalar_ports node vertex side found scalar, Vertex.firstPorts] at inside
    split at inside
    · exact Nat.le_of_lt_succ inside
    · exact absurd inside (Nat.not_lt_zero _)
  · rw [offered] at made
    cases made
    refine ⟨rfl, rfl, fun index has => ?_⟩
    rcases (hasEndpoint_eq_true_iff _ _).mp has with ⟨same, foundSame, inside⟩
    rw [found] at foundSame
    cases foundSame
    exact Nat.le_of_lt inside

theorem Sound.index_lt_of_latest (sound : graph.Sound) (latest : graph.Latest endpoint)
    (onSide : endpoint.side = side) (free : graph.peer? endpoint = none) :
    ∀ earlier ∈ graph.edges.toList, (earlier.ending side).node = endpoint.node →
      (earlier.ending side).index < endpoint.index := by
  intro earlier member here
  rcases (sound.mem_edges_iff side earlier).mp member with ⟨earlierSide, joined⟩
  have earlierPort := eq_of_side earlierSide
  rw [here] at earlierPort
  rw [earlierPort] at joined
  subst onSide
  -- It ends at a port of the side, and not at the latest one, which has no peer.
  apply Nat.lt_of_le_of_ne (latest _ (hasEndpoint_of_peer? joined))
  intro same
  rw [same, free] at joined
  cases joined

theorem Sound.behind_of_ports (sound : graph.Sound) {mem cpu : Endpoint} {first second : Graph}
    (offeredMem : port upper .mem graph = .ok mem first)
    (offeredCpu : port lower .cpu first = .ok cpu second) (joinable : second.Joinable mem cpu) :
    graph.Behind ⟨mem, cpu⟩ := by
  have above := preserves_port graph upper .mem
  have below := preserves_port first lower .cpu
  have soundFirst := keeps_sound_port upper .mem graph sound
  rw [Wiring.after_of_ok offeredMem] at above soundFirst
  rw [Wiring.after_of_ok offeredCpu] at below
  rcases sound.latest_of_port offeredMem with ⟨-, onMem, latestMem⟩
  rcases soundFirst.latest_of_port offeredCpu with ⟨-, onCpu, latestCpu⟩
  intro side
  cases side with
  | mem =>
      apply sound.index_lt_of_latest latestMem onMem
      rw [← (above.trans below).peers]
      exact joinable.mem_free
  | cpu =>
      rw [← above.edges]
      apply soundFirst.index_lt_of_latest latestCpu onCpu
      rw [← below.peers]
      exact joinable.cpu_free

theorem Sound.link_cases (sound : graph.Sound) (upper lower : NodeId) :
    ((link upper lower).after graph).edges = graph.edges ∨
      ∃ edge, ((link upper lower).after graph).edges = graph.edges.push edge ∧
        graph.Behind edge := by
  have above := preserves_port graph upper .mem
  rw [link]
  cases offeredMem : port upper .mem graph with
  | error fault next =>
      rw [Wiring.after_bind_of_error offeredMem]
      rw [Wiring.after_of_error offeredMem] at above
      exact Or.inl above.edges
  | ok mem first =>
      have below := preserves_port first lower .cpu
      rw [Wiring.after_of_ok offeredMem] at above
      rw [Wiring.after_bind_of_ok offeredMem]
      cases offeredCpu : port lower .cpu first with
      | error fault next =>
          rw [Wiring.after_bind_of_error offeredCpu]
          rw [Wiring.after_of_error offeredCpu] at below
          exact Or.inl (above.trans below).edges
      | ok cpu second =>
          rw [Wiring.after_of_ok offeredCpu] at below
          rw [Wiring.after_bind_of_ok offeredCpu]
          have edges := (above.trans below).edges
          rcases connect_cases second mem cpu with ⟨fault, failed⟩ | made |
            ⟨_, _, joinable, ⟨rfl, rfl⟩ | ⟨rfl, rfl⟩, made⟩
          · rw [Wiring.after_of_error failed]
            exact Or.inl edges
          · rw [Wiring.after_of_ok made]
            exact Or.inl edges
          · rw [Wiring.after_of_ok made, edges_addEdge, edges]
            exact Or.inr ⟨_, rfl, sound.behind_of_ports offeredMem offeredCpu joinable⟩
          · -- The port that was offered first is on the memory side.
            have onMem := (sound.latest_of_port offeredMem).2.1
            rw [joinable.cpu_side] at onMem
            cases onMem

theorem extends_link (sound : graph.Sound) (upper lower : NodeId) :
    Extends graph ((link upper lower).after graph) := by
  rcases sound.link_cases upper lower with same | ⟨edge, pushed, -⟩
  · exact extends_of_edges same
  · exact ⟨[edge], Nat.le_refl 1, by rw [pushed, Array.toList_push]⟩

theorem Sound.extends_advance (sound : graph.Sound) (step : WiringStep) :
    Extends graph (graph.advance step) := by
  cases step with
  | addNode name kind => exact extends_of_edges (edges_withNode graph ⟨name, kind⟩)
  | port node side => exact extends_of_edges (preserves_port graph node side).edges
  | connect first second => exact extends_connect graph first second
  | link upper lower => exact extends_link sound upper lower

/-! ## Fabrics that are linked -/

theorem chronological_of_edges (chronological : graph.Chronological)
    (same : next.edges = graph.edges) : next.Chronological := by
  rw [Chronological, same]
  exact chronological

theorem Sound.chronological_advance (sound : graph.Sound) (chronological : graph.Chronological)
    {step : WiringStep} (linking : step.addsOrLinks = true) :
    (graph.advance step).Chronological := by
  cases step with
  | addNode name kind =>
      exact chronological_of_edges chronological (edges_withNode graph ⟨name, kind⟩)
  | port node side => cases linking
  | connect first second => cases linking
  | link upper lower =>
      rcases sound.link_cases upper lower with same | ⟨edge, pushed, behind⟩
      · exact chronological_of_edges chronological same
      · intro side
        rw [Graph.advance, pushed, Array.toList_push, List.pairwise_append]
        refine ⟨chronological side, List.pairwise_singleton _ _, ?_⟩
        intro earlier member later last
        rw [List.mem_singleton.mp last]
        exact behind side earlier member

theorem Sound.chronological_foldl_advance (sound : graph.Sound)
    (chronological : graph.Chronological) {steps : List WiringStep}
    (linking : ∀ step ∈ steps, step.addsOrLinks = true) :
    (steps.foldl Graph.advance graph).Chronological := by
  induction steps generalizing graph with
  | nil => exact chronological
  | cons step rest induction =>
      have first := linking step List.mem_cons_self
      apply induction (sound.advance step) (sound.chronological_advance chronological first)
      intro other member
      exact linking other (List.mem_cons_of_mem step member)

theorem WiredByLinks.chronological (wired : graph.WiredByLinks) : graph.Chronological := by
  rcases wired with ⟨steps, linking, rfl⟩
  exact sound_empty.chronological_foldl_advance (fun _ => .nil) linking

/-- Port order is the order of the edges where later edges end at later ports. -/
theorem Chronological.map_edgesAt (chronological : graph.Chronological)
    {neighbours : List NodeId} (inOrder : graph.InPortOrder node side neighbours) :
    neighbours = (graph.edgesAt node side).map fun edge => (edge.ending side.opposite).node := by
  rcases inOrder with ⟨ordered, perm, ascending, rfl⟩
  have made : (graph.edgesAt node side).Pairwise fun first second =>
      (first.ending side).index < (second.ending side).index := by
    apply ((chronological side).filter _).imp_of_mem
    intro first second firstMember secondMember rises
    have firstHere := ((mem_edgesAt_iff first).mp firstMember).2
    have secondHere := ((mem_edgesAt_iff second).mp secondMember).2
    exact rises (firstHere.trans secondHere.symm)
  have same : ordered = graph.edgesAt node side := by
    apply List.Perm.eq_of_pairwise _ ascending made perm
    intro first second _ _ below above
    exact absurd below (Nat.lt_asymm above)
  rw [same]

/-- The nodes below and above a node are those at the other ends of its edges, once for each
edge, in the order of the ports; so one node is below another as often as that is above it.
Edges are listed as they are made; and where ports are made by linking only, with whatever
links that fail or that are there already, neighbours are listed in the same order. -/
theorem Wired.neighbours_follow_edges (wired : graph.Wired) :
    (∀ node, graph.InPortOrder node .mem (graph.downstream node) ∧
      graph.InPortOrder node .cpu (graph.upstream node)) ∧
    (∀ upper lower,
      (graph.downstream upper).count lower = (graph.upstream lower).count upper) ∧
    (∀ step, Extends graph (graph.advance step)) ∧
    (graph.WiredByLinks → ∀ node,
      graph.downstream node = (graph.edgesAt node .mem).map (·.cpu.node) ∧
        graph.upstream node = (graph.edgesAt node .cpu).map (·.mem.node)) := by
  have sound := wired.sound
  have below := fun node => sound.inPortOrder_neighbours node .mem
  have above := fun node => sound.inPortOrder_neighbours node .cpu
  refine ⟨fun node => ⟨below node, above node⟩, sound.count_downstream_eq,
    sound.extends_advance, fun byLinks node => ⟨?_, ?_⟩⟩
  · exact byLinks.chronological.map_edgesAt (below node)
  · exact byLinks.chronological.map_edgesAt (above node)

/-- Links that make edges, with links in between that fail and one that is there already. -/
def tangles : List WiringStep :=
  [.addNode "cpu" (.requestor ⟨.dataPort, none, []⟩),
    .addNode "dma" (.requestor ⟨.systemPort, none, []⟩),
    .addNode "gate" (.bridge ⟨[], .ofNanoseconds 1⟩), .addNode "upper" (.bus ⟨64⟩),
    .addNode "lower" (.bus ⟨64⟩), .addNode "side" (.bridge ⟨[], .ofNanoseconds 1⟩),
    .link ⟨0⟩ ⟨2⟩, .link ⟨0⟩ ⟨2⟩, .link ⟨2⟩ ⟨3⟩, .link ⟨3⟩ ⟨4⟩, .link ⟨3⟩ ⟨2⟩, .link ⟨3⟩ ⟨5⟩,
    .link ⟨2⟩ ⟨4⟩, .link ⟨3⟩ ⟨7⟩, .link ⟨1⟩ ⟨4⟩, .link ⟨3⟩ ⟨3⟩, .link ⟨3⟩ ⟨4⟩]

def tangled : Graph :=
  tangles.foldl advance empty

/-- Failed links have left three of the six ports above and one of the four ports below
unconnected. -/
theorem neighbours_follow_edges_tangled :
    tangled.Wired ∧ tangled.WiredByLinks ∧
      tangled.portCount ⟨3⟩ .mem = 6 ∧ tangled.downstream ⟨3⟩ = [⟨4⟩, ⟨5⟩, ⟨4⟩] ∧
      tangled.portCount ⟨4⟩ .cpu = 4 ∧ tangled.upstream ⟨4⟩ = [⟨3⟩, ⟨1⟩, ⟨3⟩] := by
  have wired : tangled.Wired := ⟨tangles, rfl⟩
  have byLinks : tangled.WiredByLinks := ⟨tangles, by decide, rfl⟩
  rcases wired.neighbours_follow_edges with ⟨-, -, -, follow⟩
  refine ⟨wired, byLinks, by decide +kernel, ?_, by decide +kernel, ?_⟩
  · rw [(follow byLinks ⟨3⟩).1]
    decide +kernel
  · rw [(follow byLinks ⟨4⟩).2]
    decide +kernel

end Graph

end MemoryFabric
