import MemoryFabric.Graph.Route
import MemoryFabric.Proofs.FirstFault
import MemoryFabric.Proofs.Graph.Linking
import MemoryFabric.Proofs.Quantity.Latency

/-! Where requests go. What the hops of a request add up to is a relation without
a bound on their number. In a sound fabric no request visits a node twice unless
it never ends, so the route of a request that ends is what the relation says. -/

namespace MemoryFabric.Graph

variable {graph : Graph} {origin place next : NodeId} {address : UInt64}

/-- From `place` on a request visits the nodes `hops`, and its outcome is the sum
of the delays on the way or the fault at the last of these nodes. -/
inductive Follows (graph : Graph) (origin : NodeId) (address : UInt64) :
    NodeId → List NodeId → Except Fault Latency → Prop where
  | served {place : NodeId} (here : graph.hop origin place address = .ok .served) :
      Follows graph origin address place [place] (.ok 0)
  | refused {place : NodeId} {fault : Fault}
      (here : graph.hop origin place address = .error fault) :
      Follows graph origin address place [place] (.error fault)
  | forwarded {place next : NodeId} {delay : Latency} {hops : List NodeId}
      {outcome : Except Fault Latency}
      (here : graph.hop origin place address = .ok (.forwarded next delay))
      (rest : Follows graph origin address next hops outcome) :
      Follows graph origin address place (place :: hops) (outcome.map (delay + ·))

namespace Follows

variable {hops : List NodeId} {outcome : Except Fault Latency}

theorem unique (first : graph.Follows origin address place hops outcome)
    {otherHops : List NodeId} {otherOutcome : Except Fault Latency}
    (second : graph.Follows origin address place otherHops otherOutcome) :
    hops = otherHops ∧ outcome = otherOutcome := by
  induction first generalizing otherHops otherOutcome with
  | served here =>
      cases second with
      | served => exact ⟨rfl, rfl⟩
      | refused other => simp [here] at other
      | forwarded other => simp [here] at other
  | refused here =>
      cases second with
      | served other => simp [here] at other
      | refused other =>
          rw [here] at other
          cases other
          exact ⟨rfl, rfl⟩
      | forwarded other => simp [here] at other
  | forwarded here rest induction =>
      cases second with
      | served other => simp [here] at other
      | refused other => simp [here] at other
      | forwarded other otherRest =>
          rw [here] at other
          cases other
          rcases induction otherRest with ⟨rfl, rfl⟩
          exact ⟨rfl, rfl⟩

theorem exists_rest (follows : graph.Follows origin address place hops outcome) {node : NodeId}
    (member : node ∈ hops) :
    ∃ rest last, graph.Follows origin address node rest last ∧ rest.length ≤ hops.length := by
  induction follows with
  | served here =>
      rcases List.mem_singleton.mp member with rfl
      exact ⟨_, _, .served here, Nat.le_refl _⟩
  | refused here =>
      rcases List.mem_singleton.mp member with rfl
      exact ⟨_, _, .refused here, Nat.le_refl _⟩
  | forwarded here rest induction =>
      rcases List.mem_cons.mp member with rfl | later
      · exact ⟨_, _, .forwarded here rest, Nat.le_refl _⟩
      · rcases induction later with ⟨hops, last, follows, bound⟩
        exact ⟨hops, last, follows, Nat.le_succ_of_le bound⟩

theorem nodup (follows : graph.Follows origin address place hops outcome) : hops.Nodup := by
  induction follows with
  | served => exact List.nodup_cons.mpr ⟨List.not_mem_nil, .nil⟩
  | refused => exact List.nodup_cons.mpr ⟨List.not_mem_nil, .nil⟩
  | forwarded here rest induction =>
      refine List.nodup_cons.mpr ⟨?_, induction⟩
      -- Coming back would begin the same hops anew, and they would be fewer.
      intro again
      rcases rest.exists_rest again with ⟨hops, last, follows, bound⟩
      rcases follows.unique (.forwarded here rest) with ⟨rfl, _⟩
      exact Nat.not_succ_le_self _ bound

/-- A request that ends is followed to its end by as many steps as it has hops. -/
theorem follow_eq (follows : graph.Follows origin address place hops outcome) {fuel : Nat}
    (enough : hops.length ≤ fuel) :
    graph.follow origin address fuel place = outcome.map (Route.mk hops) := by
  induction follows generalizing fuel with
  | served here =>
      rcases Nat.exists_eq_add_of_le' enough with ⟨fuel, rfl⟩
      rw [List.length_singleton, follow, here]
      rfl
  | refused here =>
      rcases Nat.exists_eq_add_of_le' enough with ⟨fuel, rfl⟩
      rw [List.length_singleton, follow, here]
      rfl
  | @forwarded place next delay hops outcome here rest induction =>
      rcases Nat.exists_eq_add_of_le' enough with ⟨fuel, rfl⟩
      rw [List.length_cons, ← Nat.add_assoc, follow, here]
      change (graph.follow origin address (fuel + hops.length) next >>= _) = _
      rw [induction (Nat.le_add_left _ _)]
      cases outcome <;> rfl

theorem behind {latency : Latency}
    (here : graph.hop origin place address = .ok (.forwarded next 0))
    (rest : graph.Follows origin address next hops (.ok latency)) :
    graph.Follows origin address place (place :: hops) (.ok latency) := by
  have follows := forwarded here rest
  rw [Except.map, Latency.zero_add] at follows
  exact follows

theorem delayed {delay : Latency}
    (here : graph.hop origin place address = .ok (.forwarded next delay))
    (rest : graph.Follows origin address next hops (.ok 0)) :
    graph.Follows origin address place (place :: hops) (.ok delay) := by
  have follows := forwarded here rest
  rw [Except.map, Latency.add_zero] at follows
  exact follows

end Follows

theorem follows_of_follow_eq_ok {fuel : Nat} {route : Route}
    (found : graph.follow origin address fuel place = .ok route) :
    graph.Follows origin address place route.hops (.ok route.latency) := by
  induction fuel generalizing place route with
  | zero => cases found
  | succ fuel induction =>
      rw [follow, bind_eq_ok_iff] at found
      rcases found with ⟨hop, here, found⟩
      cases hop with
      | served =>
          cases found
          exact .served here
      | forwarded next delay =>
          rw [bind_eq_ok_iff] at found
          rcases found with ⟨rest, foundRest, found⟩
          cases found
          exact .forwarded here (induction foundRest)

/-! ## Hops -/

theorem Sound.neighbour_lt_size (sound : graph.Sound) {node : NodeId} {side : Side}
    {other : NodeId} (member : other ∈ graph.neighbours node side) :
    other.index < graph.size := by
  rw [neighbours] at member
  split at member
  case h_1 vertex found =>
    rw [List.mem_filterMap] at member
    rcases member with ⟨port, portMember, joined⟩
    rcases Option.map_eq_some_iff.mp joined with ⟨peer, rfl, rfl⟩
    rcases List.getElem?_of_mem portMember with ⟨index, atIndex⟩
    have forth : graph.peer? ⟨node, side, index⟩ = some peer := by
      rw [peer?_of_vertex? found, ← Array.getElem?_toList, atIndex]
      rfl
    have has := hasEndpoint_of_peer? (sound.symmetric _ _ forth)
    rcases (hasEndpoint_eq_true_iff _ _).mp has with ⟨_, foundOther, _⟩
    exact index_lt_size_of_vertex? foundOther
  case h_2 => cases member

/-- The node is no crossbar and has the memory side. -/
def Forwards (graph : Graph) (node : NodeId) : Prop :=
  ∃ kind, graph.kind? node = some kind ∧ kind.hasSide .mem = true ∧ kind.isBus = false

theorem Forwards.exists_port (sound : graph.Sound) (forwards : graph.Forwards place) :
    ∃ vertex port, graph.vertex? place = some vertex ∧ (vertex.ports .mem).toList = [port] := by
  rcases forwards with ⟨kind, found, hasSide, scalar⟩
  rcases Option.map_eq_some_iff.mp found with ⟨node, foundNode, rfl⟩
  rcases Option.map_eq_some_iff.mp foundNode with ⟨vertex, foundVertex, rfl⟩
  have notVector : vertex.node.kind.isVector .mem = false := by
    rw [NodeKind.isVector, scalar, Bool.false_and]
  rcases ports_eq_of_scalar sound foundVertex hasSide notVector with ⟨port, ports⟩
  exact ⟨vertex, port, foundVertex, ports⟩

theorem soleDownstream_eq (sound : graph.Sound) (forwards : graph.Forwards place) :
    graph.soleDownstream origin place address =
      match graph.downstream place with
      | [] => .error (graph.unroutable origin place address)
      | next :: _ => .ok next := by
  rcases forwards.exists_port sound with ⟨vertex, port, found, ports⟩
  have joined : graph.peer? ⟨place, .mem, 0⟩ = port := by
    rw [peer?_of_vertex? found, ← Array.getElem?_toList, ports]
    rfl
  rw [soleDownstream, joined, downstream, neighbours_of_vertex? .mem found, Vertex.neighbours,
    ports]
  cases port <;> rfl

theorem soleDownstream_of_downstream (sound : graph.Sound) (forwards : graph.Forwards place)
    {rest : List NodeId} (below : graph.downstream place = next :: rest) :
    graph.soleDownstream origin place address = .ok next := by
  rw [soleDownstream_eq sound forwards, below]

theorem select_mem {bus : NodeId} (selected : graph.select origin bus address = .ok next) :
    next ∈ graph.downstream bus ∧ graph.accepts next address = true := by
  rw [select] at selected
  split at selected
  · cases selected
  · rename_i only accepted
    cases selected
    have member : next ∈ (graph.downstream bus).filter (graph.accepts · address) := by
      rw [accepted]
      exact List.mem_singleton_self next
    exact List.mem_filter.mp member
  · cases selected

inductive Handles (graph : Graph) (origin place : NodeId) (address : UInt64) : Hop → Prop where
  | served {controller : MemoryController}
      (kind : graph.kind? place = some (.controller controller))
      (accepted : controller.accepts address = true) : Handles graph origin place address .served
  | selected {bus : Bus} {next : NodeId} (kind : graph.kind? place = some (.bus bus))
      (selected : graph.select origin place address = .ok next) :
      Handles graph origin place address (.forwarded next 0)
  | crossed {bridge : Bridge} {next : NodeId} (kind : graph.kind? place = some (.bridge bridge))
      (accepted : bridge.accepts address = true)
      (sole : graph.soleDownstream origin place address = .ok next) :
      Handles graph origin place address (.forwarded next bridge.latency)
  | requested {requestor : Requestor} {next : NodeId}
      (kind : graph.kind? place = some (.requestor requestor))
      (sole : graph.soleDownstream origin place address = .ok next) :
      Handles graph origin place address (.forwarded next 0)
  | cached {cache : Cache} {next : NodeId} (kind : graph.kind? place = some (.cache cache))
      (sole : graph.soleDownstream origin place address = .ok next) :
      Handles graph origin place address (.forwarded next 0)

theorem hop_eq_ok_iff {hop : Hop} :
    graph.hop origin place address = .ok hop ↔ graph.Handles origin place address hop := by
  constructor
  · intro here
    rw [Graph.hop] at here
    split at here
    case h_1 => cases here
    case h_2 controller kind =>
      split at here
      · rename_i accepted
        cases here
        exact .served kind accepted
      · cases here
    case h_3 bus kind =>
      rcases bind_eq_ok_iff.mp here with ⟨next, selected, same⟩
      cases same
      exact .selected kind selected
    case h_4 bridge kind =>
      split at here
      · rename_i accepted
        rcases bind_eq_ok_iff.mp here with ⟨next, sole, same⟩
        cases same
        exact .crossed kind accepted sole
      · cases here
    case h_5 requestor kind =>
      rcases bind_eq_ok_iff.mp here with ⟨next, sole, same⟩
      cases same
      exact .requested kind sole
    case h_6 cache kind =>
      rcases bind_eq_ok_iff.mp here with ⟨next, sole, same⟩
      cases same
      exact .cached kind sole
  · intro handles
    rw [Graph.hop]
    cases handles with
    | served kind accepted =>
        rw [kind]
        exact if_pos accepted
    | selected kind selected =>
        rw [kind]
        dsimp only
        rw [selected, ok_bind]
        rfl
    | crossed kind accepted sole =>
        rw [kind]
        dsimp only
        rw [if_pos accepted, sole, ok_bind]
        rfl
    | requested kind sole =>
        rw [kind]
        dsimp only
        rw [sole, ok_bind]
        rfl
    | cached kind sole =>
        rw [kind]
        dsimp only
        rw [sole, ok_bind]
        rfl

theorem downstream_of_soleDownstream (sound : graph.Sound) (forwards : graph.Forwards place)
    (sole : graph.soleDownstream origin place address = .ok next) :
    next ∈ graph.downstream place := by
  rw [soleDownstream_eq sound forwards] at sole
  split at sole
  · cases sole
  · rename_i below
    cases sole
    rw [below]
    exact List.mem_cons_self

theorem downstream_of_hop (sound : graph.Sound) {delay : Latency}
    (here : graph.hop origin place address = .ok (.forwarded next delay)) :
    next ∈ graph.downstream place := by
  cases hop_eq_ok_iff.mp here with
  | selected _ selected => exact (select_mem selected).1
  | crossed kind _ sole => exact downstream_of_soleDownstream sound ⟨_, kind, rfl, rfl⟩ sole
  | requested kind sole => exact downstream_of_soleDownstream sound ⟨_, kind, rfl, rfl⟩ sole
  | cached kind sole => exact downstream_of_soleDownstream sound ⟨_, kind, rfl, rfl⟩ sole

theorem controller_of_hop (here : graph.hop origin place address = .ok .served) :
    ∃ controller, graph.kind? place = some (.controller controller) ∧
      controller.accepts address = true := by
  cases hop_eq_ok_iff.mp here with
  | served kind accepted => exact ⟨_, kind, accepted⟩

/-! ## Routes -/

theorem Follows.index_lt_size (sound : graph.Sound) {hops : List NodeId}
    {outcome : Except Fault Latency}
    (follows : graph.Follows origin address place hops outcome)
    (exists_place : place.index < graph.size) : ∀ hop ∈ hops, hop.index < graph.size := by
  induction follows with
  | served =>
      intro hop member
      rcases List.mem_singleton.mp member with rfl
      exact exists_place
  | refused =>
      intro hop member
      rcases List.mem_singleton.mp member with rfl
      exact exists_place
  | forwarded here rest induction =>
      intro hop member
      rcases List.mem_cons.mp member with rfl | later
      · exact exists_place
      · exact induction (sound.neighbour_lt_size (downstream_of_hop sound here)) hop later

theorem length_le_size_of_nodup {nodes : List NodeId} (nodup : nodes.Nodup)
    (inside : ∀ node ∈ nodes, node.index < graph.size) : nodes.length ≤ graph.size := by
  have subset : nodes ⊆ (List.range graph.size).map NodeId.mk := by
    intro node member
    exact List.mem_map.mpr ⟨node.index, List.mem_range.mpr (inside node member), rfl⟩
  have bound := nodup.length_le_of_subset subset
  rw [List.length_map, List.length_range] at bound
  exact bound

theorem Follows.length_le_size (sound : graph.Sound) {hops : List NodeId}
    {outcome : Except Fault Latency}
    (follows : graph.Follows origin address place hops outcome)
    (exists_place : place.index < graph.size) : hops.length ≤ graph.size :=
  length_le_size_of_nodup follows.nodup (follows.index_lt_size sound exists_place)

theorem route_eq_follow (inside : origin.index < graph.size) :
    graph.route origin address = graph.follow origin address graph.size origin := by
  rcases exists_vertex?_of_lt_size inside with ⟨vertex, found⟩
  rw [route, node?_eq, found, Option.map_some]

theorem Follows.route_eq (sound : graph.Sound) {hops : List NodeId}
    {outcome : Except Fault Latency}
    (follows : graph.Follows origin address origin hops outcome)
    (exists_origin : origin.index < graph.size) :
    graph.route origin address = outcome.map (Route.mk hops) := by
  rw [route_eq_follow exists_origin]
  exact follows.follow_eq (follows.length_le_size sound exists_origin)

theorem follows_of_route_eq_ok {route : Route} (found : graph.route origin address = .ok route) :
    graph.Follows origin address origin route.hops (.ok route.latency) := by
  rw [Graph.route] at found
  split at found
  · cases found
  · exact follows_of_follow_eq_ok found

theorem Follows.exists_terminal {hops : List NodeId} {latency : Latency}
    (follows : graph.Follows origin address place hops (.ok latency)) :
    ∃ terminal controller, hops.getLast? = some terminal ∧
      graph.kind? terminal = some (.controller controller) ∧
        controller.accepts address = true := by
  generalize outcome_eq : (Except.ok latency : Except Fault Latency) = outcome at follows
  induction follows generalizing latency with
  | @served place here =>
      rcases controller_of_hop here with ⟨controller, kind, accepted⟩
      exact ⟨place, controller, rfl, kind, accepted⟩
  | refused => cases outcome_eq
  | @forwarded place next delay hops outcome here rest induction =>
      cases outcome with
      | error => cases outcome_eq
      | ok sum =>
          rcases induction rfl with ⟨terminal, controller, last, kind, accepted⟩
          refine ⟨terminal, controller, ?_, kind, accepted⟩
          rw [List.getLast?_cons, last]
          rfl

end MemoryFabric.Graph
