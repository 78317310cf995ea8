import Mathlib.Algebra.GroupWithZero.Nat
import Mathlib.Data.List.Chain
import MemoryFabric.Proofs.Graph.Routing
import MemoryFabric.Proofs.Graph.Wired

/-! Routes as paths. Which node passes a request on to which other one is a relation
that speaks of ports and predicates only. In a fabric that was wired step by step, a
route is found exactly if a path leads to a controller, and it is that path; a request
goes round in a loop exactly if it visits some node twice. -/

namespace MemoryFabric.Graph

variable {graph : Graph} {origin place next : NodeId} {address : UInt64}
  {hops visited : List NodeId}

/-- A request for the address that is at one node goes on to the other. A crossbar
passes it to the only one of its ports behind which it is accepted, a bridge only if
it accepts the address itself. -/
inductive Passes (graph : Graph) (address : UInt64) : NodeId → NodeId → Prop where
  | bus {place : NodeId} {bus : Bus} {port : Nat} {peer : Endpoint}
      (kind : graph.kind? place = some (.bus bus))
      (joined : graph.peer? ⟨place, .mem, port⟩ = some peer)
      (accepted : graph.accepts peer.node address = true)
      (only : ∀ other otherPeer, graph.peer? ⟨place, .mem, other⟩ = some otherPeer →
        graph.accepts otherPeer.node address = true → other = port) :
      Passes graph address place peer.node
  | bridge {place : NodeId} {bridge : Bridge} {peer : Endpoint}
      (kind : graph.kind? place = some (.bridge bridge))
      (accepted : bridge.accepts address = true)
      (joined : graph.peer? ⟨place, .mem, 0⟩ = some peer) :
      Passes graph address place peer.node
  | cache {place : NodeId} {cache : Cache} {peer : Endpoint}
      (kind : graph.kind? place = some (.cache cache))
      (joined : graph.peer? ⟨place, .mem, 0⟩ = some peer) :
      Passes graph address place peer.node
  | requestor {place : NodeId} {requestor : Requestor} {peer : Endpoint}
      (kind : graph.kind? place = some (.requestor requestor))
      (joined : graph.peer? ⟨place, .mem, 0⟩ = some peer) :
      Passes graph address place peer.node

/-- From `place` on a request visits the nodes `hops`, up to the first controller,
which accepts the address. -/
inductive Path (graph : Graph) (address : UInt64) : NodeId → List NodeId → Prop where
  | served {place : NodeId} {controller : MemoryController}
      (kind : graph.kind? place = some (.controller controller))
      (accepted : controller.accepts address = true) : Path graph address place [place]
  | passed {place next : NodeId} {hops : List NodeId}
      (step : graph.Passes address place next) (rest : Path graph address next hops) :
      Path graph address place (place :: hops)

/-- From `place` on a request visits some node twice. -/
def Circles (graph : Graph) (address : UInt64) (place : NodeId) : Prop :=
  ∃ visited, (place :: visited).IsChain (graph.Passes address) ∧ ¬ (place :: visited).Nodup

def delayAt (graph : Graph) (place : NodeId) : Latency :=
  match graph.kind? place with
  | some (.bridge bridge) => bridge.latency
  | _ => 0

/-! ## Steps of a path -/

theorem filterMap_eq_singleton_iff {α β : Type} {change : α → Option β} {items : List α}
    {result : β} :
    items.filterMap change = [result] ↔
      ∃ (index : Nat) (item : α), items[index]? = some item ∧ change item = some result ∧
        ∀ (other : Nat) (otherItem : α) (otherResult : β), items[other]? = some otherItem →
          change otherItem = some otherResult → other = index := by
  rw [List.filterMap_eq_cons_iff]
  constructor
  · rintro ⟨before, item, after, rfl, noneBefore, here, noneAfter⟩
    refine ⟨before.length, item, by simp, here, ?_⟩
    intro other otherItem otherResult found changed
    rw [List.filterMap_eq_nil_iff] at noneAfter
    have refused : otherItem ∈ before ∨ otherItem ∈ after → False := by
      rintro (member | member)
      · simp [noneBefore otherItem member] at changed
      · simp [noneAfter otherItem member] at changed
    rcases Nat.lt_trichotomy other before.length with earlier | same | later
    · rw [List.getElem?_append_left earlier] at found
      exact absurd (Or.inl (List.mem_of_getElem? found)) refused
    · exact same
    · rcases Nat.exists_eq_add_of_lt later with ⟨offset, rfl⟩
      rw [Nat.add_assoc, List.getElem?_append_right (Nat.le_add_right _ _),
        Nat.add_sub_cancel_left, List.getElem?_cons_succ] at found
      exact absurd (Or.inr (List.mem_of_getElem? found)) refused
  · rintro ⟨index, item, found, here, only⟩
    rcases List.getElem?_eq_some_iff.mp found with ⟨inside, same⟩
    have refused : ∀ (other : Nat) (bound : other < items.length), other ≠ index →
        change items[other] = none := by
      intro other bound different
      cases changed : change items[other] with
      | none => rfl
      | some otherResult =>
          exact absurd (only other _ _ (List.getElem?_eq_getElem bound) changed) different
    refine ⟨items.take index, item, items.drop (index + 1), ?_, ?_, here, ?_⟩
    · rw [← same, List.getElem_cons_drop, List.take_append_drop]
    · intro other member
      rcases List.mem_take_iff_getElem.mp member with ⟨position, bound, rfl⟩
      exact refused position (by omega) (by omega)
    · rw [List.filterMap_eq_nil_iff]
      intro other member
      rcases List.mem_drop_iff_getElem.mp member with ⟨position, bound, rfl⟩
      exact refused _ (by omega) (by omega)

theorem filter_downstream (graph : Graph) (node : NodeId) (address : UInt64) {vertex : Vertex}
    (found : graph.vertex? node = some vertex) :
    (graph.downstream node).filter (graph.accepts · address) =
      (vertex.ports .mem).toList.filterMap fun port =>
        (port.map (·.node)).filter (graph.accepts · address) := by
  rw [downstream, neighbours, found, List.filter_filterMap]

theorem select_eq_ok_iff_filter {bus : NodeId} :
    graph.select origin bus address = .ok next ↔
      (graph.downstream bus).filter (graph.accepts · address) = [next] := by
  rw [select]
  split
  · simp [*]
  · simp [*]
  · simp [*]

theorem select_eq_ok_iff {bus : NodeId} (inside : bus.index < graph.size) :
    graph.select origin bus address = .ok next ↔
      ∃ port peer, graph.peer? ⟨bus, .mem, port⟩ = some peer ∧ peer.node = next ∧
        graph.accepts peer.node address = true ∧
          ∀ other otherPeer, graph.peer? ⟨bus, .mem, other⟩ = some otherPeer →
            graph.accepts otherPeer.node address = true → other = port := by
  rcases exists_vertex?_of_lt_size inside with ⟨vertex, found⟩
  have peer_iff : ∀ port peer, graph.peer? ⟨bus, .mem, port⟩ = some peer ↔
      (vertex.ports .mem).toList[port]? = some (some peer) := by
    intro port peer
    rw [peer?_of_vertex? found, Array.getElem?_toList, Option.join_eq_some_iff]
  rw [select_eq_ok_iff_filter, filter_downstream graph bus address found,
    filterMap_eq_singleton_iff]
  simp only [peer_iff]
  constructor
  · rintro ⟨port, item, here, chosen, only⟩
    rw [Option.filter_eq_some_iff, Option.map_eq_some_iff] at chosen
    rcases chosen with ⟨⟨peer, rfl, rfl⟩, accepted⟩
    refine ⟨port, peer, here, rfl, accepted, ?_⟩
    intro other otherPeer there otherAccepted
    exact only other _ otherPeer.node there (by simp [otherAccepted])
  · rintro ⟨port, peer, here, rfl, accepted, only⟩
    refine ⟨port, some peer, here, by simp [accepted], ?_⟩
    intro other otherItem otherNext there chosen
    rw [Option.filter_eq_some_iff, Option.map_eq_some_iff] at chosen
    rcases chosen with ⟨⟨otherPeer, rfl, rfl⟩, otherAccepted⟩
    exact only other otherPeer there otherAccepted

theorem soleDownstream_eq_ok_iff :
    graph.soleDownstream origin place address = .ok next ↔
      ∃ peer, graph.peer? ⟨place, .mem, 0⟩ = some peer ∧ peer.node = next := by
  rw [soleDownstream]
  cases graph.peer? ⟨place, .mem, 0⟩ <;> simp

theorem forwarded_iff {delay : Latency} :
    graph.hop origin place address = .ok (.forwarded next delay) ↔
      graph.Passes address place next ∧ delay = graph.delayAt place := by
  rw [hop_eq_ok_iff]
  constructor
  · intro handles
    cases handles with
    | selected kind selected =>
        rcases (select_eq_ok_iff (index_lt_size_of_kind? kind)).mp selected with
          ⟨port, peer, joined, rfl, accepted, only⟩
        exact ⟨.bus kind joined accepted only, by rw [delayAt, kind]⟩
    | crossed kind accepted sole =>
        rcases soleDownstream_eq_ok_iff.mp sole with ⟨peer, joined, rfl⟩
        exact ⟨.bridge kind accepted joined, by rw [delayAt, kind]⟩
    | requested kind sole =>
        rcases soleDownstream_eq_ok_iff.mp sole with ⟨peer, joined, rfl⟩
        exact ⟨.requestor kind joined, by rw [delayAt, kind]⟩
    | cached kind sole =>
        rcases soleDownstream_eq_ok_iff.mp sole with ⟨peer, joined, rfl⟩
        exact ⟨.cache kind joined, by rw [delayAt, kind]⟩
  · rintro ⟨passes, rfl⟩
    cases passes with
    | bus kind joined accepted only =>
        rw [delayAt, kind]
        exact .selected kind ((select_eq_ok_iff (index_lt_size_of_kind? kind)).mpr
          ⟨_, _, joined, rfl, accepted, only⟩)
    | bridge kind accepted joined =>
        rw [delayAt, kind]
        exact .crossed kind accepted (soleDownstream_eq_ok_iff.mpr ⟨_, joined, rfl⟩)
    | cache kind joined =>
        rw [delayAt, kind]
        exact .cached kind (soleDownstream_eq_ok_iff.mpr ⟨_, joined, rfl⟩)
    | requestor kind joined =>
        rw [delayAt, kind]
        exact .requested kind (soleDownstream_eq_ok_iff.mpr ⟨_, joined, rfl⟩)

theorem Passes.hop_eq (passes : graph.Passes address place next) (origin : NodeId) :
    graph.hop origin place address = .ok (.forwarded next (graph.delayAt place)) :=
  forwarded_iff.mpr ⟨passes, rfl⟩

theorem served_iff :
    graph.hop origin place address = .ok .served ↔
      ∃ controller, graph.kind? place = some (.controller controller) ∧
        controller.accepts address = true := by
  constructor
  · exact controller_of_hop
  · rintro ⟨controller, kind, accepted⟩
    exact hop_eq_ok_iff.mpr (.served kind accepted)

theorem delayAt_of_controller {controller : MemoryController}
    (kind : graph.kind? place = some (.controller controller)) : graph.delayAt place = 0 := by
  rw [delayAt, kind]

/-! ## Paths that end -/

theorem Path.exists_follows (path : graph.Path address place hops) (origin : NodeId) :
    ∃ latency, graph.Follows origin address place hops (.ok latency) := by
  induction path with
  | served kind accepted => exact ⟨0, .served (served_iff.mpr ⟨_, kind, accepted⟩)⟩
  | passed step rest induction =>
      rcases induction with ⟨latency, follows⟩
      exact ⟨_, .forwarded (step.hop_eq origin) follows⟩

theorem Follows.path {latency : Latency}
    (follows : graph.Follows origin address place hops (.ok latency)) :
    graph.Path address place hops := by
  generalize outcome_eq : (Except.ok latency : Except Fault Latency) = outcome at follows
  induction follows generalizing latency with
  | served here =>
      rcases served_iff.mp here with ⟨controller, kind, accepted⟩
      exact .served kind accepted
  | refused => cases outcome_eq
  | @forwarded place next delay hops outcome here rest induction =>
      cases outcome with
      | error => cases outcome_eq
      | ok => exact .passed (forwarded_iff.mp here).1 (induction rfl)

theorem Follows.toNanoseconds_eq {latency : Latency}
    (follows : graph.Follows origin address place hops (.ok latency)) :
    latency.toNanoseconds =
      min (hops.map fun hop => (graph.delayAt hop).toNanoseconds).sum
        Latency.longest.toNanoseconds := by
  generalize outcome_eq : (Except.ok latency : Except Fault Latency) = outcome at follows
  induction follows generalizing latency with
  | served here =>
      rcases served_iff.mp here with ⟨controller, kind, -⟩
      cases outcome_eq
      simp [delayAt_of_controller kind, Latency.toNanoseconds_zero]
  | refused => cases outcome_eq
  | @forwarded place next delay hops outcome here rest induction =>
      cases outcome with
      | error => cases outcome_eq
      | ok later =>
          cases outcome_eq
          have sum := induction rfl
          rw [Latency.toNanoseconds_add, sum, (forwarded_iff.mp here).2, List.map_cons,
            List.sum_cons]
          omega

/-! ## Requests that go round -/

theorem Follows.prefix_of_isChain {outcome : Except Fault Latency}
    (follows : graph.Follows origin address place hops outcome)
    (chain : (place :: visited).IsChain (graph.Passes address)) : place :: visited <+: hops := by
  induction follows generalizing visited with
  | @served place here =>
      cases visited with
      | nil => exact List.prefix_rfl
      | cons next rest =>
          have passes := (List.isChain_cons_cons.mp chain).1
          rw [passes.hop_eq origin] at here
          cases here
  | @refused place fault here =>
      cases visited with
      | nil => exact List.prefix_rfl
      | cons next rest =>
          have passes := (List.isChain_cons_cons.mp chain).1
          rw [passes.hop_eq origin] at here
          cases here
  | @forwarded place next delay hops outcome here rest induction =>
      cases visited with
      | nil => exact ⟨hops, rfl⟩
      | cons other rest =>
          rcases List.isChain_cons_cons.mp chain with ⟨passes, later⟩
          rw [passes.hop_eq origin] at here
          cases here
          exact List.cons_prefix_cons.mpr ⟨rfl, induction later⟩

theorem Follows.not_circles {outcome : Except Fault Latency}
    (follows : graph.Follows origin address place hops outcome) :
    ¬ graph.Circles address place := by
  rintro ⟨visited, chain, twice⟩
  exact twice (follows.nodup.sublist (follows.prefix_of_isChain chain).sublist)

theorem follow_cases (graph : Graph) (origin : NodeId) (address : UInt64) (fuel : Nat)
    (place : NodeId) :
    (∃ hops outcome, graph.Follows origin address place hops outcome) ∨
      graph.follow origin address fuel place =
          .error (.routingLoop (graph.nameOf origin) address) ∧
        ∃ visited, visited.length = fuel ∧
          (place :: visited).IsChain (graph.Passes address) := by
  induction fuel generalizing place with
  | zero => exact Or.inr ⟨rfl, [], rfl, .singleton place⟩
  | succ fuel induction =>
      cases here : graph.hop origin place address with
      | error fault => exact Or.inl ⟨_, _, .refused here⟩
      | ok hop =>
          cases hop with
          | served => exact Or.inl ⟨_, _, .served here⟩
          | forwarded next delay =>
              rcases induction next with ⟨hops, outcome, follows⟩ |
                ⟨loops, visited, length, chain⟩
              · exact Or.inl ⟨_, _, .forwarded here follows⟩
              · refine Or.inr ⟨?_, next :: visited, by rw [List.length_cons, length], ?_⟩
                · rw [follow, here, ok_bind]
                  change (graph.follow origin address fuel next >>= _) = _
                  rw [loops]
                  rfl
                · exact List.isChain_cons_cons.mpr ⟨(forwarded_iff.mp here).1, chain⟩

theorem Passes.downstream (sound : graph.Sound) (passes : graph.Passes address place next) :
    next ∈ graph.downstream place :=
  downstream_of_hop sound (passes.hop_eq place)

theorem Sound.index_lt_size_of_isChain (sound : graph.Sound)
    (inside : place.index < graph.size)
    (chain : (place :: visited).IsChain (graph.Passes address)) :
    ∀ node ∈ place :: visited, node.index < graph.size := by
  induction visited generalizing place with
  | nil =>
      intro node member
      rcases List.mem_singleton.mp member with rfl
      exact inside
  | cons next rest induction =>
      rcases List.isChain_cons_cons.mp chain with ⟨passes, later⟩
      intro node member
      rcases List.mem_cons.mp member with rfl | below
      · exact inside
      · exact induction (sound.neighbour_lt_size (passes.downstream sound)) later node below

/-- More steps than there are nodes lead to some node twice. -/
theorem Sound.circles_of_isChain (sound : graph.Sound) (inside : place.index < graph.size)
    (length : visited.length = graph.size)
    (chain : (place :: visited).IsChain (graph.Passes address)) :
    graph.Circles address place := by
  refine ⟨visited, chain, fun nodup => ?_⟩
  have bound := length_le_size_of_nodup nodup (sound.index_lt_size_of_isChain inside chain)
  rw [List.length_cons, length] at bound
  exact Nat.not_succ_le_self _ bound

theorem hop_ne_routingLoop {fault : Fault}
    (failed : graph.hop origin place address = .error fault) (name : String) (target : UInt64) :
    fault ≠ .routingLoop name target := by
  rintro rfl
  rw [hop] at failed
  split at failed
  case h_1 => cases failed
  case h_2 => split at failed <;> cases failed
  case h_3 =>
    rw [select] at failed
    split at failed <;> cases failed
  case h_4 =>
    split at failed
    · rw [soleDownstream] at failed
      split at failed <;> cases failed
    · cases failed
  case h_5 =>
    rw [soleDownstream] at failed
    split at failed <;> cases failed
  case h_6 =>
    rw [soleDownstream] at failed
    split at failed <;> cases failed

theorem Follows.ne_routingLoop {fault : Fault}
    (follows : graph.Follows origin address place hops (.error fault)) (name : String)
    (target : UInt64) : fault ≠ .routingLoop name target := by
  generalize outcome_eq : (Except.error fault : Except Fault Latency) = outcome at follows
  induction follows with
  | served => cases outcome_eq
  | refused here =>
      cases outcome_eq
      exact hop_ne_routingLoop here name target
  | @forwarded place next delay hops outcome here rest induction =>
      cases outcome with
      | error => exact induction outcome_eq
      | ok => cases outcome_eq

theorem Sound.route_cases (sound : graph.Sound) (inside : origin.index < graph.size)
    (address : UInt64) :
    (∃ hops outcome, graph.Follows origin address origin hops outcome ∧
        graph.route origin address = outcome.map (Route.mk hops)) ∨
      graph.Circles address origin ∧
        graph.route origin address = .error (.routingLoop (graph.nameOf origin) address) := by
  rw [route_eq_follow inside]
  rcases follow_cases graph origin address graph.size origin with ⟨hops, outcome, follows⟩ |
    ⟨loops, visited, length, chain⟩
  · exact Or.inl ⟨hops, outcome, follows, follows.follow_eq (follows.length_le_size sound inside)⟩
  · exact Or.inr ⟨sound.circles_of_isChain inside length chain, loops⟩

theorem Sound.route_eq_routingLoop_iff (sound : graph.Sound) (inside : origin.index < graph.size)
    (address : UInt64) (name : String) (target : UInt64) :
    graph.route origin address = .error (.routingLoop name target) ↔
      name = graph.nameOf origin ∧ target = address ∧ graph.Circles address origin := by
  rcases sound.route_cases inside address with ⟨hops, outcome, follows, ends⟩ | ⟨circles, loops⟩
  · rw [ends]
    constructor
    · intro failed
      cases outcome with
      | error fault =>
          cases failed
          exact absurd rfl (follows.ne_routingLoop name target)
      | ok => cases failed
    · rintro ⟨-, -, circles⟩
      exact absurd circles follows.not_circles
  · rw [loops]
    constructor
    · intro failed
      cases failed
      exact ⟨rfl, rfl, circles⟩
    · rintro ⟨rfl, rfl, -⟩
      rfl

/-! ## Routes of wired fabrics -/

/-- In a wired fabric a route is found exactly if a path leads from its origin to a
controller. It is that path, which visits no node twice, and takes the delays of the
bridges on it as long as these can be expressed. A request goes round in a loop exactly
if it visits some node twice. -/
theorem Wired.route_follows_path (wired : graph.Wired) {origin : NodeId}
    (inside : origin.index < graph.size) (address : UInt64) :
    (∀ hops, (∃ latency, graph.route origin address = .ok ⟨hops, latency⟩) ↔
      graph.Path address origin hops) ∧
    (∀ route, graph.route origin address = .ok route →
      route.hops.Nodup ∧ route.hops.length ≤ graph.size ∧
        route.latency.toNanoseconds =
          min (route.hops.map fun hop => (graph.delayAt hop).toNanoseconds).sum
            Latency.longest.toNanoseconds) ∧
    ∀ name target, graph.route origin address = .error (.routingLoop name target) ↔
      name = graph.nameOf origin ∧ target = address ∧ graph.Circles address origin := by
  have sound := wired.sound
  refine ⟨fun hops => ⟨?_, ?_⟩, ?_, sound.route_eq_routingLoop_iff inside address⟩
  · rintro ⟨latency, found⟩
    exact (follows_of_route_eq_ok found).path
  · intro path
    rcases path.exists_follows origin with ⟨latency, follows⟩
    exact ⟨latency, follows.route_eq sound inside⟩
  · intro route found
    have follows := follows_of_route_eq_ok found
    exact ⟨follows.nodup, follows.length_le_size sound inside, follows.toNanoseconds_eq⟩

/-- A requestor above a crossbar, from which one half of a page leads through a bridge
to its controller, and the other half through another bridge and crossbar back. -/
def roundabout : Graph :=
  [.addNode "cpu" (.requestor ⟨.dataPort, none, []⟩),
    .addNode "bus" (.bus ⟨64⟩),
    .addNode "exit" (.bridge ⟨[.whole ⟨0, 0x80, by decide, by decide⟩], .ofNanoseconds 7⟩),
    .addNode "ctrl" (.controller {
      predicate := .whole ⟨0, 0x80, by decide, by decide⟩
      outputDirectory := "out" }),
    .addNode "detour" (.bridge ⟨[.whole ⟨0x80, 0x80, by decide, by decide⟩], .ofNanoseconds 1⟩),
    .addNode "ring" (.bus ⟨64⟩),
    .link ⟨0⟩ ⟨1⟩, .link ⟨1⟩ ⟨2⟩, .link ⟨2⟩ ⟨3⟩, .link ⟨1⟩ ⟨4⟩, .link ⟨4⟩ ⟨5⟩,
    .link ⟨5⟩ ⟨1⟩].foldl advance empty

theorem route_follows_path_roundabout :
    roundabout.Wired ∧ (⟨0⟩ : NodeId).index < roundabout.size ∧
      roundabout.Path 0x40 ⟨0⟩ [⟨0⟩, ⟨1⟩, ⟨2⟩, ⟨3⟩] ∧ roundabout.Circles 0xC0 ⟨0⟩ := by
  have wired : roundabout.Wired := ⟨_, rfl⟩
  have inside : (⟨0⟩ : NodeId).index < roundabout.size := by decide
  refine ⟨wired, inside, ?_, ?_⟩
  · exact ((wired.route_follows_path inside 0x40).1 _).mp ⟨.ofNanoseconds 7, by decide +kernel⟩
  · have loops : roundabout.route ⟨0⟩ 0xC0 = .error (.routingLoop "cpu" 0xC0) := by
      decide +kernel
    exact (((wired.route_follows_path inside 0xC0).2.2 _ _).mp loops).2.2

end MemoryFabric.Graph
