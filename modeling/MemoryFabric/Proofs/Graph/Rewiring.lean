import MemoryFabric.Proofs.Graph.Adjacency
import MemoryFabric.Proofs.Graph.Decisions

/-! Fabrics that differ only in the order in which they were wired. Where as many edges
lead from each node down to each other one, the nodes below a node are the same up to
order, and every request is followed to the same end; only a crossbar in doubt may tell
of other neighbours. -/

namespace MemoryFabric.Graph

variable {graph other : Graph} {origin place : NodeId} {address : UInt64} {α β : Type}

/-- The fabrics have the same nodes, and as many edges from each node down to each
other one. -/
structure SameWiring (graph other : Graph) : Prop where
  nodes : graph.nodes = other.nodes
  edges : ∀ upper lower, graph.edgeCount upper lower = other.edgeCount upper lower

namespace SameWiring

theorem symm (same : SameWiring graph other) : SameWiring other graph where
  nodes := same.nodes.symm
  edges upper lower := (same.edges upper lower).symm

theorem node?_eq (same : SameWiring graph other) (node : NodeId) :
    graph.node? node = other.node? node := by
  apply Option.ext
  intro found
  rw [← mem_nodes_iff, ← mem_nodes_iff, same.nodes]

theorem kind?_eq (same : SameWiring graph other) (node : NodeId) :
    graph.kind? node = other.kind? node := by
  rw [kind?, kind?, same.node?_eq]

theorem nameOf_eq (same : SameWiring graph other) (node : NodeId) :
    graph.nameOf node = other.nameOf node := by
  rw [nameOf, nameOf, same.node?_eq]

theorem accepts_eq (same : SameWiring graph other) (node : NodeId) (address : UInt64) :
    graph.accepts node address = other.accepts node address := by
  rw [accepts, accepts, same.kind?_eq]

theorem size_eq (same : SameWiring graph other) : graph.size = other.size := by
  have lengths := congrArg List.length same.nodes
  simpa [Graph.nodes, size] using lengths

theorem unroutable_eq (same : SameWiring graph other) (origin place : NodeId)
    (address : UInt64) :
    graph.unroutable origin place address = other.unroutable origin place address := by
  rw [unroutable, unroutable, same.nameOf_eq, same.nameOf_eq]

theorem downstream_perm (same : SameWiring graph other) (sound : graph.Sound)
    (otherSound : other.Sound) (upper : NodeId) :
    (graph.downstream upper).Perm (other.downstream upper) := by
  rw [List.perm_iff_count]
  intro lower
  rw [sound.count_downstream, otherSound.count_downstream, same.edges]

end SameWiring

def joins (graph : Graph) : List (NodeId × NodeId) :=
  graph.edges.toList.map fun edge => (edge.mem.node, edge.cpu.node)

theorem count_joins (upper lower : NodeId) :
    graph.joins.count (upper, lower) = graph.edgeCount upper lower := by
  rw [joins, List.count, List.countP_map, edgeCount, edgesBelow, List.countP_filter]
  congr 1
  funext edge
  rw [Bool.eq_iff_iff]
  simp [and_comm]

theorem sameWiring_iff :
    SameWiring graph other ↔ graph.nodes = other.nodes ∧ graph.joins.Perm other.joins := by
  rw [List.perm_iff_count]
  constructor
  · rintro ⟨nodes, edges⟩
    refine ⟨nodes, ?_⟩
    rintro ⟨upper, lower⟩
    rw [count_joins, count_joins, edges]
  · rintro ⟨nodes, counts⟩
    refine ⟨nodes, fun upper lower => ?_⟩
    rw [← count_joins, ← count_joins, counts]

instance decidableSameWiring : Decidable (SameWiring graph other) :=
  decidable_of_iff _ sameWiring_iff.symm

/-! ## Outcomes -/

/-- Both give the same result or the same fault, except that a crossbar which several
nodes below it leave in doubt may name other ones of these. -/
inductive Agrees (graph other : Graph) (address : UInt64) :
    Except Fault α → Except Fault α → Prop where
  | same (outcome : Except Fault α) : Agrees graph other address outcome outcome
  | doubt {place first second otherFirst otherSecond : NodeId} {bus : Bus}
      (kind : graph.kind? place = some (.bus bus))
      (here : [first, second].Sublist
        ((graph.downstream place).filter (graph.accepts · address)))
      (there : [otherFirst, otherSecond].Sublist
        ((other.downstream place).filter (other.accepts · address))) :
      Agrees graph other address
        (.error (.ambiguousRoute (graph.nameOf place) (graph.nameOf first) (graph.nameOf second)
          address))
        (.error (.ambiguousRoute (graph.nameOf place) (graph.nameOf otherFirst)
          (graph.nameOf otherSecond) address))

namespace Agrees

variable {outcome otherOutcome : Except Fault α}

theorem bind (agrees : Agrees graph other address outcome otherOutcome)
    {rest otherRest : α → Except Fault β}
    (others : ∀ result, Agrees graph other address (rest result) (otherRest result)) :
    Agrees graph other address (outcome >>= rest) (otherOutcome >>= otherRest) := by
  cases agrees with
  | same =>
      cases outcome with
      | error fault => exact .same (.error fault)
      | ok result => exact others result
  | doubt kind here there => exact .doubt kind here there

theorem eq_ok_iff (agrees : Agrees graph other address outcome otherOutcome) {result : α} :
    outcome = .ok result ↔ otherOutcome = .ok result := by
  cases agrees with
  | same => exact Iff.rfl
  | doubt => exact iff_of_false (fun same => by cases same) fun same => by cases same

end Agrees

/-! ## Hops -/

theorem SameWiring.accepting_perm (same : SameWiring graph other) (sound : graph.Sound)
    (otherSound : other.Sound) (place : NodeId) (address : UInt64) :
    ((graph.downstream place).filter (graph.accepts · address)).Perm
      ((other.downstream place).filter (other.accepts · address)) := by
  have accepts : (graph.accepts · address) = (other.accepts · address) :=
    funext fun node => same.accepts_eq node address
  rw [accepts]
  exact (same.downstream_perm sound otherSound place).filter _

theorem exists_two_of_perm {first second : α} {rest items : List α}
    (perm : (first :: second :: rest).Perm items) :
    ∃ otherFirst otherSecond otherRest, items = otherFirst :: otherSecond :: otherRest := by
  have length := perm.length_eq
  cases items with
  | nil => cases length
  | cons otherFirst items =>
      cases items with
      | nil => cases length
      | cons otherSecond otherRest => exact ⟨otherFirst, otherSecond, otherRest, rfl⟩

/-- The nodes below a crossbar are met in another order, but none, one or several of them
accept the address all the same. -/
theorem SameWiring.select_agrees (same : SameWiring graph other) (sound : graph.Sound)
    (otherSound : other.Sound) {bus : Bus} (kind : graph.kind? place = some (.bus bus))
    (origin : NodeId) (address : UInt64) :
    Agrees graph other address (graph.select origin place address)
      (other.select origin place address) := by
  have perm := same.accepting_perm sound otherSound place address
  rw [select, select]
  cases here : (graph.downstream place).filter (graph.accepts · address) with
  | nil =>
      rw [here] at perm
      rw [← perm.nil_eq, ← same.unroutable_eq]
      exact .same _
  | cons first rest =>
      cases rest with
      | nil =>
          rw [here, List.singleton_perm] at perm
          rw [← perm]
          exact .same _
      | cons second rest =>
          rw [here] at perm
          rcases exists_two_of_perm perm with ⟨otherFirst, otherSecond, otherRest, there⟩
          rw [there]
          dsimp only
          rw [← same.nameOf_eq place, ← same.nameOf_eq otherFirst, ← same.nameOf_eq otherSecond]
          apply Agrees.doubt kind
          · rw [here]
            exact ((List.nil_sublist rest).cons_cons second).cons_cons first
          · rw [there]
            exact ((List.nil_sublist otherRest).cons_cons otherSecond).cons_cons otherFirst

theorem Sound.length_downstream_le_one (sound : graph.Sound) (forwards : graph.Forwards place) :
    (graph.downstream place).length ≤ 1 := by
  rcases forwards.exists_port sound with ⟨vertex, port, found, ports⟩
  rw [downstream, neighbours_of_vertex? .mem found, Vertex.neighbours, ports]
  exact List.length_filterMap_le _ [port]

theorem eq_of_perm_of_length_le_one {items others : List α} (perm : items.Perm others)
    (short : items.length ≤ 1) : items = others := by
  cases items with
  | nil => exact perm.nil_eq
  | cons item rest =>
      rcases List.length_eq_zero_iff.mp (Nat.le_zero.mp (Nat.le_of_succ_le_succ short)) with rfl
      exact List.singleton_perm.mp perm

theorem SameWiring.soleDownstream_eq (same : SameWiring graph other) (sound : graph.Sound)
    (otherSound : other.Sound) (forwards : graph.Forwards place) :
    graph.soleDownstream origin place address = other.soleDownstream origin place address := by
  have otherForwards : other.Forwards place := by
    rcases forwards with ⟨kind, found, parts⟩
    exact ⟨kind, (same.kind?_eq place).symm.trans found, parts⟩
  have below := eq_of_perm_of_length_le_one (same.downstream_perm sound otherSound place)
    (sound.length_downstream_le_one forwards)
  rw [Graph.soleDownstream_eq sound forwards, Graph.soleDownstream_eq otherSound otherForwards,
    below, same.unroutable_eq]

theorem SameWiring.hop_agrees (same : SameWiring graph other) (sound : graph.Sound)
    (otherSound : other.Sound) (origin place : NodeId) (address : UInt64) :
    Agrees graph other address (graph.hop origin place address)
      (other.hop origin place address) := by
  by_cases crossbar : ∃ bus, graph.kind? place = some (.bus bus)
  · rcases crossbar with ⟨bus, kind⟩
    have otherKind := (same.kind?_eq place).symm.trans kind
    have selected := same.select_agrees sound otherSound kind origin address
    rw [hop, hop, kind, otherKind]
    exact selected.bind fun next => .same _
  · have unchanged : graph.hop origin place address = other.hop origin place address := by
      apply hop_congr (same.kind?_eq place) (same.unroutable_eq origin place address)
      · intro bus kind
        exact absurd ⟨bus, (same.kind?_eq place).trans kind⟩ crossbar
      · intro otherForwards
        exact (same.symm.soleDownstream_eq otherSound sound otherForwards).symm
    rw [unchanged]
    exact .same _

/-! ## Routes -/

theorem SameWiring.follow_agrees (same : SameWiring graph other) (sound : graph.Sound)
    (otherSound : other.Sound) (origin : NodeId) (address : UInt64) (fuel : Nat)
    (place : NodeId) :
    Agrees graph other address (graph.follow origin address fuel place)
      (other.follow origin address fuel place) := by
  induction fuel generalizing place with
  | zero =>
      rw [follow, follow, same.nameOf_eq]
      exact .same _
  | succ fuel induction =>
      rw [follow, follow]
      apply (same.hop_agrees sound otherSound origin place address).bind
      intro hop
      cases hop with
      | served => exact .same _
      | forwarded next delay => exact (induction next).bind fun rest => .same _

theorem SameWiring.route_agrees (same : SameWiring graph other) (sound : graph.Sound)
    (otherSound : other.Sound) (origin : NodeId) (address : UInt64) :
    Agrees graph other address (graph.route origin address) (other.route origin address) := by
  rw [route, route, ← same.node?_eq, ← same.size_eq]
  cases graph.node? origin with
  | none => exact .same _
  | some node => exact same.follow_agrees sound otherSound origin address graph.size origin

end MemoryFabric.Graph
