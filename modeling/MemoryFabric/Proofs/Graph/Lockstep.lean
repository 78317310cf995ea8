import MemoryFabric.Check.Reachability
import MemoryFabric.Proofs.Graph.Decisions
import MemoryFabric.Proofs.Graph.Paths

/-! Two requests for different addresses from one node. As long as every predicate treats
the addresses alike, both requests are forwarded by the same nodes in the same way, and they
end together: with one route, or with faults of one kind at one place. -/

namespace MemoryFabric

namespace Check

variable {graph : Graph}

theorem mem_allPredicates_iff (predicate : AddressPredicate) :
    predicate ∈ allPredicates graph ↔ ∃ node, graph.Filters node predicate := by
  rw [allPredicates, List.mem_flatMap]
  constructor
  · rintro ⟨⟨id, node⟩, nodeMember, member⟩
    have found := (graph.mem_nodes_iff id node).mp nodeMember
    cases filter : node.kind.predicates? with
    | none => simp [filter] at member
    | some predicates =>
        refine ⟨id, predicates, ?_, by simpa [filter] using member⟩
        rw [Graph.kind?, found, Option.map_some, Option.bind_some, filter]
  · rintro ⟨id, predicates, filter, member⟩
    rcases Option.bind_eq_some_iff.mp filter with ⟨kind, foundKind, filter⟩
    rcases Option.map_eq_some_iff.mp foundKind with ⟨node, found, rfl⟩
    refine ⟨(id, node), (graph.mem_nodes_iff id node).mpr found, ?_⟩
    dsimp only
    rw [filter]
    exact member

end Check

namespace Graph

variable {graph : Graph} {origin place : NodeId} {first second : UInt64} {α β : Type}

/-! ## Outcomes of two requests -/

/-- Faults of one kind that name the same nodes. Each of them carries the address that it
arose for, if it carries any. -/
inductive SameFault (first second : UInt64) : Fault → Fault → Prop where
  | noSuchEndpoint (node endpoint : String) :
      SameFault first second (.noSuchEndpoint node endpoint) (.noSuchEndpoint node endpoint)
  | unroutable (origin place : String) :
      SameFault first second (.unroutable origin place first) (.unroutable origin place second)
  | ambiguousRoute (place chosen other : String) :
      SameFault first second (.ambiguousRoute place chosen other first)
        (.ambiguousRoute place chosen other second)
  | routingLoop (origin : String) :
      SameFault first second (.routingLoop origin first) (.routingLoop origin second)

inductive Lockstep (first second : UInt64) : Except Fault α → Except Fault α → Prop where
  | result (value : α) : Lockstep first second (.ok value) (.ok value)
  | fault {fault otherFault : Fault} (same : SameFault first second fault otherFault) :
      Lockstep first second (.error fault) (.error otherFault)

namespace Lockstep

variable {outcome otherOutcome : Except Fault α}

theorem eq_ok (lockstep : Lockstep first second outcome otherOutcome) {value : α}
    (found : outcome = .ok value) : otherOutcome = .ok value := by
  cases lockstep with
  | result => exact found
  | fault => cases found

theorem exists_error (lockstep : Lockstep first second outcome otherOutcome) {fault : Fault}
    (failed : outcome = .error fault) :
    ∃ otherFault, otherOutcome = .error otherFault ∧
      SameFault first second fault otherFault := by
  cases lockstep with
  | result => cases failed
  | fault same =>
      cases failed
      exact ⟨_, rfl, same⟩

theorem bind (lockstep : Lockstep first second outcome otherOutcome)
    {rest otherRest : α → Except Fault β}
    (others : ∀ value, Lockstep first second (rest value) (otherRest value)) :
    Lockstep first second (outcome >>= rest) (otherOutcome >>= otherRest) := by
  cases lockstep with
  | result value => exact others value
  | fault same => exact .fault same

end Lockstep

/-! ## Steps of two requests -/

theorem unroutable_lockstep (graph : Graph) (origin place : NodeId) (first second : UInt64) :
    Lockstep first second (.error (graph.unroutable origin place first) : Except Fault α)
      (.error (graph.unroutable origin place second)) :=
  .fault (.unroutable _ _)

theorem Alike.select (alike : graph.Alike first second) (origin bus : NodeId) :
    Lockstep first second (graph.select origin bus first) (graph.select origin bus second) := by
  have same : (graph.accepts · first) = (graph.accepts · second) := funext alike
  rw [Graph.select, Graph.select, same]
  cases (graph.downstream bus).filter (graph.accepts · second) with
  | nil => exact unroutable_lockstep graph origin bus first second
  | cons chosen rest =>
      cases rest with
      | nil => exact .result chosen
      | cons other rest => exact .fault (.ambiguousRoute _ _ _)

theorem soleDownstream_lockstep (graph : Graph) (origin place : NodeId) (first second : UInt64) :
    Lockstep first second (graph.soleDownstream origin place first)
      (graph.soleDownstream origin place second) := by
  rw [soleDownstream, soleDownstream]
  cases graph.peer? ⟨place, .mem, 0⟩ with
  | none => exact unroutable_lockstep graph origin place first second
  | some peer => exact .result peer.node

theorem Alike.hop (alike : graph.Alike first second) (origin place : NodeId) :
    Lockstep first second (graph.hop origin place first) (graph.hop origin place second) := by
  have refused := unroutable_lockstep (α := Hop) graph origin place first second
  have forwarded := soleDownstream_lockstep graph origin place first second
  have same := alike place
  rw [Graph.hop, Graph.hop]
  cases kind : graph.kind? place with
  | none => exact refused
  | some what =>
      rw [accepts_of_kind kind, accepts_of_kind kind] at same
      cases what with
      | requestor => exact forwarded.bind fun next => .result _
      | bus => exact (alike.select origin place).bind fun next => .result _
      | bridge bridge =>
          change bridge.accepts first = bridge.accepts second at same
          dsimp only
          rw [same]
          split
          · exact forwarded.bind fun next => .result _
          · exact refused
      | cache => exact forwarded.bind fun next => .result _
      | controller controller =>
          change controller.accepts first = controller.accepts second at same
          dsimp only
          rw [same]
          split
          · exact .result _
          · exact refused

/-! ## Two routes -/

theorem Alike.follow (alike : graph.Alike first second) (origin : NodeId) (fuel : Nat)
    (place : NodeId) :
    Lockstep first second (graph.follow origin first fuel place)
      (graph.follow origin second fuel place) := by
  induction fuel generalizing place with
  | zero => exact .fault (.routingLoop _)
  | succ fuel induction =>
      rw [Graph.follow, Graph.follow]
      apply (alike.hop origin place).bind
      intro hop
      cases hop with
      | served => exact .result _
      | forwarded next delay => exact (induction next).bind fun rest => .result _

theorem Alike.route (alike : graph.Alike first second) (origin : NodeId) :
    Lockstep first second (graph.route origin first) (graph.route origin second) := by
  rw [Graph.route, Graph.route]
  cases graph.node? origin with
  | none => exact .fault (.noSuchEndpoint _ _)
  | some node => exact alike.follow origin graph.size origin

/-- A request is routed by what the predicates of bridges and controllers say of its
address, and by nothing else. Requests for two addresses that no predicate tells apart have
the same route, or fail for the same reason at the same node. -/
theorem route_determined_by_predicates
    (same : ∀ node predicate, graph.Filters node predicate →
      (predicate.accepts first = true ↔ predicate.accepts second = true)) (origin : NodeId) :
    Lockstep first second (graph.route origin first) (graph.route origin second) := by
  have alike : graph.Alike first second :=
    alike_of_filters fun node predicate filters => Bool.eq_iff_iff.mpr (same node predicate filters)
  exact alike.route origin

/-- No predicate of the roundabout tells apart two addresses of its second half, so both go
round in the same loop. -/
theorem route_determined_by_predicates_roundabout :
    (∀ node predicate, roundabout.Filters node predicate →
      (predicate.accepts 0x81 = true ↔ predicate.accepts 0xFE = true)) ∧
    roundabout.route ⟨0⟩ 0xFE = .error (.routingLoop "cpu" 0xFE) := by
  have same : ∀ node predicate, roundabout.Filters node predicate →
      (predicate.accepts 0x81 = true ↔ predicate.accepts 0xFE = true) := by
    intro node predicate filters
    have all : ∀ predicate ∈ Check.allPredicates roundabout,
        (predicate.accepts 0x81 = true ↔ predicate.accepts 0xFE = true) := by
      decide +kernel
    exact all predicate ((Check.mem_allPredicates_iff predicate).mpr ⟨node, filters⟩)
  have loops : roundabout.route ⟨0⟩ 0x81 = .error (.routingLoop "cpu" 0x81) := by
    decide +kernel
  rcases (route_determined_by_predicates same ⟨0⟩).exists_error loops with
    ⟨fault, failed, routingLoop⟩
  cases routingLoop
  exact ⟨same, failed⟩

end Graph

end MemoryFabric
