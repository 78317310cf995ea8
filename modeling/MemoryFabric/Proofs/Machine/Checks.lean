import MemoryFabric.Proofs.Check.Coverage
import MemoryFabric.Proofs.Check.Disjointness
import MemoryFabric.Proofs.Check.Peers
import MemoryFabric.Proofs.Check.Reachability
import MemoryFabric.Proofs.Machine.Requests

/-! A machine that was wired passes all checks. -/

namespace MemoryFabric.Assembly

variable {assembly : Assembly} {owner : UInt64 → Nat} {graph : Graph}

theorem filters_of_mem_controllerIds (realizes : graph.Realizes assembly.netlist) {node : NodeId}
    (member : node ∈ assembly.controllerIds) {predicate : AddressPredicate}
    (filters : graph.Filters node predicate) :
    (node = ⟨1⟩ ∧ predicate = .whole assembly.main) ∨
      ∃ index share, assembly.plan.channels[index]? = some share ∧ node = ⟨2 + index⟩ ∧
        predicate = share.predicate := by
  rcases filters with ⟨predicates, found, predicateMember⟩
  rcases (mem_controllerIds_iff node).mp member with rfl | ⟨index, controller, inBank, rfl⟩
  · rw [realizes.kind?_of_station assembly.mainController_station] at found
    cases found
    exact Or.inl ⟨rfl, List.mem_singleton.mp predicateMember⟩
  · rw [realizes.kind?_of_station (assembly.bank_station index inBank)] at found
    cases found
    rw [bank_eq, Option.map_eq_some_iff] at inBank
    rcases inBank with ⟨share, foundShare, rfl⟩
    exact Or.inr ⟨index, share, foundShare, rfl, List.mem_singleton.mp predicateMember⟩

theorem Planned.channels_distinct (planned : assembly.Planned owner) {first second : Nat}
    (different : first ≠ second) {share other : ChannelAssignment}
    (found : assembly.plan.channels[first]? = some share)
    (foundOther : assembly.plan.channels[second]? = some other) :
    ¬ share.predicate.Repeats other.predicate := by
  have distinct := List.pairwise_iff_getElem.mp planned.partition.distinct
  rcases List.getElem?_eq_some_iff.mp found with ⟨firstInside, rfl⟩
  rcases List.getElem?_eq_some_iff.mp foundOther with ⟨secondInside, rfl⟩
  rcases Nat.lt_or_gt_of_ne different with before | after
  · exact distinct first second firstInside secondInside before
  · exact fun repeats => distinct second first secondInside firstInside after repeats.symm

theorem Planned.distinct_systemBus (planned : assembly.Planned owner)
    (realizes : graph.Realizes assembly.netlist) : Check.Distinct graph ⟨0⟩ := by
  intro first firstBelow second secondBelow different predicate other filters otherFilters
  rw [realizes.downstream_of_station assembly.systemBus_station] at firstBelow secondBelow
  rcases filters_of_mem_controllerIds realizes firstBelow filters with
    ⟨_, rfl⟩ | ⟨index, share, found, rfl, rfl⟩
  · exact AddressPredicate.whole_not_repeats _ _
  · rcases filters_of_mem_controllerIds realizes secondBelow otherFilters with
      ⟨_, rfl⟩ | ⟨second, otherShare, foundOther, rfl, rfl⟩
    · exact fun repeats => AddressPredicate.whole_not_repeats _ _ repeats.symm
    · exact planned.channels_distinct (fun same => different (by rw [same])) found foundOther

theorem distinct_splitter (realizes : graph.Realizes assembly.netlist)
    {assignment : CoreAssignment} {start : Nat} (core : assembly.CoreAt assignment start) :
    Check.Distinct graph ⟨start + 3⟩ := by
  intro first firstBelow second _ _ predicate other filters _
  have whole : ∃ range, predicate = .whole range := by
    rcases filters with ⟨predicates, found, member⟩
    rw [downstream_splitter realizes core, List.mem_cons, List.mem_singleton] at firstBelow
    rcases firstBelow with rfl | rfl
    · rw [realizes.kind?_of_station (core.base 4 rfl rfl)] at found
      cases found
      exact ⟨_, List.mem_singleton.mp member⟩
    · rw [realizes.kind?_of_station (core.base 5 rfl rfl)] at found
      cases found
      exact ⟨_, List.mem_singleton.mp member⟩
  rcases whole with ⟨range, rfl⟩
  exact AddressPredicate.whole_not_repeats _ _

theorem Planned.distinct (planned : assembly.Planned owner)
    (realizes : graph.Realizes assembly.netlist) {node : NodeId}
    (inside : node.index < assembly.netlist.size) : Check.Distinct graph node := by
  rcases downstream_cases realizes inside with rfl | ⟨assignment, start, core, rfl⟩ | few
  · exact planned.distinct_systemBus realizes
  · exact distinct_splitter realizes core
  · intro first firstBelow second secondBelow different
    rcases List.getElem_of_mem firstBelow with ⟨index, indexInside, rfl⟩
    rcases List.getElem_of_mem secondBelow with ⟨other, otherInside, rfl⟩
    have same : index = other := by omega
    subst same
    exact absurd rfl different

theorem Planned.covered (planned : assembly.Planned owner)
    (realizes : graph.Realizes assembly.netlist) {address : UInt64}
    (mapped : assembly.Mapped address) :
    ∃ predicate ∈ Check.servedBelow graph ⟨0⟩, predicate.accepts address = true := by
  have member := planned.home_mem mapped
  have accepted := (planned.accepts_controllerIds_iff realizes member address).mpr ⟨mapped, rfl⟩
  rcases exists_controller_of_mem realizes member with ⟨controller, kind⟩
  rw [Graph.accepts_of_kind kind] at accepted
  refine ⟨controller.predicate, (Check.mem_servedBelow_iff _).mpr
    ⟨_, ?_, controller, kind, rfl⟩, accepted⟩
  rw [realizes.downstream_of_station assembly.systemBus_station]
  exact member

theorem Planned.narrow (planned : assembly.Planned owner)
    (realizes : graph.Realizes assembly.netlist) :
    Check.Narrow (Check.servedBelow graph ⟨0⟩) := by
  rcases planned.partition.narrow with ⟨mask, few, masks⟩
  refine ⟨mask, Nat.le_trans few (by decide), ?_⟩
  intro predicate served
  rcases (Check.mem_servedBelow_iff predicate).mp served with
    ⟨node, below, controller, kind, rfl⟩
  rw [realizes.downstream_of_station assembly.systemBus_station] at below
  have filters : graph.Filters node controller.predicate :=
    ⟨[controller.predicate], by rw [kind]; rfl, List.mem_singleton_self _⟩
  rcases filters_of_mem_controllerIds realizes below filters with
    ⟨_, whole⟩ | ⟨index, share, found, _, same⟩
  · rw [whole]
    exact Or.inl rfl
  · rw [same]
    exact Or.inr (masks share (List.mem_of_getElem? found))

/-- No check finds a fault in a machine that was wired. -/
theorem Planned.all_eq_ok (planned : assembly.Planned owner)
    (realizes : graph.Realizes assembly.netlist) :
    Check.all graph ⟨0⟩ [assembly.main, assembly.mmio] = .ok () := by
  have inside : ∀ {node : NodeId} {found : Node}, graph.node? node = some found →
      node.index < assembly.netlist.size := by
    intro node found foundNode
    rw [← realizes.size]
    exact Graph.index_lt_size_of_node? foundNode
  have disjoint : Check.disjointness graph = .ok () :=
    Check.disjointness_eq_ok (fun _ _ found => planned.exclusive realizes (inside found))
      fun _ _ found => planned.distinct realizes (inside found)
  have covered : Check.coverage graph ⟨0⟩ [assembly.main, assembly.mmio] = .ok () := by
    refine Check.coverage_eq_ok (planned.narrow realizes) fun range member address inRange => ?_
    simp only [List.mem_cons, List.not_mem_nil, or_false] at member
    rcases member with rfl | rfl
    · exact planned.covered realizes (Or.inl inRange)
    · exact planned.covered realizes (Or.inr inRange)
  have reached : Check.reachability graph = .ok () := by
    refine Check.reachability_eq_ok fun origin node found range member address inRange => ?_
    have kind : graph.kind? origin = some node.kind := by
      rw [Graph.kind?, found, Option.map_some]
    rcases (planned.answered realizes kind range member address inRange).2 origin with
      ⟨hops, latency, follows, _⟩
    exact ⟨_, follows.route_eq realizes.sound (Graph.index_lt_size_of_node? found)⟩
  rw [Check.all, Check.singlePeer_of_sound realizes.sound, ok_bind, disjoint, ok_bind, covered,
    ok_bind, reached]

end MemoryFabric.Assembly
