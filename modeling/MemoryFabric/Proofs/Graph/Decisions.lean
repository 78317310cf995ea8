import MemoryFabric.Proofs.Graph.Routing

/-! What decides a route: which nodes accept the address. A crossbar whose
neighbours exclude each other is never in doubt, and addresses that every node
treats alike take the same way. -/

namespace MemoryFabric.Graph

variable {graph : Graph} {origin place next : NodeId} {address : UInt64}

theorem accepts_of_kind {kind : NodeKind} (found : graph.kind? place = some kind) :
    graph.accepts place address = kind.accepts address := by
  rw [accepts, found]

def Filters (graph : Graph) (node : NodeId) (predicate : AddressPredicate) : Prop :=
  ∃ predicates, (graph.kind? node).bind NodeKind.predicates? = some predicates ∧
    predicate ∈ predicates

theorem Filters.accepts {node : NodeId} {predicate : AddressPredicate}
    (filters : graph.Filters node predicate) (accepted : predicate.accepts address = true) :
    graph.accepts node address = true := by
  rcases filters with ⟨predicates, found, member⟩
  rcases Option.bind_eq_some_iff.mp found with ⟨kind, foundKind, found⟩
  rw [accepts_of_kind foundKind]
  cases kind with
  | bridge bridge =>
      cases found
      exact List.any_eq_true.mpr ⟨predicate, member, accepted⟩
  | controller controller =>
      cases found
      rw [List.mem_singleton] at member
      subst member
      exact accepted
  | requestor => cases found
  | bus => cases found
  | cache => cases found

def Admits (graph : Graph) (node : NodeId) (address : UInt64) : Prop :=
  ∃ predicate, graph.Filters node predicate ∧ predicate.accepts address = true

theorem Admits.accepts {node : NodeId} (admits : graph.Admits node address) :
    graph.accepts node address = true := by
  rcases admits with ⟨predicate, filters, accepted⟩
  exact filters.accepts accepted

/-! ## Hops from nodes of each kind -/

theorem hop_controller {controller : MemoryController}
    (kind : graph.kind? place = some (.controller controller)) :
    graph.hop origin place address =
      if controller.accepts address then .ok .served
      else .error (graph.unroutable origin place address) := by
  rw [hop, kind]

theorem hop_controller_of_accepts {controller : MemoryController}
    (kind : graph.kind? place = some (.controller controller))
    (accepted : graph.accepts place address = true) :
    graph.hop origin place address = .ok .served := by
  rw [accepts_of_kind kind] at accepted
  exact hop_eq_ok_iff.mpr (.served kind accepted)

theorem hop_bus {bus : Bus} (kind : graph.kind? place = some (.bus bus)) :
    graph.hop origin place address =
      (graph.select origin place address).map fun next => .forwarded next 0 := by
  rw [hop, kind]
  cases graph.select origin place address <;> rfl

theorem hop_bridge (sound : graph.Sound) {bridge : Bridge} {rest : List NodeId}
    (kind : graph.kind? place = some (.bridge bridge))
    (below : graph.downstream place = next :: rest) :
    graph.hop origin place address =
      if bridge.accepts address then .ok (.forwarded next bridge.latency)
      else .error (graph.unroutable origin place address) := by
  rw [hop, kind]
  dsimp only
  rw [soleDownstream_of_downstream sound ⟨_, kind, rfl, rfl⟩ below]
  rfl

theorem hop_cache (sound : graph.Sound) {cache : Cache} {rest : List NodeId}
    (kind : graph.kind? place = some (.cache cache))
    (below : graph.downstream place = next :: rest) :
    graph.hop origin place address = .ok (.forwarded next 0) :=
  hop_eq_ok_iff.mpr
    (.cached kind (soleDownstream_of_downstream sound ⟨_, kind, rfl, rfl⟩ below))

theorem hop_requestor (sound : graph.Sound) {requestor : Requestor} {rest : List NodeId}
    (kind : graph.kind? place = some (.requestor requestor))
    (below : graph.downstream place = next :: rest) :
    graph.hop origin place address = .ok (.forwarded next 0) :=
  hop_eq_ok_iff.mpr
    (.requested kind (soleDownstream_of_downstream sound ⟨_, kind, rfl, rfl⟩ below))

/-- What a node does with a request depends on its kind, on what is below it, and on the
names that a refusal tells. -/
theorem hop_congr {other : Graph} (kind : other.kind? place = graph.kind? place)
    (refused : other.unroutable origin place address = graph.unroutable origin place address)
    (selected : ∀ bus, graph.kind? place = some (.bus bus) →
      other.select origin place address = graph.select origin place address)
    (sole : graph.Forwards place →
      other.soleDownstream origin place address = graph.soleDownstream origin place address) :
    other.hop origin place address = graph.hop origin place address := by
  rw [hop, hop, kind, refused]
  cases found : graph.kind? place with
  | none => rfl
  | some what =>
      cases what with
      | controller => rfl
      | bus bus => simp only [selected bus found]
      | bridge => simp only [sole ⟨_, found, rfl, rfl⟩]
      | requestor => simp only [sole ⟨_, found, rfl, rfl⟩]
      | cache => simp only [sole ⟨_, found, rfl, rfl⟩]

/-! ## Crossbars without doubt -/

def Exclusive (graph : Graph) (parent : NodeId) : Prop :=
  ∀ address, (graph.downstream parent).Pairwise fun first second =>
    ¬ (graph.accepts first address = true ∧ graph.accepts second address = true)

theorem filter_eq_singleton {α : Type} {accepted : α → Bool} : ∀ {items : List α} {item : α},
    items.Pairwise (fun first second => ¬ (accepted first = true ∧ accepted second = true)) →
      item ∈ items → accepted item = true → items.filter accepted = [item]
  | head :: rest, item, exclusive, member, acceptedItem => by
      rw [List.pairwise_cons] at exclusive
      rcases List.mem_cons.mp member with rfl | later
      · rw [List.filter_cons_of_pos acceptedItem, List.filter_eq_nil_iff.mpr]
        intro other otherMember acceptedOther
        exact exclusive.1 other otherMember ⟨acceptedItem, acceptedOther⟩
      · have refused : ¬ accepted head = true := fun acceptedHead =>
          exclusive.1 item later ⟨acceptedHead, acceptedItem⟩
        rw [List.filter_cons_of_neg refused]
        exact filter_eq_singleton exclusive.2 later acceptedItem

theorem Exclusive.not_both {parent : NodeId} (exclusive : graph.Exclusive parent)
    {first second : NodeId} (firstMember : first ∈ graph.downstream parent)
    (secondMember : second ∈ graph.downstream parent) (different : first ≠ second) :
    ¬ (graph.accepts first address = true ∧ graph.accepts second address = true) := by
  rintro ⟨acceptsFirst, acceptsSecond⟩
  have onlyFirst := filter_eq_singleton (exclusive address) firstMember acceptsFirst
  rw [filter_eq_singleton (exclusive address) secondMember acceptsSecond] at onlyFirst
  cases onlyFirst
  exact different rfl

theorem select_of_accepts {bus : NodeId} (exclusive : graph.Exclusive bus)
    (member : next ∈ graph.downstream bus) (accepted : graph.accepts next address = true) :
    graph.select origin bus address = .ok next := by
  rw [select, filter_eq_singleton (exclusive address) member accepted]

theorem select_of_refused {bus : NodeId}
    (refused : ∀ other ∈ graph.downstream bus, ¬ graph.accepts other address = true) :
    graph.select origin bus address = .error (graph.unroutable origin bus address) := by
  rw [select, List.filter_eq_nil_iff.mpr refused]

theorem hop_bus_of_accepts {bus : Bus} (kind : graph.kind? place = some (.bus bus))
    (exclusive : graph.Exclusive place) (member : next ∈ graph.downstream place)
    (accepted : graph.accepts next address = true) :
    graph.hop origin place address = .ok (.forwarded next 0) :=
  hop_eq_ok_iff.mpr (.selected kind (select_of_accepts exclusive member accepted))

theorem hop_bus_of_refused {bus : Bus} (kind : graph.kind? place = some (.bus bus))
    (refused : ∀ other ∈ graph.downstream place, ¬ graph.accepts other address = true) :
    graph.hop origin place address = .error (graph.unroutable origin place address) := by
  rw [hop_bus kind, select_of_refused refused]
  rfl

theorem exclusive_of_length_le_one (few : (graph.downstream place).length ≤ 1) :
    graph.Exclusive place := by
  intro address
  rw [List.pairwise_iff_getElem]
  intro first second _ secondInside ordered
  omega

/-! ## Nodes from which every request ends -/

/-- Every request that comes to the node ends, at a controller or for want of a
way on. -/
def Settles (graph : Graph) (place : NodeId) : Prop :=
  ∀ origin address, ∃ hops outcome, graph.Follows origin address place hops outcome ∧
    ∀ fault, outcome = .error fault → ∃ last, fault = graph.unroutable origin last address

def Settling (graph : Graph) (origin : NodeId) (address : UInt64) (hop : Except Fault Hop) :
    Prop :=
  match hop with
  | .ok .served => True
  | .ok (.forwarded next _) => graph.Settles next
  | .error fault => ∃ last, fault = graph.unroutable origin last address

theorem Settles.of_hop
    (settling : ∀ origin address, graph.Settling origin address (graph.hop origin place address)) :
    graph.Settles place := by
  intro origin address
  have here := settling origin address
  cases what : graph.hop origin place address with
  | error fault =>
      rw [what] at here
      refine ⟨_, _, .refused what, ?_⟩
      intro other same
      cases same
      exact here
  | ok hop =>
      rw [what] at here
      cases hop with
      | served => exact ⟨_, _, .served what, fun _ same => by cases same⟩
      | forwarded next delay =>
          rcases here origin address with ⟨hops, outcome, follows, ends⟩
          refine ⟨_, _, .forwarded what follows, ?_⟩
          intro fault same
          cases outcome with
          | error other =>
              cases same
              exact ends fault rfl
          | ok => cases same

theorem settles_controller {controller : MemoryController}
    (kind : graph.kind? place = some (.controller controller)) : graph.Settles place := by
  apply Settles.of_hop
  intro origin address
  rw [hop_controller kind]
  split
  · trivial
  · exact ⟨_, rfl⟩

theorem settles_bus {bus : Bus} (kind : graph.kind? place = some (.bus bus))
    (exclusive : graph.Exclusive place)
    (below : ∀ next ∈ graph.downstream place, graph.Settles next) : graph.Settles place := by
  apply Settles.of_hop
  intro origin address
  by_cases accepted :
      ∃ next ∈ graph.downstream place, graph.accepts next address = true
  · rcases accepted with ⟨next, member, accepted⟩
    rw [hop_bus_of_accepts kind exclusive member accepted]
    exact below next member
  · rw [hop_bus_of_refused kind fun other member accept => accepted ⟨other, member, accept⟩]
    exact ⟨_, rfl⟩

theorem settles_bridge (sound : graph.Sound) {bridge : Bridge} {rest : List NodeId}
    (kind : graph.kind? place = some (.bridge bridge))
    (below : graph.downstream place = next :: rest) (settles : graph.Settles next) :
    graph.Settles place := by
  apply Settles.of_hop
  intro origin address
  rw [hop_bridge sound kind below]
  split
  · exact settles
  · exact ⟨_, rfl⟩

theorem settles_cache (sound : graph.Sound) {cache : Cache} {rest : List NodeId}
    (kind : graph.kind? place = some (.cache cache))
    (below : graph.downstream place = next :: rest) (settles : graph.Settles next) :
    graph.Settles place := by
  apply Settles.of_hop
  intro origin address
  rw [hop_cache sound kind below]
  exact settles

theorem settles_requestor (sound : graph.Sound) {requestor : Requestor} {rest : List NodeId}
    (kind : graph.kind? place = some (.requestor requestor))
    (below : graph.downstream place = next :: rest) (settles : graph.Settles next) :
    graph.Settles place := by
  apply Settles.of_hop
  intro origin address
  rw [hop_requestor sound kind below]
  exact settles

theorem Settles.unroutable_of_route (sound : graph.Sound) (settles : graph.Settles origin)
    (exists_origin : origin.index < graph.size) {fault : Fault}
    (failed : graph.route origin address = .error fault) :
    ∃ last, fault = graph.unroutable origin last address := by
  rcases settles origin address with ⟨hops, outcome, follows, ends⟩
  rw [follows.route_eq sound exists_origin] at failed
  cases outcome with
  | error other =>
      cases failed
      exact ends _ rfl
  | ok => cases failed

/-! ## Addresses that are treated alike -/

def Alike (graph : Graph) (first second : UInt64) : Prop :=
  ∀ node, graph.accepts node first = graph.accepts node second

theorem alike_of_filters {first second : UInt64}
    (same : ∀ node predicate, graph.Filters node predicate →
      predicate.accepts first = predicate.accepts second) : graph.Alike first second := by
  intro node
  cases found : graph.kind? node with
  | none => rw [accepts, accepts, found]
  | some kind =>
      have sameHere : ∀ predicates, kind.predicates? = some predicates →
          ∀ predicate ∈ predicates, predicate.accepts first = predicate.accepts second := by
        intro predicates filter predicate member
        refine same node predicate ⟨predicates, ?_, member⟩
        rw [found, Option.bind_some, filter]
      rw [accepts_of_kind found, accepts_of_kind found]
      cases kind with
      | bridge bridge =>
          rw [Bool.eq_iff_iff]
          change bridge.allowed.any _ = true ↔ bridge.allowed.any _ = true
          rw [List.any_eq_true, List.any_eq_true]
          refine exists_congr fun predicate => and_congr_right fun member => ?_
          rw [sameHere _ rfl predicate member]
      | controller controller => exact sameHere _ rfl _ (List.mem_singleton_self _)
      | requestor => rfl
      | bus => rfl
      | cache => rfl

end MemoryFabric.Graph
