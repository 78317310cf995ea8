import MemoryFabric.Proofs.Check.Coverage
import MemoryFabric.Proofs.Check.Disjointness
import MemoryFabric.Proofs.Graph.Adjacency

/-! Where the checks and the routes meet. Below a crossbar all of whose neighbours filter
addresses, disjointness leaves at most one neighbour for an address and coverage at least
one, which is then where the route of the address ends. -/

namespace MemoryFabric

def NodeKind.isBusOrCache : NodeKind → Bool
  | .bus _ | .cache _ => true
  | .requestor _ | .bridge _ | .controller _ => false

namespace Check

variable {graph : Graph} {place : NodeId} {address : UInt64}

def OnlyFiltersBelow (graph : Graph) (place : NodeId) : Prop :=
  ∀ next ∈ graph.downstream place, (graph.kind? next).any NodeKind.isBusOrCache = false

theorem OnlyFiltersBelow.admits (filters : OnlyFiltersBelow graph place) {next : NodeId}
    (below : next ∈ graph.downstream place) (accepted : graph.accepts next address = true) :
    graph.Admits next address := by
  have filtering := filters next below
  cases kind : graph.kind? next with
  | none =>
      rw [Graph.accepts, kind] at accepted
      cases accepted
  | some found =>
      rw [Graph.accepts_of_kind kind] at accepted
      rw [kind] at filtering
      cases found with
      | requestor => cases accepted
      | bus => cases filtering
      | cache => cases filtering
      | bridge bridge =>
          rcases List.any_eq_true.mp accepted with ⟨predicate, member, accepts⟩
          exact ⟨predicate, ⟨bridge.allowed, by rw [kind]; rfl, member⟩, accepts⟩
      | controller controller =>
          exact ⟨controller.predicate, ⟨_, by rw [kind]; rfl, List.mem_singleton_self _⟩, accepted⟩

theorem OnlyFiltersBelow.exclusive (filters : OnlyFiltersBelow graph place) (sound : graph.Sound)
    (separate : ∀ first ∈ graph.downstream place, ∀ second ∈ graph.downstream place,
      first ≠ second → Separate graph first second) : graph.Exclusive place := by
  have scalar : ∀ next ∈ graph.downstream place, ∀ kind, graph.kind? next = some kind →
      kind.isBus = false := by
    intro next below kind found
    have filtering := filters next below
    rw [found] at filtering
    cases kind with
    | bus => cases filtering
    | requestor | bridge | cache | controller => rfl
  intro address
  apply (sound.nodup_downstream scalar).pairwise_of_forall_ne
  rintro first firstBelow second secondBelow different ⟨acceptsFirst, acceptsSecond⟩
  exact (separate first firstBelow second secondBelow different).apart address
    ⟨filters.admits firstBelow acceptsFirst, filters.admits secondBelow acceptsSecond⟩

theorem route_of_exclusive (sound : graph.Sound) {bus : Bus} {server : NodeId}
    {controller : MemoryController} (kind : graph.kind? place = some (.bus bus))
    (exclusive : graph.Exclusive place) (below : server ∈ graph.downstream place)
    (serves : graph.kind? server = some (.controller controller))
    (accepted : graph.accepts server address = true) :
    graph.route place address = .ok ⟨[place, server], 0⟩ := by
  have served : graph.Follows place address server [server] (.ok 0) :=
    .served (Graph.hop_controller_of_accepts serves accepted)
  have follows : graph.Follows place address place [place, server] (.ok 0) :=
    .behind (Graph.hop_bus_of_accepts kind exclusive below accepted) served
  exact follows.route_eq sound (Graph.index_lt_size_of_kind? kind)

/-- Where the checks of disjointness and of coverage pass, a crossbar with only filters
below it sends each advertised address straight to a controller, the only one of its
neighbours that accepts the address. -/
theorem crossbar_serves_advertised (wired : graph.Wired)
    (checked : ∀ node predicate, graph.Filters node predicate → predicate.Checked)
    {bus : Bus} (kind : graph.kind? place = some (.bus bus))
    (filters : OnlyFiltersBelow graph place) {advertised : List AddressRange}
    (disjoint : disjointness graph = .ok ())
    (covered : coverage graph place advertised = .ok ()) :
    ∀ range ∈ advertised, ∀ address, range.contains address = true →
      ∃ server controller, graph.kind? server = some (.controller controller) ∧
        graph.route place address = .ok ⟨[place, server], 0⟩ ∧
          ∀ next, next ∈ graph.downstream place ∧ graph.accepts next address = true ↔
            next = server := by
  intro range rangeMember address inside
  rcases Option.map_eq_some_iff.mp kind with ⟨node, found, -⟩
  have passed := forM_eq_ok_iff.mp disjoint (place, node) ((graph.mem_nodes_iff _ _).mpr found)
  have exclusive := filters.exclusive wired.sound ((disjointBelow_eq_ok_iff checked).mp passed)
  rw [coverage] at covered
  rcases covers_of_coveredSegments (forM_eq_ok_iff.mp covered range rangeMember) inside with
    ⟨server, below, controller, serves, accepted⟩
  have accepts : graph.accepts server address = true := by
    rw [Graph.accepts_of_kind serves]
    exact accepted
  refine ⟨server, controller, serves,
    route_of_exclusive wired.sound kind exclusive below serves accepts, ?_⟩
  intro next
  constructor
  · rintro ⟨nextBelow, nextAccepts⟩
    by_contra different
    exact exclusive.not_both nextBelow below different ⟨nextAccepts, accepts⟩
  · rintro rfl
    exact ⟨below, accepts⟩

/-- A crossbar above controllers for the two halves of a page, one of which they share line
by line, and above a bridge that lets two pieces of what follows pass. -/
def shared : Graph :=
  [.addNode "bus" (.bus ⟨64⟩),
    .addNode "even" (.controller {
      predicate := .interleaved firstPage 1 6 0, outputDirectory := "out" }),
    .addNode "odd" (.controller {
      predicate := .interleaved firstPage 1 6 1, outputDirectory := "out" }),
    .addNode "upper" (.controller {
      predicate := .whole ⟨0x100, 0x180, by decide, by decide⟩, outputDirectory := "out" }),
    .addNode "exit" (.bridge ⟨[.interleaved ⟨0x280, 0x180, by decide, by decide⟩ 2 7 1,
      .whole ⟨0x480, 0x40, by decide, by decide⟩], .ofNanoseconds 1⟩),
    .link ⟨0⟩ ⟨4⟩, .link ⟨0⟩ ⟨2⟩, .link ⟨0⟩ ⟨1⟩, .link ⟨0⟩ ⟨3⟩].foldl Graph.advance .empty

theorem crossbar_serves_advertised_shared :
    let upper : AddressRange := ⟨0xC0, 0x1A0, by decide, by decide⟩
    shared.Wired ∧ OnlyFiltersBelow shared ⟨0⟩ ∧ disjointness shared = .ok () ∧
      coverage shared ⟨0⟩ [firstPage, upper] = .ok () ∧
        ∃ server controller, shared.kind? server = some (.controller controller) ∧
          shared.route ⟨0⟩ 0xC1 = .ok ⟨[⟨0⟩, server], 0⟩ ∧
            ∀ next, next ∈ shared.downstream ⟨0⟩ ∧ shared.accepts next 0xC1 = true ↔
              next = server := by
  intro upper
  have wired : shared.Wired := ⟨_, rfl⟩
  have checked : ∀ predicate ∈ allPredicates shared, predicate.Checked := by decide +kernel
  have filters : OnlyFiltersBelow shared ⟨0⟩ := by
    rw [OnlyFiltersBelow]
    decide +kernel
  have disjoint : disjointness shared = .ok () := by decide +kernel
  have covered : coverage shared ⟨0⟩ [firstPage, upper] = .ok () := by decide +kernel
  refine ⟨wired, filters, disjoint, covered, ?_⟩
  have filtered : ∀ node predicate, shared.Filters node predicate → predicate.Checked :=
    fun node predicate here => checked _ ((mem_allPredicates_iff predicate).mpr ⟨node, here⟩)
  exact crossbar_serves_advertised wired filtered rfl filters disjoint covered upper (by simp)
    0xC1 (by decide)

end Check

end MemoryFabric
