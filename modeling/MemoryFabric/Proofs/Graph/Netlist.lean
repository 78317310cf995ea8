import MemoryFabric.Proofs.Graph.Linking

/-! Netlists: the nodes of a fabric in order, and which node was linked above
which. A fabric realizes a netlist if it has these nodes and if the neighbours of
every node are those that the links give it, in the order of the links. A wiring
action makes one netlist out of another if it succeeds on every fabric that
realizes the first and leaves one that realizes the second. -/

namespace MemoryFabric

structure Link where
  upper : NodeId
  lower : NodeId
deriving DecidableEq, Repr

structure Netlist where
  nodes : List Node
  links : List Link
deriving DecidableEq

namespace Netlist

def empty : Netlist := ⟨[], []⟩

def size (netlist : Netlist) : Nat :=
  netlist.nodes.length

def node? (netlist : Netlist) (node : NodeId) : Option Node :=
  netlist.nodes[node.index]?

def share (node : NodeId) : Side → Link → Option NodeId
  | .mem, link => if link.upper = node then some link.lower else none
  | .cpu, link => if link.lower = node then some link.upper else none

def neighbours (netlist : Netlist) (node : NodeId) (side : Side) : List NodeId :=
  netlist.links.filterMap (share node side)

def below (netlist : Netlist) (node : NodeId) : List NodeId :=
  netlist.neighbours node .mem

def addNode (netlist : Netlist) (node : Node) : Netlist :=
  { netlist with nodes := netlist.nodes ++ [node] }

def addLink (netlist : Netlist) (upper lower : NodeId) : Netlist :=
  { netlist with links := netlist.links ++ [⟨upper, lower⟩] }

def append (first second : Netlist) : Netlist :=
  ⟨first.nodes ++ second.nodes, first.links ++ second.links⟩

instance : Append Netlist := ⟨append⟩

def Offers (netlist : Netlist) (node : NodeId) (side : Side) : Prop :=
  ∃ found, netlist.node? node = some found ∧ found.kind.hasSide side = true ∧
    (found.kind.isVector side = true ∨ netlist.neighbours node side = [])

def Closed (netlist : Netlist) : Prop :=
  ∀ link ∈ netlist.links, link.upper.index < netlist.size ∧ link.lower.index < netlist.size

/-! ## Views of extended netlists -/

@[simp] theorem links_append (first second : Netlist) :
    (first ++ second).links = first.links ++ second.links := rfl

@[ext] theorem ext {first second : Netlist} (nodes : first.nodes = second.nodes)
    (links : first.links = second.links) : first = second := by
  cases first
  cases second
  simp_all

theorem append_assoc (first second third : Netlist) :
    first ++ second ++ third = first ++ (second ++ third) := by
  apply ext
  · exact List.append_assoc _ _ _
  · exact List.append_assoc _ _ _

@[simp] theorem size_empty : empty.size = 0 := rfl

@[simp] theorem size_append (first second : Netlist) :
    (first ++ second).size = first.size + second.size :=
  List.length_append

@[simp] theorem size_addNode (netlist : Netlist) (node : Node) :
    (netlist.addNode node).size = netlist.size + 1 := by
  simp [size, addNode]

theorem node?_addNode (netlist : Netlist) (added : Node) (node : NodeId) :
    (netlist.addNode added).node? node =
      if node.index = netlist.size then some added else netlist.node? node := by
  rw [node?, node?, addNode, size]
  by_cases last : node.index = netlist.nodes.length
  · simp [last]
  · rw [if_neg last]
    rcases Nat.lt_or_gt_of_ne last with inside | outside
    · exact List.getElem?_append_left inside
    · rw [List.getElem?_eq_none (by simp; omega), List.getElem?_eq_none (by omega)]

@[simp] theorem neighbours_addNode (netlist : Netlist) (added : Node) (node : NodeId)
    (side : Side) : (netlist.addNode added).neighbours node side = netlist.neighbours node side :=
  rfl

theorem neighbours_append (first second : Netlist) (node : NodeId) (side : Side) :
    (first ++ second).neighbours node side =
      first.neighbours node side ++ second.neighbours node side :=
  List.filterMap_append

theorem neighbours_addLink (netlist : Netlist) (upper lower node : NodeId) (side : Side) :
    (netlist.addLink upper lower).neighbours node side =
      netlist.neighbours node side ++ (share node side ⟨upper, lower⟩).toList := by
  rw [neighbours, neighbours, addLink, List.filterMap_append]
  cases shared : share node side ⟨upper, lower⟩ with
  | none => simp [shared]
  | some other => simp [shared]

theorem Closed.neighbours_of_size_le {netlist : Netlist} (closed : netlist.Closed) {node : NodeId}
    (outside : netlist.size ≤ node.index) (side : Side) : netlist.neighbours node side = [] := by
  rw [neighbours, List.filterMap_eq_nil_iff]
  intro link member
  have inside := closed link member
  cases side with
  | mem => exact if_neg fun equal => by rw [equal] at inside; omega
  | cpu => exact if_neg fun equal => by rw [equal] at inside; omega

def IsBus (netlist : Netlist) (node : NodeId) : Prop :=
  ∃ name bus, netlist.node? node = some ⟨name, .bus bus⟩

theorem IsBus.offers {netlist : Netlist} {node : NodeId} (isBus : netlist.IsBus node)
    (side : Side) : netlist.Offers node side := by
  rcases isBus with ⟨name, bus, found⟩
  exact ⟨_, found, by cases side <;> rfl, Or.inl (by cases side <;> rfl)⟩

theorem offers_of_unlinked {netlist : Netlist} {node : NodeId} {side : Side} {found : Node}
    (foundNode : netlist.node? node = some found) (hasSide : found.kind.hasSide side = true)
    (unlinked : netlist.neighbours node side = []) : netlist.Offers node side :=
  ⟨found, foundNode, hasSide, Or.inr unlinked⟩

theorem index_lt_size_of_node? {netlist : Netlist} {node : NodeId} {found : Node}
    (foundNode : netlist.node? node = some found) : node.index < netlist.size :=
  (List.getElem?_eq_some_iff.mp foundNode).1

theorem node?_append_left {first second : Netlist} {node : NodeId}
    (inside : node.index < first.size) : (first ++ second).node? node = first.node? node :=
  List.getElem?_append_left inside

theorem node?_append_right {first second : Netlist} {node : NodeId}
    (outside : first.size ≤ node.index) :
    (first ++ second).node? node = second.node? ⟨node.index - first.size⟩ :=
  List.getElem?_append_right outside

theorem node?_append_own (first second : Netlist) (offset : Nat) :
    (first ++ second).node? ⟨first.size + offset⟩ = second.nodes[offset]? := by
  rw [node?_append_right (Nat.le_add_right _ _), node?, Nat.add_sub_cancel_left]

theorem IsBus.index_lt_size {netlist : Netlist} {node : NodeId} (isBus : netlist.IsBus node) :
    node.index < netlist.size := by
  rcases isBus with ⟨name, bus, found⟩
  exact index_lt_size_of_node? found

theorem IsBus.addNode {netlist : Netlist} {node : NodeId} (isBus : netlist.IsBus node)
    (added : Node) : (netlist.addNode added).IsBus node := by
  rcases isBus with ⟨name, bus, found⟩
  refine ⟨name, bus, ?_⟩
  have inside := index_lt_size_of_node? found
  rw [node?_addNode, if_neg (by omega), found]

theorem IsBus.append {netlist : Netlist} {node : NodeId} (isBus : netlist.IsBus node)
    (part : Netlist) : (netlist ++ part).IsBus node := by
  rcases isBus with ⟨name, bus, found⟩
  exact ⟨name, bus, (node?_append_left (index_lt_size_of_node? found)).trans found⟩

theorem offers_own {netlist : Netlist} (closed : netlist.Closed) {nodes : List Node}
    {links : List Link} {offset : Nat} {side : Side} {found : Node}
    (foundNode : nodes[offset]? = some found) (hasSide : found.kind.hasSide side = true)
    (available : found.kind.isVector side = true ∨
      links.filterMap (share ⟨netlist.size + offset⟩ side) = []) :
    (netlist ++ ⟨nodes, links⟩).Offers ⟨netlist.size + offset⟩ side := by
  refine ⟨found, ?_, hasSide, available.imp_right fun unlinked => ?_⟩
  · rw [node?_append_own, foundNode]
  · rw [neighbours_append, closed.neighbours_of_size_le (Nat.le_add_right _ _), List.nil_append]
    exact unlinked

/-! ## Parts -/

/-- A part of a netlist, given the number of nodes that stand before it. -/
abbrev Part := Nat → Netlist

def place (netlist : Netlist) (part : Part) : Netlist :=
  netlist ++ part netlist.size

theorem size_place (netlist : Netlist) (part : Part) :
    (netlist.place part).size = netlist.size + (part netlist.size).size :=
  size_append _ _

theorem length_links_place (netlist : Netlist) (part : Part) :
    (netlist.place part).links.length =
      netlist.links.length + (part netlist.size).links.length :=
  List.length_append

namespace Part

def followedBy (first second : Part) : Part := fun start =>
  first start ++ second (start + (first start).size)

def sequence : List Part → Part
  | [] => fun _ => .empty
  | part :: rest => part.followedBy (sequence rest)

/-- Behind `ground` nodes or more, the links of the part lead from its own nodes
to nodes of the part or before it. -/
def LeadsDown (part : Part) (ground : Nat) : Prop :=
  ∀ start, ground ≤ start → ∀ link ∈ (part start).links,
    start ≤ link.upper.index ∧ link.upper.index < start + (part start).size ∧
      link.lower.index < start + (part start).size

theorem LeadsDown.followedBy {first second : Part} {ground : Nat}
    (firstLeads : first.LeadsDown ground) (secondLeads : second.LeadsDown ground) :
    (first.followedBy second).LeadsDown ground := by
  intro start above link member
  rw [Part.followedBy, links_append, List.mem_append] at member
  rw [Part.followedBy, size_append]
  rcases member with inFirst | inSecond
  · have bounds := firstLeads start above link inFirst
    omega
  · have bounds := secondLeads _ (Nat.le_trans above (Nat.le_add_right _ _)) link inSecond
    omega

theorem LeadsDown.sequence {ground : Nat} : ∀ {parts : List Part},
    (∀ part ∈ parts, part.LeadsDown ground) → (sequence parts).LeadsDown ground
  | [], _ => fun _ _ link member => by cases member
  | part :: rest, leads =>
      (leads part (List.mem_cons_self)).followedBy
        (LeadsDown.sequence fun other member => leads other (List.mem_cons_of_mem part member))

end Part

theorem place_followedBy (netlist : Netlist) (first second : Part) :
    netlist.place (first.followedBy second) = (netlist.place first).place second := by
  rw [place, place, place, Part.followedBy, size_append, append_assoc]

@[simp] theorem place_empty (netlist : Netlist) : netlist.place (fun _ => empty) = netlist := by
  apply ext
  · exact List.append_nil _
  · exact List.append_nil _

theorem Closed.place {netlist : Netlist} {part : Part} {ground : Nat} (closed : netlist.Closed)
    (leads : part.LeadsDown ground) (above : ground ≤ netlist.size) :
    (netlist.place part).Closed := by
  intro link member
  rw [Netlist.place, links_append, List.mem_append] at member
  rw [Netlist.place, size_append]
  rcases member with old | new
  · have bounds := closed link old
    omega
  · have bounds := leads netlist.size above link new
    omega

theorem below_place_of_lt {netlist : Netlist} {part : Part} {ground : Nat}
    (leads : part.LeadsDown ground) (above : ground ≤ netlist.size) {node : NodeId}
    (inside : node.index < netlist.size) :
    (netlist.place part).below node = netlist.below node := by
  rw [below, below, place, neighbours_append]
  have nothing : (part netlist.size).neighbours node .mem = [] := by
    rw [neighbours, List.filterMap_eq_nil_iff]
    intro link member
    have bounds := leads netlist.size above link member
    exact if_neg fun equal => by rw [equal] at bounds; omega
  rw [nothing, List.append_nil]

theorem below_place_of_le {netlist : Netlist} {part : Part} (closed : netlist.Closed)
    {node : NodeId} (outside : netlist.size ≤ node.index) :
    (netlist.place part).below node = (part netlist.size).below node := by
  rw [below, below, place, neighbours_append, closed.neighbours_of_size_le outside,
    List.nil_append]

structure Station (netlist : Netlist) (id : NodeId) (node : Node) (below : List NodeId) :
    Prop where
  node : netlist.node? id = some node
  below : netlist.below id = below

theorem Station.place {netlist : Netlist} {id : NodeId} {node : Node} {below : List NodeId}
    (station : netlist.Station id node below) {part : Part} {ground : Nat}
    (leads : part.LeadsDown ground) (above : ground ≤ netlist.size) :
    (netlist.place part).Station id node below where
  node := (node?_append_left (index_lt_size_of_node? station.node)).trans station.node
  below := (below_place_of_lt leads above (index_lt_size_of_node? station.node)).trans
    station.below

theorem station_own {netlist : Netlist} (closed : netlist.Closed) {part : Part} (offset : Nat)
    {node : Node} {below : List NodeId} (found : (part netlist.size).nodes[offset]? = some node)
    (links : (part netlist.size).below ⟨netlist.size + offset⟩ = below) :
    (netlist.place part).Station ⟨netlist.size + offset⟩ node below where
  node := (node?_append_own _ _ _).trans found
  below := (below_place_of_le closed (Nat.le_add_right _ _)).trans links

end Netlist

/-! ## Fabrics that realize a netlist -/

structure Graph.Realizes (graph : Graph) (netlist : Netlist) : Prop where
  sound : graph.Sound
  size : graph.size = netlist.size
  nodes : ∀ node, graph.node? node = netlist.node? node
  neighbours : ∀ node side, graph.neighbours node side = netlist.neighbours node side
  edges : graph.edges.size = netlist.links.length

namespace Graph.Realizes

variable {graph : Graph} {netlist : Netlist}

theorem offers (realizes : graph.Realizes netlist) {node : NodeId} {side : Side}
    (offers : netlist.Offers node side) : graph.Offers node side := by
  rcases offers with ⟨found, foundNode, hasSide, available⟩
  rw [← realizes.nodes, node?_eq, Option.map_eq_some_iff] at foundNode
  rcases foundNode with ⟨vertex, foundVertex, rfl⟩
  refine ⟨vertex, foundVertex, hasSide, ?_⟩
  rw [realizes.neighbours]
  exact available

theorem withNode (realizes : graph.Realizes netlist) (node : Node) :
    (graph.withNode node).Realizes (netlist.addNode node) where
  sound := realizes.sound.withNode node
  size := by rw [size_withNode, Netlist.size_addNode, realizes.size]
  nodes other := by
    rw [node?_withNode, Netlist.node?_addNode, realizes.size, realizes.nodes]
  neighbours other side := by
    rw [neighbours_withNode, Netlist.neighbours_addNode, realizes.neighbours]
  edges := realizes.edges

theorem linked (realizes : graph.Realizes netlist) {next : Graph} {upper lower : NodeId}
    (linked : Linked graph next upper lower) :
    next.Realizes (netlist.addLink upper lower) where
  sound := linked.sound
  size := linked.size.trans realizes.size
  nodes node := (linked.nodes node).trans (realizes.nodes node)
  neighbours node side := by
    rw [linked.neighbours, realizes.neighbours, Netlist.neighbours_addLink, List.append_assoc]
    congr 1
    cases side with
    | mem => by_cases same : upper = node <;> simp [Netlist.share, same, eq_comm]
    | cpu => by_cases same : lower = node <;> simp [Netlist.share, same, eq_comm]
  edges := by
    rw [linked.edges, realizes.edges]
    simp [Netlist.addLink]

theorem kind?_of_station (realizes : graph.Realizes netlist) {id : NodeId} {node : Node}
    {below : List NodeId} (station : netlist.Station id node below) :
    graph.kind? id = some node.kind := by
  rw [kind?, realizes.nodes, station.node, Option.map_some]

theorem downstream_of_station (realizes : graph.Realizes netlist) {id : NodeId} {node : Node}
    {below : List NodeId} (station : netlist.Station id node below) :
    graph.downstream id = below :=
  (realizes.neighbours id .mem).trans station.below

theorem nameOf_of_station (realizes : graph.Realizes netlist) {id : NodeId} {node : Node}
    {below : List NodeId} (station : netlist.Station id node below) :
    graph.nameOf id = node.name := by
  rw [nameOf, realizes.nodes, station.node]

theorem index_lt_size_of_station (realizes : graph.Realizes netlist) {id : NodeId} {node : Node}
    {below : List NodeId} (station : netlist.Station id node below) : id.index < graph.size := by
  rw [realizes.size]
  exact Netlist.index_lt_size_of_node? station.node

end Graph.Realizes

theorem Graph.realizes_empty : Graph.empty.Realizes .empty where
  sound := sound_empty
  size := rfl
  nodes node := by simp [node?, vertex?, empty, Netlist.node?, Netlist.empty]
  neighbours node side := by simp [neighbours, vertex?, empty, Netlist.neighbours, Netlist.empty]
  edges := rfl

/-! ## What wiring actions make -/

/-- On every fabric that realizes `before` the action succeeds with `result`, and
leaves a fabric that realizes `after`. -/
def Makes {α : Type} (action : Wiring α) (before : Netlist) (result : α) (after : Netlist) :
    Prop :=
  ∀ graph : Graph, graph.Realizes before →
    ∃ next, action graph = .ok result next ∧ next.Realizes after

namespace Makes

variable {α β : Type} {before middle after : Netlist}

theorem pure (result : α) : Makes (Pure.pure result) before result before :=
  fun graph realizes => ⟨graph, rfl, realizes⟩

theorem bind {action : Wiring α} {rest : α → Wiring β} {first : α} {second : β}
    (makesFirst : Makes action before first middle)
    (makesRest : Makes (rest first) middle second after) :
    Makes (action >>= rest) before second after := by
  intro graph realizes
  rcases makesFirst graph realizes with ⟨next, succeeds, realizesNext⟩
  rcases makesRest next realizesNext with ⟨last, succeedsRest, realizesLast⟩
  refine ⟨last, ?_, realizesLast⟩
  rw [Wiring.bind_of_ok succeeds]
  exact succeedsRest

theorem of_eq {action : Wiring α} {result other : α} {same : Netlist}
    (makes : Makes action before result after) (sameResult : result = other)
    (sameAfter : after = same) : Makes action before other same := by
  subst sameResult sameAfter
  exact makes

theorem addNode {index : Nat} (name : String) (kind : NodeKind) (last : before.size = index) :
    Makes (Graph.addNode name kind) before ⟨index⟩ (before.addNode ⟨name, kind⟩) := by
  intro graph realizes
  refine ⟨graph.withNode ⟨name, kind⟩, ?_, realizes.withNode ⟨name, kind⟩⟩
  rw [← last, ← realizes.size]
  rfl

theorem addNodeBehind {nodes : List Node} {links : List Link} (offset : Nat) (name : String)
    (kind : NodeKind) (last : nodes.length = offset) :
    Makes (Graph.addNode name kind) (before ++ ⟨nodes, links⟩) ⟨before.size + offset⟩
      (before ++ ⟨nodes ++ [⟨name, kind⟩], links⟩) := by
  refine (addNode name kind ?_).of_eq rfl ?_
  · rw [Netlist.size_append, ← last]
    rfl
  · apply Netlist.ext
    · exact List.append_assoc _ _ _
    · rfl

theorem link {upper lower : NodeId} (apart : upper ≠ lower)
    (offersMem : before.Offers upper .mem) (offersCpu : before.Offers lower .cpu) :
    Makes (Graph.link upper lower) before () (before.addLink upper lower) := by
  intro graph realizes
  rcases Graph.exists_link realizes.sound apart (realizes.offers offersMem)
    (realizes.offers offersCpu) with ⟨next, succeeds, linked⟩
  exact ⟨next, succeeds, realizes.linked linked⟩

theorem linkBehind {nodes : List Node} {links : List Link} {upper lower : NodeId}
    (apart : upper ≠ lower) (offersMem : (before ++ ⟨nodes, links⟩).Offers upper .mem)
    (offersCpu : (before ++ ⟨nodes, links⟩).Offers lower .cpu) :
    Makes (Graph.link upper lower) (before ++ ⟨nodes, links⟩) ()
      (before ++ ⟨nodes, links ++ [⟨upper, lower⟩]⟩) := by
  refine (link apart offersMem offersCpu).of_eq rfl ?_
  apply Netlist.ext
  · rfl
  · exact List.append_assoc _ _ _

end Makes

end MemoryFabric
