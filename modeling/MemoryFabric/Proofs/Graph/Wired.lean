import MemoryFabric.Proofs.Graph.Soundness

/-! Fabrics that come about by wiring. Whatever steps are taken, with whatever nodes
and ports, and also where they fail, the fabric that is left behind is sound. -/

namespace MemoryFabric

/-! ## Steps -/

namespace Wiring

variable {α β : Type} {action : Wiring α} {rest : α → Wiring β} {graph next : Graph}

def after (action : Wiring α) (graph : Graph) : Graph :=
  match action graph with
  | .ok _ next => next
  | .error _ next => next

theorem after_of_ok {result : α} (made : action graph = .ok result next) :
    action.after graph = next := by
  rw [after, made]

theorem after_of_error {fault : Fault} (failed : action graph = .error fault next) :
    action.after graph = next := by
  rw [after, failed]

theorem after_bind_of_ok {result : α} (made : action graph = .ok result next) :
    (action >>= rest).after graph = (rest result).after next := by
  rw [after, after, bind_of_ok made]

theorem after_bind_of_error {fault : Fault} (failed : action graph = .error fault next) :
    (action >>= rest).after graph = next :=
  after_of_error (bind_of_error failed)

theorem bind_eq_error {fault : Fault} (failed : (action >>= rest) graph = .error fault next) :
    action graph = .error fault next ∨
      ∃ result between, action graph = .ok result between ∧
        rest result between = .error fault next := by
  cases made : action graph with
  | ok result between =>
      rw [bind_of_ok made] at failed
      exact Or.inr ⟨result, between, rfl, failed⟩
  | error stopped left =>
      rw [bind_of_error made] at failed
      cases failed
      exact Or.inl rfl

/-- The action keeps a property of fabrics, also where it fails. -/
def Keeps (property : Graph → Prop) (action : Wiring α) : Prop :=
  ∀ graph, property graph → property (action.after graph)

theorem Keeps.bind {property : Graph → Prop} (first : Keeps property action)
    (others : ∀ result, Keeps property (rest result)) : Keeps property (action >>= rest) := by
  intro graph holds
  have kept := first graph holds
  cases made : action graph with
  | ok result next =>
      rw [after_of_ok made] at kept
      rw [after_bind_of_ok made]
      exact others result next kept
  | error fault next =>
      rw [after_of_error made] at kept
      rw [after_bind_of_error made]
      exact kept

end Wiring

/-- A step of wiring with what it is given, which need not exist in the fabric. -/
inductive WiringStep where
  | addNode (name : String) (kind : NodeKind)
  | port (node : NodeId) (side : Side)
  | connect (first second : Endpoint)
  | link (upper lower : NodeId)

def Graph.advance (graph : Graph) : WiringStep → Graph
  | .addNode name kind => (addNode name kind).after graph
  | .port node side => (port node side).after graph
  | .connect first second => (connect first second).after graph
  | .link upper lower => (link upper lower).after graph

/-- Some sequence of steps makes the fabric out of nothing. -/
def Graph.Wired (graph : Graph) : Prop :=
  ∃ steps : List WiringStep, steps.foldl advance empty = graph

/-! ## What each step does -/

namespace Graph

variable {graph : Graph}

/-- Asking for a port changes nothing, except that a crossbar makes one; any other node
offers its first port. -/
theorem port_cases (graph : Graph) (node : NodeId) (side : Side) :
    (∃ fault, port node side graph = .error fault graph) ∨
      (∃ vertex, graph.vertex? node = some vertex ∧ vertex.node.kind.isVector side = false ∧
        port node side graph = .ok ⟨node, side, 0⟩ graph) ∨
        ∃ vertex, graph.vertex? node = some vertex ∧ vertex.node.kind.isVector side = true ∧
          port node side graph =
            .ok ⟨node, side, (vertex.ports side).size⟩ (graph.addPort node side) := by
  rw [port]
  split
  case h_1 => exact Or.inl ⟨_, rfl⟩
  case h_2 vertex found =>
    split
    case isTrue => exact Or.inl ⟨_, rfl⟩
    case isFalse =>
      split
      case isTrue vector => exact Or.inr (Or.inr ⟨vertex, found, vector, rfl⟩)
      case isFalse scalar =>
        exact Or.inr (Or.inl ⟨vertex, found, Bool.eq_false_iff.mpr scalar, rfl⟩)

theorem free_of_connectionFault? {first second : Endpoint}
    (noFault : graph.connectionFault? first second = none) :
    graph.peer? first = none ∧ graph.peer? second = none := by
  simpa [connectionFault?] using noFault

/-- Joining ports changes nothing, except that two unconnected ports get an edge. -/
theorem connect_cases (graph : Graph) (first second : Endpoint) :
    (∃ fault, connect first second graph = .error fault graph) ∨
      connect first second graph = .ok () graph ∨
        ∃ mem cpu, graph.Joinable mem cpu ∧
          (mem = first ∧ cpu = second ∨ mem = second ∧ cpu = first) ∧
            connect first second graph = .ok () (graph.addEdge mem cpu) := by
  rw [connect]
  split
  case isTrue => exact Or.inl ⟨_, rfl⟩
  case isFalse hasFirst =>
    split
    case isTrue => exact Or.inl ⟨_, rfl⟩
    case isFalse hasSecond =>
      split
      case isTrue => exact Or.inl ⟨_, rfl⟩
      case isFalse different =>
        rw [not_or] at different
        split
        case isTrue => exact Or.inr (Or.inl rfl)
        case isFalse =>
          split
          case h_1 => exact Or.inl ⟨_, rfl⟩
          case h_2 noFault =>
            have free := free_of_connectionFault? noFault
            refine Or.inr (Or.inr ?_)
            cases firstSide : first.side <;> cases secondSide : second.side
            · exact absurd (firstSide.trans secondSide.symm) different.1
            · exact ⟨second, first, ⟨secondSide, firstSide, Ne.symm different.2,
                by simpa using hasSecond, by simpa using hasFirst, free.2, free.1⟩,
                Or.inr ⟨rfl, rfl⟩, rfl⟩
            · exact ⟨first, second, ⟨firstSide, secondSide, different.2,
                by simpa using hasFirst, by simpa using hasSecond, free.1, free.2⟩,
                Or.inl ⟨rfl, rfl⟩, rfl⟩
            · exact absurd (firstSide.trans secondSide.symm) different.1

theorem keeps_sound_port (node : NodeId) (side : Side) : Wiring.Keeps Sound (port node side) := by
  intro graph sound
  rcases port_cases graph node side with ⟨fault, failed⟩ | ⟨vertex, -, -, made⟩ |
    ⟨vertex, found, vector, made⟩
  · rw [Wiring.after_of_error failed]
    exact sound
  · rw [Wiring.after_of_ok made]
    exact sound
  · rw [Wiring.after_of_ok made]
    exact sound.addPort found vector

theorem keeps_sound_connect (first second : Endpoint) :
    Wiring.Keeps Sound (connect first second) := by
  intro graph sound
  rcases connect_cases graph first second with ⟨fault, failed⟩ | made |
    ⟨mem, cpu, joinable, -, made⟩
  · rw [Wiring.after_of_error failed]
    exact sound
  · rw [Wiring.after_of_ok made]
    exact sound
  · rw [Wiring.after_of_ok made]
    exact sound.addEdge joinable

theorem keeps_sound_link (upper lower : NodeId) : Wiring.Keeps Sound (link upper lower) := by
  apply Wiring.Keeps.bind (keeps_sound_port upper .mem)
  intro mem
  apply Wiring.Keeps.bind (keeps_sound_port lower .cpu)
  intro cpu
  exact keeps_sound_connect mem cpu

theorem Sound.advance (sound : graph.Sound) (step : WiringStep) : (graph.advance step).Sound := by
  cases step with
  | addNode name kind => exact sound.withNode ⟨name, kind⟩
  | port node side => exact keeps_sound_port node side graph sound
  | connect first second => exact keeps_sound_connect first second graph sound
  | link upper lower => exact keeps_sound_link upper lower graph sound

theorem Sound.foldl_advance (sound : graph.Sound) (steps : List WiringStep) :
    (steps.foldl Graph.advance graph).Sound := by
  induction steps generalizing graph with
  | nil => exact sound
  | cons step rest induction => exact induction (sound.advance step)

theorem Wired.sound (wired : graph.Wired) : graph.Sound := by
  rcases wired with ⟨steps, rfl⟩
  exact sound_empty.foldl_advance steps

end Graph

end MemoryFabric
