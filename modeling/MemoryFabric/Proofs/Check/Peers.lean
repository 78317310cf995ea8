import MemoryFabric.Check.Peers
import MemoryFabric.Proofs.FirstFault
import MemoryFabric.Proofs.Graph.Soundness

/-! A sound fabric passes the check of its peers: what is noted along the edges is
what the ports say. -/

namespace MemoryFabric.Check

variable {graph : Graph} {seen : Connections}

def Truthful (graph : Graph) (seen : Connections) : Prop :=
  ∀ entry ∈ seen, graph.peer? entry.1 = some entry.2

theorem note_truthful (truthful : Truthful graph seen) {endpoint peer : Endpoint}
    (joined : graph.peer? endpoint = some peer) :
    ∃ next, note graph endpoint peer seen = .ok next ∧ Truthful graph next := by
  rw [note]
  split
  case h_1 noted known found =>
    have member := List.mem_of_find?_eq_some found
    have same : noted = endpoint := by simpa using List.find?_some found
    have agreed := truthful _ member
    dsimp only at agreed
    rw [same, joined] at agreed
    cases agreed
    rw [if_pos rfl]
    exact ⟨seen, rfl, truthful⟩
  case h_2 =>
    refine ⟨_, rfl, ?_⟩
    intro entry member
    rcases List.mem_cons.mp member with rfl | earlier
    · exact joined
    · exact truthful entry earlier

theorem noteEdge_truthful (sound : graph.Sound) (truthful : Truthful graph seen) {edge : Edge}
    (member : edge ∈ graph.edges.toList) :
    ∃ next, noteEdge graph seen edge = .ok next ∧ Truthful graph next := by
  have joined := ((sound.mem_edges edge).mp member).2
  rcases note_truthful truthful joined with ⟨middle, noted, middleTruthful⟩
  rcases note_truthful middleTruthful (sound.symmetric _ _ joined) with
    ⟨next, notedBack, nextTruthful⟩
  refine ⟨next, ?_, nextTruthful⟩
  rw [noteEdge, noted, ok_bind, notedBack]

theorem noteEdges_truthful (sound : graph.Sound) {edges : List Edge}
    (members : ∀ edge ∈ edges, edge ∈ graph.edges.toList) (truthful : Truthful graph seen) :
    ∃ next, edges.foldlM (noteEdge graph) seen = .ok next ∧ Truthful graph next := by
  induction edges generalizing seen with
  | nil => exact ⟨seen, rfl, truthful⟩
  | cons edge rest induction =>
      rcases noteEdge_truthful sound truthful (members edge List.mem_cons_self) with
        ⟨middle, noted, middleTruthful⟩
      rw [List.foldlM_cons, noted, ok_bind]
      exact induction (fun other later => members other (List.mem_cons_of_mem edge later))
        middleTruthful

theorem singlePeer_of_sound (sound : graph.Sound) : singlePeer graph = .ok () := by
  have nothing : Truthful graph [] := fun _ member => (by cases member)
  rcases noteEdges_truthful sound (fun _ member => member) nothing with ⟨next, noted, _⟩
  rw [singlePeer, noted, ok_bind]
  rfl

end MemoryFabric.Check
