import MemoryFabric.Proofs.Machine.Layout

/-! The wiring of a machine succeeds and makes the netlist of the machine. -/

namespace MemoryFabric

open Netlist (Part share)

namespace Surroundings

variable {surroundings : Surroundings} {before : Netlist} {start : Nat}

structure Standing (surroundings : Surroundings) (before : Netlist) : Prop where
  closed : before.Closed
  systemBus : before.IsBus surroundings.systemBus
  secondLevelBus : before.IsBus surroundings.secondLevelBus

theorem wireOptional_makes (standing : surroundings.Standing before) (core : Nat)
    (model : CoreModel) (capability : Capability) :
    Makes (surroundings.wireOptional core model capability) before
      (if model.supports capability then some ⟨before.size⟩ else none)
      (before.place (surroundings.optionalPart core model capability)) := by
  rw [wireOptional, Netlist.place, optionalPart]
  by_cases supported : model.supports capability = true
  · rw [if_pos supported, if_pos supported, if_pos supported]
    have fresh := standing.systemBus.index_lt_size
    refine Makes.bind (Makes.addNode _ _ rfl) (Makes.bind (Makes.link ?_ ?_ ?_) ?_)
    · intro equal
      rw [← equal] at fresh
      exact Nat.lt_irrefl _ fresh
    · apply Netlist.offers_of_unlinked
      · rw [Netlist.node?_addNode, if_pos rfl]
      · rfl
      · rw [Netlist.neighbours_addNode]
        exact standing.closed.neighbours_of_size_le (Nat.le_refl _) .mem
    · exact (standing.systemBus.addNode _).offers .cpu
    · exact Makes.pure _
  · rw [if_neg supported, if_neg supported, if_neg supported]
    exact (Makes.pure _).of_eq rfl (Netlist.place_empty before).symm

theorem Standing.place (standing : surroundings.Standing before) {part : Part} {ground : Nat}
    (leads : part.LeadsDown ground) (above : ground ≤ before.size) :
    surroundings.Standing (before.place part) where
  closed := standing.closed.place leads above
  systemBus := standing.systemBus.append _
  secondLevelBus := standing.secondLevelBus.append _

def ground (surroundings : Surroundings) : Nat :=
  max surroundings.systemBus.index surroundings.secondLevelBus.index + 1

theorem Standing.ground_le (standing : surroundings.Standing before) :
    surroundings.ground ≤ before.size := by
  have systemBus := standing.systemBus.index_lt_size
  have secondLevelBus := standing.secondLevelBus.index_lt_size
  rw [ground]
  omega

theorem optionalPart_leadsDown (core : Nat) (model : CoreModel) (capability : Capability) :
    (surroundings.optionalPart core model capability).LeadsDown surroundings.ground := by
  intro start above link member
  rw [ground] at above
  rw [optionalPart] at member ⊢
  split at member
  case isTrue supported =>
    rw [if_pos supported]
    rw [List.mem_singleton] at member
    subst member
    simp only [Netlist.size, List.length_singleton]
    omega
  case isFalse => cases member

theorem basePart_leadsDown (core : Nat) :
    (surroundings.basePart core).LeadsDown surroundings.ground := by
  intro start above link member
  rw [ground] at above
  simp only [basePart, coreLinks, coreNodes, Netlist.size, List.mem_cons, List.not_mem_nil,
    or_false, List.length_cons, List.length_nil] at member ⊢
  rcases member with rfl | rfl | rfl | rfl | rfl | rfl | rfl | rfl <;> dsimp only <;> omega

theorem corePart_leadsDown (assignment : CoreAssignment) :
    (surroundings.corePart assignment).LeadsDown surroundings.ground := by
  refine (basePart_leadsDown assignment.index).followedBy (Part.LeadsDown.sequence ?_)
  intro part member
  rcases List.mem_map.mp member with ⟨capability, _, rfl⟩
  exact optionalPart_leadsDown assignment.index assignment.model capability

theorem size_optionalPart (core : Nat) (model : CoreModel) (capability : Capability)
    (start : Nat) :
    (surroundings.optionalPart core model capability start).size =
      if model.supports capability then 1 else 0 := by
  rw [optionalPart]
  split <;> rfl

theorem portsBefore_dataWalker (model : CoreModel) :
    portsBefore model .dataWalker = if model.supports .instructionWalker then 1 else 0 := by
  rw [show portsBefore model .dataWalker = [Capability.instructionWalker].countP model.supports
    from rfl, List.countP_singleton]

theorem portsBefore_interruptController (model : CoreModel) :
    portsBefore model .interruptController =
      (if model.supports .instructionWalker then 1 else 0) +
        if model.supports .dataWalker then 1 else 0 := by
  rw [show portsBefore model .interruptController =
    [Capability.instructionWalker, .dataWalker].countP model.supports from rfl,
    List.countP_cons, List.countP_singleton, Nat.add_comm]

theorem wireOptionals_make {α : Type} (standing : surroundings.Standing before) (core : Nat)
    (model : CoreModel) (combine : Option NodeId → Option NodeId → Option NodeId → α) :
    Makes
      (do
        let instructionWalker ← surroundings.wireOptional core model .instructionWalker
        let dataWalker ← surroundings.wireOptional core model .dataWalker
        let interruptRequestor ← surroundings.wireOptional core model .interruptController
        return combine instructionWalker dataWalker interruptRequestor)
      before
      (combine (optionalNode? model before.size .instructionWalker)
        (optionalNode? model before.size .dataWalker)
        (optionalNode? model before.size .interruptController))
      (before.place (surroundings.optionalParts core model)) := by
  have leads := fun capability =>
    surroundings.optionalPart_leadsDown core model capability
  have second := standing.place (leads .instructionWalker) standing.ground_le
  have third := second.place (leads .dataWalker) second.ground_le
  refine Makes.of_eq
    (Makes.bind (wireOptional_makes standing core model .instructionWalker)
      (Makes.bind (wireOptional_makes second core model .dataWalker)
        (Makes.bind (wireOptional_makes third core model .interruptController)
          (Makes.pure _)))) ?_ ?_
  · simp only [Netlist.place, Netlist.size_append, size_optionalPart, optionalNode?,
      portsBefore_dataWalker, portsBefore_interruptController, Nat.add_assoc]
    rfl
  · rw [optionalParts]
    simp only [Capability.all, List.map_cons, List.map_nil, Part.sequence,
      Netlist.place_followedBy, Netlist.place_empty]

theorem wireCore_makes (standing : surroundings.Standing before) (assignment : CoreAssignment) :
    Makes (surroundings.wireCore assignment) before (binding assignment before.size)
      (before.place (surroundings.corePart assignment)) := by
  have closed := standing.closed
  have notSystem : ∀ offset, (⟨before.size + offset⟩ : NodeId) ≠ surroundings.systemBus := by
    intro offset equal
    have old := standing.systemBus.index_lt_size
    rw [← equal] at old
    exact Nat.not_lt_of_le (Nat.le_add_right _ _) old
  have notSecond : ∀ offset, (⟨before.size + offset⟩ : NodeId) ≠ surroundings.secondLevelBus := by
    intro offset equal
    have old := standing.secondLevelBus.index_lt_size
    rw [← equal] at old
    exact Nat.not_lt_of_le (Nat.le_add_right _ _) old
  -- A node of the core offers a side as long as no link made so far takes it.
  have own := fun {nodes links offset side found} foundNode hasSide available =>
    @Netlist.offers_own before closed nodes links offset side found foundNode hasSide available
  have toSystem := fun part : Netlist => (standing.systemBus.append part).offers .cpu
  have toSecond := fun part : Netlist => (standing.secondLevelBus.append part).offers .cpu
  have baseStanding := standing.place (basePart_leadsDown assignment.index) standing.ground_le
  rw [corePart, Netlist.place_followedBy]
  conv => arg 2; rw [← Netlist.place_empty before]
  rw [wireCore]
  refine Makes.bind (Makes.addNodeBehind 0 _ _ rfl) ?_
  refine Makes.bind (Makes.addNodeBehind 1 _ _ rfl) ?_
  refine Makes.bind (Makes.linkBehind (by simp) (own rfl rfl (Or.inr rfl))
    (own rfl rfl (Or.inr rfl))) ?_
  refine Makes.bind (Makes.linkBehind (notSecond 1) (own rfl rfl (Or.inr (by simp [share])))
    (toSecond _)) ?_
  refine Makes.bind (Makes.addNodeBehind 2 _ _ rfl) ?_
  refine Makes.bind (Makes.addNodeBehind 3 _ _ rfl) ?_
  refine Makes.bind (Makes.linkBehind (by simp) (own rfl rfl (Or.inr (by simp [share])))
    (own rfl rfl (Or.inl rfl))) ?_
  refine Makes.bind (Makes.addNodeBehind 4 _ _ rfl) ?_
  refine Makes.bind (Makes.addNodeBehind 5 _ _ rfl) ?_
  refine Makes.bind (Makes.linkBehind (by simp) (own rfl rfl (Or.inl rfl))
    (own rfl rfl (Or.inr (by simp [share, (notSecond _).symm])))) ?_
  refine Makes.bind (Makes.linkBehind (by simp) (own rfl rfl (Or.inl rfl))
    (own rfl rfl (Or.inr (by simp [share, (notSecond _).symm])))) ?_
  refine Makes.bind (Makes.addNodeBehind 6 _ _ rfl) ?_
  refine Makes.bind (Makes.linkBehind (by simp) (own rfl rfl (Or.inr (by simp [share])))
    (own rfl rfl (Or.inr (by simp [share, (notSecond _).symm])))) ?_
  refine Makes.bind (Makes.linkBehind (notSecond 6) (own rfl rfl (Or.inr (by simp [share])))
    (toSecond _)) ?_
  refine Makes.bind (Makes.linkBehind (notSystem 5) (own rfl rfl (Or.inr (by simp [share])))
    (toSystem _)) ?_
  have baseSize : (before.place (surroundings.basePart assignment.index)).size =
      before.size + 7 := Netlist.size_append _ _
  have optional := wireOptionals_make baseStanding assignment.index assignment.model
    fun instructionWalker dataWalker interruptRequestor =>
      { binding assignment before.size with instructionWalker, dataWalker, interruptRequestor }
  rw [baseSize] at optional
  exact optional

theorem size_optionalParts (core : Nat) (model : CoreModel) (start : Nat) :
    (surroundings.optionalParts core model start).size =
      Capability.all.countP model.supports := by
  simp only [optionalParts, Capability.all, List.map_cons, List.map_nil, Part.sequence,
    Part.followedBy, Netlist.size_append, size_optionalPart, List.countP_cons, List.countP_nil,
    Netlist.size_empty]
  omega

theorem size_corePart (assignment : CoreAssignment) (start : Nat) :
    (surroundings.corePart assignment start).size = coreSize assignment.model := by
  rw [corePart, Part.followedBy, Netlist.size_append, size_optionalParts, coreSize]
  rfl

theorem size_place_corePart (surroundings : Surroundings) (before : Netlist)
    (assignment : CoreAssignment) :
    (before.place (surroundings.corePart assignment)).size =
      before.size + coreSize assignment.model := by
  rw [Netlist.size_place, size_corePart]

theorem wireCores_make (assignments : List CoreAssignment) (before : Netlist)
    (standing : surroundings.Standing before) :
    Makes (assignments.mapM surroundings.wireCore) before (bindings before.size assignments)
      (before.place (.sequence (assignments.map surroundings.corePart))) := by
  induction assignments generalizing before with
  | nil =>
      rw [List.mapM_nil]
      exact (Makes.pure _).of_eq rfl (Netlist.place_empty before).symm
  | cons assignment rest induction =>
      have next := standing.place (corePart_leadsDown assignment) standing.ground_le
      rw [List.mapM_cons, List.map_cons, Part.sequence, Netlist.place_followedBy, bindings,
        ← surroundings.size_place_corePart before assignment]
      exact Makes.bind (wireCore_makes standing assignment)
        (Makes.bind (induction _ next) (Makes.pure _))

end Surroundings

namespace Assembly

/-! ## The memory side and the whole machine -/

theorem size_bankPart (systemBus : NodeId) (controllers : List MemoryController) (start : Nat) :
    (bankPart systemBus controllers start).size = controllers.length :=
  List.length_map _

theorem wireController_makes {before : Netlist} {systemBus : NodeId} (closed : before.Closed)
    (isBus : before.IsBus systemBus) (controller : MemoryController) :
    Makes (Machine.wireController systemBus controller) before ⟨before.size⟩
      (before ++ ⟨[bankNode controller], [⟨systemBus, ⟨before.size⟩⟩]⟩) := by
  have apart : systemBus ≠ ⟨before.size⟩ := by
    intro equal
    have old := isBus.index_lt_size
    rw [equal] at old
    exact Nat.lt_irrefl _ old
  rw [Machine.wireController]
  refine Makes.bind (Makes.addNode _ _ rfl) (Makes.bind (Makes.link apart ?_ ?_) (Makes.pure _))
  · exact (isBus.addNode _).offers .mem
  · apply Netlist.offers_of_unlinked
    · rw [Netlist.node?_addNode, if_pos rfl]
    · rfl
    · rw [Netlist.neighbours_addNode]
      exact closed.neighbours_of_size_le (Nat.le_refl _) .cpu

theorem wireBank_makes (controllers : List MemoryController) (before : Netlist)
    {systemBus : NodeId} (closed : before.Closed) (isBus : before.IsBus systemBus) :
    Makes (controllers.mapM (Machine.wireController systemBus)) before
      (bankIds before.size controllers.length)
      (before.place (bankPart systemBus controllers)) := by
  induction controllers generalizing before with
  | nil =>
      rw [List.mapM_nil]
      exact (Makes.pure _).of_eq rfl (Netlist.place_empty before).symm
  | cons controller rest induction =>
      have nextClosed : (before ++
          ⟨[bankNode controller], [⟨systemBus, ⟨before.size⟩⟩]⟩ : Netlist).Closed := by
        intro link member
        have old := isBus.index_lt_size
        rw [Netlist.links_append, List.mem_append, List.mem_singleton] at member
        rw [Netlist.size_append]
        rcases member with inside | rfl
        · have bounds := closed link inside
          omega
        · exact ⟨Nat.lt_add_right _ old, Nat.lt_succ_self _⟩
      rw [List.mapM_cons]
      refine Makes.of_eq (Makes.bind (wireController_makes closed isBus controller)
        (Makes.bind (induction _ nextClosed (isBus.append _)) (Makes.pure _))) ?_ ?_
      · rw [Netlist.size_append, List.length_cons, bankIds, bankIds, List.range'_succ]
        rfl
      · rw [Netlist.place, Netlist.place, Netlist.append_assoc, Netlist.size_append]
        simp only [bankPart, bankIds, List.length_cons, List.range'_succ]
        rfl

variable (assembly : Assembly)

theorem mainNetlist_closed : assembly.mainNetlist.Closed := by
  intro link member
  rw [mainNetlist, List.mem_singleton] at member
  subst member
  exact ⟨Nat.zero_lt_two, Nat.one_lt_two⟩

theorem mainNetlist_isBus : assembly.mainNetlist.IsBus ⟨0⟩ := ⟨_, _, rfl⟩

theorem size_controllerNetlist : assembly.controllerNetlist.size = 2 + assembly.bank.length := by
  rw [controllerNetlist, Netlist.size_place, size_bankPart]
  rfl

theorem size_memoryNetlist :
    assembly.memoryNetlist.size = assembly.controllerNetlist.size + 2 := by
  rw [memoryNetlist, Netlist.size_place]
  rfl

theorem size_netlist : assembly.netlist.size = assembly.coreNetlist.size + 1 := by
  rw [netlist, Netlist.size_place]
  rfl

theorem controllerNetlist_closed : assembly.controllerNetlist.Closed := by
  intro link member
  rw [controllerNetlist, Netlist.place, Netlist.links_append, List.mem_append] at member
  rw [size_controllerNetlist]
  rcases member with inMain | inBank
  · have bounds := assembly.mainNetlist_closed link inMain
    have size : assembly.mainNetlist.size = 2 := rfl
    omega
  · rcases List.mem_map.mp inBank with ⟨node, nodeMember, rfl⟩
    rcases List.mem_map.mp nodeMember with ⟨index, indexMember, rfl⟩
    rw [List.mem_range'_1] at indexMember
    have size : assembly.mainNetlist.size = 2 := rfl
    dsimp only
    omega

theorem secondLevelPart_leadsDown : assembly.secondLevelPart.LeadsDown 0 := by
  intro start _ link member
  simp only [secondLevelPart, Netlist.size, List.mem_cons, List.not_mem_nil, or_false,
    List.length_cons, List.length_nil] at member ⊢
  rcases member with rfl | rfl <;> dsimp only <;> omega

theorem surroundings_standing : assembly.surroundings.Standing assembly.memoryNetlist where
  closed := assembly.controllerNetlist_closed.place assembly.secondLevelPart_leadsDown
    (Nat.zero_le _)
  systemBus := (assembly.mainNetlist_isBus.append _).append _
  secondLevelBus := by
    exact ⟨"l2bus", _, Netlist.node?_append_own assembly.controllerNetlist _ 0⟩

theorem coreParts_leadDown : assembly.coreParts.LeadsDown assembly.surroundings.ground := by
  apply Part.LeadsDown.sequence
  intro part member
  rcases List.mem_map.mp member with ⟨assignment, _, rfl⟩
  exact Surroundings.corePart_leadsDown assignment

theorem coreNetlist_standing : assembly.surroundings.Standing assembly.coreNetlist :=
  assembly.surroundings_standing.place assembly.coreParts_leadDown
    assembly.surroundings_standing.ground_le

/-- Wiring succeeds for all settings, and makes the netlist of the machine. -/
theorem wire_makes :
    Makes
      (Machine.wire assembly.configuration assembly.main assembly.mmio assembly.plan
        assembly.assignments)
      .empty assembly.nodes assembly.netlist := by
  have closed := assembly.controllerNetlist_closed
  have isBus : assembly.controllerNetlist.IsBus ⟨0⟩ := assembly.mainNetlist_isBus.append _
  have cores := Surroundings.wireCores_make assembly.assignments assembly.memoryNetlist
    assembly.surroundings_standing
  have last := assembly.coreNetlist_standing
  rw [Machine.wire]
  refine Makes.bind (Makes.addNode _ _ Netlist.size_empty) ?_
  refine Makes.bind (Makes.addNode _ _ (Netlist.size_addNode _ _)) ?_
  refine Makes.bind (Makes.link (by simp) (Netlist.IsBus.offers ⟨_, _, rfl⟩ .mem)
    (Netlist.offers_of_unlinked rfl rfl rfl)) ?_
  change Makes _ assembly.mainNetlist _ _
  refine Makes.bind (wireBank_makes assembly.bank _ assembly.mainNetlist_closed
    assembly.mainNetlist_isBus) ?_
  change Makes _ assembly.controllerNetlist _ _
  rw [← Netlist.place_empty assembly.controllerNetlist]
  refine Makes.bind (Makes.addNodeBehind 0 _ _ rfl) ?_
  refine Makes.bind (Makes.addNodeBehind 1 _ _ rfl) ?_
  refine Makes.bind (Makes.linkBehind (by simp)
    (Netlist.offers_own closed rfl rfl (Or.inl rfl))
    (Netlist.offers_own closed rfl rfl (Or.inr rfl))) ?_
  refine Makes.bind (Makes.linkBehind (by simp)
    (Netlist.offers_own closed rfl rfl (Or.inr (by simp [share])))
    ((isBus.append _).offers .cpu)) ?_
  change Makes _ assembly.memoryNetlist _ _
  refine Makes.bind cores ?_
  change Makes _ assembly.coreNetlist _ _
  have apart : (⟨assembly.coreNetlist.size⟩ : NodeId) ≠ ⟨0⟩ := by
    intro equal
    have old := last.systemBus.index_lt_size
    change (⟨0⟩ : NodeId).index < _ at old
    rw [← equal] at old
    exact Nat.lt_irrefl _ old
  refine Makes.bind (Makes.addNode _ _ rfl) ?_
  refine Makes.bind (Makes.link apart ?_ ((last.systemBus.addNode _).offers .cpu)) ?_
  · apply Netlist.offers_of_unlinked
    · rw [Netlist.node?_addNode, if_pos rfl]
    · rfl
    · rw [Netlist.neighbours_addNode]
      exact last.closed.neighbours_of_size_le (Nat.le_refl _) .mem
  exact Makes.pure _

end Assembly

end MemoryFabric
