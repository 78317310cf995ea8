import MemoryFabric.Proofs.Machine.CoreRoutes

/-! From blueprints to assemblies. What is settled before anything is wired makes
an assembly with disjoint windows and a plan that divides the MMIO window, and
what is assembled realizes the netlist of such an assembly. -/

namespace MemoryFabric

theorem guarded_eq_ok_iff {α : Type} {condition : Prop} [Decidable condition]
    {cause : Misconfiguration} {next : Unit → Except Fault α} {rest : Except Fault α}
    {result : α} :
    (if condition then misconfigured cause >>= next else rest) = .ok result ↔
      ¬ condition ∧ rest = .ok result := by
  by_cases holds : condition
  · rw [if_pos holds]
    exact ⟨fun made => (by cases made), fun ⟨fails, _⟩ => absurd holds fails⟩
  · rw [if_neg holds]
    exact ⟨fun made => ⟨holds, made⟩, fun ⟨_, made⟩ => made⟩

theorem Configuration.windows_of_validate {configuration : Configuration}
    (valid : configuration.validate = .ok ()) :
    ∃ main mmio, configuration.memory.mainRange = .ok main ∧
      configuration.memory.mmioRange = .ok mmio ∧ main.overlaps mmio = false := by
  rw [validate] at valid
  dsimp only at valid
  rw [guarded_eq_ok_iff, guarded_eq_ok_iff, guarded_eq_ok_iff, guarded_eq_ok_iff] at valid
  rcases valid with ⟨_, _, _, _, valid⟩
  rcases bind_eq_ok_iff.mp valid with ⟨main, madeMain, valid⟩
  rcases bind_eq_ok_iff.mp valid with ⟨mmio, madeMmio, valid⟩
  rw [guarded_eq_ok_iff, Bool.not_eq_true] at valid
  exact ⟨main, mmio, madeMain, madeMmio, valid.1⟩

/-- Everything that is settled before the wiring, put together. -/
structure Blueprint.Drafted (blueprint : Blueprint) (assembly : Assembly) : Prop where
  valid : blueprint.configuration.validate = .ok ()
  cores : blueprint.checkCores = .ok ()
  configuration : assembly.configuration = blueprint.configuration
  main : blueprint.configuration.memory.mainRange = .ok assembly.main
  mmio : blueprint.configuration.memory.mmioRange = .ok assembly.mmio
  plan : InterleavePlan.ofMode blueprint.configuration.memory.lineSize.bytes assembly.mmio
    blueprint.configuration.memory.mmioChannelCount blueprint.configuration.memory.mmioMode =
      .ok assembly.plan
  assignments : blueprint.assignments = .ok assembly.assignments

def Assembly.machine (assembly : Assembly) (graph : Graph) : Machine where
  graph
  nodes := assembly.nodes
  ranges := [assembly.main, assembly.mmio]
  uncachedRanges := [assembly.mmio]
  plan := assembly.plan
  threadsPerCore := assembly.configuration.system.threadsPerCore

namespace Blueprint.Drafted

variable {blueprint : Blueprint} {assembly : Assembly}

theorem exists_planned (drafted : blueprint.Drafted assembly) :
    ∃ owner, assembly.Planned owner := by
  rcases Configuration.windows_of_validate drafted.valid with
    ⟨main, mmio, madeMain, madeMmio, apart⟩
  rw [drafted.main] at madeMain
  rw [drafted.mmio] at madeMmio
  cases madeMain
  cases madeMmio
  rcases InterleavePlan.exists_partition drafted.plan with ⟨window, owner, partition⟩
  exact ⟨owner, apart, window, partition⟩

theorem assemble_eq (drafted : blueprint.Drafted assembly) :
    ∃ graph : Graph, graph.Realizes assembly.netlist ∧
      Machine.assemble blueprint =
        (Check.all graph assembly.nodes.systemBus [assembly.main, assembly.mmio]).map
          fun _ => assembly.machine graph := by
  rcases assembly.wire_makes Graph.empty Graph.realizes_empty with ⟨graph, wired, realizes⟩
  refine ⟨graph, realizes, ?_⟩
  rw [drafted.configuration] at wired
  rw [Machine.assemble]
  dsimp only
  simp only [drafted.valid, drafted.cores, drafted.main, drafted.mmio, drafted.plan,
    drafted.assignments, ok_bind, EStateM.run, wired]
  rw [Assembly.machine, drafted.configuration]
  cases Check.all graph assembly.nodes.systemBus [assembly.main, assembly.mmio] <;> rfl

end Blueprint.Drafted

theorem Machine.exists_drafted {blueprint : Blueprint} {machine : Machine}
    (assembled : assemble blueprint = .ok machine) :
    ∃ assembly, blueprint.Drafted assembly ∧ ∃ graph : Graph,
      graph.Realizes assembly.netlist ∧ machine = assembly.machine graph := by
  have whole := assembled
  rw [assemble] at assembled
  dsimp only at assembled
  rcases bind_eq_ok_iff.mp assembled with ⟨_, valid, assembled⟩
  rcases bind_eq_ok_iff.mp assembled with ⟨_, cores, assembled⟩
  rcases bind_eq_ok_iff.mp assembled with ⟨main, madeMain, assembled⟩
  rcases bind_eq_ok_iff.mp assembled with ⟨mmio, madeMmio, assembled⟩
  rcases bind_eq_ok_iff.mp assembled with ⟨plan, planned, assembled⟩
  rcases bind_eq_ok_iff.mp assembled with ⟨assignments, assigned, _⟩
  have drafted : blueprint.Drafted
      ⟨blueprint.configuration, main, mmio, plan, assignments⟩ :=
    ⟨valid, cores, rfl, madeMain, madeMmio, planned, assigned⟩
  rcases drafted.assemble_eq with ⟨graph, realizes, made⟩
  refine ⟨_, drafted, graph, realizes, ?_⟩
  rw [whole] at made
  cases checked : Check.all graph
      (Assembly.mk blueprint.configuration main mmio plan assignments).nodes.systemBus
      [main, mmio] with
  | error fault =>
      rw [checked] at made
      cases made
  | ok =>
      rw [checked] at made
      cases made
      rfl

end MemoryFabric
