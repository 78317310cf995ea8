import MemoryFabric.Proofs.Machine.Blueprint
import MemoryFabric.Proofs.Machine.Checks
import MemoryFabric.Proofs.Machine.Drafting

/-! What comes of a blueprint. Everything that can be wrong with it is wrong before
anything is wired: links of a machine never fail, and its checks find nothing. -/

namespace MemoryFabric

namespace Blueprint

def NamesExist (blueprint : Blueprint) : Prop :=
  ∀ core, blueprint.Names core → core < blueprint.configuration.system.coreCount

structure Feasible (blueprint : Blueprint) : Prop where
  valid : blueprint.configuration.validate = .ok ()
  exist : blueprint.NamesExist
  planned : ∃ plan, blueprint.mmioPlan = .ok plan
  staffed : ∀ core, blueprint.Staffed core

inductive FailsWith (blueprint : Blueprint) : Fault → Prop
  | invalid {fault : Fault} (invalid : blueprint.configuration.validate = .error fault) :
      blueprint.FailsWith fault
  | missing {core : Nat} (valid : blueprint.configuration.validate = .ok ())
      (missing : blueprint.IsFirstMissing core) :
      blueprint.FailsWith
        (.misconfigured (.noSuchCore core blueprint.configuration.system.coreCount))
  | unplanned {fault : Fault} (valid : blueprint.configuration.validate = .ok ())
      (exist : blueprint.NamesExist) (unplanned : blueprint.mmioPlan = .error fault) :
      blueprint.FailsWith fault
  | mismatched {core : Nat} {workloads : List Workload} {plan : InterleavePlan}
      (valid : blueprint.configuration.validate = .ok ()) (exist : blueprint.NamesExist)
      (planned : blueprint.mmioPlan = .ok plan)
      (mismatched : blueprint.IsFirstMismatch core workloads) :
      blueprint.FailsWith (.threadCountMismatch core
        blueprint.configuration.system.threadsPerCore workloads.length)

variable {blueprint : Blueprint}

theorem mmioPlan_eq {mmio : AddressRange}
    (madeMmio : blueprint.configuration.memory.mmioRange = .ok mmio) :
    blueprint.mmioPlan =
      InterleavePlan.ofMode blueprint.configuration.memory.lineSize.bytes mmio
        blueprint.configuration.memory.mmioChannelCount
        blueprint.configuration.memory.mmioMode := by
  rw [mmioPlan, madeMmio, ok_bind]

theorem Feasible.exists_drafted (feasible : blueprint.Feasible) :
    ∃ assembly, blueprint.Drafted assembly := by
  rcases Configuration.windows_of_validate feasible.valid with
    ⟨main, mmio, madeMain, madeMmio, -⟩
  rcases feasible.planned with ⟨plan, planned⟩
  rw [mmioPlan_eq madeMmio] at planned
  have cores := checkCores_eq_ok feasible.exist
  rcases assignments_cases blueprint with
    ⟨assignments, assigned⟩ | ⟨core, workloads, ⟨found, mismatch, -⟩, -⟩
  · exact ⟨⟨blueprint.configuration, main, mmio, plan, assignments⟩,
      feasible.valid, cores, rfl, madeMain, madeMmio, planned, assigned⟩
  · exact absurd (feasible.staffed core workloads found) mismatch

/-- A core with workloads exists, so that its workloads were counted. -/
theorem NamesExist.staffed (exist : blueprint.NamesExist) {assignments : List CoreAssignment}
    (assigned : blueprint.assignments = .ok assignments) (core : Nat) :
    blueprint.Staffed core := by
  intro workloads found
  have inside := exist core (Or.inr (Overrides.gives_of_get? found))
  exact staffed_of_assignments assigned inside workloads found

theorem feasible_or_fails (blueprint : Blueprint) :
    blueprint.Feasible ∨ ∃ fault, blueprint.FailsWith fault := by
  cases valid : blueprint.configuration.validate with
  | error fault => exact Or.inr ⟨fault, .invalid valid⟩
  | ok =>
      by_cases exist : blueprint.NamesExist
      · cases planned : blueprint.mmioPlan with
        | error fault => exact Or.inr ⟨fault, .unplanned valid exist planned⟩
        | ok plan =>
            rcases assignments_cases blueprint with
              ⟨assignments, assigned⟩ | ⟨core, workloads, first, -⟩
            · exact Or.inl ⟨valid, exist, ⟨plan, planned⟩, exist.staffed assigned⟩
            · exact Or.inr ⟨_, .mismatched valid exist planned first⟩
      · rw [NamesExist, Classical.not_forall] at exist
        rcases exist with ⟨core, beyond⟩
        rw [Classical.not_imp, Nat.not_lt] at beyond
        rcases exists_isFirstMissing beyond.1 beyond.2 with ⟨first, missing⟩
        exact Or.inr ⟨_, .missing valid missing⟩

theorem FailsWith.assemble_eq {fault : Fault} (fails : blueprint.FailsWith fault) :
    Machine.assemble blueprint = .error fault := by
  rw [Machine.assemble]
  dsimp only
  cases fails with
  | invalid invalid =>
      rw [invalid]
      rfl
  | missing valid missing =>
      rw [valid, ok_bind, checkCores_of_isFirstMissing missing]
      rfl
  | unplanned valid exist unplanned =>
      rcases Configuration.windows_of_validate valid with ⟨main, mmio, madeMain, madeMmio, -⟩
      rw [mmioPlan_eq madeMmio] at unplanned
      rw [valid, ok_bind, checkCores_eq_ok exist, ok_bind, madeMain, ok_bind, madeMmio, ok_bind,
        unplanned]
      rfl
  | mismatched valid exist planned first =>
      rcases Configuration.windows_of_validate valid with ⟨main, mmio, madeMain, madeMmio, -⟩
      rw [mmioPlan_eq madeMmio] at planned
      have inside := exist _ (Or.inr (Overrides.gives_of_get? first.1))
      rw [valid, ok_bind, checkCores_eq_ok exist, ok_bind, madeMain, ok_bind, madeMmio, ok_bind,
        planned, ok_bind, assignments_of_isFirstMismatch first inside]
      rfl

end Blueprint

theorem Assembly.Planned.wired {assembly : Assembly} {owner : UInt64 → Nat}
    (planned : assembly.Planned owner) :
    ∃ nodes graph,
      (Machine.wire assembly.configuration assembly.main assembly.mmio assembly.plan
        assembly.assignments).run Graph.empty = .ok nodes graph ∧
      Check.all graph nodes.systemBus [assembly.main, assembly.mmio] = .ok () := by
  rcases assembly.wire_makes Graph.empty Graph.realizes_empty with ⟨graph, wired, realizes⟩
  exact ⟨assembly.nodes, graph, wired, planned.all_eq_ok realizes⟩

theorem Blueprint.Drafted.assembles {blueprint : Blueprint} {assembly : Assembly}
    (drafted : blueprint.Drafted assembly) :
    ∃ graph : Graph, graph.Realizes assembly.netlist ∧
      Machine.assemble blueprint = .ok (assembly.machine graph) := by
  rcases drafted.exists_planned with ⟨owner, planned⟩
  rcases drafted.assemble_eq with ⟨graph, realizes, made⟩
  refine ⟨graph, realizes, ?_⟩
  rw [made]
  exact congrArg (Except.map fun _ => assembly.machine graph) (planned.all_eq_ok realizes)

theorem Blueprint.Feasible.assembles {blueprint : Blueprint} (feasible : blueprint.Feasible) :
    ∃ machine, Machine.assemble blueprint = .ok machine := by
  rcases feasible.exists_drafted with ⟨assembly, drafted⟩
  rcases drafted.assembles with ⟨graph, -, made⟩
  exact ⟨assembly.machine graph, made⟩

/-- A blueprint makes a machine if nothing is wrong with it, and fails with the
first thing that is. No link of its machine fails, and no check of it. -/
theorem Machine.assemble_outcome (blueprint : Blueprint) :
    ((∃ machine, assemble blueprint = .ok machine) ↔ blueprint.Feasible) ∧
      (∀ fault, assemble blueprint = .error fault ↔ blueprint.FailsWith fault) ∧
      ∀ (main mmio : AddressRange) (plan : InterleavePlan) (assignments : List CoreAssignment),
        main.overlaps mmio = false →
        InterleavePlan.ofMode blueprint.configuration.memory.lineSize.bytes mmio
          blueprint.configuration.memory.mmioChannelCount
          blueprint.configuration.memory.mmioMode = .ok plan →
        ∃ nodes graph,
          (wire blueprint.configuration main mmio plan assignments).run Graph.empty =
            .ok nodes graph ∧
          Check.all graph nodes.systemBus [main, mmio] = .ok () := by
  refine ⟨⟨?_, fun feasible => feasible.assembles⟩, fun fault => ⟨?_, fun fails =>
    fails.assemble_eq⟩, ?_⟩
  · rintro ⟨machine, made⟩
    rcases blueprint.feasible_or_fails with feasible | ⟨fault, fails⟩
    · exact feasible
    · rw [fails.assemble_eq] at made
      cases made
  · intro failed
    rcases blueprint.feasible_or_fails with feasible | ⟨other, fails⟩
    · rcases feasible.assembles with ⟨machine, made⟩
      rw [made] at failed
      cases failed
    · have same := fails.assemble_eq
      rw [failed] at same
      cases same
      exact fails
  · intro main mmio plan assignments apart planned
    rcases InterleavePlan.exists_partition planned with ⟨window, owner, partition⟩
    have ready : Assembly.Planned
        ⟨blueprint.configuration, main, mmio, plan, assignments⟩ owner :=
      ⟨apart, window, partition⟩
    exact ready.wired

end MemoryFabric
