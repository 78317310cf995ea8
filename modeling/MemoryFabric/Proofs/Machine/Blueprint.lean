import MemoryFabric.Machine.Blueprint
import MemoryFabric.Proofs.FirstFault

/-! What can be wrong with a blueprint before its machine is wired: a core that
does not exist, a plan that cannot be made, or a core whose workloads are not as
many as its threads. -/

namespace MemoryFabric

namespace Overrides

variable {α : Type}

def Gives (overrides : Overrides α) (core : Nat) : Prop :=
  core ∈ overrides.map (·.1)

def IsFirstBeyond (overrides : Overrides α) (count core : Nat) : Prop :=
  overrides.Gives core ∧ count ≤ core ∧ ∀ other, overrides.Gives other → count ≤ other →
    core ≤ other

theorem firstBeyond?_eq_some_iff (overrides : Overrides α) (count core : Nat) :
    overrides.firstBeyond? count = some core ↔ overrides.IsFirstBeyond count core := by
  rw [firstBeyond?, List.min?_eq_some_iff, List.mem_filter, decide_eq_true_eq, and_assoc]
  refine and_congr_right fun _ => and_congr_right fun _ => forall_congr' fun other => ?_
  rw [List.mem_filter, decide_eq_true_eq, and_imp]
  rfl

theorem firstBeyond?_eq_none_iff (overrides : Overrides α) (count : Nat) :
    overrides.firstBeyond? count = none ↔ ∀ core, overrides.Gives core → core < count := by
  rw [firstBeyond?, List.min?_eq_none_iff, List.filter_eq_nil_iff]
  simp only [decide_eq_true_eq, Nat.not_le]
  rfl

theorem gives_iff (overrides : Overrides α) (core : Nat) :
    overrides.Gives core ↔ (overrides.get? core).isSome = true := by
  rw [Gives, get?, List.mem_map, List.lookup_isSome_iff]
  simp only [beq_iff_eq, eq_comm (a := core)]

theorem gives_of_get? {overrides : Overrides α} {core : Nat} {value : α}
    (found : overrides.get? core = some value) : overrides.Gives core := by
  rw [gives_iff, found]
  rfl

theorem firstBeyond?_congr {overrides others : Overrides α}
    (same : ∀ core, overrides.get? core = others.get? core) (count : Nat) :
    overrides.firstBeyond? count = others.firstBeyond? count := by
  have gives : ∀ core, overrides.Gives core ↔ others.Gives core := by
    intro core
    rw [gives_iff, gives_iff, same]
  apply Option.ext
  intro core
  rw [firstBeyond?_eq_some_iff, firstBeyond?_eq_some_iff, IsFirstBeyond, IsFirstBeyond]
  simp only [gives]

theorem get?_set (overrides : Overrides α) (changed core : Nat) (value : α) :
    (overrides.set changed value).get? core =
      (if core = changed then some value else none).or (overrides.get? core) := by
  rw [set, get?, List.lookup_cons]
  by_cases same : core = changed
  · rw [beq_iff_eq.mpr same, if_pos same]
    rfl
  · rw [beq_false_of_ne same, if_neg same]
    rfl

end Overrides

namespace Blueprint

variable {blueprint : Blueprint}

def Names (blueprint : Blueprint) (core : Nat) : Prop :=
  blueprint.models.Gives core ∨ blueprint.workloads.Gives core

/-- The first core that does not exist, among those with models before those with
workloads. -/
def IsFirstMissing (blueprint : Blueprint) (core : Nat) : Prop :=
  let count := blueprint.configuration.system.coreCount
  blueprint.models.IsFirstBeyond count core ∨
    (∀ other, blueprint.models.Gives other → other < count) ∧
      blueprint.workloads.IsFirstBeyond count core

/-- The workloads of the core, if it has its own, are as many as its threads. -/
def Staffed (blueprint : Blueprint) (core : Nat) : Prop :=
  ∀ workloads, blueprint.workloads.get? core = some workloads →
    workloads.length = blueprint.configuration.system.threadsPerCore

def IsFirstMismatch (blueprint : Blueprint) (core : Nat) (workloads : List Workload) : Prop :=
  blueprint.workloads.get? core = some workloads ∧
    workloads.length ≠ blueprint.configuration.system.threadsPerCore ∧
      ∀ earlier < core, blueprint.Staffed earlier

def modelOf (blueprint : Blueprint) (core : Nat) : CoreModel :=
  (blueprint.models.get? core).getD blueprint.commonModel

def workloadsOf (blueprint : Blueprint) (core : Nat) : List Workload :=
  (blueprint.workloads.get? core).getD blueprint.commonWorkloads

def assigned (blueprint : Blueprint) (core : Nat) : CoreAssignment :=
  ⟨core, blueprint.modelOf core, blueprint.workloadsOf core⟩

def mmioPlan (blueprint : Blueprint) : Except Fault InterleavePlan := do
  let memory := blueprint.configuration.memory
  let mmio ← memory.mmioRange
  InterleavePlan.ofMode memory.lineSize.bytes mmio memory.mmioChannelCount memory.mmioMode

/-! ## Cores that do not exist -/

theorem checkCores_of_isFirstMissing {core : Nat} (missing : blueprint.IsFirstMissing core) :
    blueprint.checkCores =
      .error (.misconfigured (.noSuchCore core blueprint.configuration.system.coreCount)) := by
  rw [checkCores]
  rcases missing with model | ⟨models, workload⟩
  · rw [(Overrides.firstBeyond?_eq_some_iff _ _ _).mpr model]
    rfl
  · rw [(Overrides.firstBeyond?_eq_none_iff _ _).mpr models,
      (Overrides.firstBeyond?_eq_some_iff _ _ _).mpr workload]
    rfl

theorem checkCores_eq_ok
    (exist : ∀ core, blueprint.Names core → core < blueprint.configuration.system.coreCount) :
    blueprint.checkCores = .ok () := by
  rw [checkCores,
    (Overrides.firstBeyond?_eq_none_iff _ _).mpr fun core gives => exist core (Or.inl gives),
    (Overrides.firstBeyond?_eq_none_iff _ _).mpr fun core gives => exist core (Or.inr gives)]
  rfl

theorem exists_isFirstMissing {core : Nat} (named : blueprint.Names core)
    (beyond : blueprint.configuration.system.coreCount ≤ core) :
    ∃ first, blueprint.IsFirstMissing first := by
  cases models : blueprint.models.firstBeyond? blueprint.configuration.system.coreCount with
  | some first => exact ⟨first, Or.inl ((Overrides.firstBeyond?_eq_some_iff _ _ _).mp models)⟩
  | none =>
      have exist := (Overrides.firstBeyond?_eq_none_iff _ _).mp models
      cases workloads :
          blueprint.workloads.firstBeyond? blueprint.configuration.system.coreCount with
      | some first =>
          exact ⟨first, Or.inr ⟨exist, (Overrides.firstBeyond?_eq_some_iff _ _ _).mp workloads⟩⟩
      | none =>
          rcases named with model | workload
          · exact absurd (exist core model) (Nat.not_lt_of_le beyond)
          · exact absurd ((Overrides.firstBeyond?_eq_none_iff _ _).mp workloads core workload)
              (Nat.not_lt_of_le beyond)

/-! ## Workloads that are not as many as the threads -/

theorem assignment_of_staffed {core : Nat} (staffed : blueprint.Staffed core) :
    blueprint.assignment core = .ok (blueprint.assigned core) := by
  rw [assignment, assigned, workloadsOf]
  cases found : blueprint.workloads.get? core with
  | none => rfl
  | some workloads => exact if_pos (staffed workloads found)

theorem assignment_of_mismatch {core : Nat} {workloads : List Workload}
    (found : blueprint.workloads.get? core = some workloads)
    (mismatch : workloads.length ≠ blueprint.configuration.system.threadsPerCore) :
    blueprint.assignment core = .error (.threadCountMismatch core
      blueprint.configuration.system.threadsPerCore workloads.length) := by
  rw [assignment, found]
  exact if_neg mismatch

theorem staffed_of_assignment {core : Nat} {assignment : CoreAssignment}
    (assigned : blueprint.assignment core = .ok assignment) : blueprint.Staffed core := by
  intro workloads found
  apply Classical.byContradiction
  intro mismatch
  rw [assignment_of_mismatch found mismatch] at assigned
  cases assigned

theorem exists_mismatch_of_error {core : Nat} {fault : Fault}
    (failed : blueprint.assignment core = .error fault) :
    ∃ workloads, blueprint.workloads.get? core = some workloads ∧
      workloads.length ≠ blueprint.configuration.system.threadsPerCore := by
  cases found : blueprint.workloads.get? core with
  | none =>
      rw [assignment, found] at failed
      cases failed
  | some workloads =>
      refine ⟨workloads, rfl, fun same => ?_⟩
      rw [assignment, found] at failed
      dsimp only at failed
      rw [if_pos same] at failed
      cases failed

theorem range_eq_append {count core : Nat} {earlier rest : List Nat}
    (split : List.range count = earlier ++ core :: rest) : earlier = List.range core := by
  have bound : earlier.length < count := by
    have lengths := congrArg List.length split
    rw [List.length_range, List.length_append, List.length_cons] at lengths
    omega
  have number : earlier.length = core := by
    have found := congrArg (·[earlier.length]?) split
    simpa [List.getElem?_append_right, bound] using found
  apply List.ext_getElem
  · rw [List.length_range, number]
  · intro index inEarlier _
    have found := congrArg (·[index]?) split
    have small : index < count := by omega
    simp only [List.getElem?_append_left inEarlier, List.getElem?_range small] at found
    rw [List.getElem_range]
    rw [List.getElem?_eq_getElem inEarlier] at found
    exact (Option.some.inj found).symm

theorem assignments_of_isFirstMismatch {core : Nat} {workloads : List Workload}
    (first : blueprint.IsFirstMismatch core workloads)
    (inside : core < blueprint.configuration.system.coreCount) :
    blueprint.assignments = .error (.threadCountMismatch core
      blueprint.configuration.system.threadsPerCore workloads.length) := by
  rcases first with ⟨found, mismatch, staffed⟩
  have whole : List.range blueprint.configuration.system.coreCount =
      List.range core ++ core ::
        List.range' (core + 1) (blueprint.configuration.system.coreCount - (core + 1)) := by
    rw [← List.range'_succ, List.range_eq_range', List.range_eq_range']
    have append := List.range'_append_1 (s := 0) (m := core)
      (n := blueprint.configuration.system.coreCount - (core + 1) + 1)
    rw [Nat.zero_add] at append
    rw [append]
    congr 1
    omega
  rw [assignments, whole]
  refine mapM_eq_error (fun other member => ?_) (assignment_of_mismatch found mismatch)
  exact ⟨_, assignment_of_staffed (staffed other (List.mem_range.mp member))⟩

theorem assignments_cases (blueprint : Blueprint) :
    (∃ assignments, blueprint.assignments = .ok assignments) ∨
      ∃ core workloads, blueprint.IsFirstMismatch core workloads ∧
        core < blueprint.configuration.system.coreCount := by
  rcases mapM_cases blueprint.assignment
    (List.range blueprint.configuration.system.coreCount) with made |
    ⟨earlier, core, rest, fault, split, succeed, fails⟩
  · exact Or.inl made
  · rcases exists_mismatch_of_error fails with ⟨workloads, found, mismatch⟩
    have inside : core ∈ List.range blueprint.configuration.system.coreCount := by
      rw [split]
      exact List.mem_append_right _ List.mem_cons_self
    refine Or.inr ⟨core, workloads, ⟨found, mismatch, ?_⟩, List.mem_range.mp inside⟩
    intro other before
    have member : other ∈ earlier := by
      rw [range_eq_append split]
      exact List.mem_range.mpr before
    rcases succeed other member with ⟨assignment, assigned⟩
    exact staffed_of_assignment assigned

theorem staffed_of_assignments {assignments : List CoreAssignment}
    (made : blueprint.assignments = .ok assignments) {core : Nat}
    (inside : core < blueprint.configuration.system.coreCount) : blueprint.Staffed core := by
  rcases (getElem?_of_mapM_eq_ok made).2 (List.getElem?_range inside) with
    ⟨assignment, -, assigned⟩
  exact staffed_of_assignment assigned

theorem eq_map_assigned {assignments : List CoreAssignment}
    (made : blueprint.assignments = .ok assignments) :
    assignments =
      (List.range blueprint.configuration.system.coreCount).map blueprint.assigned := by
  have whole : blueprint.assignments =
      .ok ((List.range blueprint.configuration.system.coreCount).map blueprint.assigned) :=
    mapM_eq_ok fun _ member =>
      assignment_of_staffed (staffed_of_assignments made (List.mem_range.mp member))
  rw [made] at whole
  exact Except.ok.inj whole

end Blueprint

end MemoryFabric
