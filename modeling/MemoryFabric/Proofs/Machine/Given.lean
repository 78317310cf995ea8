import MemoryFabric.Proofs.Machine.Inventory
import MemoryFabric.Proofs.Workload

/-! What the cores of a machine run and which models they have, after any number of changes to
what is configured. Of all that a core is given, only the last counts, and nothing that
another core is given. -/

namespace MemoryFabric

inductive CoreChange where
  | model (core : Nat) (model : CoreModel)
  | workloads (core : Nat) (workloads : List Workload)

namespace CoreChange

def core : CoreChange → Nat
  | .model core _ | .workloads core _ => core

def model? (core : Nat) : CoreChange → Option CoreModel
  | .model other own => if core = other then some own else none
  | .workloads _ _ => none

def workloads? (core : Nat) : CoreChange → Option (List Workload)
  | .model _ _ => none
  | .workloads other own => if core = other then some own else none

/-- The last of all values that changes give. -/
def last? {α : Type} (given : CoreChange → Option α) (changes : List CoreChange) : Option α :=
  (changes.filterMap given).getLast?

end CoreChange

namespace Blueprint

def change (blueprint : Blueprint) : CoreChange → Blueprint
  | .model core model => blueprint.withModel core model
  | .workloads core workloads => blueprint.withWorkloads core workloads

def ofChanges (configuration : Configuration) (changes : List CoreChange) : Blueprint :=
  changes.foldl change { configuration }

end Blueprint

/-- What a core runs: the workloads that it was given last, or else those that are configured,
one for each of its threads. -/
inductive Configuration.Runs (configuration : Configuration) (changes : List CoreChange)
    (core : Nat) : List Workload → Prop
  | given {workloads : List Workload}
      (last : CoreChange.last? (CoreChange.workloads? core) changes = some workloads)
      (counted : workloads.length = configuration.system.threadsPerCore) :
      configuration.Runs changes core workloads
  | configured {settings : WorkloadSettings} {copy : Workload}
      (common : CoreChange.last? (CoreChange.workloads? core) changes = none)
      (workload : configuration.workload = some settings)
      (runs : copy.Runs settings
        (min (configuration.system.coreCount * configuration.system.threadsPerCore)
          (2 ^ 64 - 1))) :
      configuration.Runs changes core
        (List.replicate configuration.system.threadsPerCore copy)
  | idle (common : CoreChange.last? (CoreChange.workloads? core) changes = none)
      (workload : configuration.workload = none) : configuration.Runs changes core []

/-! ## The last change counts -/

namespace CoreChange

variable {α : Type} {given : CoreChange → Option α}

theorem last?_cons (change : CoreChange) (rest : List CoreChange) :
    last? given (change :: rest) = (last? given rest).or (given change) := by
  rw [last?, last?, List.filterMap_cons]
  cases given change with
  | none => exact Option.or_none.symm
  | some value => rw [List.getLast?_cons, Option.or_some]

theorem last?_swap {first second : CoreChange}
    (apart : given first = none ∨ given second = none) (before after : List CoreChange) :
    last? given (before ++ first :: second :: after) =
      last? given (before ++ second :: first :: after) := by
  rw [last?, last?, List.filterMap_append, List.filterMap_append]
  rcases apart with nothing | nothing
  · rw [List.filterMap_cons_none nothing, List.filterMap_cons, List.filterMap_cons,
      List.filterMap_cons_none nothing]
  · rw [List.filterMap_cons, List.filterMap_cons_none nothing, List.filterMap_cons_none nothing,
      List.filterMap_cons]

theorem model?_of_ne {core : Nat} {change : CoreChange} (other : core ≠ change.core) :
    change.model? core = none := by
  cases change with
  | model core model => exact if_neg other
  | workloads core workloads => rfl

theorem workloads?_of_ne {core : Nat} {change : CoreChange} (other : core ≠ change.core) :
    change.workloads? core = none := by
  cases change with
  | model core model => rfl
  | workloads core workloads => exact if_neg other

end CoreChange

namespace Blueprint

theorem models_change (blueprint : Blueprint) (change : CoreChange) (core : Nat) :
    (blueprint.change change).models.get? core =
      (change.model? core).or (blueprint.models.get? core) := by
  cases change with
  | model changed model => exact Overrides.get?_set blueprint.models changed core model
  | workloads changed workloads => rfl

theorem workloads_change (blueprint : Blueprint) (change : CoreChange) (core : Nat) :
    (blueprint.change change).workloads.get? core =
      (change.workloads? core).or (blueprint.workloads.get? core) := by
  cases change with
  | model changed model => rfl
  | workloads changed workloads =>
      exact Overrides.get?_set blueprint.workloads changed core workloads

/-- What holds of one change holds of a run of changes: a core has what it was given last. -/
theorem get?_foldl_change {α : Type} {overrides : Blueprint → Overrides α}
    {given : Nat → CoreChange → Option α}
    (step : ∀ blueprint change core, (overrides (blueprint.change change)).get? core =
      (given core change).or ((overrides blueprint).get? core))
    (changes : List CoreChange) (blueprint : Blueprint) (core : Nat) :
    (overrides (changes.foldl change blueprint)).get? core =
      (CoreChange.last? (given core) changes).or ((overrides blueprint).get? core) := by
  induction changes generalizing blueprint with
  | nil => rfl
  | cons change rest induction =>
      rw [List.foldl_cons, induction, step, CoreChange.last?_cons, Option.or_assoc]

theorem configuration_foldl_change (changes : List CoreChange) (blueprint : Blueprint) :
    (changes.foldl change blueprint).configuration = blueprint.configuration := by
  induction changes generalizing blueprint with
  | nil => rfl
  | cons change rest induction =>
      rw [List.foldl_cons, induction]
      cases change <;> rfl

variable (configuration : Configuration) (changes : List CoreChange)

theorem configuration_ofChanges :
    (ofChanges configuration changes).configuration = configuration :=
  configuration_foldl_change changes _

theorem models_ofChanges (core : Nat) :
    (ofChanges configuration changes).models.get? core =
      CoreChange.last? (CoreChange.model? core) changes := by
  rw [ofChanges, get?_foldl_change models_change]
  exact Option.or_none

theorem workloads_ofChanges (core : Nat) :
    (ofChanges configuration changes).workloads.get? core =
      CoreChange.last? (CoreChange.workloads? core) changes := by
  rw [ofChanges, get?_foldl_change workloads_change]
  exact Option.or_none

end Blueprint

/-! ## Blueprints that give the same -/

structure Blueprint.SameGiven (blueprint other : Blueprint) : Prop where
  configuration : blueprint.configuration = other.configuration
  models : ∀ core, blueprint.models.get? core = other.models.get? core
  workloads : ∀ core, blueprint.workloads.get? core = other.workloads.get? core

namespace Blueprint.SameGiven

variable {blueprint other : Blueprint}

theorem checkCores_eq (same : blueprint.SameGiven other) :
    blueprint.checkCores = other.checkCores := by
  rw [checkCores, checkCores, same.configuration, Overrides.firstBeyond?_congr same.models,
    Overrides.firstBeyond?_congr same.workloads]

theorem assignments_eq (same : blueprint.SameGiven other) :
    blueprint.assignments = other.assignments := by
  have each : blueprint.assignment = other.assignment := by
    funext core
    rw [assignment, assignment, same.configuration, same.models, same.workloads, commonModel,
      commonModel, commonWorkloads, commonWorkloads, same.configuration]
  rw [assignments, assignments, same.configuration, each]

theorem assemble_eq (same : blueprint.SameGiven other) :
    Machine.assemble blueprint = Machine.assemble other := by
  rw [Machine.assemble, Machine.assemble, same.configuration, same.checkCores_eq,
    same.assignments_eq]

end Blueprint.SameGiven

theorem Blueprint.sameGiven_swap (configuration : Configuration) {first second : CoreChange}
    (different : first.core ≠ second.core) (before after : List CoreChange) :
    (ofChanges configuration (before ++ first :: second :: after)).SameGiven
      (ofChanges configuration (before ++ second :: first :: after)) := by
  have apart : ∀ core, core ≠ first.core ∨ core ≠ second.core := by
    intro core
    by_cases same : core = first.core
    · rw [same]
      exact Or.inr different
    · exact Or.inl same
  constructor
  case configuration => rw [configuration_ofChanges, configuration_ofChanges]
  case models =>
    intro core
    rw [models_ofChanges, models_ofChanges]
    exact CoreChange.last?_swap
      ((apart core).imp CoreChange.model?_of_ne CoreChange.model?_of_ne) before after
  case workloads =>
    intro core
    rw [workloads_ofChanges, workloads_ofChanges]
    exact CoreChange.last?_swap
      ((apart core).imp CoreChange.workloads?_of_ne CoreChange.workloads?_of_ne) before after

/-! ## What the cores run -/

theorem Blueprint.runs_workloadsOf {configuration : Configuration} {changes : List CoreChange}
    {core : Nat} (staffed : (ofChanges configuration changes).Staffed core) :
    configuration.Runs changes core ((ofChanges configuration changes).workloadsOf core) := by
  rw [Staffed, workloads_ofChanges, configuration_ofChanges] at staffed
  rw [workloadsOf, workloads_ofChanges, commonWorkloads, configuration_ofChanges]
  cases last : CoreChange.last? (CoreChange.workloads? core) changes with
  | some workloads => exact .given last (staffed workloads last)
  | none =>
      cases workload : configuration.workload with
      | some settings => exact .configured last workload (settings.runs_toWorkload _)
      | none => exact .idle last workload

/-- Every core of a machine has the model that it was given last, or else the configured one,
and runs what it was given last, or else what is configured. Changes to different cores may
be made in either order. -/
theorem Machine.bindings_of_changes {configuration : Configuration} {changes : List CoreChange}
    {machine : Machine} (assembled : assemble (.ofChanges configuration changes) = .ok machine) :
    machine.nodes.cores.length = configuration.system.coreCount ∧
      (∀ core binding, machine.core? core = some binding →
        let model := (CoreChange.last? (CoreChange.model? core) changes).getD
          ⟨configuration.system.coreModel, configuration.system.capabilities⟩
        binding.index = core ∧ configuration.Runs changes core binding.workloads ∧
          binding.model = model.name ∧
          ∀ capability, (binding.optionalNode capability).isSome = model.supports capability) ∧
      ∀ before first second after, first.core ≠ second.core →
        assemble (.ofChanges configuration (before ++ first :: second :: after)) =
          assemble (.ofChanges configuration (before ++ second :: first :: after)) := by
  rcases exists_drafted assembled with ⟨assembly, drafted, graph, realizes, rfl⟩
  refine ⟨?_, ?_, ?_⟩
  · exact drafted.length_cores.trans (by rw [Blueprint.configuration_ofChanges])
  · intro core binding found model
    rcases drafted.exists_coreAt_assigned found with ⟨start, -, rfl⟩
    have staffed := Blueprint.staffed_of_assignments drafted.assignments
      (drafted.lt_coreCount found)
    have named : (Blueprint.ofChanges configuration changes).modelOf core = model := by
      rw [Blueprint.modelOf, Blueprint.models_ofChanges, Blueprint.commonModel,
        Blueprint.configuration_ofChanges]
    rw [← named]
    exact ⟨rfl, Blueprint.runs_workloadsOf staffed, rfl,
      Surroundings.isSome_optionalNode (Blueprint.assigned _ core) start⟩
  · intro before first second after different
    exact (Blueprint.sameGiven_swap configuration different before after).assemble_eq

def Configuration.spread : Configuration :=
  { Configuration.reference with
    system := { SystemSettings.reference with threadsPerCore := 2 }
    workload := some {
      binary := "solve"
      arguments := ["-v"]
      environment := [("OMP_PLACES", "threads"), ("LANG", "C")]
      openMp := true } }

def CoreChange.twice : List CoreChange :=
  [.workloads 1 [], .model 0 ⟨"slow", []⟩, .workloads 1 [⟨"left", [], []⟩, ⟨"right", [], []⟩],
    .model 0 ⟨"fast", [.dataWalker]⟩]

theorem Blueprint.feasible_twice : (Blueprint.ofChanges .spread CoreChange.twice).Feasible where
  valid := by decide +kernel
  exist core named := by
    have given : core ∈ [0, 0] ∨ core ∈ [1, 1] := named
    have small : core < 2 := by grind
    exact small
  planned := ⟨_, rfl⟩
  staffed core workloads found := by
    match core with
    | 0 => cases found
    | 1 =>
        cases found
        rfl
    | core + 2 => cases found

theorem Machine.bindings_of_changes_twice : ∃ machine first second,
    assemble (.ofChanges .spread CoreChange.twice) = .ok machine ∧
      machine.core? 0 = some first ∧ machine.core? 1 = some second ∧
      first.model = "fast" ∧ second.model = "DerivO3CPU" ∧
      (∃ copy, first.workloads = [copy, copy] ∧ "OMP_PLACES=cores" ∈ copy.environmentList) ∧
      second.workloads = [⟨"left", [], []⟩, ⟨"right", [], []⟩] := by
  rcases Blueprint.feasible_twice.assembles with ⟨machine, assembled⟩
  rcases bindings_of_changes assembled with ⟨count, bindings, -⟩
  have two : machine.nodes.cores.length = 2 := count
  have first : machine.core? 0 = some machine.nodes.cores[0] := List.getElem?_eq_getElem _
  have second : machine.core? 1 = some machine.nodes.cores[1] := List.getElem?_eq_getElem _
  rcases bindings 0 _ first with ⟨-, firstRuns, firstModel, -⟩
  rcases bindings 1 _ second with ⟨-, secondRuns, secondModel, -⟩
  refine ⟨machine, _, _, assembled, first, second, firstModel, secondModel, ?_, ?_⟩
  · generalize machine.nodes.cores[0].workloads = workloads at firstRuns
    cases firstRuns with
    | given last _ => cases last
    | configured _ workload runs =>
        cases workload
        rcases runs.listed with ⟨entries, -, listed, gives⟩
        refine ⟨_, rfl, ?_⟩
        rw [listed, List.mem_map]
        refine ⟨("OMP_PLACES", "cores"), (gives _ _).mpr ?_, rfl⟩
        rw [WorkloadSettings.Gives, if_pos (by decide)]
        simp [openMpVariables]
    | idle _ workload => cases workload
  · generalize machine.nodes.cores[1].workloads = workloads at secondRuns
    cases secondRuns with
    | given last _ => exact (Option.some.inj last).symm
    | configured common => cases common
    | idle common => cases common

end MemoryFabric
