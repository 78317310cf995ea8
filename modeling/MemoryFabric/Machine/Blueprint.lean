import MemoryFabric.Configuration.Basic

/-! What a machine is assembled from: its configuration, and the models and
workloads that single cores have in place of the configured ones. -/

namespace MemoryFabric

/-- Values for single cores, the one given last first. -/
abbrev Overrides (α : Type) := List (Nat × α)

namespace Overrides

variable {α : Type}

def set (overrides : Overrides α) (core : Nat) (value : α) : Overrides α :=
  (core, value) :: overrides

def get? (overrides : Overrides α) (core : Nat) : Option α :=
  overrides.lookup core

def firstBeyond? (overrides : Overrides α) (count : Nat) : Option Nat :=
  ((overrides.map (·.1)).filter (count ≤ ·)).min?

end Overrides

structure Blueprint where
  configuration : Configuration
  models : Overrides CoreModel := []
  workloads : Overrides (List Workload) := []

structure CoreAssignment where
  index : Nat
  model : CoreModel
  workloads : List Workload
deriving DecidableEq

namespace Blueprint

def withModel (blueprint : Blueprint) (core : Nat) (model : CoreModel) : Blueprint :=
  { blueprint with models := blueprint.models.set core model }

def withWorkloads (blueprint : Blueprint) (core : Nat) (workloads : List Workload) : Blueprint :=
  { blueprint with workloads := blueprint.workloads.set core workloads }

def commonModel (blueprint : Blueprint) : CoreModel :=
  ⟨blueprint.configuration.system.coreModel, blueprint.configuration.system.capabilities⟩

/-- The workloads of every core that is given no other ones: the configured one on
each thread, if one is configured. -/
def commonWorkloads (blueprint : Blueprint) : List Workload :=
  match blueprint.configuration.workload with
  | some settings =>
      (settings.toWorkload blueprint.configuration.totalThreads).replicate
        blueprint.configuration.system.threadsPerCore
  | none => []

def checkCores (blueprint : Blueprint) : Except Fault Unit :=
  let count := blueprint.configuration.system.coreCount
  match blueprint.models.firstBeyond? count <|> blueprint.workloads.firstBeyond? count with
  | some core => misconfigured (.noSuchCore core count)
  | none => .ok ()

/-- What one core runs: as many workloads as it has threads, or the common ones. -/
def assignment (blueprint : Blueprint) (index : Nat) : Except Fault CoreAssignment :=
  let threads := blueprint.configuration.system.threadsPerCore
  let model := (blueprint.models.get? index).getD blueprint.commonModel
  match blueprint.workloads.get? index with
  | some workloads =>
      if workloads.length = threads then .ok ⟨index, model, workloads⟩
      else .error (.threadCountMismatch index threads workloads.length)
  | none => .ok ⟨index, model, blueprint.commonWorkloads⟩

def assignments (blueprint : Blueprint) : Except Fault (List CoreAssignment) :=
  (List.range blueprint.configuration.system.coreCount).mapM blueprint.assignment

end Blueprint

end MemoryFabric
