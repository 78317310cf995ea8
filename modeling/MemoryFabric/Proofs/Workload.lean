import Mathlib.Data.List.Perm.Basic
import Mathlib.Data.String.Basic
import MemoryFabric.Configuration.Basic

/-! Environments hold one value for each variable, the last that it was given, in ascending
order of the names; and the workload of a configuration sets the configured variables, with
those that spread its threads in place of values that were configured for them. -/

namespace MemoryFabric

namespace Environment

variable {environment : Environment} {name value : String}

def Ascending (environment : Environment) : Prop :=
  environment.Pairwise fun first second => first.1 < second.1

/-- Of the values that the entries give to a variable, this one is the last. -/
def SetsLast (entries : List (String × String)) (name value : String) : Prop :=
  ∃ before after, entries = before ++ (name, value) :: after ∧ ∀ entry ∈ after, entry.1 ≠ name

/-! ## One variable -/

theorem Ascending.of_cons {entry : String × String}
    (ascending : Ascending (entry :: environment)) :
    (∀ later ∈ environment, entry.1 < later.1) ∧ environment.Ascending :=
  List.pairwise_cons.mp ascending

theorem Ascending.ext {other : Environment} (ascending : environment.Ascending)
    (otherAscending : other.Ascending)
    (same : ∀ entry, entry ∈ environment ↔ entry ∈ other) : environment = other := by
  have nodup {entries : Environment} (ascends : entries.Ascending) : entries.Nodup :=
    ascends.imp fun before equal => ne_of_lt before (congrArg Prod.fst equal)
  have perm := (List.perm_ext_iff_of_nodup (nodup ascending) (nodup otherAscending)).mpr same
  apply List.Perm.eq_of_pairwise _ ascending otherAscending perm
  intro first second _ _ before after
  exact absurd after (lt_asymm before)

theorem mem_insert_iff (ascending : environment.Ascending) (entry : String × String) :
    entry ∈ environment.insert name value ↔
      entry = (name, value) ∨ entry.1 ≠ name ∧ entry ∈ environment := by
  induction environment with
  | nil => simp [insert]
  | cons head rest induction =>
      rcases head with ⟨first, known⟩
      have later := ascending.of_cons.1
      rw [insert]
      split
      case isTrue before =>
        have others : ∀ other ∈ (first, known) :: rest, other.1 ≠ name := by
          intro other member
          apply Ne.symm
          apply ne_of_lt
          rcases List.mem_cons.mp member with rfl | inRest
          · exact before
          · exact String.lt_trans before (later other inRest)
        rw [List.mem_cons]
        exact or_congr_right ⟨fun member => ⟨others entry member, member⟩, And.right⟩
      case isFalse notBefore =>
        split
        case isTrue same =>
          subst same
          have others : ∀ other ∈ rest, other.1 ≠ name := fun other member =>
            (ne_of_lt (later other member)).symm
          rw [List.mem_cons, List.mem_cons]
          apply or_congr_right
          constructor
          · intro member
            exact ⟨others entry member, Or.inr member⟩
          · rintro ⟨different, rfl | member⟩
            · exact absurd rfl different
            · exact member
        case isFalse different =>
          rw [List.mem_cons, List.mem_cons, induction ascending.of_cons.2]
          have kept : entry = (first, known) → entry.1 ≠ name := by
            rintro rfl
            exact Ne.symm different
          grind

theorem Ascending.insert (ascending : environment.Ascending) (name value : String) :
    (environment.insert name value).Ascending := by
  induction environment with
  | nil => exact List.pairwise_singleton _ _
  | cons head rest induction =>
      rcases head with ⟨first, known⟩
      have later := ascending.of_cons.1
      rw [Environment.insert]
      split
      case isTrue before =>
        apply List.Pairwise.cons _ ascending
        intro other member
        rcases List.mem_cons.mp member with rfl | inRest
        · exact before
        · exact String.lt_trans before (later other inRest)
      case isFalse notBefore =>
        split
        case isTrue same =>
          subst same
          exact List.Pairwise.cons later ascending.of_cons.2
        case isFalse different =>
          have after : first < name := by
            apply String.not_le.mp
            intro least
            exact different (String.le_antisymm least (String.not_lt.mp notBefore))
          apply List.Pairwise.cons _ (induction ascending.of_cons.2)
          intro other member
          rw [mem_insert_iff ascending.of_cons.2] at member
          rcases member with rfl | ⟨-, inRest⟩
          · exact after
          · exact later other inRest

/-! ## Several variables -/

theorem setsLast_cons_iff (entry : String × String) (rest : List (String × String)) :
    SetsLast (entry :: rest) name value ↔
      SetsLast rest name value ∨ entry = (name, value) ∧ ∀ other ∈ rest, other.1 ≠ name := by
  constructor
  · rintro ⟨before, after, splits, last⟩
    cases before with
    | nil =>
        cases splits
        exact Or.inr ⟨rfl, last⟩
    | cons first before =>
        cases splits
        exact Or.inl ⟨before, after, rfl, last⟩
  · rintro (⟨before, after, rfl, last⟩ | ⟨rfl, last⟩)
    · exact ⟨entry :: before, after, rfl, last⟩
    · exact ⟨[], rest, rfl, last⟩

theorem Ascending.insertAll (ascending : environment.Ascending)
    (entries : List (String × String)) : (insertAll entries environment).Ascending := by
  induction entries generalizing environment with
  | nil => exact ascending
  | cons entry rest induction => exact induction (ascending.insert _ _)

/-- A variable has the last value that it is set to, or else the one that it had. -/
theorem mem_insertAll_iff (entries : List (String × String)) (ascending : environment.Ascending) :
    (name, value) ∈ insertAll entries environment ↔
      SetsLast entries name value ∨
        (∀ entry ∈ entries, entry.1 ≠ name) ∧ (name, value) ∈ environment := by
  induction entries generalizing environment with
  | nil => simp [insertAll, SetsLast]
  | cons entry rest induction =>
      have step : insertAll (entry :: rest) environment =
          insertAll rest (environment.insert entry.1 entry.2) := rfl
      rw [step, induction (ascending.insert _ _), mem_insert_iff ascending, setsLast_cons_iff,
        List.forall_mem_cons, eq_comm (a := (name, value))]
      have same : entry.1 ≠ name ↔ name ≠ entry.1 := ne_comm
      grind

theorem setsLast_iff_mem {entries : List (String × String)}
    (distinct : (entries.map (·.1)).Nodup) :
    SetsLast entries name value ↔ (name, value) ∈ entries := by
  induction entries with
  | nil => simp [SetsLast]
  | cons entry rest induction =>
      rw [List.map_cons, List.nodup_cons] at distinct
      rw [setsLast_cons_iff, induction distinct.2, List.mem_cons]
      have others : entry = (name, value) → ∀ other ∈ rest, other.1 ≠ name := by
        rintro rfl other member same
        exact distinct.1 (List.mem_map.mpr ⟨other, member, same⟩)
      grind

end Environment

/-! ## Workloads of a configuration -/

def openMpVariables (threads : Nat) : List (String × String) :=
  [("OMP_NUM_THREADS", toString threads), ("OMP_PROC_BIND", "spread"), ("OMP_PLACES", "cores")]

/-- The value of a variable for the configured program: one that spreads its threads, if
that is wanted, and else the one that is configured last. -/
def WorkloadSettings.Gives (settings : WorkloadSettings) (threads : Nat)
    (name value : String) : Prop :=
  if settings.openMp = true ∧ name ∈ (openMpVariables threads).map (·.1) then
    (name, value) ∈ openMpVariables threads
  else Environment.SetsLast settings.environment name value

/-- The workload runs the configured program on a machine with `threads` hardware threads in
all. Its variables are listed in ascending order of their names, each of them once. -/
structure Workload.Runs (workload : Workload) (settings : WorkloadSettings) (threads : Nat) :
    Prop where
  binary : workload.binary = settings.binary
  arguments : workload.arguments = settings.arguments
  listed : ∃ entries : Environment, entries.Ascending ∧
    workload.environmentList = entries.map (fun entry => entry.1 ++ "=" ++ entry.2) ∧
      ∀ name value, (name, value) ∈ entries ↔ settings.Gives threads name value

namespace WorkloadSettings

open Environment

variable {settings : WorkloadSettings} {threads : Nat} {name value : String}

theorem distinct_openMpVariables (threads : Nat) :
    ((openMpVariables threads).map (·.1)).Nodup := by
  change ["OMP_NUM_THREADS", "OMP_PROC_BIND", "OMP_PLACES"].Nodup
  decide

theorem environment_toWorkload (settings : WorkloadSettings) (threads : Nat) :
    (settings.toWorkload threads).environment =
      insertAll (if settings.openMp then openMpVariables threads else [])
        (insertAll settings.environment []) := by
  rw [toWorkload]
  cases settings.openMp <;> rfl

theorem ascending_configured (settings : WorkloadSettings) :
    (insertAll settings.environment []).Ascending :=
  Ascending.insertAll .nil settings.environment

theorem mem_configured_iff :
    (name, value) ∈ insertAll settings.environment [] ↔
      SetsLast settings.environment name value := by
  rw [mem_insertAll_iff settings.environment .nil]
  simp

theorem mem_environment_iff :
    (name, value) ∈ (settings.toWorkload threads).environment ↔
      settings.Gives threads name value := by
  rw [environment_toWorkload, mem_insertAll_iff _ settings.ascending_configured,
    mem_configured_iff, Gives]
  cases settings.openMp with
  | false => simp [SetsLast]
  | true =>
      rw [if_pos rfl, setsLast_iff_mem (distinct_openMpVariables threads)]
      by_cases named : name ∈ (openMpVariables threads).map (·.1)
      · rw [if_pos ⟨rfl, named⟩]
        apply or_iff_left
        rintro ⟨others, -⟩
        rcases List.mem_map.mp named with ⟨entry, member, same⟩
        exact others entry member same
      · rw [if_neg fun both => named both.2]
        have others : ∀ entry ∈ openMpVariables threads, entry.1 ≠ name :=
          fun entry member same => named (List.mem_map.mpr ⟨entry, member, same⟩)
        rw [and_iff_right others]
        exact or_iff_right fun member => others _ member rfl

theorem runs_toWorkload (settings : WorkloadSettings) (threads : Nat) :
    (settings.toWorkload threads).Runs settings threads where
  binary := by
    rw [toWorkload]
    cases settings.openMp <;> rfl
  arguments := by
    rw [toWorkload]
    cases settings.openMp <;> rfl
  listed := by
    refine ⟨_, ?_, rfl, fun name value => mem_environment_iff⟩
    rw [environment_toWorkload]
    exact settings.ascending_configured.insertAll _

end WorkloadSettings

end MemoryFabric
