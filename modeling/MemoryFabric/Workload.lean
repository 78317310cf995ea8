/-! Workloads: the program that one hardware thread runs, with its arguments and
its environment. -/

namespace MemoryFabric

/-- Variables and their values, in ascending order of their names. -/
abbrev Environment := List (String × String)

namespace Environment

def insert (name value : String) : Environment → Environment
  | [] => [(name, value)]
  | (head, known) :: rest =>
      if name < head then (name, value) :: (head, known) :: rest
      else if name = head then (name, value) :: rest
      else (head, known) :: insert name value rest

def insertAll (entries : List (String × String)) (environment : Environment) : Environment :=
  entries.foldl (fun known entry => known.insert entry.1 entry.2) environment

end Environment

structure Workload where
  binary : String
  arguments : List String := []
  environment : Environment := []
deriving DecidableEq, Repr

namespace Workload

def withArguments (workload : Workload) (arguments : List String) : Workload :=
  { workload with arguments := workload.arguments ++ arguments }

def withVariable (workload : Workload) (name value : String) : Workload :=
  { workload with environment := workload.environment.insert name value }

/-- Sets the variables that spread the threads of a program over all cores of a
machine with `threads` hardware threads. -/
def withOpenMp (workload : Workload) (threads : Nat) : Workload :=
  ((workload.withVariable "OMP_NUM_THREADS" s!"{threads}").withVariable
    "OMP_PROC_BIND" "spread").withVariable "OMP_PLACES" "cores"

def command (workload : Workload) : List String :=
  workload.binary :: workload.arguments

def environmentList (workload : Workload) : List String :=
  workload.environment.map fun entry => entry.1 ++ "=" ++ entry.2

def replicate (workload : Workload) (threads : Nat) : List Workload :=
  List.replicate threads workload

end Workload

end MemoryFabric
