import MemoryFabric.CommandLine.Command
import MemoryFabric.CommandLine.Folder
import MemoryFabric.CommandLine.Report
import MemoryFabric.Configuration.Layout

/-! Running a command: what is written and the status the program ends with. -/

namespace MemoryFabric

structure Outcome where
  /-- Zero for success, one for a fault, two for words that give no command. -/
  status : Nat
  output : String := ""
  fault : Option String := none
deriving DecidableEq

namespace Command

def machineOf (file : String) (content : Except String ByteArray) : Except Fault Machine := do
  let configuration ← Configuration.ofFile file content
  Machine.assemble { configuration }

def reportFault (output : String) (fault : Fault) : Outcome :=
  ⟨1, output, some ("error: " ++ fault.message)⟩

/-- The routes of addresses one after another, up to the first that has none. -/
def showRoutes (machine : Machine) (origin : NodeId) (output : String) :
    List UInt64 → Outcome
  | [] => ⟨0, output, none⟩
  | address :: rest =>
      match machine.route origin address with
      | .error fault => reportFault output fault
      | .ok found =>
          showRoutes machine origin
            (output ++ Report.routeLine machine.graph address found ++ "\n") rest

def originOf (machine : Machine) (core : Nat) (port : OriginPort) : Except Fault NodeId :=
  match machine.core? core with
  | none => misconfigured (.noSuchCore core machine.nodes.cores.length)
  | some binding =>
      match port with
      | .instruction => .ok binding.instructionPort
      | .data => .ok binding.dataPort

def versionText : String := "memtopo 0.3.0\n"

def helpText : String :=
  "Build, validate, and query the memory routing topology of a simulated multi-core machine.\n" ++
  "\n" ++
  "  [-v] check CONFIG [--json]\n" ++
  "  [-v] route CONFIG [--core N] [--port inst|data] ADDRESS...\n"

def run (command : Command) (content : Except String ByteArray) : Outcome :=
  match command with
  | .showHelp => ⟨0, helpText, none⟩
  | .showVersion => ⟨0, versionText, none⟩
  | .check file asJson =>
      match machineOf file content with
      | .error fault => reportFault "" fault
      | .ok machine =>
          let output :=
            if asJson then (Report.machineRecord machine).pretty 0
            else "\n".intercalate (Report.machineLines machine)
          ⟨0, output ++ "\n", none⟩
  | .route file core port addresses =>
      match machineOf file content with
      | .error fault => reportFault "" fault
      | .ok machine =>
          match originOf machine core port with
          | .error fault => reportFault "" fault
          | .ok origin => showRoutes machine origin "" addresses

def runIn (folder : Folder) (command : Command) : Outcome :=
  command.run ((folder.read (command.file?.getD "")).mapError PathProblem.message)

end Command

namespace Outcome

def misused : Outcome := ⟨2, "", none⟩

def ofWords (folder : Folder) (words : List String) : Outcome :=
  match Command.parse? words with
  | some command => command.runIn folder
  | none => misused

end Outcome

end MemoryFabric
