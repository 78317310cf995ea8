import MemoryFabric.CommandLine.Run

/-! The command line program. -/

namespace MemoryFabric.CommandLine

def problemText : IO.Error → String
  | .noFileOrDirectory _ _ _ => PathProblem.missing.message
  | .permissionDenied _ _ _ => PathProblem.denied.message
  | .inappropriateType _ 20 _ => PathProblem.notFolder.message
  | .inappropriateType _ _ _ => PathProblem.isFolder.message
  | problem => toString problem

def contentOf (file? : Option String) : IO (Except String ByteArray) := do
  match file? with
  | none => return .ok ByteArray.empty
  | some file =>
      try
        return .ok (← IO.FS.readBinFile file)
      catch problem =>
        return .error (problemText problem)

def outcomeOf (words : List String) : IO Outcome := do
  match Command.parse? words with
  | none => return Outcome.misused
  | some command => return command.run (← contentOf command.file?)

end MemoryFabric.CommandLine

open MemoryFabric in
def main (words : List String) : IO UInt32 := do
  let outcome ← CommandLine.outcomeOf words
  (← IO.getStdout).putStr outcome.output
  if let some fault := outcome.fault then
    (← IO.getStderr).putStrLn fault
  return UInt32.ofNat outcome.status
