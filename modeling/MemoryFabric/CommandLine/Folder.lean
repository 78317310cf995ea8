/-! The folder that a command is run in: what is read under a path, and why
nothing is. A path names a file of the folder, steps within the folder, or steps
out of it, where nothing but folders is known. -/

namespace MemoryFabric

inductive PathProblem where
  | missing
  | denied
  | notFolder
  | isFolder
  | nameTooLong
deriving DecidableEq, Repr

def PathProblem.message : PathProblem → String
  | .missing => "No such file or directory (os error 2)"
  | .denied => "Permission denied (os error 13)"
  | .notFolder => "Not a directory (os error 20)"
  | .isFolder => "Is a directory (os error 21)"
  | .nameTooLong => "File name too long (os error 36)"

structure Folder where
  files : List (String × ByteArray)

namespace Folder

def empty : Folder := ⟨[]⟩

def greatestNameSize : Nat := 255
def greatestPathSize : Nat := 4095

inductive Place where
  | here
  | outside
  | file (content : ByteArray)

/-- The place that one name leads to; an empty name stays. -/
def step (folder : Folder) (place : Place) (name : String) : Except PathProblem Place :=
  match place with
  | .file _ => .error .notFolder
  | .here =>
      if name = "" || name = "." then .ok .here
      else if name = ".." then .ok .outside
      else if name.utf8ByteSize > greatestNameSize then .error .nameTooLong
      else
        match folder.files.lookup name with
        | some content => .ok (.file content)
        | none => .error .missing
  | .outside =>
      if name = "" || name = "." || name = ".." then .ok .outside
      else if name.utf8ByteSize > greatestNameSize then .error .nameTooLong
      else .error .missing

/-- A path that begins with a slash begins outside. -/
def start (path : String) : Place :=
  if path.startsWith "/" then .outside else .here

def read (folder : Folder) (path : String) : Except PathProblem ByteArray := do
  if path.isEmpty then .error .missing
  else if path.utf8ByteSize > greatestPathSize then .error .nameTooLong
  else
    match ← (path.splitOn "/").foldlM folder.step (start path) with
    | .file content => .ok content
    | .here | .outside => .error .isFolder

end Folder

end MemoryFabric
