import MemoryFabric.Quantity.Size

/-! The commands of the program and how they are written. -/

namespace MemoryFabric

inductive OriginPort where
  | instruction
  | data
deriving DecidableEq, Repr

inductive Command where
  | check (file : String) (asJson : Bool)
  | route (file : String) (core : Nat) (port : OriginPort) (addresses : List UInt64)
  | showHelp
  | showVersion
deriving DecidableEq

namespace Command

def file? : Command → Option String
  | .check file _ => some file
  | .route file _ _ _ => some file
  | .showHelp | .showVersion => none

/-- The value of a core number; a plus sign may precede its digits. -/
def readCore? (text : String) : Option Nat :=
  let digits := match text.toList with
    | '+' :: rest => rest
    | digits => digits
  (Text.readWord 10 digits).map UInt64.toNat

def readPort? : String → Option OriginPort
  | "inst" => some .instruction
  | "data" => some .data
  | _ => none

structure Words where
  isVerbose : Bool := false
  asJson : Bool := false
  core : Option Nat := none
  port : Option OriginPort := none
  file : Option String := none
  /-- The last address first. -/
  addresses : List UInt64 := []

inductive Taken (α : Type) where
  | words (value : α)
  | help
  | version

inductive Options where
  | ofCheck
  | ofRoute
deriving DecidableEq

def noteVerbose? (words : Words) : Option Words :=
  if words.isVerbose then none else some { words with isVerbose := true }

def noteJson? (options : Options) (words : Words) : Option Words :=
  if options = .ofCheck && !words.asJson then some { words with asJson := true } else none

def noteCore? (options : Options) (words : Words) (value : String) : Option Words := do
  if options = .ofRoute && words.core.isNone then
    return { words with core := some (← readCore? value) }
  else none

def notePort? (options : Options) (words : Words) (value : String) : Option Words := do
  if options = .ofRoute && words.port.isNone then
    return { words with port := some (← readPort? value) }
  else none

/-- A word that is no option: first the file, which has a name, and then the
addresses of a route. -/
def notePositional? (options : Options) (words : Words) (word : String) : Option Words := do
  if words.file.isNone then
    if word.isEmpty then none else some { words with file := some word }
  else
    match options with
    | .ofCheck => none
    | .ofRoute =>
        return { words with addresses := (← ByteSize.ofText? word).bytes :: words.addresses }

def takeLetters? (words : Words) : List Char → Option (Taken Words)
  | [] => some (.words words)
  | 'v' :: rest => do takeLetters? (← noteVerbose? words) rest
  | 'h' :: _ => some .help
  | _ => none

def splitOption (word : List Char) : String × Option String :=
  let name := word.takeWhile (· != '=')
  match word.drop name.length with
  | [] => (String.ofList name, none)
  | _ :: value => (String.ofList name, some (String.ofList value))

def looksLikeOption (word : String) : Bool :=
  match word.toList with
  | ['-'] => false
  | '-' :: _ => true
  | _ => false

/-- The words after the name of a command, in any order. The first word that
cannot be taken decides, and so does the first that asks for help. After two
hyphens no word is an option. -/
def takeWords? (options : Options) (words : Words) : List String → Option (Taken Words)
  | [] => some (.words words)
  | word :: rest =>
      match word.toList with
      | ['-', '-'] => (rest.foldlM (notePositional? options) words).map .words
      | '-' :: '-' :: option =>
          match splitOption option with
          | ("verbose", none) => do takeWords? options (← noteVerbose? words) rest
          | ("help", none) => some .help
          | ("json", none) => do takeWords? options (← noteJson? options words) rest
          | ("core", some value) => do takeWords? options (← noteCore? options words value) rest
          | ("port", some value) => do takeWords? options (← notePort? options words value) rest
          | (name, none) =>
              match rest with
              | value :: rest =>
                  if looksLikeOption value then none
                  else if name = "core" then do
                    takeWords? options (← noteCore? options words value) rest
                  else if name = "port" then do
                    takeWords? options (← notePort? options words value) rest
                  else none
              | [] => none
          | _ => none
      | '-' :: letter :: letters => do
          match ← takeLetters? words (letter :: letters) with
          | .words words => takeWords? options words rest
          | .help => some .help
          | .version => some .version
      | _ => do takeWords? options (← notePositional? options words word) rest

def ofWords? (options : Options) (words : Words) : Option Command := do
  let file ← words.file
  match options with
  | .ofCheck => return .check file words.asJson
  | .ofRoute =>
      if words.addresses.isEmpty then none
      else
        return .route file (words.core.getD 0) (words.port.getD .data) words.addresses.reverse

def ofTaken? (options : Options) : Taken Words → Option Command
  | .words words => ofWords? options words
  | .help => some .showHelp
  | .version => some .showVersion

def ofName? (name : String) (rest : List String) : Option Command :=
  match name with
  | "check" => do ofTaken? .ofCheck (← takeWords? .ofCheck {} rest)
  | "route" => do ofTaken? .ofRoute (← takeWords? .ofRoute {} rest)
  | "help" =>
      match rest with
      | [] | ["check"] | ["route"] | ["help"] => some .showHelp
      | _ => none
  | _ => none

def takeFirstLetters? (isVerbose : Bool) : List Char → Option (Taken Bool)
  | [] => some (.words isVerbose)
  | 'v' :: rest => if isVerbose then none else takeFirstLetters? true rest
  | 'h' :: _ => some .help
  | 'V' :: _ => some .version
  | _ => none

def parseFrom? (isVerbose : Bool) : List String → Option Command
  | [] => none
  | word :: rest =>
      match word.toList with
      | '-' :: '-' :: option =>
          match String.ofList option with
          | "verbose" => if isVerbose then none else parseFrom? true rest
          | "help" => some .showHelp
          | "version" => some .showVersion
          | _ => none
      | '-' :: letter :: letters => do
          match ← takeFirstLetters? isVerbose (letter :: letters) with
          | .words isVerbose => parseFrom? isVerbose rest
          | .help => some .showHelp
          | .version => some .showVersion
      | _ => ofName? word rest

def parse? (words : List String) : Option Command :=
  parseFrom? false words

end Command

end MemoryFabric
