/-! Processor models, known only by their names and the optional ports they have. -/

namespace MemoryFabric

/-- An optional port of a processor model. -/
inductive Capability where
  | instructionWalker
  | dataWalker
  | interruptController
deriving DecidableEq, Repr

/-- Every capability, in the order in which its ports are wired. -/
def Capability.all : List Capability :=
  [.instructionWalker, .dataWalker, .interruptController]

structure CoreModel where
  name : String
  capabilities : List Capability
deriving DecidableEq, Repr

def CoreModel.supports (model : CoreModel) (capability : Capability) : Bool :=
  model.capabilities.contains capability

end MemoryFabric
