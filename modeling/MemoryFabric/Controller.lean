import MemoryFabric.Interleave.Plan

/-! Memory controllers, where every route ends, and the bank of controllers that
serves the channels of a plan. -/

namespace MemoryFabric

structure MemoryController where
  predicate : AddressPredicate
  channel : Option Nat := none
  /-- The file that configures the controller in the simulator. -/
  configPath : String := ""
  outputDirectory : String
  /-- A controller without storage only holds its place. -/
  isBacked : Bool := true
deriving DecidableEq

namespace MemoryController

def accepts (controller : MemoryController) (address : UInt64) : Bool :=
  controller.predicate.accepts address

def channelDirectory (stem : String) (channel : Nat) : String :=
  s!"{stem}_ch{channel}_out"

def singleDirectory (stem : String) : String :=
  s!"{stem}_out"

def bank (plan : InterleavePlan) (stem configPath : String) (isBacked : Bool) :
    List MemoryController :=
  plan.channels.map fun share => {
    predicate := share.predicate
    channel := some share.channel
    configPath
    outputDirectory := channelDirectory stem share.channel
    isBacked }

end MemoryController

end MemoryFabric
