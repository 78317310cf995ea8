import MemoryFabric.Cache
import MemoryFabric.Controller
import MemoryFabric.Quantity.Latency

/-! The vertices of a fabric and their ports. A request leaves a node through its
memory side and enters the next one through that node's processor side. Only a
crossbar has several ports on a side; every other node has at most one. -/

namespace MemoryFabric

/-- The place of a node in the order in which nodes were added. -/
structure NodeId where
  index : Nat
deriving DecidableEq, Repr

instance : ToString NodeId := ⟨fun node => s!"#{node.index}"⟩

inductive Side where
  | cpu
  | mem
deriving DecidableEq, Repr

namespace Side

def opposite : Side → Side
  | .cpu => .mem
  | .mem => .cpu

def precedes : Side → Side → Bool
  | .cpu, .mem => true
  | _, _ => false

protected def toString : Side → String
  | .cpu => "cpu_side"
  | .mem => "mem_side"

instance : ToString Side := ⟨Side.toString⟩

end Side

structure Endpoint where
  node : NodeId
  side : Side
  index : Nat
deriving DecidableEq, Repr

inductive RequestorRole where
  | instructionPort
  | dataPort
  | instructionWalker
  | dataWalker
  | interruptRequestor
  | systemPort
deriving DecidableEq, Repr

structure Requestor where
  role : RequestorRole
  core : Option Nat
  /-- The addresses it may ask for; each of them must lead to a controller. -/
  ranges : List AddressRange
deriving DecidableEq

/-- A crossbar, with its transfer width in bytes. -/
structure Bus where
  width : UInt64
deriving DecidableEq, Repr

/-- A forwarder that takes a fixed time and lets only some addresses pass. -/
structure Bridge where
  allowed : List AddressPredicate
  latency : Latency
deriving DecidableEq

def Bridge.accepts (bridge : Bridge) (address : UInt64) : Bool :=
  bridge.allowed.any (·.accepts address)

structure Cache where
  level : CacheLevel
  parameters : CacheParameters
deriving DecidableEq, Repr

inductive NodeKind where
  | requestor (requestor : Requestor)
  | bus (bus : Bus)
  | bridge (bridge : Bridge)
  | cache (cache : Cache)
  | controller (controller : MemoryController)
deriving DecidableEq

namespace NodeKind

def isBus : NodeKind → Bool
  | .bus _ => true
  | _ => false

def hasSide : NodeKind → Side → Bool
  | .requestor _, .cpu => false
  | .controller _, .mem => false
  | _, _ => true

/-- The ports of the side are numbered and made on demand. -/
def isVector (kind : NodeKind) (side : Side) : Bool :=
  kind.isBus && kind.hasSide side

def predicates? : NodeKind → Option (List AddressPredicate)
  | .bridge forwarder => some forwarder.allowed
  | .controller sink => some [sink.predicate]
  | .requestor _ | .bus _ | .cache _ => none

/-- A request for the address may be forwarded to the node. Requestors accept
nothing; crossbars and caches accept everything. -/
def accepts (kind : NodeKind) (address : UInt64) : Bool :=
  match kind with
  | .requestor _ => false
  | .bus _ | .cache _ => true
  | .bridge forwarder => forwarder.accepts address
  | .controller sink => sink.accepts address

end NodeKind

structure Node where
  name : String
  kind : NodeKind
deriving DecidableEq

end MemoryFabric
