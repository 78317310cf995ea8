import MemoryFabric.Graph.Basic

/-! Routes. A crossbar forwards an address to the only node below it that accepts
it, a bridge filters and takes its time, caches and requestors forward, and a
controller ends the route. -/

namespace MemoryFabric

structure Route where
  /-- The nodes visited, the origin first and the controller last. -/
  hops : List NodeId
  /-- The delays of the bridges on the way, added up. -/
  latency : Latency
deriving DecidableEq

def Route.terminal? (route : Route) : Option NodeId :=
  route.hops.getLast?

inductive Hop where
  | served
  | forwarded (next : NodeId) (delay : Latency)
deriving DecidableEq

namespace Graph

def accepts (graph : Graph) (node : NodeId) (address : UInt64) : Bool :=
  match graph.kind? node with
  | some kind => kind.accepts address
  | none => false

def unroutable (graph : Graph) (origin place : NodeId) (address : UInt64) : Fault :=
  .unroutable (graph.nameOf origin) (graph.nameOf place) address

def select (graph : Graph) (origin bus : NodeId) (address : UInt64) : Except Fault NodeId :=
  match (graph.downstream bus).filter (graph.accepts · address) with
  | [] => .error (graph.unroutable origin bus address)
  | [only] => .ok only
  | first :: second :: _ =>
      .error (.ambiguousRoute (graph.nameOf bus) (graph.nameOf first) (graph.nameOf second)
        address)

def soleDownstream (graph : Graph) (origin place : NodeId) (address : UInt64) :
    Except Fault NodeId :=
  match graph.peer? ⟨place, .mem, 0⟩ with
  | some peer => .ok peer.node
  | none => .error (graph.unroutable origin place address)

def hop (graph : Graph) (origin place : NodeId) (address : UInt64) : Except Fault Hop :=
  match graph.kind? place with
  | none => .error (graph.unroutable origin place address)
  | some (.controller controller) =>
      if controller.accepts address then .ok .served
      else .error (graph.unroutable origin place address)
  | some (.bus _) => do
      return .forwarded (← graph.select origin place address) 0
  | some (.bridge bridge) =>
      if bridge.accepts address then do
        return .forwarded (← graph.soleDownstream origin place address) bridge.latency
      else .error (graph.unroutable origin place address)
  | some (.requestor _) | some (.cache _) => do
      return .forwarded (← graph.soleDownstream origin place address) 0

def follow (graph : Graph) (origin : NodeId) (address : UInt64) :
    (fuel : Nat) → (place : NodeId) → Except Fault Route
  | 0, _ => .error (.routingLoop (graph.nameOf origin) address)
  | fuel + 1, place => do
      match ← graph.hop origin place address with
      | .served => return ⟨[place], 0⟩
      | .forwarded next delay =>
          let rest ← graph.follow origin address fuel next
          return ⟨place :: rest.hops, delay + rest.latency⟩

/-- The route of an address from a node. A route visits no node twice, so one
that is not over after as many nodes as there are goes round in a loop. -/
def route (graph : Graph) (origin : NodeId) (address : UInt64) : Except Fault Route :=
  match graph.node? origin with
  | none => .error (.noSuchEndpoint (toString origin) "origin")
  | some _ => graph.follow origin address graph.size origin

end Graph

end MemoryFabric
