import MemoryFabric.Fault
import MemoryFabric.Quantity.Latency

/-! Sizes and delays from text, with the fault of a text that states none. -/

namespace MemoryFabric

def ByteSize.read (text : String) : Except Fault ByteSize :=
  match ofText? text with
  | some size => .ok size
  | none => .error (.unreadableQuantity text)

def Latency.read (text : String) : Except Fault Latency :=
  match ofText? text with
  | some latency => .ok latency
  | none => .error (.unreadableQuantity text)

end MemoryFabric
