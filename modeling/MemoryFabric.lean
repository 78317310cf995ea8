import MemoryFabric.Address.BitPattern
import MemoryFabric.Address.Predicate
import MemoryFabric.Address.Range.Basic
import MemoryFabric.Address.Range.Checked
import MemoryFabric.Cache
import MemoryFabric.Check.All
import MemoryFabric.Check.Coverage
import MemoryFabric.Check.Disjointness
import MemoryFabric.Check.Peers
import MemoryFabric.Check.Reachability
import MemoryFabric.Check.Segments
import MemoryFabric.CommandLine.Command
import MemoryFabric.CommandLine.Folder
import MemoryFabric.CommandLine.Report
import MemoryFabric.CommandLine.Run
import MemoryFabric.Configuration.Basic
import MemoryFabric.Configuration.Layout
import MemoryFabric.Controller
import MemoryFabric.Core
import MemoryFabric.Document.Basic
import MemoryFabric.Document.Decoder
import MemoryFabric.Document.Flaw
import MemoryFabric.Document.Printer
import MemoryFabric.Document.Reader
import MemoryFabric.Fault
import MemoryFabric.Graph.Basic
import MemoryFabric.Graph.Node
import MemoryFabric.Graph.Route
import MemoryFabric.Graph.Wiring
import MemoryFabric.Interleave.Plan
import MemoryFabric.Machine.Basic
import MemoryFabric.Machine.Blueprint
import MemoryFabric.Machine.Core
import MemoryFabric.Main
import MemoryFabric.Number.Binary64
import MemoryFabric.Number.Shortest
import MemoryFabric.Proofs.Address.Aliases
import MemoryFabric.Proofs.Address.BitPattern
import MemoryFabric.Proofs.Address.Field
import MemoryFabric.Proofs.Address.Overflow
import MemoryFabric.Proofs.Address.Range
import MemoryFabric.Proofs.Address.Search
import MemoryFabric.Proofs.Address.Span
import MemoryFabric.Proofs.Address.Submasks
import MemoryFabric.Proofs.Address.WordSearch
import MemoryFabric.Proofs.Check.Aliases
import MemoryFabric.Proofs.Check.Claims
import MemoryFabric.Proofs.Check.Coverage
import MemoryFabric.Proofs.Check.Crossbar
import MemoryFabric.Proofs.Check.Disjointness
import MemoryFabric.Proofs.Check.Gaps
import MemoryFabric.Proofs.Check.Losses
import MemoryFabric.Proofs.Check.Peers
import MemoryFabric.Proofs.Check.Reachability
import MemoryFabric.Proofs.Check.Rewiring
import MemoryFabric.Proofs.Check.Segments
import MemoryFabric.Proofs.Check.Spans
import MemoryFabric.Proofs.Check.Tiling
import MemoryFabric.Proofs.Configuration.Description
import MemoryFabric.Proofs.Configuration.Overlay
import MemoryFabric.Proofs.Core
import MemoryFabric.Proofs.Document.Layout
import MemoryFabric.Proofs.Document.Schema
import MemoryFabric.Proofs.Document.Values
import MemoryFabric.Proofs.FirstFault
import MemoryFabric.Proofs.Graph.Adjacency
import MemoryFabric.Proofs.Graph.Atomicity
import MemoryFabric.Proofs.Graph.Coherence
import MemoryFabric.Proofs.Graph.Decisions
import MemoryFabric.Proofs.Graph.Idling
import MemoryFabric.Proofs.Graph.LinkOrder
import MemoryFabric.Proofs.Graph.Linking
import MemoryFabric.Proofs.Graph.Lockstep
import MemoryFabric.Proofs.Graph.Netlist
import MemoryFabric.Proofs.Graph.Paths
import MemoryFabric.Proofs.Graph.PortOrder
import MemoryFabric.Proofs.Graph.Ports
import MemoryFabric.Proofs.Graph.Rewiring
import MemoryFabric.Proofs.Graph.Routing
import MemoryFabric.Proofs.Graph.Soundness
import MemoryFabric.Proofs.Graph.Wired
import MemoryFabric.Proofs.Interleave.Balance
import MemoryFabric.Proofs.Interleave.Ownership
import MemoryFabric.Proofs.Interleave.Partition
import MemoryFabric.Proofs.Machine.Assembling
import MemoryFabric.Proofs.Machine.Blueprint
import MemoryFabric.Proofs.Machine.Checks
import MemoryFabric.Proofs.Machine.CoreRoutes
import MemoryFabric.Proofs.Machine.Delivery
import MemoryFabric.Proofs.Machine.Directories
import MemoryFabric.Proofs.Machine.Drafting
import MemoryFabric.Proofs.Machine.Given
import MemoryFabric.Proofs.Machine.Inventory
import MemoryFabric.Proofs.Machine.Layout
import MemoryFabric.Proofs.Machine.Names
import MemoryFabric.Proofs.Machine.Requests
import MemoryFabric.Proofs.Machine.Routes
import MemoryFabric.Proofs.Machine.Stations
import MemoryFabric.Proofs.Machine.Wiring
import MemoryFabric.Proofs.Quantity.Latency
import MemoryFabric.Proofs.Quantity.LatencyText
import MemoryFabric.Proofs.Quantity.SizeText
import MemoryFabric.Proofs.Quantity.Sums
import MemoryFabric.Proofs.Quantity.WrittenSizes
import MemoryFabric.Proofs.Workload
import MemoryFabric.Quantity.Latency
import MemoryFabric.Quantity.Read
import MemoryFabric.Quantity.Size
import MemoryFabric.Text.Blank
import MemoryFabric.Text.CharacterClass
import MemoryFabric.Text.Numeral
import MemoryFabric.Text.Quoted
import MemoryFabric.Workload
