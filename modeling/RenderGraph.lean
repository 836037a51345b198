import RenderGraph.Layout.AutoConnect
import RenderGraph.Layout.Check
import RenderGraph.Plan.Document
import RenderGraph.Pipeline.Process
import RenderGraph.Device.Memory
import RenderGraph.Device.Scripted
import RenderGraph.Gpu.Device
import RenderGraph.Proofs.Order
import RenderGraph.Proofs.Path
import RenderGraph.Proofs.Name
import RenderGraph.Proofs.Schedule.Counters
import RenderGraph.Proofs.Schedule.Invariant
import RenderGraph.Proofs.Schedule.Preservation
import RenderGraph.Proofs.Schedule.Run
import RenderGraph.Proofs.Schedule.Sharing
import RenderGraph.Proofs.Schedule.Faithful
import RenderGraph.Proofs.Schedule.Liveness
import RenderGraph.Proofs.Schedule.Minimal
import RenderGraph.Proofs.Layout.Construction
import RenderGraph.Proofs.Layout.Wired
import RenderGraph.Proofs.Layout.Edits
import RenderGraph.Proofs.Flat.Merge
import RenderGraph.Proofs.Layout.Address
import RenderGraph.Proofs.Layout.Checked
import RenderGraph.Proofs.Flat.Survey
import RenderGraph.Proofs.Flat.Outcome
import RenderGraph.Proofs.Flat.DataFlow
import RenderGraph.Proofs.Schedule.Progress
import RenderGraph.Proofs.Schedule.Stuck
import RenderGraph.Proofs.Schedule.Queue
import RenderGraph.Proofs.Schedule.Greedy
import RenderGraph.Proofs.Action
import RenderGraph.Proofs.Compile.Problem
import RenderGraph.Proofs.Compile.Allocation
import RenderGraph.Proofs.Compile.Buildable
import RenderGraph.Proofs.Compile.Validated
import RenderGraph.Proofs.Device.Allocation
import RenderGraph.Proofs.Layout.Evaluation
import RenderGraph.Proofs.Monitor
import RenderGraph.Proofs.Run.Reachable
import RenderGraph.Proofs.Run.Rendering
import RenderGraph.Proofs.Run.Invariant
import RenderGraph.Proofs.Run.Meaning
import RenderGraph.Proofs.Layout.Names
import RenderGraph.Proofs.Flat.Paths
import RenderGraph.Proofs.Layout.Lookup
import RenderGraph.Proofs.Layout.Completion
import RenderGraph.Proofs.Flat.Lookup
import RenderGraph.Proofs.Run.Lookup
import RenderGraph.Proofs.Layout.Reordered
import RenderGraph.Proofs.Flat.Reordered
import RenderGraph.Proofs.Schedule.Reordered
import RenderGraph.Proofs.Compile.Reordered
import RenderGraph.Proofs.Compile.Pool
import RenderGraph.Proofs.Run.Calls
import RenderGraph.Proofs.Run.InRange
import RenderGraph.Proofs.Run.Failure
import RenderGraph.Proofs.Run.Recovery
import RenderGraph.Proofs.Run.Inputs
import RenderGraph.Proofs.Run.Monitoring
import RenderGraph.Proofs.Workspace.Operations
import RenderGraph.Proofs.Workspace.Ownership
import RenderGraph.Proofs.Layout.Findings
import RenderGraph.Proofs.Flat.Numbering
import RenderGraph.Proofs.Compile.Built
import RenderGraph.Proofs.Compile.Numbering
import RenderGraph.Proofs.Json.Literals
import RenderGraph.Proofs.Json.RoundTrip
import RenderGraph.Proofs.Plan.Document
import RenderGraph.Proofs.Gpu.Descriptor
import RenderGraph.Proofs.Schedule.Exact
import RenderGraph.Proofs.Flat.Loops
