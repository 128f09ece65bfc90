import Automation.Catalog
import Automation.Chars.Blank
import Automation.Chars.Case
import Automation.Chars.CaseTable
import Automation.Chars.Digit
import Automation.Chars.Encoding
import Automation.Chars.Octets
import Automation.Chars.Printable
import Automation.Chars.Ranges
import Automation.Chars.Word
import Automation.CommandLine.Command
import Automation.CommandLine.Execution
import Automation.CommandLine.Options
import Automation.Completion.Chat
import Automation.Completion.Fence
import Automation.Completion.Proxy
import Automation.Completion.Reading
import Automation.Completion.Request
import Automation.Completion.Service
import Automation.Completion.Setting
import Automation.Completion.Span
import Automation.Failure
import Automation.Generation
import Automation.Graph.Assembly
import Automation.Graph.Basic
import Automation.Graph.Export
import Automation.Graph.Layout
import Automation.Graph.Naming
import Automation.Graph.Wiring
import Automation.Json.Alike
import Automation.Json.Basic
import Automation.Json.Display
import Automation.Json.Dump
import Automation.Json.Pairs
import Automation.Json.Printer
import Automation.Json.Reader
import Automation.Leading
import Automation.Limits
import Automation.Main
import Automation.Node.Builtin
import Automation.Node.Builtin.Data
import Automation.Node.Builtin.Flow
import Automation.Node.Builtin.Service
import Automation.Node.Builtin.Table
import Automation.Node.Builtin.Trigger
import Automation.Node.Declaration
import Automation.Node.Definition
import Automation.Node.Model
import Automation.Node.Parameters
import Automation.Number
import Automation.Number.Binary64
import Automation.Number.Numeral
import Automation.Number.Shortest
import Automation.Plan.Decomposition
import Automation.Plan.Mapping
import Automation.Progress.Event
import Automation.Progress.Hub
import Automation.Progress.Traffic
import Automation.Record
import Automation.Rule.Basic
import Automation.Rule.Mention
import Automation.Rule.Standard
import Automation.Server.Address
import Automation.Server.Api
import Automation.Server.Log
import Automation.Server.Request
import Automation.Stage.Architecture
import Automation.Stage.Basic
import Automation.Stage.Decomposition
import Automation.Stage.InPlace
import Automation.Stage.Mapping
import Automation.Stage.Optimization
import Automation.Stage.Prompt
import Automation.Stage.Run
import Automation.Stage.Store
import Automation.Step.Basic
import Automation.Step.Guard
import Automation.Step.Kind
import Automation.Step.Merge
import Automation.Step.Order
import Automation.Step.Reading
import Automation.Storage.Basic
import Automation.Storage.Export
import Automation.Storage.Path
import Automation.Text
import Automation.Proofs.Catalog.Excerpt
import Automation.Proofs.Catalog.Occurrences
import Automation.Proofs.Catalog.Views
import Automation.Proofs.Chars.Octets
import Automation.Proofs.Completion.Embedding
import Automation.Proofs.Completion.Fenced
import Automation.Proofs.Completion.Spans
import Automation.Proofs.Completion.Transport
import Automation.Proofs.Completion.Unfenced
import Automation.Proofs.Generation.Confinement
import Automation.Proofs.Generation.Reports
import Automation.Proofs.Generation.Result
import Automation.Proofs.Generation.Retries
import Automation.Proofs.Generation.Visits
import Automation.Proofs.Graph.Columns
import Automation.Proofs.Graph.Contents
import Automation.Proofs.Graph.Exchange
import Automation.Proofs.Graph.Filename
import Automation.Proofs.Graph.Lanes
import Automation.Proofs.Graph.ShortNames
import Automation.Proofs.Graph.UniqueNames
import Automation.Proofs.Json.Exchange
import Automation.Proofs.Json.Floats
import Automation.Proofs.Json.Integers
import Automation.Proofs.Json.Quoted
import Automation.Proofs.Json.ReadBack
import Automation.Proofs.Node.Cleaning
import Automation.Proofs.Node.Partition
import Automation.Proofs.Plan.Decomposition
import Automation.Proofs.Plan.Mapping
import Automation.Proofs.Plan.Rereading
import Automation.Proofs.Progress.Interleaving
import Automation.Proofs.Progress.Order
import Automation.Proofs.Progress.Sessions
import Automation.Proofs.Record
import Automation.Proofs.Stage.Attempts
import Automation.Proofs.Stage.Frame
import Automation.Proofs.Stage.Pauses
import Automation.Proofs.Stage.Retries
import Automation.Proofs.Stage.Revision
import Automation.Proofs.Stage.Settlement
import Automation.Proofs.Stage.Showing
import Automation.Proofs.Step.Folding
import Automation.Proofs.Step.Guard
import Automation.Proofs.Step.Listing
import Automation.Proofs.Step.Padding
import Automation.Proofs.Step.Repair
import Automation.Proofs.Step.Rereading
import Automation.Proofs.Step.Showing
import Automation.Proofs.Storage.Files
import Automation.Proofs.Storage.Sessions
