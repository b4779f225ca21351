import BlockProgram.Decimal.Rounding
import BlockProgram.Decimal.Shortest
import BlockProgram.Decimal.Layout
import BlockProgram.Json.Value
import BlockProgram.Json.Reader
import BlockProgram.Json.Writer
import BlockProgram.Json.Typed
import BlockProgram.Block.Type
import BlockProgram.Block.Basic
import BlockProgram.Block.Json
import BlockProgram.Error
import BlockProgram.Chain
import BlockProgram.Graph.Basic
import BlockProgram.Graph.Edit
import BlockProgram.Command
import BlockProgram.Naming
import BlockProgram.Scale
import BlockProgram.CommandQueue
import BlockProgram.Delivery.Link
import BlockProgram.Delivery.Executor
import BlockProgram.Unicode.RangeSet
import BlockProgram.Unicode.Tables.Category
import BlockProgram.Unicode.Tables.Script
import BlockProgram.Unicode.Tables.ScriptExtension
import BlockProgram.Unicode.Tables.Binary
import BlockProgram.Unicode.Tables.Age
import BlockProgram.Unicode.Tables.Break
import BlockProgram.Unicode.Tables.PropertyName
import BlockProgram.Unicode.Tables.Folding
import BlockProgram.Unicode.Folding
import BlockProgram.Unicode.Property
import BlockProgram.Regex.Syntax
import BlockProgram.Regex.Parse
import BlockProgram.Regex.Limits
import BlockProgram.Regex.Compile
import BlockProgram.Regex.Match
import BlockProgram.Validation
import BlockProgram.Pattern
import BlockProgram.Rules
import BlockProgram.Toml.Value
import BlockProgram.Toml.Reader
import BlockProgram.Toml.Scalar
import BlockProgram.Toml.Document
import BlockProgram.Toml.Decode
import BlockProgram.Toolchain.Fault
import BlockProgram.Toolchain.Files
import BlockProgram.Toolchain.Config
import BlockProgram.Toolchain.Job
import BlockProgram.CommandLine.Grammar
import BlockProgram.CommandLine.Parse
import BlockProgram.Toolchain.Grammar
import BlockProgram.Toolchain.Execute
import BlockProgram.Main
import BlockProgram.Proofs.Chain.Walk
import BlockProgram.Proofs.Chain.Execution
import BlockProgram.Proofs.CommandQueue
import BlockProgram.Proofs.Graph.Valid
import BlockProgram.Proofs.Graph.Run
import BlockProgram.Proofs.Graph.WellFormed
import BlockProgram.Proofs.Graph.Invariant
import BlockProgram.Proofs.Graph.Errors
import BlockProgram.Proofs.Graph.Build
import BlockProgram.Proofs.Retry
import BlockProgram.Proofs.Delivery
import BlockProgram.Proofs.Chain.Validation
import BlockProgram.Proofs.QueueJoin
import BlockProgram.Proofs.Graph.Splice
import BlockProgram.Proofs.Graph.LooseLinks
import BlockProgram.Proofs.Matching
import BlockProgram.Proofs.Graph.Frame
import BlockProgram.Proofs.Graph.Normalize
import BlockProgram.Proofs.Graph.Removal
import BlockProgram.Proofs.Graph.Append
import BlockProgram.Proofs.QueueLoop
import BlockProgram.Proofs.Naming
