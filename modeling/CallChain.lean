import CallChain.Binding.AnyObject
import CallChain.Binding.Bag
import CallChain.Binding.Banner
import CallChain.Binding.Reflected
import CallChain.Binding.Target
import CallChain.Build
import CallChain.Codec.Basic
import CallChain.CommandLine.Arguments
import CallChain.CommandLine.Commands
import CallChain.CommandLine.Duration
import CallChain.CommandLine.Help
import CallChain.CommandLine.Outcome
import CallChain.CommandLine.Request
import CallChain.CommandLine.Shape
import CallChain.Document.Basic
import CallChain.Document.Binary
import CallChain.Document.File
import CallChain.Document.Json
import CallChain.FileTree
import CallChain.Json.Fields
import CallChain.Json.Numeral
import CallChain.Json.Parse
import CallChain.Json.Reader
import CallChain.Json.Sorted
import CallChain.Json.Syntax
import CallChain.Json.Writer
import CallChain.Lowering
import CallChain.Manager
import CallChain.Node.Basic
import CallChain.Node.Edit
import CallChain.Node.Fault
import CallChain.Node.MenuAction
import CallChain.Node.MenuActionJson
import CallChain.Node.Names
import CallChain.Node.Session
import CallChain.Node.Validation
import CallChain.Notice
import CallChain.Number.Binary64
import CallChain.Number.Form
import CallChain.Number.Scaling
import CallChain.Number.Shortest
import CallChain.Plan.Basic
import CallChain.Plan.Json
import CallChain.Plan.Listing
import CallChain.Plan.Verification
import CallChain.Run.Chain
import CallChain.Run.Trace
import CallChain.Sheet
import CallChain.Text.Alphanumeric
import CallChain.Text.Blank
import CallChain.Text.Quoted
import CallChain.Text.Ranges
import CallChain.Text.Utf8
import CallChain.Text.Visible
import CallChain.Value
import CallChain.Value.Json
import CallChain.ValueType
import CallChain.Main
import CallChain.Proofs.Sequence
import CallChain.Proofs.Lowering.Steps
import CallChain.Run.Interpretation
import CallChain.Proofs.Run.Machine
import CallChain.Proofs.Value.Conversion
import CallChain.Proofs.Lowering.Meaning
import CallChain.Proofs.Lowering.Redirects
import CallChain.Proofs.Node.Consistency
import CallChain.Proofs.Lowering.Inputs
import CallChain.Proofs.Lowering.Faults
import CallChain.Proofs.Build.Stopping
import CallChain.Proofs.Lowering.Verified
import CallChain.Proofs.Lowering.Safety
import CallChain.Proofs.Node.Names
import CallChain.Proofs.Node.Slots
import CallChain.Proofs.Node.Changes
import CallChain.Proofs.Node.Editing
import CallChain.Proofs.Node.Histories
import CallChain.Document.Contents
import CallChain.Proofs.Codec.Faithful
import CallChain.Proofs.Document.Validation
import CallChain.Proofs.Document.Binary
import CallChain.Proofs.Json.Numerals
import CallChain.Proofs.Json.Strings
import CallChain.Proofs.Json.RoundTrip
import CallChain.Proofs.Document.Json
import CallChain.Proofs.FileTree
import CallChain.Proofs.Node.MenuActions
import CallChain.Proofs.Document.File
import CallChain.Proofs.Document.Editing
import CallChain.Proofs.CommandLine.Edit
import CallChain.Proofs.Plan.Guarded
import CallChain.Run.Visits
import CallChain.Proofs.Run.Execution
import CallChain.Proofs.Run.Forward
import CallChain.Proofs.Run.InvalidExit
import CallChain.Manager.History
import CallChain.Proofs.Manager.Items
import CallChain.Proofs.Manager.Store
import CallChain.Proofs.Lowering.FirstFault
import CallChain.Proofs.Build
import CallChain.Proofs.Lowering.Isomorphism
import CallChain.Proofs.Manager.Keys
import CallChain.Proofs.Run.Commuting
import CallChain.Node.InPlace
import CallChain.Proofs.Node.InPlace
import CallChain.Proofs.Node.Effects
import CallChain.Proofs.Node.Atomicity
import CallChain.Proofs.Plan.Intakes
import CallChain.Proofs.Lowering.Handover
import CallChain.Proofs.Lowering.Wiring
import CallChain.Proofs.Lowering.Values
import CallChain.Proofs.Lowering.SlotList
import CallChain.Proofs.Lowering.Rewiring
import CallChain.Proofs.Plan.Edits
import CallChain.Proofs.Lowering.Edits
import CallChain.Proofs.Node.Retyping
import CallChain.Proofs.Node.FreeNames
import CallChain.Proofs.Binding.Bag
import CallChain.Proofs.Run.Diagnostics
import CallChain.Proofs.Run.Repetition
import CallChain.Proofs.Run.Later
import CallChain.Proofs.Run.Loops
import CallChain.Proofs.Binding.TypedStore
import CallChain.Proofs.Run.Pairs
import CallChain.Proofs.Binding.Reflected
import CallChain.Proofs.Node.Validation
import CallChain.Proofs.Document.FreshIds
import CallChain.Proofs.Directories
import CallChain.Proofs.Listings
import CallChain.Proofs.Build.Rejections
import CallChain.Proofs.CommandLine.Atomicity
import CallChain.Proofs.Number.Shortest
import CallChain.Proofs.Sheet.Documents
import CallChain.Proofs.Sheet.Loading
import CallChain.Proofs.Json.Spelled
import CallChain.Proofs.Document.Rereading
