import Crosswalk.Argument
import Crosswalk.Command.Error
import Crosswalk.Command.Line
import Crosswalk.Command.Run
import Crosswalk.Conversion
import Crosswalk.Document
import Crosswalk.Fault
import Crosswalk.Files.Host
import Crosswalk.Files.Path
import Crosswalk.Files.Tree
import Crosswalk.Json.Basic
import Crosswalk.Json.Printer
import Crosswalk.Json.Reader
import Crosswalk.Json.Token
import Crosswalk.Main
import Crosswalk.Mapping.Error
import Crosswalk.Mapping.Interpretation
import Crosswalk.Mapping.Marker
import Crosswalk.Mapping.Registry
import Crosswalk.Mapping.Spec
import Crosswalk.Matching
import Crosswalk.Ordered
import Crosswalk.Plan.Analysis
import Crosswalk.Plan.Basic
import Crosswalk.Plan.Report
import Crosswalk.Program.Basic
import Crosswalk.Program.Builder
import Crosswalk.Program.Census
import Crosswalk.Program.Error
import Crosswalk.Program.Json
import Crosswalk.Program.Uses
import Crosswalk.Program.Validation
import Crosswalk.Program.Visitor
import Crosswalk.Proofs.Coercion.Congruence
import Crosswalk.Proofs.Coercion.Copies
import Crosswalk.Proofs.Coercion.Course
import Crosswalk.Proofs.Coercion.Loads
import Crosswalk.Proofs.Coercion.Meeting
import Crosswalk.Proofs.Coercion.Safe
import Crosswalk.Proofs.Coercion.Shapes
import Crosswalk.Proofs.Coercion.Soundness
import Crosswalk.Proofs.Coercion.Unguarded
import Crosswalk.Proofs.Coercion.Walk
import Crosswalk.Proofs.Command.Check
import Crosswalk.Proofs.Command.Discovery
import Crosswalk.Proofs.Command.Generate
import Crosswalk.Proofs.Command.Session
import Crosswalk.Proofs.Descent
import Crosswalk.Proofs.Faithful
import Crosswalk.Proofs.Faultless
import Crosswalk.Proofs.Files.Host
import Crosswalk.Proofs.Files.Path
import Crosswalk.Proofs.Files.Tree
import Crosswalk.Proofs.InStep
import Crosswalk.Proofs.Lists
import Crosswalk.Proofs.Mapping.Alike
import Crosswalk.Proofs.Mapping.Calls
import Crosswalk.Proofs.Mapping.Chains
import Crosswalk.Proofs.Mapping.Collecting
import Crosswalk.Proofs.Mapping.Destination
import Crosswalk.Proofs.Mapping.Fields
import Crosswalk.Proofs.Mapping.ForeignCalls
import Crosswalk.Proofs.Mapping.FrontEnd
import Crosswalk.Proofs.Mapping.Hosting
import Crosswalk.Proofs.Mapping.Lowering
import Crosswalk.Proofs.Mapping.Mirror
import Crosswalk.Proofs.Mapping.Naming
import Crosswalk.Proofs.Mapping.Protocol
import Crosswalk.Proofs.Mapping.Reading
import Crosswalk.Proofs.Mapping.Registry
import Crosswalk.Proofs.Mapping.Relisting
import Crosswalk.Proofs.Mapping.Reordering
import Crosswalk.Proofs.Mapping.RoundTrip
import Crosswalk.Proofs.Mapping.Safe
import Crosswalk.Proofs.Mapping.Typing
import Crosswalk.Proofs.Mapping.Variables
import Crosswalk.Proofs.Matching
import Crosswalk.Proofs.Matching.Blank
import Crosswalk.Proofs.Matching.Local
import Crosswalk.Proofs.Matching.Rule
import Crosswalk.Proofs.Ordered
import Crosswalk.Proofs.Outcome
import Crosswalk.Proofs.Plan.Accounting
import Crosswalk.Proofs.Plan.Analysis
import Crosswalk.Proofs.Plan.Asking
import Crosswalk.Proofs.Plan.Complete
import Crosswalk.Proofs.Plan.Copies
import Crosswalk.Proofs.Plan.Delegates
import Crosswalk.Proofs.Plan.Methods
import Crosswalk.Proofs.Plan.Mirror
import Crosswalk.Proofs.Plan.Order
import Crosswalk.Proofs.Plan.Registry
import Crosswalk.Proofs.Plan.Reordering
import Crosswalk.Proofs.Plan.Safe
import Crosswalk.Proofs.Program.Body
import Crosswalk.Proofs.Program.Building
import Crosswalk.Proofs.Program.Bystander
import Crosswalk.Proofs.Program.Json
import Crosswalk.Proofs.Program.Mirror
import Crosswalk.Proofs.Program.Narrow
import Crosswalk.Proofs.Program.Offence
import Crosswalk.Proofs.Program.Packs
import Crosswalk.Proofs.Program.Relisting
import Crosswalk.Proofs.Program.Reorder
import Crosswalk.Proofs.Program.Retype
import Crosswalk.Proofs.Program.Session
import Crosswalk.Proofs.Program.Sound
import Crosswalk.Proofs.Program.Unpacking
import Crosswalk.Proofs.Program.Upkeep
import Crosswalk.Proofs.Program.Visits
import Crosswalk.Proofs.Program.Walking
import Crosswalk.Proofs.Record
import Crosswalk.Proofs.Safe
import Crosswalk.Proofs.Source.Capture
import Crosswalk.Proofs.Source.Emission
import Crosswalk.Proofs.Source.Guards
import Crosswalk.Proofs.Source.Heads
import Crosswalk.Proofs.Source.Importing
import Crosswalk.Proofs.Source.Imports
import Crosswalk.Proofs.Source.Layout
import Crosswalk.Proofs.Source.Lines
import Crosswalk.Proofs.Source.Lowering
import Crosswalk.Proofs.Source.Mentions
import Crosswalk.Proofs.Source.Mirror
import Crosswalk.Proofs.Source.Naming
import Crosswalk.Proofs.Source.Parenthesized
import Crosswalk.Proofs.Source.Partition
import Crosswalk.Proofs.Source.Preamble
import Crosswalk.Proofs.Source.Printed
import Crosswalk.Proofs.Source.Qualified
import Crosswalk.Proofs.Source.Safe
import Crosswalk.Proofs.Source.Shapes
import Crosswalk.Proofs.Source.Showing
import Crosswalk.Proofs.Source.TestNames
import Crosswalk.Proofs.Source.Tests
import Crosswalk.Proofs.Source.Writing
import Crosswalk.Proofs.Source.Written
import Crosswalk.Proofs.Text.Identifier
import Crosswalk.Proofs.Text.Lines
import Crosswalk.Proofs.Text.Lowercase
import Crosswalk.Proofs.Types.Assignability
import Crosswalk.Proofs.Types.Chain
import Crosswalk.Proofs.Types.Closed
import Crosswalk.Proofs.Types.Coherent
import Crosswalk.Proofs.Types.Copies
import Crosswalk.Proofs.Types.Identity
import Crosswalk.Proofs.Types.Index
import Crosswalk.Proofs.Types.Interning
import Crosswalk.Proofs.Types.Json
import Crosswalk.Proofs.Types.Peeling
import Crosswalk.Proofs.Types.Safe
import Crosswalk.Proofs.Types.Shown
import Crosswalk.Proofs.Types.Storing
import Crosswalk.Proofs.Types.WellFormed
import Crosswalk.Record
import Crosswalk.Settings
import Crosswalk.Settings.Document
import Crosswalk.Source.Declaration
import Crosswalk.Source.Emission
import Crosswalk.Source.Error
import Crosswalk.Source.Expr
import Crosswalk.Source.Imports
import Crosswalk.Source.Line
import Crosswalk.Source.Naming
import Crosswalk.Text.Affix
import Crosswalk.Text.Alphanumeric
import Crosswalk.Text.Capital
import Crosswalk.Toml.Definition
import Crosswalk.Toml.Moment
import Crosswalk.Toml.Number
import Crosswalk.Toml.Reader
import Crosswalk.Toml.Scan
import Crosswalk.Toml.Text
import Crosswalk.Toml.Value
import Crosswalk.Types.Basic
import Crosswalk.Types.Json
import Crosswalk.Types.Layers
import Crosswalk.Types.Relations
import Crosswalk.Types.Spelling
import Crosswalk.Width
