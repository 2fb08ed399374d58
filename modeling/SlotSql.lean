import SlotSql.Calendar
import SlotSql.Cluster.Command
import SlotSql.Cluster.Config
import SlotSql.Cluster.Context
import SlotSql.Cluster.Dialogue
import SlotSql.Cluster.Error
import SlotSql.Cluster.Topology
import SlotSql.Cluster.Reply
import SlotSql.Cluster.Slot
import SlotSql.Cluster.Transcript
import SlotSql.Cluster.Wire
import SlotSql.CommandLine.Options
import SlotSql.CommandLine.Program
import SlotSql.Configuration
import SlotSql.Console.Basic
import SlotSql.Console.MetaCommand
import SlotSql.Console.Script
import SlotSql.Engine.Basic
import SlotSql.Engine.Catalog
import SlotSql.Engine.Scan
import SlotSql.Engine.Upsertion
import SlotSql.Error
import SlotSql.Evaluation
import SlotSql.Filter
import SlotSql.Key
import SlotSql.Number.Double
import SlotSql.Number.Integer
import SlotSql.Pattern.Glob
import SlotSql.Pattern.Regex.Basic
import SlotSql.Pattern.Regex.Class
import SlotSql.Pattern.Regex.Parser
import SlotSql.Plan.Basic
import SlotSql.Plan.Build
import SlotSql.Report.Basic
import SlotSql.Report.Interchange
import SlotSql.Report.Format
import SlotSql.Report.Grid
import SlotSql.Result.Basic
import SlotSql.Result.Display
import SlotSql.Result.Numbered
import SlotSql.Session
import SlotSql.Settings
import SlotSql.Simulation.Basic
import SlotSql.Simulation.Node
import SlotSql.Statement.Basic
import SlotSql.Statement.Excerpt
import SlotSql.Statement.Parser
import SlotSql.Statement.Parser.Basic
import SlotSql.Statement.Parser.Definition
import SlotSql.Statement.Parser.Query
import SlotSql.Statement.Parser.Upsertion
import SlotSql.Statement.RawCommand
import SlotSql.Statement.Token
import SlotSql.Store.Command
import SlotSql.Store.KeyMap
import SlotSql.Table.Basic
import SlotSql.Table.Blob
import SlotSql.Table.Schema
import SlotSql.Table.Value
import SlotSql.Text.Blank
import SlotSql.Text.Case
import SlotSql.Text.Pieces
import SlotSql.Text.Quoted
import SlotSql.Text.Unicode.CaseTable
import SlotSql.Text.Unicode.Category
import SlotSql.Text.Unicode.DisplayTable
import SlotSql.Text.Unicode.Property
import SlotSql.Text.Unicode.Ranges
import SlotSql.Text.Unicode.Script
import SlotSql.Text.Unicode.ScriptExtensions
import SlotSql.Text.Utf8
import SlotSql.Text.Width
import SlotSql.TimeFunction
import SlotSql.Toml.Number
import SlotSql.Toml.Parser
import SlotSql.Toml.Record
import SlotSql.Toml.Text
import SlotSql.Toml.Value
import SlotSql.ValueType
import SlotSql.Main
import SlotSql.Proofs.Blob
import SlotSql.Proofs.Calendar
import SlotSql.Proofs.Evaluation
import SlotSql.Proofs.Filter
import SlotSql.Proofs.Key
import SlotSql.Proofs.Number.Double
import SlotSql.Proofs.Pattern.Glob
import SlotSql.Proofs.Plan.Build
import SlotSql.Proofs.Plan.Pattern
import SlotSql.Proofs.World
import SlotSql.Proofs.Rows.Accounted
import SlotSql.Proofs.Rows.Anchored
import SlotSql.Proofs.Rows.Deletion
import SlotSql.Proofs.Rows.Entries
import SlotSql.Proofs.Rows.Failure
import SlotSql.Proofs.Rows.Kept
import SlotSql.Proofs.Rows.Literal
import SlotSql.Proofs.Rows.Meaning
import SlotSql.Proofs.Rows.Parts
import SlotSql.Proofs.Rows.Reading
import SlotSql.Proofs.Rows.Selection
import SlotSql.Proofs.Rows.Upsertion
import SlotSql.Proofs.Rows.Written
import SlotSql.Proofs.Scan.Drain
import SlotSql.Proofs.Scan.Feed
import SlotSql.Proofs.Scan.Grounds
import SlotSql.Proofs.Scan.Lookup
import SlotSql.Proofs.Scan.Pages
import SlotSql.Proofs.Scan.Reel
import SlotSql.Proofs.Scan.Retried
import SlotSql.Proofs.Simulation.Deletion
import SlotSql.Proofs.Session.Accounted
import SlotSql.Proofs.Session.Deletion
import SlotSql.Proofs.Session.Failure
import SlotSql.Proofs.Session.Interleaving
import SlotSql.Proofs.Session.Pages
import SlotSql.Proofs.Session.Selection
import SlotSql.Proofs.Session.Steps
import SlotSql.Proofs.Simulation.Context
import SlotSql.Proofs.Simulation.Feed
import SlotSql.Proofs.Simulation.Hosts
import SlotSql.Proofs.Simulation.Node
import SlotSql.Proofs.Simulation.Order
import SlotSql.Proofs.Simulation.Outage
import SlotSql.Proofs.Simulation.Retried
import SlotSql.Proofs.Simulation.Routing
import SlotSql.Proofs.Simulation.Rows
import SlotSql.Proofs.Simulation.Scan
import SlotSql.Proofs.Simulation.Spread
import SlotSql.Proofs.Statement.Clause
import SlotSql.Proofs.Statement.Columns
import SlotSql.Proofs.Statement.Condition
import SlotSql.Proofs.Statement.Definition
import SlotSql.Proofs.Statement.Excerpt
import SlotSql.Proofs.Statement.Literal
import SlotSql.Proofs.Statement.Nesting
import SlotSql.Proofs.Statement.Query
import SlotSql.Proofs.Statement.Rendering
import SlotSql.Proofs.Statement.RoundTrip
import SlotSql.Proofs.Statement.Upsertion
import SlotSql.Proofs.Store.Command
import SlotSql.Proofs.Store.Words
import SlotSql.Proofs.Table
import SlotSql.Proofs.Text.Pieces
import SlotSql.Proofs.Text.Integer
import SlotSql.Proofs.Text.Utf8
import SlotSql.Proofs.Rows.Effect
import SlotSql.Proofs.Session.Typed
import SlotSql.Proofs.Session.Definition
import SlotSql.Proofs.Session.Dropping
import SlotSql.Proofs.Session.Isolated
import SlotSql.Proofs.Session.NotNull
import SlotSql.Proofs.Rows.Overwritten
import SlotSql.Proofs.Session.ReadBack
import SlotSql.Proofs.Simulation.Shared
import SlotSql.Proofs.Simulation.Iteration
import SlotSql.Proofs.Race
import SlotSql.Proofs.Rows.Rivals
import SlotSql.Proofs.Simulation.Rivals
import SlotSql.Proofs.Pattern.Entry
import SlotSql.Proofs.Rows.Owned
import SlotSql.Proofs.Simulation.Listing
import SlotSql.Proofs.Session.Listing
import SlotSql.Proofs.Scan.Asked
import SlotSql.Proofs.Rows.Targets
import SlotSql.Proofs.Session.PartialUpdate
import SlotSql.Proofs.Rows.Short
import SlotSql.Proofs.Session.Capped
import SlotSql.Proofs.Statement.Inside
import SlotSql.Proofs.Statement.Octets
import SlotSql.Proofs.Statement.Scanners
import SlotSql.Proofs.Statement.Checked
import SlotSql.Proofs.Wire.Reading
import SlotSql.Proofs.Wire.Framing
import SlotSql.Proofs.Cluster.Delivery
import SlotSql.Proofs.Cluster.Replication
import SlotSql.Proofs.Cluster.Watch
import SlotSql.Proofs.Cluster.Retry
import SlotSql.Proofs.Cluster.Display
import SlotSql.Proofs.Text.Quoting
import SlotSql.Proofs.Statement.RawCommand
import SlotSql.Proofs.Statement.Settled
import SlotSql.Proofs.Console.Lines
import SlotSql.Proofs.Console.Ends
import SlotSql.Proofs.Result.Numbered
import SlotSql.Proofs.Report.Csv
import SlotSql.Proofs.Calendar.Order
import SlotSql.Proofs.Calendar.Comparison
import SlotSql.Proofs.TimeFunction
import SlotSql.Proofs.Number.Decimal
import SlotSql.Proofs.Statement.Splitting
