import LineShell.Bench
import LineShell.Builtin.Basic
import LineShell.Builtin.Catalogue
import LineShell.Builtin.Copying
import LineShell.Builtin.Entries
import LineShell.Builtin.Listing
import LineShell.Builtin.Paths
import LineShell.Builtin.Reaching
import LineShell.Builtin.Search
import LineShell.Builtin.Selecting
import LineShell.Builtin.Texts
import LineShell.Command.Basic
import LineShell.Command.Checked
import LineShell.Command.Device
import LineShell.Command.Program
import LineShell.Command.StopSlot
import LineShell.CommandLine.Clause
import LineShell.CommandLine.Printer
import LineShell.CommandLine.Reading
import LineShell.CommandLine.Scan
import LineShell.CommandLine.Splitting
import LineShell.Files.Basic
import LineShell.Files.Change
import LineShell.Files.Fault
import LineShell.Files.Lookup
import LineShell.Files.Path
import LineShell.Files.Request
import LineShell.Files.Stamp
import LineShell.Files.Tree
import LineShell.Main
import LineShell.Network
import LineShell.Pattern.Expr
import LineShell.Pattern.Machine
import LineShell.Pattern.Matcher
import LineShell.Pattern.Reading
import LineShell.Pattern.Syntax
import LineShell.Pattern.Weight
import LineShell.Probe
import LineShell.Proofs.Builtin.Arriving
import LineShell.Proofs.Builtin.Copied
import LineShell.Proofs.Builtin.Finding
import LineShell.Proofs.Builtin.Halting
import LineShell.Proofs.Builtin.Heeding
import LineShell.Proofs.Builtin.Keeping
import LineShell.Proofs.Builtin.Linewise
import LineShell.Proofs.Builtin.Listed
import LineShell.Proofs.Builtin.Operands
import LineShell.Proofs.Builtin.Pending
import LineShell.Proofs.Builtin.Removable
import LineShell.Proofs.Builtin.Removing
import LineShell.Proofs.Builtin.Turns
import LineShell.Proofs.Builtin.WholeWords
import LineShell.Proofs.Command.Alternating
import LineShell.Proofs.Command.Calm
import LineShell.Proofs.Command.Feeding
import LineShell.Proofs.Command.Halting
import LineShell.Proofs.Command.Heeding
import LineShell.Proofs.Command.Leading
import LineShell.Proofs.Command.Moving
import LineShell.Proofs.Command.Pending
import LineShell.Proofs.Command.Proceeding
import LineShell.Proofs.Command.Worlds
import LineShell.Proofs.CommandLine.Excerpts
import LineShell.Proofs.CommandLine.OnePass
import LineShell.Proofs.CommandLine.Pieces
import LineShell.Proofs.CommandLine.Quotes
import LineShell.Proofs.CommandLine.Roles
import LineShell.Proofs.CommandLine.RoundTrip
import LineShell.Proofs.Files.Lookups
import LineShell.Proofs.Files.Naming
import LineShell.Proofs.Files.Thinning
import LineShell.Proofs.Files.Walking
import LineShell.Proofs.Files.Ways
import LineShell.Proofs.Flow.Alone
import LineShell.Proofs.Flow.Channels
import LineShell.Proofs.Flow.Closing
import LineShell.Proofs.Flow.Compose
import LineShell.Proofs.Flow.Ends
import LineShell.Proofs.Flow.Filters
import LineShell.Proofs.Flow.Opening
import LineShell.Proofs.Flow.Overtaking
import LineShell.Proofs.Flow.Pipeline
import LineShell.Proofs.Flow.Progress
import LineShell.Proofs.Flow.Sources
import LineShell.Proofs.Flow.Textual
import LineShell.Proofs.Line.Delivering
import LineShell.Proofs.Line.Running
import LineShell.Proofs.Line.Telling
import LineShell.Proofs.Line.Undisturbed
import LineShell.Proofs.Pattern.Assembling
import LineShell.Proofs.Pattern.Behind
import LineShell.Proofs.Pattern.Bodies
import LineShell.Proofs.Pattern.Classes
import LineShell.Proofs.Pattern.Closure
import LineShell.Proofs.Pattern.Escapes
import LineShell.Proofs.Pattern.Matching
import LineShell.Proofs.Pattern.Parts
import LineShell.Proofs.Pattern.Searching
import LineShell.Proofs.Session.Adoption
import LineShell.Proofs.Session.Course
import LineShell.Proofs.Session.Custody
import LineShell.Proofs.Session.Cut
import LineShell.Proofs.Session.Enrolling
import LineShell.Proofs.Session.Filing
import LineShell.Proofs.Session.Filling
import LineShell.Proofs.Session.Following
import LineShell.Proofs.Session.Landing
import LineShell.Proofs.Session.Lifetime
import LineShell.Proofs.Session.Marks
import LineShell.Proofs.Session.Moves
import LineShell.Proofs.Session.Plays
import LineShell.Proofs.Session.Reach
import LineShell.Proofs.Session.Receipts
import LineShell.Proofs.Session.Reports
import LineShell.Proofs.Session.Roster
import LineShell.Proofs.Session.Rows
import LineShell.Proofs.Session.Silence
import LineShell.Proofs.Session.Statuses
import LineShell.Proofs.Session.Uttering
import LineShell.Proofs.Session.Vouching
import LineShell.Proofs.Text.Decoding
import LineShell.Proofs.Text.Ordering
import LineShell.Proofs.Text.Portions
import LineShell.Proofs.Wiring.Closed
import LineShell.Proofs.Wiring.Failures
import LineShell.Proofs.Wiring.Mending
import LineShell.Proofs.Wiring.Owners
import LineShell.Proofs.Wiring.Refusals
import LineShell.Proofs.Wiring.Streams
import LineShell.Proofs.Wiring.Wires
import LineShell.Session.Basic
import LineShell.Session.Board
import LineShell.Session.Console
import LineShell.Session.Line
import LineShell.Session.Registry
import LineShell.Session.Schedule
import LineShell.Session.Status
import LineShell.Session.Step
import LineShell.Session.Wiring
import LineShell.Shell.LogFilter
import LineShell.Shell.Run
import LineShell.Shell.Settings
import LineShell.Text.Blank
import LineShell.Text.Bytes
import LineShell.Text.CharSet
import LineShell.Text.Cluster
import LineShell.Text.Excerpt
import LineShell.Text.Lines
import LineShell.Text.Quoted
import LineShell.Text.Unicode.Age
import LineShell.Text.Unicode.Binary
import LineShell.Text.Unicode.Category
import LineShell.Text.Unicode.Folding
import LineShell.Text.Unicode.Named
import LineShell.Text.Unicode.Property
import LineShell.Text.Unicode.Script
import LineShell.Text.Unicode.ScriptExtension
import LineShell.Text.Unicode.Segmentation
import LineShell.Text.Utf8
import LineShell.Usage
