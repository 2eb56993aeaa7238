import TabCompletion.Answer
import TabCompletion.Arguments
import TabCompletion.Binary64.Basic
import TabCompletion.Binary64.Decimal
import TabCompletion.ByteSize
import TabCompletion.Candidate
import TabCompletion.CommandLine
import TabCompletion.Completion
import TabCompletion.Disk
import TabCompletion.Display.Answer
import TabCompletion.Display.Handler
import TabCompletion.Display.Line
import TabCompletion.Display.Markup
import TabCompletion.Display.Padding
import TabCompletion.Display.Panel
import TabCompletion.Display.Table
import TabCompletion.Display.Tags
import TabCompletion.Filter
import TabCompletion.Grammar.Basic
import TabCompletion.Grammar.Loader
import TabCompletion.Grammar.Persistent
import TabCompletion.Grammar.Shipped
import TabCompletion.Json.Basic
import TabCompletion.Json.Literal
import TabCompletion.Json.Parser
import TabCompletion.Json.Parts
import TabCompletion.Json.Printer
import TabCompletion.Listing
import TabCompletion.Main
import TabCompletion.Offer
import TabCompletion.Path
import TabCompletion.Program
import TabCompletion.Query
import TabCompletion.Registry.Basic
import TabCompletion.Registry.Files
import TabCompletion.Session
import TabCompletion.Settings
import TabCompletion.Settings.Data
import TabCompletion.Settings.Files
import TabCompletion.Settings.Log
import TabCompletion.Source.Branches
import TabCompletion.Source.Generator
import TabCompletion.Source.Template
import TabCompletion.Style.Colour
import TabCompletion.Style.Menu
import TabCompletion.Style.Screen
import TabCompletion.Text.Blank
import TabCompletion.Text.CaseTable
import TabCompletion.Text.CellWidth
import TabCompletion.Text.Digit
import TabCompletion.Text.Flow
import TabCompletion.Text.Lines
import TabCompletion.Text.Lowercase
import TabCompletion.Text.NameChar
import TabCompletion.Text.Printable
import TabCompletion.Text.Quoted
import TabCompletion.Text.Ranges
import TabCompletion.Text.Symbol
import TabCompletion.Text.SymbolTable
import TabCompletion.Walk
import TabCompletion.Proofs.Acceptance
import TabCompletion.Proofs.Binary64.Rounding
import TabCompletion.Proofs.Branches
import TabCompletion.Proofs.ByteSize
import TabCompletion.Proofs.CommandLine
import TabCompletion.Proofs.CommandLine.Quoting
import TabCompletion.Proofs.CommandLine.Segment
import TabCompletion.Proofs.CommandLine.Segmentation
import TabCompletion.Proofs.CommandLine.Words
import TabCompletion.Proofs.Disk.Way
import TabCompletion.Proofs.Disk.Written
import TabCompletion.Proofs.Distinct
import TabCompletion.Proofs.EachArg
import TabCompletion.Proofs.Engine
import TabCompletion.Proofs.FuzzyMatching
import TabCompletion.Proofs.Grammar.Encoding
import TabCompletion.Proofs.Grammar.Faults
import TabCompletion.Proofs.Grammar.Reading
import TabCompletion.Proofs.Grammar.WellFormed
import TabCompletion.Proofs.Hint
import TabCompletion.Proofs.History
import TabCompletion.Proofs.Inheritance
import TabCompletion.Proofs.Json.Members
import TabCompletion.Proofs.Json.Written
import TabCompletion.Proofs.Listing
import TabCompletion.Proofs.Listing.Moments
import TabCompletion.Proofs.MergeLaws
import TabCompletion.Proofs.Offer
import TabCompletion.Proofs.OfferedName
import TabCompletion.Proofs.OfferedNodes
import TabCompletion.Proofs.OneRun
import TabCompletion.Proofs.PathValues
import TabCompletion.Proofs.Persistence
import TabCompletion.Proofs.Query.Alike
import TabCompletion.Proofs.Query.Fails
import TabCompletion.Proofs.Query.Runs
import TabCompletion.Proofs.Query.Sources
import TabCompletion.Proofs.ReachableSettings
import TabCompletion.Proofs.Registry
import TabCompletion.Proofs.Registry.Directory
import TabCompletion.Proofs.Registry.File
import TabCompletion.Proofs.Registry.LastWriter
import TabCompletion.Proofs.Registry.Remaining
import TabCompletion.Proofs.Resolve
import TabCompletion.Proofs.Settings.Loading
import TabCompletion.Proofs.Settings.TakenOver
import TabCompletion.Proofs.Settings.Written
import TabCompletion.Proofs.Shape
import TabCompletion.Proofs.Suppression
import TabCompletion.Proofs.TypedText
import TabCompletion.Proofs.Walk.Accepted
import TabCompletion.Proofs.Walk.Agreement
import TabCompletion.Proofs.Walk.Descent
import TabCompletion.Proofs.Walk.Escape
import TabCompletion.Proofs.Walk.FlagOrder
import TabCompletion.Proofs.Walk.Handlers
import TabCompletion.Proofs.Walk.Invariants
import TabCompletion.Proofs.Walk.Nested
import TabCompletion.Proofs.Walk.Positional
import TabCompletion.Proofs.Walk.Shape
import TabCompletion.Proofs.Walk.Surplus
