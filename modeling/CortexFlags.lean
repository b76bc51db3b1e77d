import CortexFlags.Catalogue.Basic
import CortexFlags.Catalogue.Dump
import CortexFlags.Catalogue.KnowledgeBase
import CortexFlags.Catalogue.Loading
import CortexFlags.Catalogue.Plugin
import CortexFlags.Catalogue.Shipped
import CortexFlags.CommandLine.Command
import CortexFlags.CommandLine.Given
import CortexFlags.CommandLine.Launcher
import CortexFlags.CommandLine.LogOptions
import CortexFlags.CommandLine.Manual
import CortexFlags.CommandLine.Reading
import CortexFlags.CommandLine.Word
import CortexFlags.Cpu
import CortexFlags.Descriptor.Basic
import CortexFlags.Descriptor.Forward
import CortexFlags.Descriptor.Inference
import CortexFlags.Descriptor.Unique
import CortexFlags.Fault
import CortexFlags.Features.Closure
import CortexFlags.Features.Set
import CortexFlags.Features.Vocabulary
import CortexFlags.Files
import CortexFlags.Fpu
import CortexFlags.Logging.Activation
import CortexFlags.Logging.Event
import CortexFlags.Logging.Hub
import CortexFlags.Logging.Journal
import CortexFlags.Logging.Level
import CortexFlags.Logging.Loggers
import CortexFlags.Logging.Record
import CortexFlags.Logging.Timestamp
import CortexFlags.Main
import CortexFlags.Program.Run
import CortexFlags.Program.Task
import CortexFlags.Query
import CortexFlags.Report.Basic
import CortexFlags.Report.Kind
import CortexFlags.Report.Ledger
import CortexFlags.Resolution
import CortexFlags.Selector
import CortexFlags.Session.Basic
import CortexFlags.Session.Recipe
import CortexFlags.Settings.Calendar
import CortexFlags.Settings.Known
import CortexFlags.Settings.Section
import CortexFlags.Settings.Store
import CortexFlags.Settings.Toml.Document
import CortexFlags.Settings.Toml.Moment
import CortexFlags.Settings.Toml.Node
import CortexFlags.Settings.Toml.Numeral
import CortexFlags.Settings.Toml.Quotation
import CortexFlags.Settings.Toml.Reader
import CortexFlags.Settings.Toml.Tables
import CortexFlags.Settings.Value
import CortexFlags.Table
import CortexFlags.Text.Contains
import CortexFlags.Text.Cut
import CortexFlags.Text.DecimalDigit
import CortexFlags.Text.FloatText
import CortexFlags.Text.Hex
import CortexFlags.Text.Json
import CortexFlags.Text.Numeral
import CortexFlags.Text.Pad
import CortexFlags.Text.Percent
import CortexFlags.Text.Quoted
import CortexFlags.Text.Rounding
import CortexFlags.Text.Unprintable
import CortexFlags.Text.WordCharacter
import CortexFlags.Yaml.Document
import CortexFlags.Yaml.Node
import CortexFlags.Yaml.Plain
import CortexFlags.Yaml.Scalar
import CortexFlags.Proofs.Features.Closure
import CortexFlags.Proofs.Descriptor.MostSpecific
import CortexFlags.Proofs.Descriptor.Outcome
import CortexFlags.Proofs.Resolution
import CortexFlags.Proofs.Descriptor.RoundTrip
import CortexFlags.Proofs.Query.Text
import CortexFlags.Proofs.Descriptor.FixedPoint
import CortexFlags.Proofs.Descriptor.Congruence
import CortexFlags.Proofs.Descriptor.Unique
import CortexFlags.Proofs.Catalogue.Unambiguous
import CortexFlags.Proofs.Catalogue.Shipped
import CortexFlags.Proofs.Catalogue.Specificity
import CortexFlags.Proofs.Catalogue.Construction
import CortexFlags.Proofs.Descriptor.Reread
import CortexFlags.Proofs.Catalogue.Extension
import CortexFlags.Proofs.Session.History
import CortexFlags.Proofs.Settings.Merging
import CortexFlags.Proofs.Settings.Loading
import CortexFlags.Proofs.Descriptor.Inferred
import CortexFlags.Proofs.Descriptor.Objections
import CortexFlags.Proofs.Features.Visit
import CortexFlags.Proofs.Descriptor.Projection
import CortexFlags.Proofs.Program.Ending
import CortexFlags.Proofs.Descriptor.Monotone
import CortexFlags.Proofs.Query.Resolved
import CortexFlags.Proofs.Descriptor.Offered
import CortexFlags.Proofs.Descriptor.Membership
import CortexFlags.Proofs.Settings.Sections
import CortexFlags.Proofs.Catalogue.Dump
import CortexFlags.Proofs.Logging.Activation
import CortexFlags.Proofs.CommandLine.Launches
import CortexFlags.Proofs.CommandLine.Verbosity
import CortexFlags.Proofs.Logging.Transcript
import CortexFlags.Proofs.Logging.Occasion
import CortexFlags.Proofs.Logging.JsonLines
import CortexFlags.Proofs.Report.Growth
