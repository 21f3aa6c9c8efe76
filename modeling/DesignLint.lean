import DesignLint.Assistant.Basic
import DesignLint.Assistant.Engine
import DesignLint.Bundled.ArtboardSize
import DesignLint.Bundled.Assistant
import DesignLint.Bundled.Displays
import DesignLint.Bundled.Ellipsis
import DesignLint.Bundled.FontWeight
import DesignLint.Bundled.OpticalSize
import DesignLint.Bundled.TapTarget
import DesignLint.Bundled.TextFont
import DesignLint.Check.Basic
import DesignLint.Check.Context
import DesignLint.Check.Options
import DesignLint.Check.Raise
import DesignLint.Check.Script
import DesignLint.ConfigFile
import DesignLint.Document.Layer
import DesignLint.Document.LayerCount
import DesignLint.Document.Load
import DesignLint.Document.Reading
import DesignLint.Fault
import DesignLint.Field
import DesignLint.Files
import DesignLint.Format.Expression
import DesignLint.Format.Parser
import DesignLint.Format.Property
import DesignLint.Format.Reader
import DesignLint.Format.Search
import DesignLint.Format.Size
import DesignLint.Format.Syntax
import DesignLint.Format.Translation
import DesignLint.Index.Basic
import DesignLint.Index.Buckets
import DesignLint.Index.Kind
import DesignLint.Index.Preorder
import DesignLint.Json.Encoding
import DesignLint.Json.Finite
import DesignLint.Json.Reader
import DesignLint.Json.Text
import DesignLint.Json.Value
import DesignLint.Keyed
import DesignLint.Log
import DesignLint.Measure
import DesignLint.Number.Basic
import DesignLint.Number.Grammar
import DesignLint.Number.Reading
import DesignLint.Number.Shortest
import DesignLint.Number.Text
import DesignLint.Pattern.Characters
import DesignLint.Pattern.Fault
import DesignLint.Pattern.Match
import DesignLint.Pattern.Parser
import DesignLint.Pattern.Syntax
import DesignLint.Problem
import DesignLint.Proofs.Assistant.Adding
import DesignLint.Proofs.Assistant.FileLayer
import DesignLint.Proofs.Assistant.History
import DesignLint.Proofs.Assistant.Layers
import DesignLint.Proofs.Assistant.Listing
import DesignLint.Proofs.Assistant.Resolve
import DesignLint.Proofs.Assistant.Rules
import DesignLint.Proofs.Assistant.Texts
import DesignLint.Proofs.Bundled.AllowedSizes
import DesignLint.Proofs.Bundled.Criteria
import DesignLint.Proofs.Bundled.Defaults
import DesignLint.Proofs.Bundled.Exact
import DesignLint.Proofs.Bundled.Limits
import DesignLint.Proofs.Bundled.OpticalSize
import DesignLint.Proofs.Bundled.PrintedSizes
import DesignLint.Proofs.Bundled.Reported
import DesignLint.Proofs.Bundled.Sound
import DesignLint.Proofs.Bundled.Sources
import DesignLint.Proofs.Bundled.Texts
import DesignLint.Proofs.Check.Accepted
import DesignLint.Proofs.Check.Judge
import DesignLint.Proofs.Check.Report
import DesignLint.Proofs.Check.Session
import DesignLint.Proofs.ConfigFile
import DesignLint.Proofs.ConfigFile.Escape
import DesignLint.Proofs.Document.Contents
import DesignLint.Proofs.Document.Escape
import DesignLint.Proofs.Document.Indexing
import DesignLint.Proofs.Document.LayerCount
import DesignLint.Proofs.Document.LayerEdits
import DesignLint.Proofs.Document.LayerPlaces
import DesignLint.Proofs.Document.Location
import DesignLint.Proofs.Document.Path
import DesignLint.Proofs.Document.Pointer
import DesignLint.Proofs.Document.Reading
import DesignLint.Proofs.Document.Unusable
import DesignLint.Proofs.Field
import DesignLint.Proofs.Format.Search
import DesignLint.Proofs.Index.AnyLayer
import DesignLint.Proofs.Index.Build
import DesignLint.Proofs.Index.Gathered
import DesignLint.Proofs.Index.Offence
import DesignLint.Proofs.Index.Walk
import DesignLint.Proofs.Json.Distinct
import DesignLint.Proofs.Json.Reader
import DesignLint.Proofs.Keyed
import DesignLint.Proofs.Number.Decimal
import DesignLint.Proofs.Number.FloatOrder
import DesignLint.Proofs.Number.FloatValue
import DesignLint.Proofs.Number.Packing
import DesignLint.Proofs.Number.ReadBack
import DesignLint.Proofs.Number.Rounding
import DesignLint.Proofs.Number.Spelling
import DesignLint.Proofs.Outcome
import DesignLint.Proofs.RuleOption.Acceptors
import DesignLint.Proofs.RuleOption.Config
import DesignLint.Proofs.RuleOption.Constraints
import DesignLint.Proofs.RuleOption.Flat
import DesignLint.Proofs.RuleOption.Forms
import DesignLint.Proofs.RuleOption.Pointwise
import DesignLint.Proofs.RuleOption.Values
import DesignLint.Proofs.Rule.Registry
import DesignLint.Proofs.Run.Activation
import DesignLint.Proofs.Run.Compose
import DesignLint.Proofs.Run.Faults
import DesignLint.Proofs.Run.Findings
import DesignLint.Proofs.Run.Invoked
import DesignLint.Proofs.Run.Isolation
import DesignLint.Proofs.Run.Log
import DesignLint.Proofs.Run.Scripted
import DesignLint.Proofs.Run.Settled
import DesignLint.Proofs.Run.Shape
import DesignLint.Proofs.Run.Solo
import DesignLint.Proofs.Service.LayerLimit
import DesignLint.Proofs.Service.Lint
import DesignLint.Proofs.Service.Malformed
import DesignLint.Proofs.Service.Rules
import DesignLint.Proofs.Tree.Path
import DesignLint.Rule.Basic
import DesignLint.Rule.Registry
import DesignLint.RuleOption.Config
import DesignLint.RuleOption.Declaration
import DesignLint.RuleOption.Schema
import DesignLint.RuleOption.Values
import DesignLint.Run.Result
import DesignLint.Run.Runner
import DesignLint.Service.Basic
import DesignLint.Service.Endpoint
import DesignLint.Service.Message
import DesignLint.Service.Order
import DesignLint.Settings
import DesignLint.Severity
import DesignLint.Text.Blank
import DesignLint.Text.Case
import DesignLint.Text.CaseTables
import DesignLint.Text.Folding
import DesignLint.Text.Identifier
import DesignLint.Text.Letters
import DesignLint.Text.Marks
import DesignLint.Text.Printable
import DesignLint.Text.Quoted
import DesignLint.Text.Ranges
import DesignLint.Text.Search
import DesignLint.Tree
import DesignLint.Unicode.Age
import DesignLint.Unicode.Break
import DesignLint.Unicode.Category
import DesignLint.Unicode.Derived
import DesignLint.Unicode.Folding
import DesignLint.Unicode.Names
import DesignLint.Unicode.Names.Alias
import DesignLint.Unicode.Names.Ancient
import DesignLint.Unicode.Names.Eastern
import DesignLint.Unicode.Names.Notation
import DesignLint.Unicode.Names.Pictures
import DesignLint.Unicode.Names.Presentation
import DesignLint.Unicode.Names.Signs
import DesignLint.Unicode.Names.Southern
import DesignLint.Unicode.Names.Symbols
import DesignLint.Unicode.Names.Western
import DesignLint.Unicode.Property
import DesignLint.Unicode.Script
import DesignLint.Unicode.ScriptExtension
import DesignLint.Unicode.Table
import DesignLint.Violation
