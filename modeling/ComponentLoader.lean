import ComponentLoader.Chain.Basic
import ComponentLoader.Chain.Injection
import ComponentLoader.Chain.Request
import ComponentLoader.ComponentMap
import ComponentLoader.Error
import ComponentLoader.FileTree
import ComponentLoader.Host.Basic
import ComponentLoader.Host.Merge
import ComponentLoader.Host.Module
import ComponentLoader.Host.Reporting
import ComponentLoader.Host.Rules
import ComponentLoader.Host.Shown
import ComponentLoader.Host.TimerThread
import ComponentLoader.Import.Expansion
import ComponentLoader.Import.Statement
import ComponentLoader.Json.Basic
import ComponentLoader.Json.Parser
import ComponentLoader.Json.Printer
import ComponentLoader.Json.Record
import ComponentLoader.Loader
import ComponentLoader.Locale.Component
import ComponentLoader.Locale.Table
import ComponentLoader.Markup.Tag
import ComponentLoader.Number.Double
import ComponentLoader.Options
import ComponentLoader.Options.Record
import ComponentLoader.OrderedMap
import ComponentLoader.Path
import ComponentLoader.Plugin
import ComponentLoader.Proofs.Chain.Alignment
import ComponentLoader.Proofs.Chain.Commutation
import ComponentLoader.Proofs.Chain.Crossing
import ComponentLoader.Proofs.Chain.Fitting
import ComponentLoader.Proofs.Chain.Glyphs
import ComponentLoader.Proofs.Chain.Idempotence
import ComponentLoader.Proofs.Chain.Marks
import ComponentLoader.Proofs.Chain.Masking
import ComponentLoader.Proofs.Chain.Order
import ComponentLoader.Proofs.Chain.Passes
import ComponentLoader.Proofs.Chain.Position
import ComponentLoader.Proofs.Chain.Reading
import ComponentLoader.Proofs.Chain.Repetition
import ComponentLoader.Proofs.Chain.Request
import ComponentLoader.Proofs.Chain.Segments
import ComponentLoader.Proofs.Chain.Selector
import ComponentLoader.Proofs.Chain.Spelling
import ComponentLoader.Proofs.Chain.Theme
import ComponentLoader.Proofs.Chain.ThemeMarker
import ComponentLoader.Proofs.Chain.ThemeQuery
import ComponentLoader.Proofs.Files.Store
import ComponentLoader.Proofs.Files.Walk
import ComponentLoader.Proofs.Host.Descriptors
import ComponentLoader.Proofs.Host.Edits
import ComponentLoader.Proofs.Host.Encoding
import ComponentLoader.Proofs.Host.Failure
import ComponentLoader.Proofs.Host.Frame
import ComponentLoader.Proofs.Host.Handover
import ComponentLoader.Proofs.Host.History
import ComponentLoader.Proofs.Host.KitRule
import ComponentLoader.Proofs.Host.Lists
import ComponentLoader.Proofs.Host.ModuleText
import ComponentLoader.Proofs.Host.Plugins
import ComponentLoader.Proofs.Host.Remerge
import ComponentLoader.Proofs.Host.Reporting
import ComponentLoader.Proofs.Host.Settled
import ComponentLoader.Proofs.Host.Stages
import ComponentLoader.Proofs.Host.Values
import ComponentLoader.Proofs.Import.Demos
import ComponentLoader.Proofs.Import.Expand
import ComponentLoader.Proofs.Import.Lines
import ComponentLoader.Proofs.Import.Names
import ComponentLoader.Proofs.Import.Outcome
import ComponentLoader.Proofs.Import.QuickCheck
import ComponentLoader.Proofs.Import.Single
import ComponentLoader.Proofs.Import.SourceDir
import ComponentLoader.Proofs.Import.Statement
import ComponentLoader.Proofs.Json.Absent
import ComponentLoader.Proofs.Json.Canonical
import ComponentLoader.Proofs.Json.Exact
import ComponentLoader.Proofs.Json.Numbers
import ComponentLoader.Proofs.Json.Written
import ComponentLoader.Proofs.Locale.Component
import ComponentLoader.Proofs.Locale.Equal
import ComponentLoader.Proofs.Locale.Overrides
import ComponentLoader.Proofs.Markup.Elements
import ComponentLoader.Proofs.Markup.Tag
import ComponentLoader.Proofs.OrderedMap
import ComponentLoader.Proofs.Path.Names
import ComponentLoader.Proofs.Path.Relative
import ComponentLoader.Proofs.QuickExits
import ComponentLoader.Proofs.Script.Strings
import ComponentLoader.Proofs.SourceRoot
import ComponentLoader.Proofs.Stylesheet.Blocks
import ComponentLoader.Proofs.Stylesheet.Declarations
import ComponentLoader.Proofs.Stylesheet.KitImports
import ComponentLoader.Proofs.Stylesheet.Rules
import ComponentLoader.Proofs.Template.Append
import ComponentLoader.Proofs.Template.Calls
import ComponentLoader.Proofs.Template.Feature
import ComponentLoader.Proofs.Template.Literal
import ComponentLoader.Proofs.Template.Localization
import ComponentLoader.Proofs.Text.Classes
import ComponentLoader.Proofs.Text.Followed
import ComponentLoader.Proofs.Text.Occurrences
import ComponentLoader.Proofs.Text.Reading
import ComponentLoader.Proofs.Text.Replacement
import ComponentLoader.Proofs.Text.Search
import ComponentLoader.Proofs.Text.Words
import ComponentLoader.Proofs.Theme.Cache
import ComponentLoader.Proofs.Theme.Lines
import ComponentLoader.Proofs.Yaml.Same
import ComponentLoader.Regex.Bracket
import ComponentLoader.Regex.Escape
import ComponentLoader.Regex.Expr
import ComponentLoader.Regex.Meaning
import ComponentLoader.Regex.Pattern
import ComponentLoader.Regex.Program
import ComponentLoader.Regex.Replacement
import ComponentLoader.Regex.Size
import ComponentLoader.Regex.Syntax
import ComponentLoader.Regex.Utf8
import ComponentLoader.Settings
import ComponentLoader.Stylesheet
import ComponentLoader.Template.Localization
import ComponentLoader.Template.Process
import ComponentLoader.Text.Basic
import ComponentLoader.Text.CharSet
import ComponentLoader.Text.Folding
import ComponentLoader.Text.Piece
import ComponentLoader.Text.Quoted
import ComponentLoader.Theme.Cache
import ComponentLoader.Theme.Variables
import ComponentLoader.Unicode.Age
import ComponentLoader.Unicode.Break
import ComponentLoader.Unicode.Category
import ComponentLoader.Unicode.Property
import ComponentLoader.Unicode.Script
import ComponentLoader.Unicode.Trait
import ComponentLoader.Yaml.Cursor
import ComponentLoader.Yaml.Node
import ComponentLoader.Yaml.Scalar
import ComponentLoader.Yaml.Token
import ComponentLoader.Yaml.Value
import ComponentLoader.Yaml.Writer
