import ShortcodeExpansion.Catalogue.Argument
import ShortcodeExpansion.Catalogue.Basic
import ShortcodeExpansion.Catalogue.Json
import ShortcodeExpansion.Catalogue.Loading
import ShortcodeExpansion.Catalogue.Validation
import ShortcodeExpansion.Catalogue.Yaml
import ShortcodeExpansion.CommandLine.Arguments
import ShortcodeExpansion.CommandLine.Log
import ShortcodeExpansion.CommandLine.Logged
import ShortcodeExpansion.CommandLine.Run
import ShortcodeExpansion.Diff.Basic
import ShortcodeExpansion.Diff.Middle
import ShortcodeExpansion.Diff.Report
import ShortcodeExpansion.Diff.Script
import ShortcodeExpansion.ErrorChain
import ShortcodeExpansion.Files.Basic
import ShortcodeExpansion.Files.Expansion
import ShortcodeExpansion.Json.Basic
import ShortcodeExpansion.Json.Number
import ShortcodeExpansion.Json.Printer
import ShortcodeExpansion.Json.Reader
import ShortcodeExpansion.Main
import ShortcodeExpansion.Proofs.Catalogue.Checked
import ShortcodeExpansion.Proofs.Catalogue.EntryReading
import ShortcodeExpansion.Proofs.Catalogue.Mapping
import ShortcodeExpansion.Proofs.Catalogue.RecordLike
import ShortcodeExpansion.Proofs.Catalogue.RecordLikeYaml
import ShortcodeExpansion.Proofs.Catalogue.RoundTrip
import ShortcodeExpansion.Proofs.Catalogue.Validation
import ShortcodeExpansion.Proofs.CommandLine.ArgumentReading
import ShortcodeExpansion.Proofs.CommandLine.Channels
import ShortcodeExpansion.Proofs.CommandLine.Endings
import ShortcodeExpansion.Proofs.CommandLine.Failure
import ShortcodeExpansion.Proofs.CommandLine.FileExpansion
import ShortcodeExpansion.Proofs.CommandLine.Stages
import ShortcodeExpansion.Proofs.Diff.Report
import ShortcodeExpansion.Proofs.Diff.Script
import ShortcodeExpansion.Proofs.Files
import ShortcodeExpansion.Proofs.Json.RoundTrip
import ShortcodeExpansion.Proofs.NamedReference
import ShortcodeExpansion.Proofs.Regex.FirstWay
import ShortcodeExpansion.Proofs.Regex.Gathered
import ShortcodeExpansion.Proofs.Regex.GroupSlots
import ShortcodeExpansion.Proofs.Regex.Groups
import ShortcodeExpansion.Proofs.Regex.LeftToRight
import ShortcodeExpansion.Proofs.Regex.Ways
import ShortcodeExpansion.Proofs.Results
import ShortcodeExpansion.Proofs.Rule
import ShortcodeExpansion.Proofs.Stack.Addition
import ShortcodeExpansion.Proofs.Stack.Dump
import ShortcodeExpansion.Proofs.Stack.Expansion
import ShortcodeExpansion.Proofs.Stack.History
import ShortcodeExpansion.Proofs.Stack.Matchers
import ShortcodeExpansion.Proofs.Stack.Outcome
import ShortcodeExpansion.Proofs.Stack.Repetition
import ShortcodeExpansion.Proofs.Stack.Tried
import ShortcodeExpansion.Proofs.Template.AllocationHistory
import ShortcodeExpansion.Proofs.Template.Decomposition
import ShortcodeExpansion.Proofs.Template.GroupRange
import ShortcodeExpansion.Proofs.Template.LeftmostMatch
import ShortcodeExpansion.Proofs.Template.Numbering
import ShortcodeExpansion.Proofs.Template.PatternMeaning
import ShortcodeExpansion.Proofs.Template.PatternSize
import ShortcodeExpansion.Proofs.Template.PatternSyntax
import ShortcodeExpansion.Proofs.Template.PatternWays
import ShortcodeExpansion.Proofs.Template.ReferenceOrder
import ShortcodeExpansion.Proofs.Template.ReferencePlaces
import ShortcodeExpansion.Proofs.Template.ReplacementReading
import ShortcodeExpansion.Proofs.Template.ReservedReferences
import ShortcodeExpansion.Proofs.Template.Spacing
import ShortcodeExpansion.Proofs.Template.Splitting
import ShortcodeExpansion.Proofs.Template.TemplateReading
import ShortcodeExpansion.Proofs.Template.TokenReading
import ShortcodeExpansion.Proofs.Template.WildcardPlaces
import ShortcodeExpansion.Proofs.Template.WildcardReading
import ShortcodeExpansion.Proofs.Text.LineReading
import ShortcodeExpansion.Regex.Attempt
import ShortcodeExpansion.Regex.Bracket
import ShortcodeExpansion.Regex.Code
import ShortcodeExpansion.Regex.Compile
import ShortcodeExpansion.Regex.Cursor
import ShortcodeExpansion.Regex.Escape
import ShortcodeExpansion.Regex.Expr
import ShortcodeExpansion.Regex.Fault
import ShortcodeExpansion.Regex.Meaning
import ShortcodeExpansion.Regex.Property
import ShortcodeExpansion.Regex.Reader
import ShortcodeExpansion.Regex.Search
import ShortcodeExpansion.Regex.Size
import ShortcodeExpansion.Regex.Span
import ShortcodeExpansion.Regex.Syntax
import ShortcodeExpansion.Rule
import ShortcodeExpansion.Session
import ShortcodeExpansion.Shortcode
import ShortcodeExpansion.Stack
import ShortcodeExpansion.Template.Allocation
import ShortcodeExpansion.Template.Expansion
import ShortcodeExpansion.Template.Pattern
import ShortcodeExpansion.Template.Reference
import ShortcodeExpansion.Template.Replacement
import ShortcodeExpansion.Terminal.Colour
import ShortcodeExpansion.Terminal.Table
import ShortcodeExpansion.Text.Age
import ShortcodeExpansion.Text.Blank
import ShortcodeExpansion.Text.BreakClass
import ShortcodeExpansion.Text.ByteRange
import ShortcodeExpansion.Text.CaseFolding
import ShortcodeExpansion.Text.Category
import ShortcodeExpansion.Text.CharSet
import ShortcodeExpansion.Text.CharTable
import ShortcodeExpansion.Text.DecimalDigit
import ShortcodeExpansion.Text.Lines
import ShortcodeExpansion.Text.Property
import ShortcodeExpansion.Text.Quoted
import ShortcodeExpansion.Text.Script
import ShortcodeExpansion.Text.Width
import ShortcodeExpansion.Text.WordChar
import ShortcodeExpansion.Yaml.BlockScalar
import ShortcodeExpansion.Yaml.Character
import ShortcodeExpansion.Yaml.Cursor
import ShortcodeExpansion.Yaml.Directive
import ShortcodeExpansion.Yaml.Gap
import ShortcodeExpansion.Yaml.Lexer
import ShortcodeExpansion.Yaml.Node
import ShortcodeExpansion.Yaml.PlainScalar
import ShortcodeExpansion.Yaml.Property
import ShortcodeExpansion.Yaml.QuotedScalar
import ShortcodeExpansion.Yaml.Reader
import ShortcodeExpansion.Yaml.Scalar
import ShortcodeExpansion.Yaml.Token
