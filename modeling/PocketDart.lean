import PocketDart.CommandLine.Arguments
import PocketDart.CommandLine.Console
import PocketDart.CommandLine.Help
import PocketDart.CommandLine.Run
import PocketDart.Config.Configuration
import PocketDart.Config.Document
import PocketDart.Config.File
import PocketDart.Dart.Expression
import PocketDart.Dart.Identifier
import PocketDart.Dart.Literal
import PocketDart.Dart.TypeName
import PocketDart.Files.Formatter
import PocketDart.Files.ModelFiles
import PocketDart.Files.Path
import PocketDart.Files.SchemaFile
import PocketDart.Files.Tree
import PocketDart.Generation.Custom
import PocketDart.Generation.Emit
import PocketDart.Generation.Lenient
import PocketDart.Generation.Settings
import PocketDart.Generation.Strict
import PocketDart.Json.Reader
import PocketDart.Json.Writer
import PocketDart.Log.Message
import PocketDart.Log.Threshold
import PocketDart.Machine
import PocketDart.Main
import PocketDart.Model.Build
import PocketDart.Model.Inconsistency
import PocketDart.Model.Layout
import PocketDart.Model.Source
import PocketDart.Naming.Convention
import PocketDart.Naming.Scope
import PocketDart.Number.Binary64
import PocketDart.Number.Shortest
import PocketDart.Proofs.CommandLine.Codes
import PocketDart.Proofs.CommandLine.Effects
import PocketDart.Proofs.CommandLine.Endings
import PocketDart.Proofs.CommandLine.Legible
import PocketDart.Proofs.CommandLine.OptionalConfiguration
import PocketDart.Proofs.CommandLine.Origins
import PocketDart.Proofs.CommandLine.Outcome
import PocketDart.Proofs.CommandLine.SchemaFile
import PocketDart.Proofs.CommandLine.Summary
import PocketDart.Proofs.Config.Credentials
import PocketDart.Proofs.Config.Reading
import PocketDart.Proofs.Config.ServerName
import PocketDart.Proofs.Config.Settings
import PocketDart.Proofs.Dart.EnumText
import PocketDart.Proofs.Dart.ExpressionText
import PocketDart.Proofs.Dart.Legal
import PocketDart.Proofs.Dart.Literal
import PocketDart.Proofs.Dart.Meaning
import PocketDart.Proofs.Dart.Program
import PocketDart.Proofs.Dart.ProgramText
import PocketDart.Proofs.Dart.Quotation
import PocketDart.Proofs.Dart.TextReader
import PocketDart.Proofs.Dart.Word
import PocketDart.Proofs.Fallible
import PocketDart.Proofs.Files.Component
import PocketDart.Proofs.Files.Depth
import PocketDart.Proofs.Files.DoubleDots
import PocketDart.Proofs.Files.Failure
import PocketDart.Proofs.Files.FirstModels
import PocketDart.Proofs.Files.Growth
import PocketDart.Proofs.Files.ModelPaths
import PocketDart.Proofs.Files.Writing
import PocketDart.Proofs.Generation.Agreement
import PocketDart.Proofs.Generation.ByName
import PocketDart.Proofs.Generation.Interruption
import PocketDart.Proofs.Generation.Models
import PocketDart.Proofs.Generation.Outcome
import PocketDart.Proofs.Generation.Tally
import PocketDart.Proofs.Lookup
import PocketDart.Proofs.Model.Acceptance
import PocketDart.Proofs.Model.ClassName
import PocketDart.Proofs.Model.Clean
import PocketDart.Proofs.Model.CleanSource
import PocketDart.Proofs.Model.Conversion
import PocketDart.Proofs.Model.Declarations
import PocketDart.Proofs.Model.Draft
import PocketDart.Proofs.Model.EnumConstants
import PocketDart.Proofs.Model.EnumTables
import PocketDart.Proofs.Model.FieldOrder
import PocketDart.Proofs.Model.FileNames
import PocketDart.Proofs.Model.FirstFault
import PocketDart.Proofs.Model.Identifiers
import PocketDart.Proofs.Model.Lines
import PocketDart.Proofs.Model.ProgramText
import PocketDart.Proofs.Model.Reading
import PocketDart.Proofs.Model.Recovery
import PocketDart.Proofs.Model.RoundTrip
import PocketDart.Proofs.Model.SingleField
import PocketDart.Proofs.Naming.Ends
import PocketDart.Proofs.Naming.FirstOwner
import PocketDart.Proofs.Naming.Fresh
import PocketDart.Proofs.Naming.Likeness
import PocketDart.Proofs.Naming.Marks
import PocketDart.Proofs.Naming.Raw
import PocketDart.Proofs.Naming.TimeType
import PocketDart.Proofs.Schema.Handlers
import PocketDart.Proofs.Schema.Misuses
import PocketDart.Proofs.Schema.Payloads
import PocketDart.Proofs.Schema.Sameness
import PocketDart.Proofs.Server.Authentication
import PocketDart.Proofs.Server.Faults
import PocketDart.Proofs.Server.Nesting
import PocketDart.Proofs.Server.Pages
import PocketDart.Proofs.Server.Paging
import PocketDart.Proofs.Server.Replies
import PocketDart.Proofs.Server.Tokens
import PocketDart.Proofs.Stateful
import PocketDart.Proofs.Template.Caching
import PocketDart.Proofs.Template.Drafts
import PocketDart.Proofs.Template.Outcomes
import PocketDart.Proofs.Template.Promises
import PocketDart.Proofs.Template.Reading
import PocketDart.Proofs.Template.Rendering
import PocketDart.Proofs.Template.Shipped
import PocketDart.Proofs.Template.Spelling
import PocketDart.Proofs.Text.Ascii
import PocketDart.Proofs.Text.CleanForm
import PocketDart.Proofs.Text.Delimited
import PocketDart.Proofs.Text.Letters
import PocketDart.Proofs.Text.Tidy
import PocketDart.Schema.Collection
import PocketDart.Schema.Field
import PocketDart.Server.Address
import PocketDart.Server.Client
import PocketDart.Server.Exchange
import PocketDart.Server.Host
import PocketDart.Template.Datum
import PocketDart.Template.Engine
import PocketDart.Template.Fault
import PocketDart.Template.Known
import PocketDart.Template.Language
import PocketDart.Template.Render
import PocketDart.Template.Shipped
import PocketDart.Template.Store
import PocketDart.Template.Syntax
import PocketDart.Text.Blank
import PocketDart.Text.Digit
import PocketDart.Text.Encoding
import PocketDart.Text.Identifier
import PocketDart.Text.Inflow
import PocketDart.Text.LetterCase.Mapping
import PocketDart.Text.LetterCase.Table
import PocketDart.Text.Normal.Composed
import PocketDart.Text.Normal.Form
import PocketDart.Text.Normal.Mark
import PocketDart.Text.Normal.Spelling
import PocketDart.Text.Printable
import PocketDart.Text.Quoted
import PocketDart.Text.Segments
import PocketDart.Text.StandIn
import PocketDart.Text.Tidy
import PocketDart.Text.Utf8
import PocketDart.Value.Basic
import PocketDart.Value.Display
import PocketDart.Value.Equality
import PocketDart.Value.Misuse
import PocketDart.Value.Moment
import PocketDart.Yaml.Digit
import PocketDart.Yaml.Fault
import PocketDart.Yaml.Lexer
import PocketDart.Yaml.Node
import PocketDart.Yaml.Reader
import PocketDart.Yaml.Scalar
import PocketDart.Yaml.Timestamp
import PocketDart.Yaml.Token
