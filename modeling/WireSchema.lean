import WireSchema.Annotation.Basic
import WireSchema.Annotation.ParamValue
import WireSchema.Annotation.Tag
import WireSchema.CommandLine.Arguments
import WireSchema.CommandLine.Command
import WireSchema.CommandLine.Record
import WireSchema.CommandLine.Run
import WireSchema.Compiler.Request
import WireSchema.Compiler.Script.Builtin
import WireSchema.Compiler.Script.Bytes
import WireSchema.Compiler.Script.Command
import WireSchema.Compiler.Script.Condition
import WireSchema.Compiler.Script.Fields
import WireSchema.Compiler.Script.Files
import WireSchema.Compiler.Script.Launcher
import WireSchema.Compiler.Script.Machine
import WireSchema.Compiler.Script.Pattern
import WireSchema.Compiler.Script.Printing
import WireSchema.Compiler.Script.Programs
import WireSchema.Compiler.Script.Reader
import WireSchema.Compiler.Script.Run
import WireSchema.Compiler.Script.Search
import WireSchema.Compiler.Script.Sum
import WireSchema.Decimal.Binary64
import WireSchema.Decimal.Shortest
import WireSchema.Document.Fault
import WireSchema.Document.Json.Printer
import WireSchema.Document.Json.Reader
import WireSchema.Document.Value
import WireSchema.Document.Yaml.Reader
import WireSchema.Document.Yaml.Scalar
import WireSchema.Document.Yaml.ScalarText
import WireSchema.Document.Yaml.Scanner
import WireSchema.Document.Yaml.Token
import WireSchema.Failure
import WireSchema.FilePlan.FileName
import WireSchema.FilePlan.Output
import WireSchema.FilePlan.Partition
import WireSchema.Format.Emitter
import WireSchema.Format.JsonSchema
import WireSchema.Format.Markdown
import WireSchema.Format.TypeScript
import WireSchema.Format.View
import WireSchema.Main
import WireSchema.Model.Basic
import WireSchema.Model.Reader
import WireSchema.Options.Basic
import WireSchema.Options.Document
import WireSchema.Options.Reader
import WireSchema.Proofs.Annotation.Query
import WireSchema.Proofs.Document.Asked
import WireSchema.Proofs.Document.Distinct
import WireSchema.Proofs.Document.Order
import WireSchema.Proofs.Document.Pointwise
import WireSchema.Proofs.Document.Table
import WireSchema.Proofs.Failure
import WireSchema.Proofs.FilePlan.Groups
import WireSchema.Proofs.FilePlan.Owners
import WireSchema.Proofs.FilePlan.Preservation
import WireSchema.Proofs.FilePlan.Run
import WireSchema.Proofs.FilePlan.TypePlaces
import WireSchema.Proofs.Format.Agreement
import WireSchema.Proofs.Format.Collections
import WireSchema.Proofs.Format.Listing
import WireSchema.Proofs.Format.Properties
import WireSchema.Proofs.Model.Typed
import WireSchema.Proofs.Model.Undocumented
import WireSchema.Proofs.ProtoText.Declarations
import WireSchema.Proofs.ProtoText.Documentation
import WireSchema.Proofs.ProtoText.FieldText
import WireSchema.Proofs.ProtoText.Imports
import WireSchema.Proofs.ProtoText.Injectivity
import WireSchema.Proofs.ProtoText.Lines
import WireSchema.Proofs.ProtoText.MapFields
import WireSchema.Proofs.ProtoText.MemberNames
import WireSchema.Proofs.ProtoText.Monomorphization
import WireSchema.Proofs.ProtoText.Parts
import WireSchema.Proofs.ProtoText.Replacement
import WireSchema.Proofs.ProtoText.Strategy
import WireSchema.Proofs.Schema.Documentation
import WireSchema.Proofs.Schema.Mapping
import WireSchema.Proofs.Schema.Naming
import WireSchema.Proofs.Schema.NumberText
import WireSchema.Proofs.Schema.Numbering
import WireSchema.Proofs.Schema.Origin
import WireSchema.Proofs.Schema.Outcome
import WireSchema.Proofs.Schema.References
import WireSchema.Proofs.Schema.Reservation
import WireSchema.Proofs.Schema.Resolution
import WireSchema.Proofs.Schema.Retirement
import WireSchema.Proofs.Schema.Scoping
import WireSchema.Proofs.Schema.Shapes
import WireSchema.Proofs.Schema.Substitution
import WireSchema.Proofs.Stub.Closure
import WireSchema.Proofs.Stub.Conversions
import WireSchema.Proofs.Stub.Data
import WireSchema.Proofs.Stub.Modules
import WireSchema.Proofs.Text.Joined
import WireSchema.Proofs.Text.LineEnds
import WireSchema.Proofs.Text.Words
import WireSchema.Proofs.TypeExpr.Grammar
import WireSchema.Proofs.TypeExpr.Printing
import WireSchema.Proofs.TypeExpr.Reading
import WireSchema.Proofs.Validation.Parts
import WireSchema.Proofs.Validation.Plans
import WireSchema.Proofs.Validation.Refusal
import WireSchema.Proofs.Validation.Scan
import WireSchema.Proofs.Workspace.Entries
import WireSchema.ProtoText.Block
import WireSchema.ProtoText.File
import WireSchema.ProtoText.Header
import WireSchema.Schema.Alias
import WireSchema.Schema.FieldRules
import WireSchema.Schema.Inclusion
import WireSchema.Schema.MessagePlan
import WireSchema.Schema.Names
import WireSchema.Schema.Reservation
import WireSchema.Schema.Service
import WireSchema.Schema.TypeTable
import WireSchema.Stub.Data
import WireSchema.Stub.Descriptor
import WireSchema.Stub.Document
import WireSchema.Stub.Files
import WireSchema.Stub.ModuleText
import WireSchema.Stub.ServiceModules
import WireSchema.Stub.TypesModule
import WireSchema.Template.Datum
import WireSchema.Template.Store
import WireSchema.Template.Text
import WireSchema.Text.Alphanumeric
import WireSchema.Text.CaseContext
import WireSchema.Text.CharClass
import WireSchema.Text.Cut
import WireSchema.Text.Integer
import WireSchema.Text.Lines
import WireSchema.Text.Lowercase
import WireSchema.Text.ModuleForm
import WireSchema.Text.Quoted
import WireSchema.Text.ShellWords
import WireSchema.Text.Spelling
import WireSchema.Text.Unprintable
import WireSchema.Text.Words
import WireSchema.TypeExpr.Basic
import WireSchema.TypeExpr.Parser
import WireSchema.Validation.Check
import WireSchema.Validation.Finding
import WireSchema.Workspace.Basic
import WireSchema.Workspace.Document
import WireSchema.Workspace.FileFault
import WireSchema.Workspace.Location
import WireSchema.Workspace.Writer
import WireSchema.Proofs.Workspace.Writing
import WireSchema.Proofs.FilePlan.Paths
import WireSchema.Proofs.Workspace.Below
import WireSchema.Proofs.Stub.Maps
import WireSchema.Proofs.Stub.FunctionNames
import WireSchema.Proofs.Format.Ignored
import WireSchema.Proofs.Format.Fragments
import WireSchema.Proofs.Format.References
import WireSchema.Proofs.Schema.UnsupportedMaps
import WireSchema.Proofs.Schema.Matching
import WireSchema.Proofs.Schema.MessageNotes
import WireSchema.Proofs.Format.TypeListing
import WireSchema.Proofs.Text.Literals
import WireSchema.Proofs.ProtoText.Literals
import WireSchema.Proofs.Schema.Composition
import WireSchema.Proofs.Validation.Reports
import WireSchema.Proofs.Text.WordPattern
import WireSchema.Proofs.Text.WordBoundaries
import WireSchema.Proofs.Text.SnakeCase
import WireSchema.Proofs.Text.Decimals
import WireSchema.Proofs.Schema.Ranges
import WireSchema.Proofs.TypeExpr.Instantiations
import WireSchema.Proofs.Schema.AliasLookup
import WireSchema.Proofs.Schema.RecursiveTemplates
import WireSchema.Proofs.Options.RoundTrip
import WireSchema.Proofs.Annotation.Tag
import WireSchema.Proofs.Annotation.Scope
import WireSchema.Proofs.Schema.Inclusion
import WireSchema.Proofs.Schema.JsonName
import WireSchema.Proofs.ProtoText.FileOptions
