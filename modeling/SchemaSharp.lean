import SchemaSharp.Artifact
import SchemaSharp.Command.Execution
import SchemaSharp.Command.LogLine
import SchemaSharp.Command.Reach
import SchemaSharp.Command.Switch
import SchemaSharp.Command.Usage
import SchemaSharp.Conversion.Class
import SchemaSharp.Conversion.Run
import SchemaSharp.Conversion.State
import SchemaSharp.Conversion.TypeName
import SchemaSharp.Failure
import SchemaSharp.Identifier
import SchemaSharp.Location.Canonical
import SchemaSharp.Location.FilePath
import SchemaSharp.Location.Host
import SchemaSharp.Location.Percent
import SchemaSharp.Location.Reference
import SchemaSharp.Main
import SchemaSharp.Markup.Charset
import SchemaSharp.Markup.CodePage
import SchemaSharp.Markup.Coding
import SchemaSharp.Markup.Doctype
import SchemaSharp.Markup.Element
import SchemaSharp.Markup.Event
import SchemaSharp.Markup.Fault
import SchemaSharp.Markup.Letters
import SchemaSharp.Markup.Lexeme
import SchemaSharp.Notice
import SchemaSharp.Resolver
import SchemaSharp.Schema.Model
import SchemaSharp.Schema.Name
import SchemaSharp.Schema.Reader
import SchemaSharp.Settings
import SchemaSharp.Source
import SchemaSharp.Store
import SchemaSharp.Text.JsonString
import SchemaSharp.Text.Member
import SchemaSharp.Text.Numeral
import SchemaSharp.Text.Pieces
import SchemaSharp.Text.Printable
import SchemaSharp.Text.Quoted
import SchemaSharp.Text.Ranges
import SchemaSharp.Text.Template
import SchemaSharp.Text.Uppercase
import SchemaSharp.Text.Utf8
import SchemaSharp.World
import SchemaSharp.Writer
import SchemaSharp.Proofs.Task
import SchemaSharp.Proofs.Writer.Marks
import SchemaSharp.Proofs.Writer.Nesting
import SchemaSharp.Proofs.Writer.Levels
import SchemaSharp.Proofs.Writer.Grammar
import SchemaSharp.Proofs.Markup.Numbering
import SchemaSharp.Proofs.Schema.Reading
import SchemaSharp.Proofs.Schema.Failures
import SchemaSharp.Proofs.Store.Steps
import SchemaSharp.Proofs.Store.Closure
import SchemaSharp.Proofs.Store.Index
import SchemaSharp.Proofs.Store.Failures
import SchemaSharp.Proofs.Conversion.Steps
import SchemaSharp.Proofs.Conversion.Queue
import SchemaSharp.Proofs.Conversion.Uses
import SchemaSharp.Proofs.Conversion.Outline
import SchemaSharp.Proofs.Conversion.Progress
import SchemaSharp.Proofs.Conversion.Bench
import SchemaSharp.Proofs.Conversion.Scripts
import SchemaSharp.Proofs.Conversion.Documents
import SchemaSharp.Proofs.Conversion.Runs
import SchemaSharp.Proofs.Conversion.Filing
import SchemaSharp.Proofs.Conversion.Modes
import SchemaSharp.Proofs.Conversion.Course
import SchemaSharp.Proofs.Conversion.SourceFiles
import SchemaSharp.Proofs.Conversion.Agreement
import SchemaSharp.Proofs.Conversion.BreadthFirst
import SchemaSharp.Proofs.Identifier
import SchemaSharp.Proofs.Conversion.Coverage
import SchemaSharp.Proofs.Conversion.ReferenceClosure
import SchemaSharp.Proofs.Store.Arrivals
import SchemaSharp.Proofs.Store.Appending
import SchemaSharp.Proofs.Store.Chronicle
import SchemaSharp.Proofs.Store.Namespaces
import SchemaSharp.Proofs.Store.Ending
import SchemaSharp.Proofs.Text.Utf8
import SchemaSharp.Proofs.Location.Escapes
import SchemaSharp.Proofs.Location.Paths
import SchemaSharp.Proofs.Location.FileLocations
import SchemaSharp.Proofs.Task.Loop
import SchemaSharp.Proofs.Task.Keeping
import SchemaSharp.Proofs.Conversion.Offline
import SchemaSharp.Proofs.Conversion.Ending
import SchemaSharp.Proofs.Schema.Particles
import SchemaSharp.Proofs.Conversion.Support
import SchemaSharp.Proofs.Schema.Content
import SchemaSharp.Proofs.Conversion.Contents
import SchemaSharp.Proofs.Conversion.Remote
import SchemaSharp.Proofs.Writer.Misuse
import SchemaSharp.Proofs.Writer.HeaderOrder
import SchemaSharp.Proofs.Location.Faults
import SchemaSharp.Proofs.Conversion.Failures
import SchemaSharp.Proofs.Command.Status
import SchemaSharp.Proofs.Result
import SchemaSharp.Proofs.Lists
import SchemaSharp.Proofs.Text.Lines
import SchemaSharp.Proofs.Text.Template
import SchemaSharp.Proofs.Identifier.Lines
import SchemaSharp.Proofs.Schema.Owners
import SchemaSharp.Proofs.Writer.SingleLines
import SchemaSharp.Proofs.Conversion.Origins
import SchemaSharp.Proofs.Conversion.SingleLines
import SchemaSharp.Proofs.Location.Children
import SchemaSharp.Proofs.Artifact
import SchemaSharp.Proofs.Conversion.OutputPaths
import SchemaSharp.Proofs.Writer.Contracts
import SchemaSharp.Proofs.Conversion.OutputOptions
import SchemaSharp.Proofs.Conversion.SeedFailures
import SchemaSharp.Proofs.Conversion.EmissionOrder
import SchemaSharp.Proofs.Text.Pieces
import SchemaSharp.Proofs.Store.DepthFirst
import SchemaSharp.Proofs.Conversion.Meanings
import SchemaSharp.Proofs.Markup.Tree
import SchemaSharp.Proofs.Markup.Cut
import SchemaSharp.Proofs.Markup.Cut.Lexemes
import SchemaSharp.Proofs.Markup.Cut.Tokens
import SchemaSharp.Proofs.Schema.Scopes
import SchemaSharp.Proofs.Schema.Annotations
import SchemaSharp.Proofs.Location.Destinations
import SchemaSharp.Proofs.Location.RelativeReferences
import SchemaSharp.Proofs.Text.Quoted
import SchemaSharp.Proofs.Text.Uppercase
import SchemaSharp.Proofs.Text.Layouts
import SchemaSharp.Proofs.Text.Filling
import SchemaSharp.Proofs.Identifier.Renaming
import SchemaSharp.Proofs.Markup.Cut.Declarations
import SchemaSharp.Proofs.Text.Letters
import SchemaSharp.Proofs.Identifier.Beginnings
import SchemaSharp.Proofs.Conversion.Refusals
import SchemaSharp.Proofs.Conversion.WireNames
import SchemaSharp.Proofs.Conversion.Repetition
import SchemaSharp.Proofs.Markup.Encodings
import SchemaSharp.Proofs.Markup.Cut.Contents
import SchemaSharp.Proofs.Markup.Cut.Bytes
import SchemaSharp.Proofs.Schema.Reports
import SchemaSharp.Proofs.Writer.MemberMarkers
import SchemaSharp.Proofs.Writer.Literals
import SchemaSharp.Proofs.Identifier.Laws
import SchemaSharp.Proofs.Conversion.Spellings
import SchemaSharp.Proofs.Schema.DocumentOrder
import SchemaSharp.Proofs.Conversion.MemberElements
import SchemaSharp.Proofs.Conversion.SimpleTypes
