import Stencil.Collection
import Stencil.Color
import Stencil.Compile
import Stencil.Cursor
import Stencil.Cursor.Family
import Stencil.Datum
import Stencil.Delimiters
import Stencil.Encoding.Fault
import Stencil.Encoding.Named
import Stencil.Encoding.Utf16
import Stencil.Encoding.Utf8
import Stencil.Engine
import Stencil.Engine.Session
import Stencil.Entries
import Stencil.Event
import Stencil.Failure
import Stencil.Files.Path
import Stencil.Files.Source
import Stencil.Files.Tree
import Stencil.Format.Fault
import Stencil.Format.Field
import Stencil.Format.Layout
import Stencil.Format.Primitive
import Stencil.Format.Specification
import Stencil.FormatTable
import Stencil.Formattable
import Stencil.Item
import Stencil.Json
import Stencil.Log.Hierarchy
import Stencil.Log.Instant
import Stencil.Log.Level
import Stencil.Log.Line
import Stencil.Log.Message
import Stencil.Log.Message.Arguments
import Stencil.Log.Message.Directive
import Stencil.Log.Message.Fault
import Stencil.Log.Message.Layout
import Stencil.Log.Record
import Stencil.Log.Session
import Stencil.Lookup
import Stencil.Name
import Stencil.Number.Binary64
import Stencil.Number.Decimal
import Stencil.Number.Power
import Stencil.ParseError
import Stencil.Position
import Stencil.Proofs.Blame
import Stencil.Proofs.Bookmarks
import Stencil.Proofs.Canonical
import Stencil.Proofs.ColorForms
import Stencil.Proofs.Conversion
import Stencil.Proofs.MappingOrder
import Stencil.Proofs.Composition
import Stencil.Proofs.DataPaths
import Stencil.Proofs.Decided
import Stencil.Proofs.DottedNames
import Stencil.Proofs.DoubleRange
import Stencil.Proofs.Equality
import Stencil.Proofs.Facade
import Stencil.Proofs.Faults
import Stencil.Proofs.FormatErrors
import Stencil.Proofs.FormatSources
import Stencil.Proofs.Grammar
import Stencil.Proofs.Indices
import Stencil.Proofs.Isolation
import Stencil.Proofs.Journal
import Stencil.Proofs.LogLevels
import Stencil.Proofs.Logged
import Stencil.Proofs.LoggerNames
import Stencil.Proofs.Meaning
import Stencil.Proofs.NameForms
import Stencil.Proofs.Nesting
import Stencil.Proofs.Noninterference
import Stencil.Proofs.NumberLimits
import Stencil.Proofs.Offset
import Stencil.Proofs.PlainFormats
import Stencil.Proofs.Programs
import Stencil.Proofs.Progress
import Stencil.Proofs.Reading.Boundary
import Stencil.Proofs.Reading.Instruction
import Stencil.Proofs.Reading.Item
import Stencil.Proofs.Reading.Name
import Stencil.Proofs.Reading.Rule
import Stencil.Proofs.Reading.Sequence
import Stencil.Proofs.Reading.Tag
import Stencil.Proofs.Reading.Word
import Stencil.Proofs.Reported
import Stencil.Proofs.RoundTrip
import Stencil.Proofs.ScopeChain
import Stencil.Proofs.ScopeSplit
import Stencil.Proofs.Settling
import Stencil.Proofs.Soundness
import Stencil.Proofs.SourceFiles
import Stencil.Proofs.Steps
import Stencil.Proofs.TableFrame
import Stencil.Proofs.Trace
import Stencil.Proofs.Transparency
import Stencil.Proofs.Turns
import Stencil.Proofs.Utf8
import Stencil.Proofs.Walk
import Stencil.Render
import Stencil.RenderError
import Stencil.Tag
import Stencil.Template
import Stencil.Text.Blank
import Stencil.Text.Digit
import Stencil.Text.Newline
import Stencil.Text.Printable
import Stencil.Text.Quoted
import Stencil.Token
import Stencil.Token.Described
import Stencil.Value
