import MathNotes.Builder
import MathNotes.Decimal.Shortest
import MathNotes.Decimal.Single
import MathNotes.Error
import MathNotes.Expr.Basic
import MathNotes.Expr.Json
import MathNotes.Expr.Markup
import MathNotes.Expr.Recorder
import MathNotes.Grid
import MathNotes.Identifier
import MathNotes.Json.Basic
import MathNotes.Json.Reader
import MathNotes.Json.Record
import MathNotes.Json.Token
import MathNotes.Json.Writer
import MathNotes.Line.Basic
import MathNotes.Line.Element
import MathNotes.Line.Json
import MathNotes.Line.Literal
import MathNotes.Line.Scan
import MathNotes.Note.Basic
import MathNotes.Note.Block
import MathNotes.Note.Json
import MathNotes.Options.Scalar
import MathNotes.Options.Yaml
import MathNotes.Palette
import MathNotes.Proofs.Builder.Editing
import MathNotes.Proofs.Builder.History
import MathNotes.Proofs.Builder.Matrix
import MathNotes.Proofs.Decimal.Digits
import MathNotes.Proofs.Decimal.Shortest
import MathNotes.Proofs.Decimal.Single
import MathNotes.Proofs.Expr.Checked
import MathNotes.Proofs.Expr.NormalForm
import MathNotes.Proofs.Expr.Recorder
import MathNotes.Proofs.Expr.Stored
import MathNotes.Proofs.Expr.Unambiguous
import MathNotes.Proofs.Expr.Vectors
import MathNotes.Proofs.Expr.Written
import MathNotes.Proofs.Grid.Legible
import MathNotes.Proofs.Grid.Shape
import MathNotes.Proofs.Identifier
import MathNotes.Proofs.Json.Nesting
import MathNotes.Proofs.Json.Record
import MathNotes.Proofs.Json.Spelling
import MathNotes.Proofs.Json.Token
import MathNotes.Proofs.Line.Barrier
import MathNotes.Proofs.Line.Decomposition
import MathNotes.Proofs.Line.EmptyCells
import MathNotes.Proofs.Line.Grammar
import MathNotes.Proofs.Line.Reader
import MathNotes.Proofs.Line.RoundTrip
import MathNotes.Proofs.Line.Scan
import MathNotes.Proofs.Line.Source
import MathNotes.Proofs.Line.Stored
import MathNotes.Proofs.Note.Coherent
import MathNotes.Proofs.Note.Operations
import MathNotes.Proofs.Note.Stored
import MathNotes.Proofs.Options.Scalar
import MathNotes.Proofs.Options.Stored
import MathNotes.Proofs.Palette.Search
import MathNotes.Proofs.Render.Balance
import MathNotes.Proofs.Render.Stable
import MathNotes.Proofs.Sanitize.Balance
import MathNotes.Proofs.Sanitize.Dangling
import MathNotes.Proofs.Sanitize.Escapes
import MathNotes.Proofs.Sanitize.Expression
import MathNotes.Proofs.Sanitize.Normal
import MathNotes.Proofs.Sanitize.Rules
import MathNotes.Proofs.Sanitize.Spacing
import MathNotes.Proofs.Sanitize.Termination
import MathNotes.Proofs.Sanitize.Tidy
import MathNotes.Proofs.Sanitize.Trimmed
import MathNotes.Proofs.Template.Registry
import MathNotes.Proofs.Template.Slots
import MathNotes.Proofs.Text.Blank
import MathNotes.Proofs.Text.Border
import MathNotes.Proofs.Text.Braces
import MathNotes.Proofs.Text.Delimited
import MathNotes.Proofs.Text.Escapes
import MathNotes.Proofs.Text.Lowercase
import MathNotes.Proofs.Text.Occurrences
import MathNotes.Proofs.Text.Replace
import MathNotes.Proofs.Text.Shrink
import MathNotes.Proofs.Text.Spacing
import MathNotes.Proofs.Yaml.PlainLines
import MathNotes.Proofs.Yaml.PlainMapping
import MathNotes.Render
import MathNotes.Sanitize.Basic
import MathNotes.Sanitize.Measure
import MathNotes.Sanitize.Rules
import MathNotes.Symbol
import MathNotes.Template.Basic
import MathNotes.Template.Catalogue
import MathNotes.Template.Registry
import MathNotes.Text.Base64
import MathNotes.Text.Basic
import MathNotes.Text.Blank
import MathNotes.Text.CaseTable
import MathNotes.Text.Lowercase
import MathNotes.Text.Quoted
import MathNotes.Text.Replace
import MathNotes.Text.Word
import MathNotes.Text.WordTable
import MathNotes.Yaml.Block
import MathNotes.Yaml.Cursor
import MathNotes.Yaml.Document
import MathNotes.Yaml.Layout
import MathNotes.Yaml.Members
import MathNotes.Yaml.Node
import MathNotes.Yaml.Plain
import MathNotes.Yaml.Property
import MathNotes.Yaml.Quoted
import MathNotes.Yaml.Token
