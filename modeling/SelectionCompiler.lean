import SelectionCompiler.CommandLine
import SelectionCompiler.CommandLine.Files
import SelectionCompiler.Compile.Arguments
import SelectionCompiler.Compile.Operation
import SelectionCompiler.Compile.Selections
import SelectionCompiler.Compile.Session
import SelectionCompiler.CompileError
import SelectionCompiler.Decimal.Layout
import SelectionCompiler.Decimal.Nearest
import SelectionCompiler.Decimal.Scaled
import SelectionCompiler.Decimal.Shortest
import SelectionCompiler.Document
import SelectionCompiler.Document.Json
import SelectionCompiler.Event
import SelectionCompiler.Executable
import SelectionCompiler.Executable.BlockString
import SelectionCompiler.Executable.Layout
import SelectionCompiler.Executable.Reader
import SelectionCompiler.Executable.Token
import SelectionCompiler.Json
import SelectionCompiler.Json.Decode
import SelectionCompiler.Json.Draft
import SelectionCompiler.Json.ReadError
import SelectionCompiler.Json.Reader
import SelectionCompiler.Main
import SelectionCompiler.Name
import SelectionCompiler.Proofs.Annotation
import SelectionCompiler.Proofs.BaseNames
import SelectionCompiler.Proofs.ClosedForm
import SelectionCompiler.Proofs.CommandRuns
import SelectionCompiler.Proofs.Compatibility
import SelectionCompiler.Proofs.Course
import SelectionCompiler.Proofs.Declarations
import SelectionCompiler.Proofs.DeclaredTypes
import SelectionCompiler.Proofs.Findings
import SelectionCompiler.Proofs.FirstViolation
import SelectionCompiler.Proofs.Hoisting
import SelectionCompiler.Proofs.Json.Leaves
import SelectionCompiler.Proofs.Json.ReadBack
import SelectionCompiler.Proofs.Json.Spacing
import SelectionCompiler.Proofs.Json.StoredValues
import SelectionCompiler.Proofs.LiteralData
import SelectionCompiler.Proofs.Lookups
import SelectionCompiler.Proofs.Markers
import SelectionCompiler.Proofs.MergedTypes
import SelectionCompiler.Proofs.NormalForm
import SelectionCompiler.Proofs.OneLine
import SelectionCompiler.Proofs.Pieces
import SelectionCompiler.Proofs.Reading.Declarations
import SelectionCompiler.Proofs.Reading.Documents
import SelectionCompiler.Proofs.Reading.Literals
import SelectionCompiler.Proofs.Reading.Selections
import SelectionCompiler.Proofs.Reading.SpacedTokens
import SelectionCompiler.Proofs.Reading.Tokens
import SelectionCompiler.Proofs.Reading.TypeTokens
import SelectionCompiler.Proofs.Reading.Types
import SelectionCompiler.Proofs.Reading.Values
import SelectionCompiler.Proofs.Reading.VariableLists
import SelectionCompiler.Proofs.Reading.WrittenValues
import SelectionCompiler.Proofs.Reordering
import SelectionCompiler.Proofs.SchemaGrowth
import SelectionCompiler.Proofs.ShapeConflicts
import SelectionCompiler.Proofs.Siblings
import SelectionCompiler.Proofs.StoredSchemas
import SelectionCompiler.Proofs.StoredTrees
import SelectionCompiler.Proofs.Visits
import SelectionCompiler.Proofs.Walk
import SelectionCompiler.Proofs.WritableTypes
import SelectionCompiler.Registry
import SelectionCompiler.Schema
import SelectionCompiler.Schema.Description
import SelectionCompiler.Schema.Json
import SelectionCompiler.Selection
import SelectionCompiler.Selection.Builder
import SelectionCompiler.Selection.Json
import SelectionCompiler.Table
import SelectionCompiler.Text.Blank
import SelectionCompiler.Text.Diagnostic
import SelectionCompiler.Text.Joined
import SelectionCompiler.Text.Quoted
import SelectionCompiler.Text.Visible
import SelectionCompiler.TypeRef
import SelectionCompiler.TypeRef.Json
import SelectionCompiler.TypeRef.Merge
import SelectionCompiler.TypeRef.Reader
import SelectionCompiler.Value
import SelectionCompiler.Value.Json
