import SelectionCompiler.Compile.Selections
import SelectionCompiler.Document
import SelectionCompiler.Selection.Builder
import SelectionCompiler.Text.Blank

/-!
# Compiling operations

An operation is compiled by rendering its selections on the root type of its kind.  The rendered
text without the blank at its end is the body of the document, and the variables met on the way
are its declarations.
-/

namespace SelectionCompiler

namespace Compile

/-- The steps that compile an operation. -/
def operationSteps (schema : Schema) (kind : OperationKind) (name : Option String)
    (selections : List Selection) : Compile Document := do
  let text ← rootText schema (schema.rootType kind) selections
  let session ← get
  let document : Document :=
    ⟨kind, name, session.registry.definitions, String.ofList (Text.trimEnd text.toList)⟩
  note (.compiled document.text)
  pure document

/-- Compiles an operation: the document or an error, and the session reached. -/
def operation (schema : Schema) (kind : OperationKind) (name : Option String)
    (selections : List Selection) : Except CompileError Document × Session :=
  (operationSteps schema kind name selections).runFrom Session.start

end Compile

/-- Starts the fields of a root set.  Their argument types are taken from the snapshot. -/
structure RootSelector where
  schema : Schema
  rootType : String

namespace RootSelector

/-- A field of the root type, with the argument types that the snapshot has for it. -/
def field (root : RootSelector) (name : String) : FieldSelection :=
  match root.schema.fieldArguments? root.rootType name with
  | none => FieldSelection.ofName name
  | some types => (FieldSelection.ofName name).withArgumentTypes types

end RootSelector

namespace Schema

/-- The selector for the root type of the operations of a kind. -/
def rootSelector (schema : Schema) (kind : OperationKind) : RootSelector :=
  ⟨schema, schema.rootType kind⟩

/-- Compiles the operation whose selections are built with the root selector. -/
def build (schema : Schema) (kind : OperationKind) (name : Option String)
    (select : RootSelector → List Selection) : Except CompileError Document × Session :=
  Compile.operation schema kind name (select (schema.rootSelector kind))

end Schema

end SelectionCompiler
