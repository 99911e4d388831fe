import SelectionCompiler.Registry
import SelectionCompiler.Schema
import SelectionCompiler.Text.Joined

/-!
# Operation documents

A document is one operation: its kind, its name if it has one, the variables it declares and the
body that selects.
-/

namespace SelectionCompiler

/-- The declaration of a variable with its type. -/
structure VariableDefinition where
  name : String
  type : TypeRef
deriving DecidableEq

namespace VariableDefinition

/-- The declaration as it stands in a document. -/
def text (definition : VariableDefinition) : String :=
  "$" ++ definition.name ++ ":" ++ definition.type.text

end VariableDefinition

namespace Registry

/-- The declarations of the variables met, in the order of their first uses. -/
def definitions (registry : Registry) : List VariableDefinition :=
  registry.entries.map fun entry => ⟨entry.1, entry.2⟩

end Registry

/-- One operation as a document. -/
structure Document where
  kind : OperationKind
  name : Option String
  definitions : List VariableDefinition
  body : String
deriving DecidableEq

namespace Document

/-- The declarations in parentheses, and nothing when there are none. -/
def preamble (document : Document) : String :=
  if document.definitions.isEmpty then ""
  else "(" ++ Text.commaSeparated (document.definitions.map VariableDefinition.text) ++ ")"

/-- The document on one line: keyword, name, declarations and body. -/
def text (document : Document) : String :=
  document.kind.keyword ++ " " ++ document.name.getD "" ++ document.preamble ++ document.body

end Document

end SelectionCompiler
