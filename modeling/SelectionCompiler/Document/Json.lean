import SelectionCompiler.Document
import SelectionCompiler.Json

/-!
# The JSON form of variable declarations

The declarations of a document are an array of records of a name and the text of a type.
-/

namespace SelectionCompiler

namespace VariableDefinition

/-- A record of the name and of the text of the type. -/
def toJson (definition : VariableDefinition) : Json :=
  .object [("name", .string definition.name), ("type", .string definition.type.text)]

/-- An array of the records of the declarations, in their order. -/
def listToJson (definitions : List VariableDefinition) : Json :=
  .array (definitions.map toJson)

end VariableDefinition

end SelectionCompiler
