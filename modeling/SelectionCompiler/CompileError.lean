import SelectionCompiler.TypeRef.Reader

/-!
# Compile errors

A compilation fails on a variable that cannot be declared, on a value or an argument that does not
fit the schema, or on a node of an unknown kind.  Each error carries the path of the place, made
of response keys, type conditions, argument names, object keys and list positions.
-/

namespace SelectionCompiler

/-- Why a variable cannot be declared. -/
inductive VariableFault where
  | invalidName
  | untypedPlace
deriving DecidableEq

/-- Why an argument does not fit the schema. -/
inductive SchemaFault where
  /-- The argument is missing from the table that applies to the field. -/
  | undeclaredArgument (argument fieldName : String)
  /-- The declared type of the place cannot be read. -/
  | invalidTypeRef (text : String) (error : TypeRefError)
  /-- An object stands where a type without a description is expected. -/
  | undescribedInput (typeName : String)
  /-- An object has a key that its input type lacks. -/
  | undeclaredInputField (key typeName : String)
  /-- An enum value is not a name, or is the name of a literal. -/
  | invalidEnumValue (value : String)
deriving DecidableEq

/-- The reason why a compilation stopped. -/
inductive CompileError where
  | configuration (name path : String) (fault : VariableFault)
  | schema (path : String) (fault : SchemaFault)
  /-- A node of an unknown kind stands in the selection set at the path. -/
  | unknownNode (path : String)
deriving DecidableEq

namespace VariableFault

/-- The text that tells what is wrong with the use of a variable. -/
def message : VariableFault → String
  | .invalidName => "the variable name is not a valid GraphQL name"
  | .untypedPlace => "the argument type of the field is not declared"

end VariableFault

namespace SchemaFault

/-- The text that tells how a tree and a snapshot disagree. -/
def message : SchemaFault → String
  | .undeclaredArgument argument fieldName =>
      "argument '" ++ argument ++ "' is not declared for field '" ++ fieldName ++ "'"
  | .invalidTypeRef text error =>
      "invalid type reference '" ++ text ++ "': " ++ error.message
  | .undescribedInput typeName =>
      "input type '" ++ typeName ++ "' is not described by the schema metadata"
  | .undeclaredInputField key typeName =>
      "field '" ++ key ++ "' is not declared on input type '" ++ typeName ++ "'"
  | .invalidEnumValue value => "'" ++ value ++ "' is not a valid enum value"

end SchemaFault

namespace CompileError

/-- The text that tells why and where a compilation stopped. -/
def message : CompileError → String
  | .configuration name path fault =>
      "Variable '$" ++ name ++ "' at '" ++ path ++ "': " ++ fault.message
  | .schema path fault => "Schema error at '" ++ path ++ "': " ++ fault.message
  | .unknownNode path => "Unknown selection node kind under '" ++ path ++ "'"

end CompileError

end SelectionCompiler
