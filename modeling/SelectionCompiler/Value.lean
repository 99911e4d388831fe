/-!
# Argument values

The values that can stand as arguments of a field.  They are those of GraphQL, with one addition:
a variable carries a mark that asks for a non-null declaration wherever it is used.
-/

namespace SelectionCompiler

/-- The use of a variable as a value. -/
structure VariableRef where
  /-- The name of the variable, without its dollar sign. -/
  name : String
  /-- The variable must be declared non-null even if the place accepts null. -/
  alwaysRequired : Bool
deriving DecidableEq

/-- An argument value.  Integers are unbounded here; the JSON form admits those of 64 bits. -/
inductive Value where
  | variable (ref : VariableRef)
  | int (value : Int)
  | float (value : Float)
  | string (value : String)
  | boolean (value : Bool)
  | null
  | enum (name : String)
  | list (items : List Value)
  | object (entries : List (String × Value))
deriving Inhabited

end SelectionCompiler
