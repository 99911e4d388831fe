import SelectionCompiler.Table

/-!
# Schema snapshots

The compiler knows a service's schema through a snapshot: the names of the two root types, the
names of the enums, and the declared types of the fields of input types and of the arguments of
fields.  Types are kept as texts and are read when they are looked up, so an entry that is never
used may hold any text.
-/

namespace SelectionCompiler

/-- The two kinds of operation. -/
inductive OperationKind where
  | query
  | mutation
deriving DecidableEq

namespace OperationKind

/-- The keyword that opens an operation of this kind. -/
def keyword : OperationKind → String
  | .query => "query"
  | .mutation => "mutation"

end OperationKind

/-- The part of a schema that the compiler needs. -/
structure Schema where
  queryType : String
  mutationType : String
  /-- The names of the enums, each once. -/
  enums : List String
  /-- The fields of each input type with their types. -/
  inputTypes : Table (Table String)
  /-- The arguments, with their types, of each field of each type. -/
  fieldArguments : Table (Table (Table String))
deriving DecidableEq, Inhabited

namespace Schema

/-- A snapshot that knows nothing but the customary names of the root types. -/
def empty : Schema :=
  ⟨"Query", "Mutation", [], [], []⟩

/-- Lists an enum, unless it is listed already. -/
def withEnum (schema : Schema) (name : String) : Schema :=
  if name ∈ schema.enums then schema else { schema with enums := schema.enums ++ [name] }

/-- Describes an input type; an earlier description of the same type is replaced. -/
def withInputType (schema : Schema) (typeName : String) (fields : List (String × String)) :
    Schema :=
  { schema with inputTypes := schema.inputTypes.put typeName (Table.ofPairs fields) }

/-- Describes the arguments of a field; the other fields of the type keep theirs. -/
def withFieldArguments (schema : Schema) (typeName fieldName : String)
    (arguments : List (String × String)) : Schema :=
  let fields := (schema.fieldArguments.get? typeName).getD []
  { schema with
    fieldArguments :=
      schema.fieldArguments.put typeName (fields.put fieldName (Table.ofPairs arguments)) }

/-- The name is that of an enum. -/
def isEnum (schema : Schema) (typeName : String) : Bool :=
  schema.enums.contains typeName

/-- The fields of an input type with their types, if the type is described. -/
def inputType? (schema : Schema) (typeName : String) : Option (Table String) :=
  schema.inputTypes.get? typeName

/-- The arguments of a field with their types, if the field is described. -/
def fieldArguments? (schema : Schema) (typeName fieldName : String) : Option (Table String) :=
  (schema.fieldArguments.get? typeName).bind fun fields => fields.get? fieldName

/-- The type on which the operations of a kind select. -/
def rootType (schema : Schema) : OperationKind → String
  | .query => schema.queryType
  | .mutation => schema.mutationType

end Schema

end SelectionCompiler
