import SelectionCompiler.Json

/-!
# The description of snapshots

A JSON Schema that describes the JSON form of schema snapshots, for tools that write such files.
-/

namespace SelectionCompiler.Schema

/-- The description of any text. -/
def textDescription : Json :=
  .object [("type", .string "string")]

/-- The description of an object whose values are as described. -/
def objectOf (values : Json) : List (String × Json) :=
  [("type", .string "object"), ("additionalProperties", values)]

/-- The description of the name of a root type. -/
def rootTypeDescription (description default : String) : Json :=
  .object [("description", .string description), ("type", .string "string"),
    ("default", .string default)]

/-- The description of the list of enums. -/
def enumsDescription : Json :=
  .object [
    ("description", .string "Every enum type name of the schema."),
    ("type", .string "array"),
    ("default", .array []),
    ("items", textDescription),
    ("uniqueItems", .bool true)]

/-- The description of the types of arguments. -/
def fieldArgumentsDescription : Json :=
  .object ([("description", .string (
      "Arguments of output type fields:\n" ++
      "`\x7b typeName: \x7b fieldName: \x7b argumentName: typeReference \x7d \x7d \x7d`.\n" ++
      "Fields selected on the root type or under an inline fragment take their\n" ++
      "argument types from here when they do not declare their own."))] ++
    objectOf (.object (objectOf (.object (objectOf textDescription)))) ++
    [("default", .object [])])

/-- The description of the input types. -/
def inputTypesDescription : Json :=
  .object ([("description", .string
      "Input object types: `\x7b typeName: \x7b fieldName: typeReference \x7d \x7d`.")] ++
    objectOf (.object (objectOf textDescription)) ++
    [("default", .object [])])

/-- The address that names the dialect of JSON Schema in use. -/
def dialect : String :=
  "https:" ++ "//json-schema.org/draft/2020-12/schema"

/-- The description of snapshots. -/
def jsonSchema : Json :=
  .object [
    ("$schema", .string dialect),
    ("title", .string "SchemaMetadata"),
    ("description", .string (
      "Read-only description of the API surface the compiler needs: which type names\n" ++
      "are enums, and the declared type of every input-object field and field argument.")),
    ("type", .string "object"),
    ("properties", .object [
      ("enums", enumsDescription),
      ("field_arguments", fieldArgumentsDescription),
      ("input_types", inputTypesDescription),
      ("mutation_type", rootTypeDescription "Name of the root mutation type." "Mutation"),
      ("query_type", rootTypeDescription "Name of the root query type." "Query")]),
    ("additionalProperties", .bool false)]

end SelectionCompiler.Schema
