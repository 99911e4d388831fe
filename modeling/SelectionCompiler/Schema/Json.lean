import SelectionCompiler.Json.Decode
import SelectionCompiler.Schema

/-!
# The JSON form of schema snapshots

A snapshot is a record all of whose fields may be left out; keys other than those of its fields are
errors.  Enums are an array of names, the other tables are objects within objects.
-/

namespace SelectionCompiler

namespace OperationKind

/-- The names of the two kinds. -/
def names : List String :=
  ["query", "mutation"]

/-- Decodes a kind from a value that was read before. -/
def ofDraft : Json.Draft → Json.Decoded OperationKind
  | .string name =>
      if name = "query" then .ok .query
      else if name = "mutation" then .ok .mutation
      else Json.mismatch (.unknownVariant name names)
  | .object [(name, value)] _ =>
      if name ∈ names then
        -- a kind carries no value, which an object can only say with `null`
        match value with
        | .null => .ok (if name = "query" then .query else .mutation)
        | value => value.notA "unit"
      else Json.mismatch (.unknownVariant name names)
  | draft => Json.Origin.tree.notVariant draft

/-- Decodes a kind from its JSON form. -/
def ofJson (value : Json) : Json.Decoded OperationKind :=
  ofDraft (.ofJson value)

end OperationKind

namespace Schema

/-- The keys of the fields of a snapshot, in the order of their positions. -/
def keys : List String :=
  ["query_type", "mutation_type", "enums", "input_types", "field_arguments"]

/-- A table of types as an object of their texts. -/
def typesToJson (types : Table String) : Json :=
  .object (types.map fun entry => (entry.1, .string entry.2))

/-- A snapshot as a record of all its fields. -/
def toJson (schema : Schema) : Json :=
  .object [
    ("query_type", .string schema.queryType),
    ("mutation_type", .string schema.mutationType),
    ("enums", .array (schema.enums.map .string)),
    ("input_types", .object (schema.inputTypes.map fun entry => (entry.1, typesToJson entry.2))),
    ("field_arguments", .object (schema.fieldArguments.map fun entry =>
      (entry.1, .object (entry.2.map fun field => (field.1, typesToJson field.2)))))]

/-- The fields of a snapshot that have been decoded so far. -/
structure Parts where
  queryType : Option String
  mutationType : Option String
  enums : Option (List String)
  inputTypes : Option (Table (Table String))
  fieldArguments : Option (Table (Table (Table String)))

namespace Parts

/-- No field has been decoded. -/
def none : Parts :=
  ⟨.none, .none, .none, .none, .none⟩

/-- The field under a key has been decoded. -/
def has (parts : Parts) (key : String) : Bool :=
  if key = "query_type" then parts.queryType.isSome
  else if key = "mutation_type" then parts.mutationType.isSome
  else if key = "enums" then parts.enums.isSome
  else if key = "input_types" then parts.inputTypes.isSome
  else parts.fieldArguments.isSome

/-- Decodes the field under a key. -/
def add (parts : Parts) (key : String) (draft : Json.Draft) : Json.Decoded Parts :=
  if key ∈ keys then
    if parts.has key then Json.mismatch (.duplicateField key)
    else if key = "query_type" then
      (fun value => { parts with queryType := some value }) <$> draft.asString
    else if key = "mutation_type" then
      (fun value => { parts with mutationType := some value }) <$> draft.asString
    else if key = "enums" then
      (fun value => { parts with enums := some value }) <$>
        Json.Draft.asList Json.Draft.asString draft
    else if key = "input_types" then
      (fun value => { parts with inputTypes := some value }) <$>
        Json.Draft.asTable (Json.Draft.asTable Json.Draft.asString) draft
    else
      -- types, fields of a type, arguments of a field
      (fun value => { parts with fieldArguments := some value }) <$>
        Json.Draft.asTable (Json.Draft.asTable (Json.Draft.asTable Json.Draft.asString)) draft
  else Json.mismatch (.unknownField key keys)

/-- Decodes the fields of a record one after the other. -/
def addEntries : Parts → List (String × Json.Draft) → Json.Decoded Parts
  | parts, [] => .ok parts
  | parts, (key, draft) :: rest => do
      let parts ← parts.add key draft
      addEntries parts rest

/-- The finished snapshot.  A name that is given more than once in the list of enums counts
once. -/
def finish (parts : Parts) : Schema :=
  ⟨parts.queryType.getD Schema.empty.queryType,
    parts.mutationType.getD Schema.empty.mutationType,
    (parts.enums.getD []).foldl (fun names name => if name ∈ names then names else names ++ [name])
      [],
    parts.inputTypes.getD [],
    parts.fieldArguments.getD []⟩

end Parts

/-- Decodes a snapshot, which may be given as an object or as an array of its fields. -/
def ofDraft : Json.Draft → Json.Decoded Schema
  | .object entries ending => do
      let parts ← Parts.none.addEntries entries
      Json.reject ending.entryFault
      pure parts.finish
  | .array items ending => do
      let parts ← Parts.none.addEntries (keys.zip items)
      Json.Origin.text.endRecord "SchemaMetadata" 0 keys.length items.length ending
      pure parts.finish
  | draft => draft.notRecord "struct SchemaMetadata"

/-- Reads a snapshot from a text. -/
def ofJsonText (text : String) : Json.Decoded Schema :=
  Json.decodeText ofDraft text

/-- The text that tells why a snapshot could not be read. -/
def readErrorMessage (error : Json.ReadError) : String :=
  "Invalid schema metadata: " ++ error.message

end Schema

end SelectionCompiler
