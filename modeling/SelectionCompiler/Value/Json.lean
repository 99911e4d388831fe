import SelectionCompiler.Json.Decode
import SelectionCompiler.Value

/-!
# The JSON form of values

Each value is an object whose only key names its variant; `Null` may also be written as that name.
The use of a variable is a record of its name and its mark, which is off unless it is given.
-/

namespace SelectionCompiler

namespace VariableRef

/-- A record of the name and the mark. -/
def toJson (ref : VariableRef) : Json :=
  .object [("name", .string ref.name), ("is_always_required", .bool ref.alwaysRequired)]

/-- The fields of a record that have been decoded so far. -/
structure Parts where
  name : Option String
  alwaysRequired : Option Bool

/-- Decodes the field under a key.  A key that is not known is passed over. -/
def Parts.add (origin : Json.Origin) (parts : Parts) (key : String) (draft : Json.Draft) :
    Json.Decoded Parts :=
  if key = "name" then
    if parts.name.isSome then Json.mismatch (.duplicateField key)
    else (fun value => { parts with name := some value }) <$> draft.asString
  else if key = "is_always_required" then
    if parts.alwaysRequired.isSome then Json.mismatch (.duplicateField key)
    else (fun value => { parts with alwaysRequired := some value }) <$> draft.asBool
  else (fun _ => parts) <$> origin.ignore draft

/-- Decodes the fields of a record one after the other. -/
def Parts.addEntries (origin : Json.Origin) :
    Parts → List (String × Json.Draft) → Json.Decoded Parts
  | parts, [] => .ok parts
  | parts, (key, draft) :: rest => do
      let parts ← parts.add origin key draft
      addEntries origin parts rest

/-- The use that the fields make up, which needs a name. -/
def Parts.finish (parts : Parts) : Json.Decoded VariableRef :=
  match parts.name with
  | none => Json.mismatch (.missingField "name")
  | some name => .ok ⟨name, parts.alwaysRequired.getD false⟩

/-- Decodes the use of a variable, which may be given as an object or as an array of its fields. -/
def ofDraft (origin : Json.Origin) : Json.Draft → Json.Decoded VariableRef
  | .object entries ending => do
      let parts ← Parts.addEntries origin ⟨none, none⟩ entries
      Json.reject ending.entryFault
      parts.finish
  | .array items ending => do
      let parts ← Parts.addEntries origin ⟨none, none⟩
        (["name", "is_always_required"].zip items)
      -- the mark may be left out, the name may not
      origin.endRecord "VariableRef" 1 2 items.length ending
      parts.finish
  | draft => draft.notRecord "struct VariableRef"

end VariableRef

namespace Value

mutual
/-- The JSON form of a value. -/
def toJson : Value → Json
  | .variable ref => .object [("Variable", ref.toJson)]
  | .int value => .object [("Int", .integer value)]
  | .float value => .object [("Float", .float value)]
  | .string value => .object [("String", .string value)]
  | .boolean value => .object [("Boolean", .bool value)]
  | .null => .string "Null"
  | .enum name => .object [("Enum", .string name)]
  | .list items => .object [("List", .array (itemsToJson items))]
  | .object entries => .object [("Object", .object (entriesToJson entries))]

/-- The JSON forms of the items of a list. -/
def itemsToJson : List Value → List Json
  | [] => []
  | item :: rest => toJson item :: itemsToJson rest

/-- The entries of an object with the JSON forms of their values. -/
def entriesToJson : List (String × Value) → List (String × Json)
  | [] => []
  | (key, value) :: rest => (key, toJson value) :: entriesToJson rest
end

/-- The names of the variants. -/
def variantNames : List String :=
  ["Variable", "Int", "Float", "String", "Boolean", "Null", "Enum", "List", "Object"]

open Json in
mutual
/-- Decodes a value. -/
def ofDraft (origin : Origin) : Draft → Decoded Value
  | .string name =>
      if name = "Null" then .ok .null
      -- the name alone is no value of a variant that carries one
      else if name ∈ variantNames then mismatch (.invalidType .unitVariant "newtype variant")
      else mismatch (.unknownVariant name variantNames)
  | .object ((name, draft) :: others) ending => do
      origin.beginVariant others
      let value ← ofVariant origin name draft
      origin.endVariant others ending
      pure value
  | draft => origin.notVariant draft

/-- Decodes the value of the variant of the given name. -/
def ofVariant (origin : Origin) (name : String) (draft : Draft) : Decoded Value :=
  if name = "Variable" then .variable <$> VariableRef.ofDraft origin draft
  else if name = "Int" then .int <$> draft.asInt
  else if name = "Float" then .float <$> draft.asFloat
  else if name = "String" then .string <$> draft.asString
  else if name = "Boolean" then .boolean <$> draft.asBool
  else if name = "Null" then (fun _ => .null) <$> origin.noValue draft
  else if name = "Enum" then .enum <$> draft.asString
  else if name = "List" then
    match draft with
    | .array items ending => do
        let values ← ofItems origin items
        reject ending.itemFault
        pure (.list values)
    | draft => draft.notArray "a sequence"
  else if name = "Object" then
    match draft with
    | .object entries ending => do
        let table ← ofEntries origin [] entries
        reject ending.entryFault
        pure (.object table)
    | draft => draft.notObject "a map"
  else mismatch (.unknownVariant name variantNames)

/-- Decodes the items of a list. -/
def ofItems (origin : Origin) : List Draft → Decoded (List Value)
  | [] => .ok []
  | item :: rest => do
      let value ← ofDraft origin item
      let values ← ofItems origin rest
      pure (value :: values)

/-- Decodes entries and writes them one after the other to a table. -/
def ofEntries (origin : Origin) (table : Table Value) :
    List (String × Draft) → Decoded (List (String × Value))
  | [] => .ok table
  | (key, draft) :: rest => do
      let value ← ofDraft origin draft
      ofEntries origin (table.put key value) rest
end

/-- Decodes an object of values, such as the arguments of a field. -/
def tableOfDraft (origin : Json.Origin) : Json.Draft → Json.Decoded (List (String × Value))
  | .object entries ending => do
      let table ← ofEntries origin [] entries
      Json.reject ending.entryFault
      pure table
  | draft => draft.notObject "a map"

/-- Reads a value from a text. -/
def ofJsonText (text : String) : Json.Decoded Value :=
  Json.decodeText (ofDraft .text) text

end Value

end SelectionCompiler
