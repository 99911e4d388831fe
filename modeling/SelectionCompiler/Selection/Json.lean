import SelectionCompiler.Selection.Builder
import SelectionCompiler.Value.Json

/-!
# The JSON form of selection trees

A selection is an object whose key `kind` tells what it is; the other keys are the parts of a field
or of an inline fragment.  A kind that is not known makes an unknown node, whatever else is there.

Since the kind may stand anywhere in the object, a selection is read completely before its parts
are decoded.  Only the kind itself is judged on the way.
-/

namespace SelectionCompiler

namespace Table

/-- A table of types as an object of their texts. -/
def toJson (table : Table String) : Json :=
  .object (table.map fun entry => (entry.1, .string entry.2))

end Table

namespace Field

/-- The entries of the JSON form of a field, apart from its selections.  What is absent or empty is
left out, except a table of types without entries. -/
def jsonEntries (field : Field) : List (String × Json) :=
  [("name", .string field.name)] ++
    (match field.aliasName with
      | none => []
      | some aliasName => [("alias", .string aliasName)]) ++
    (if field.arguments.isEmpty then []
      else [("arguments", .object (Value.entriesToJson field.arguments))]) ++
    (match field.argumentTypes with
      | none => []
      | some types => [("argument_types", types.toJson)])

end Field

namespace Selection

mutual
/-- The JSON form of a selection. -/
def toJson : Selection → Json
  | .field head selections =>
      .object ([("kind", .string "Field")] ++ head.jsonEntries ++
        (if selections.isEmpty then [] else [("selections", .array (itemsToJson selections))]))
  | .fragment typeCondition selections =>
      .object [("kind", .string "InlineFragment"), ("type_condition", .string typeCondition),
        ("selections", .array (itemsToJson selections))]
  | .unknown => .object [("kind", .string "Unknown")]

/-- The JSON forms of the selections of a set. -/
def itemsToJson : List Selection → List Json
  | [] => []
  | selection :: rest => toJson selection :: itemsToJson rest
end

/-- The JSON form of a tree: the array of its selections. -/
def setToJson (selections : List Selection) : Json :=
  .array (itemsToJson selections)

/-! ### Kinds -/

/-- What the kind of a selection says. -/
inductive Kind where
  | field
  | fragment
  | unknown
deriving DecidableEq

namespace Kind

/-- The kind that a name denotes. -/
def ofName (name : String) : Kind :=
  if name = "Field" then .field
  else if name = "InlineFragment" then .fragment
  else .unknown

/-- The kind that a position denotes. -/
def ofPosition (position : Int) : Kind :=
  if position = 0 then .field
  else if position = 1 then .fragment
  else .unknown

/-- Decodes a kind.  Inside a tree that was read before, a kind may also be given by its
position. -/
def ofDraft (origin : Json.Origin) (draft : Json.Draft) : Json.Decoded Kind :=
  match draft, origin with
  | .string name, _ => .ok (ofName name)
  | .integer position, .tree =>
      if 0 ≤ position then .ok (ofPosition position) else draft.notA "variant identifier"
  | draft, _ => draft.notA "variant identifier"

/-- The keys of the parts that belong to a kind, in the order of their positions. -/
def keys : Kind → List String
  | .field => ["name", "alias", "arguments", "argument_types", "selections"]
  | .fragment => ["type_condition", "selections"]
  | .unknown => []

/-- The name of the record of the parts. -/
def record : Kind → String
  | .field => "FieldSelection"
  | .fragment => "InlineFragmentSelection"
  | .unknown => ""

/-- How many of the parts cannot be left out. -/
def required : Kind → Nat
  | .unknown => 0
  | _ => 1

/-- The kind that the entries of an object give, and the other values read completely. -/
def ofEntries (origin : Json.Origin) :
    Option Kind → List (String × Json.Draft) → Json.Decoded (Option Kind)
  | kind, [] => .ok kind
  | kind, (key, draft) :: rest => do
      if key = "kind" then
        if kind.isSome then Json.mismatch (.duplicateField key)
        else do
          let kind ← ofDraft origin draft
          ofEntries origin (some kind) rest
      else do
        draft.check
        ofEntries origin kind rest

end Kind

/-! ### Parts -/

/-- The parts of a selection that have been decoded so far.  An alias and a table of types may also
be given as `null`. -/
structure Parts where
  name : Option String
  typeCondition : Option String
  aliasName : Option (Option String)
  arguments : Option (Table Value)
  argumentTypes : Option (Option (Table String))
  selections : Option (List Selection)

namespace Parts

/-- No part has been decoded. -/
def none : Parts :=
  ⟨.none, .none, .none, .none, .none, .none⟩

/-- The part under a key has been decoded. -/
def has (parts : Parts) (key : String) : Bool :=
  if key = "name" then parts.name.isSome
  else if key = "type_condition" then parts.typeCondition.isSome
  else if key = "alias" then parts.aliasName.isSome
  else if key = "arguments" then parts.arguments.isSome
  else if key = "argument_types" then parts.argumentTypes.isSome
  else if key = "selections" then parts.selections.isSome
  else false

/-- Decodes a part other than the selections. -/
def add (origin : Json.Origin) (parts : Parts) (key : String) (draft : Json.Draft) :
    Json.Decoded Parts :=
  if key = "name" then
    (fun value => { parts with name := some value }) <$> draft.asString
  else if key = "type_condition" then
    (fun value => { parts with typeCondition := some value }) <$> draft.asString
  else if key = "alias" then
    (fun value => { parts with aliasName := some value }) <$>
      Json.Draft.asOption Json.Draft.asString draft
  else if key = "arguments" then
    (fun value => { parts with arguments := some value }) <$> Value.tableOfDraft origin draft
  else if key = "argument_types" then
    (fun value => { parts with argumentTypes := some value }) <$>
      Json.Draft.asOption (Json.Draft.asTable Json.Draft.asString) draft
  else .ok parts

/-- The field that the parts make up, which needs a name. -/
def toField (parts : Parts) : Json.Decoded FieldSelection :=
  match parts.name with
  | .none => Json.mismatch (.missingField "name")
  | some name =>
      .ok ⟨⟨name, parts.aliasName.getD .none, parts.arguments.getD [],
        parts.argumentTypes.getD .none⟩, parts.selections.getD []⟩

/-- The selection of a kind that the parts make up. -/
def finish (parts : Parts) : Kind → Json.Decoded Selection
  | .field => FieldSelection.toSelection <$> parts.toField
  | .fragment =>
      match parts.typeCondition with
      | .none => Json.mismatch (.missingField "type_condition")
      | some typeCondition => .ok (.fragment typeCondition (parts.selections.getD []))
  | .unknown => .ok .unknown

end Parts

/-! ### Selections -/

open Json in
mutual
/-- Decodes a selection. -/
def ofDraft (origin : Origin) : Draft → Decoded Selection
  | .object entries ending => do
      let kind ← Kind.ofEntries origin none entries
      reject ending.entryFault
      match kind with
      | none => mismatch (.missingField "kind")
      -- no part of an unknown node is decoded, so nothing in it is of a wrong type
      | some .unknown => pure .unknown
      | some kind => do
          let parts ← partsOfEntries .tree kind Parts.none entries
          parts.finish kind
  | .array [] ending => do
      reject ending.itemFault
      mismatch (.missingField "kind")
  | .array (first :: rest) ending => do
      let kind ← Kind.ofDraft origin first
      Draft.checkItems rest
      reject ending.itemFault
      -- from here on the array is complete, whatever its parts turn out to be
      let parts ← partsOfItems .tree kind kind.keys Parts.none rest
      Origin.tree.endRecord kind.record kind.required kind.keys.length rest.length .closed
      parts.finish kind
  | draft => draft.notRecord "internally tagged enum SelectionItem"

/-- Decodes the part under a key.  Keys that do not belong to the kind are passed over. -/
def partOfDraft (origin : Origin) (kind : Kind) (parts : Parts) (key : String) (draft : Draft) :
    Decoded Parts :=
  if key ∈ kind.keys then
    if parts.has key then mismatch (.duplicateField key)
    else if key = "selections" then
      match draft with
      | .array items ending => do
          let selections ← ofItems origin items
          reject ending.itemFault
          pure { parts with selections := some selections }
      | draft => draft.notArray "a sequence"
    else parts.add origin key draft
  else (fun _ => parts) <$> origin.ignore draft

/-- Decodes the parts of an object. -/
def partsOfEntries (origin : Origin) (kind : Kind) (parts : Parts) :
    List (String × Draft) → Decoded Parts
  | [] => .ok parts
  | (key, draft) :: rest => do
      let parts ← partOfDraft origin kind parts key draft
      partsOfEntries origin kind parts rest

/-- Decodes the parts of an array, which stand in the order of the keys. -/
def partsOfItems (origin : Origin) (kind : Kind) (keys : List String) (parts : Parts) :
    List Draft → Decoded Parts
  | [] => .ok parts
  | draft :: rest =>
      match keys with
      -- what is behind the last part is counted by `Json.Origin.endRecord`
      | [] => .ok parts
      | key :: keys => do
          let parts ← partOfDraft origin kind parts key draft
          partsOfItems origin kind keys parts rest

/-- Decodes the selections of a set. -/
def ofItems (origin : Origin) : List Draft → Decoded (List Selection)
  | [] => .ok []
  | item :: rest => do
      let selection ← ofDraft origin item
      let selections ← ofItems origin rest
      pure (selection :: selections)
end

/-- Decodes a tree. -/
def setOfDraft (origin : Json.Origin) : Json.Draft → Json.Decoded (List Selection)
  | .array items ending => do
      let selections ← ofItems origin items
      Json.reject ending.itemFault
      pure selections
  | draft => draft.notArray "a sequence"

/-- Reads a tree from a text. -/
def setOfJsonText (text : String) : Json.Decoded (List Selection) :=
  Json.decodeText (setOfDraft .text) text

end Selection

namespace FieldSelection

open Selection in
/-- Decodes a field, which may be given as an object or as an array of its parts. -/
def ofDraft (origin : Json.Origin) : Json.Draft → Json.Decoded FieldSelection
  | .object entries ending => do
      let parts ← partsOfEntries origin .field Parts.none entries
      Json.reject ending.entryFault
      parts.toField
  | .array items ending => do
      let parts ← partsOfItems origin .field Kind.field.keys Parts.none items
      origin.endRecord Kind.field.record Kind.field.required Kind.field.keys.length items.length
        ending
      parts.toField
  | draft => draft.notRecord "struct FieldSelection"

/-- Reads a field from a text. -/
def ofJsonText (text : String) : Json.Decoded FieldSelection :=
  Json.decodeText (ofDraft .text) text

end FieldSelection

end SelectionCompiler
