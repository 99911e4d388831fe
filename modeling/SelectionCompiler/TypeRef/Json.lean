import SelectionCompiler.Json.Decode
import SelectionCompiler.TypeRef

/-!
# The JSON form of type references

A wrapper is an object with the key `List` or `NonNull`, a named type one with the key `Named`.
Unlike the grammar of references this form can hold stacked markers and arbitrary names.
-/

namespace SelectionCompiler.TypeRef

/-- A type as a variant that carries its name or the type inside it. -/
def toJson : TypeRef → Json
  | .list element => .object [("List", element.toJson)]
  | .nonNull inner => .object [("NonNull", inner.toJson)]
  | .named name => .object [("Named", .string name)]

/-- The names of the variants. -/
def variantNames : List String :=
  ["List", "NonNull", "Named"]

open Json in
mutual
/-- Decodes a type. -/
def ofDraft : Draft → Decoded TypeRef
  | .string name =>
      if name ∈ variantNames then mismatch (.invalidType .unitVariant "newtype variant")
      else mismatch (.unknownVariant name variantNames)
  | .object ((name, value) :: others) ending => do
      let type ← ofVariant name value
      Origin.text.endVariant others ending
      pure type
  | draft => Origin.text.notVariant draft

/-- Decodes the value of the variant of the given name. -/
def ofVariant (name : String) (draft : Draft) : Decoded TypeRef :=
  if name = "List" then .list <$> ofDraft draft
  else if name = "NonNull" then .nonNull <$> ofDraft draft
  else if name = "Named" then .named <$> draft.asString
  else mismatch (.unknownVariant name variantNames)
end

/-- Reads a type from a JSON text. -/
def ofJsonText (text : String) : Json.Decoded TypeRef :=
  Json.decodeText ofDraft text

end SelectionCompiler.TypeRef
