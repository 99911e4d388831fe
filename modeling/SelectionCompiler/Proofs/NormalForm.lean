import SelectionCompiler.Compile.Selections
import SelectionCompiler.Proofs.Findings

/-!
# Normal forms

A document shows less than the tree it was compiled from.  It has no place for the types that fields
bring along nor for the mark that a variable is always required, and a string where an enum is
expected looks like an enum value.  The normal form of a tree is what is left of it in the document:
marks and types are dropped, and such strings are turned into enum values.

Only the normal form depends on the schema.  The text of a normal form follows from the tree alone.
-/

namespace SelectionCompiler

/-! ### Values -/

namespace Value

mutual
/-- What a document shows of a value at a place of the given type. -/
def normal (schema : Schema) (type : Option TypeRef) : Value → Value
  | .variable ref => .variable ⟨ref.name, false⟩
  | .string value => if schema.expectsEnum type then .enum value else .string value
  | .list items => .list (normalItems schema (type.map TypeRef.itemType) items)
  | .object entries => .object (normalEntries schema (schema.inputScope type) entries)
  | value => value

/-- What a document shows of the items of a list. -/
def normalItems (schema : Schema) (type : Option TypeRef) : List Value → List Value
  | [] => []
  | item :: rest => normal schema type item :: normalItems schema type rest

/-- What a document shows of entries whose keys belong to the given scope. -/
def normalEntries (schema : Schema) (scope : Scope) :
    List (String × Value) → List (String × Value)
  | [] => []
  | (key, value) :: rest =>
      (key, normal schema (scope.type? key) value) :: normalEntries schema scope rest
end

mutual
/-- The text of a value. -/
def text : Value → String
  | .variable ref => "$" ++ ref.name
  | .int value => Text.decimal value
  | .float value => Compile.floatText value
  | .string value => Text.quoted value
  | .boolean value => if value then "true" else "false"
  | .null => "null"
  | .enum name => name
  | .list items => "[" ++ Text.commaSeparated (itemTexts items) ++ "]"
  | .object entries => "\x7b" ++ Text.commaSeparated (entryTexts entries) ++ "\x7d"

/-- The texts of the items of a list. -/
def itemTexts : List Value → List String
  | [] => []
  | item :: rest => text item :: itemTexts rest

/-- The texts of entries. -/
def entryTexts : List (String × Value) → List String
  | [] => []
  | (key, value) :: rest => (key ++ ":" ++ text value) :: entryTexts rest
end

end Value

/-! ### Selections -/

namespace Field

/-- What a document shows of a field that is selected on the given type. -/
def normal (schema : Schema) (parent : Option String) (field : Field) : Field :=
  ⟨field.name, field.aliasName,
    Value.normalEntries schema (field.scope schema parent) field.arguments, none⟩

/-- The arguments of a field in parentheses, and nothing when there are none. -/
def argumentsText (field : Field) : String :=
  if field.arguments.isEmpty then ""
  else "(" ++ Text.commaSeparated (Value.entryTexts field.arguments) ++ ")"

end Field

namespace Selection

mutual
/-- What a document shows of a selection made on the given type. -/
def normal (schema : Schema) (parent : Option String) : Selection → Selection
  | .field head selections => .field (head.normal schema parent) (normalSet schema none selections)
  | .fragment typeCondition selections =>
      .fragment typeCondition (normalSet schema (some typeCondition) selections)
  | .unknown => .unknown

/-- What a document shows of the selections of a set. -/
def normalSet (schema : Schema) (parent : Option String) : List Selection → List Selection
  | [] => []
  | selection :: rest => normal schema parent selection :: normalSet schema parent rest
end

mutual
/-- The text of a selection with the blank behind it. -/
def text : Selection → String
  | .field head selections =>
      Compile.fieldHead head ++ head.argumentsText ++
        if selections.isEmpty then " " else "\x7b" ++ setText selections ++ "\x7d "
  | .fragment typeCondition selections =>
      "... on " ++ typeCondition ++ " \x7b" ++ setText selections ++ "\x7d "
  | .unknown => ""

/-- The texts of the selections of a set one after the other. -/
def setText : List Selection → String
  | [] => ""
  | selection :: rest => text selection ++ setText rest
end

end Selection

/-! ### Emptiness -/

namespace Value

theorem normalEntries_isEmpty (schema : Schema) (scope : Scope) (entries : List (String × Value)) :
    (normalEntries schema scope entries).isEmpty = entries.isEmpty := by
  cases entries <;> rfl

end Value

namespace Selection

theorem normalSet_isEmpty (schema : Schema) (parent : Option String)
    (selections : List Selection) :
    (normalSet schema parent selections).isEmpty = selections.isEmpty := by
  cases selections <;> rfl

end Selection

namespace Schema

/-- What a document shows of the selections of an operation. -/
def normal (schema : Schema) (kind : OperationKind) (selections : List Selection) :
    List Selection :=
  Selection.normalSet schema (some (schema.rootType kind)) selections

end Schema

end SelectionCompiler
