import SelectionCompiler.Compile.Session
import SelectionCompiler.Decimal.Layout
import SelectionCompiler.Schema
import SelectionCompiler.Selection
import SelectionCompiler.Text.Joined
import SelectionCompiler.Text.Quoted

/-!
# Writing arguments

The declared type of a place, where it is known, decides three things: whether a text is written
bare because an enum is expected, which types the fields of an input object have, and the type
with which a variable is registered.  Everything else is written by its own form.

Lists pass the type of their items down, objects look the types of their fields up.  Values are
written from left to right, so that the variables are registered in the order in which they stand
in the document.
-/

namespace SelectionCompiler.Compile

/-- The text of a double.  The infinities and what is not a number are written as `null`. -/
def floatText (x : Float) : String :=
  if x.isFinite then Decimal.Layout.json.float x else "null"

/-- An enum value, written bare. -/
def enumText (path value : String) : Compile String :=
  if Name.isEnumValue value then pure value
  else throw (.schema path (.invalidEnumValue value))

/-- Reads the declared type of the place at a path. -/
def readType (path text : String) : Compile TypeRef :=
  match TypeRef.read text with
  | .ok type => pure type
  | .error error => throw (.schema path (.invalidTypeRef text error))

/-- The declared type of an entry.  Without a table nothing is known and nothing is checked; with
one, a key that is missing from it is an error. -/
def entryType (table : Option (Table String)) (path key : String) (missing : SchemaFault) :
    Compile (Option TypeRef) :=
  match table with
  | none => pure none
  | some table =>
      match table.get? key with
      | none => throw (.schema path missing)
      | some text => some <$> readType path text

/-- The fields of the input type that is expected where an object stands. -/
def inputTable (schema : Schema) (type : Option TypeRef) (path : String) :
    Compile (Option (Table String)) :=
  match type with
  | none => pure none
  | some type =>
      match schema.inputType? type.baseName with
      | none => throw (.schema path (.undescribedInput type.baseName))
      | some fields => pure (some fields)

/-- Registers a variable and writes it. -/
def variableText (type : Option TypeRef) (path : String) (ref : VariableRef) : Compile String := do
  if Name.isValid ref.name then
    match type with
    | none => throw (.configuration ref.name path .untypedPlace)
    | some type =>
        use ⟨ref.name, type, ref.alwaysRequired⟩
        pure ("$" ++ ref.name)
  else throw (.configuration ref.name path .invalidName)

mutual
/-- The text of a value at a place of the given type. -/
def valueText (schema : Schema) (type : Option TypeRef) (path : String) : Value → Compile String
  | .null => pure "null"
  | .int value => pure (Text.decimal value)
  | .float value => pure (floatText value)
  | .boolean value => pure (if value then "true" else "false")
  | .enum name => enumText path name
  | .string value =>
      if type.any fun type => schema.isEnum type.baseName then enumText path value
      else pure (Text.quoted value)
  | .variable ref => variableText type path ref
  | .list items => do
      let texts ← itemTexts schema (type.map TypeRef.itemType) path 0 items
      pure ("[" ++ Text.commaSeparated texts ++ "]")
  | .object entries => do
      let table ← inputTable schema type path
      let typeName := (type.map TypeRef.baseName).getD ""
      let texts ← entryTexts schema table typeName path entries
      pure ("\x7b" ++ Text.commaSeparated texts ++ "\x7d")

/-- The texts of the items of a list, from the one at the given position on. -/
def itemTexts (schema : Schema) (type : Option TypeRef) (path : String) (position : Nat) :
    List Value → Compile (List String)
  | [] => pure []
  | item :: rest => do
      let text ← valueText schema type (path ++ "[" ++ Text.decimal position ++ "]") item
      let texts ← itemTexts schema type path (position + 1) rest
      pure (text :: texts)

/-- The texts of the entries of an object whose fields have the types of the table. -/
def entryTexts (schema : Schema) (table : Option (Table String)) (typeName path : String) :
    List (String × Value) → Compile (List String)
  | [] => pure []
  | (key, value) :: rest => do
      let entryPath := path ++ "." ++ key
      let type ← entryType table entryPath key (.undeclaredInputField key typeName)
      let text ← valueText schema type entryPath value
      let texts ← entryTexts schema table typeName path rest
      pure ((key ++ ":" ++ text) :: texts)
end

/-- The table that applies to the arguments of a field: its own if it brings one along, else that
of the snapshot for the type on which the field is selected. -/
def argumentTable (schema : Schema) (parent : Option String) (field : Field) :
    Option (Table String) :=
  match field.argumentTypes with
  | some table => some table
  | none => parent.bind fun typeName => schema.fieldArguments? typeName field.name

/-- The texts of arguments, each reported when it is written. -/
def argumentTexts (schema : Schema) (table : Option (Table String)) (fieldName path : String) :
    List (String × Value) → Compile (List String)
  | [] => pure []
  | (key, value) :: rest => do
      let argumentPath := path ++ "." ++ key
      let type ← entryType table argumentPath key (.undeclaredArgument key fieldName)
      let text ← valueText schema type argumentPath value
      note (.argumentWritten argumentPath text)
      let texts ← argumentTexts schema table fieldName path rest
      pure ((key ++ ":" ++ text) :: texts)

/-- The arguments of a field, without the parentheses around them. -/
def argumentsText (schema : Schema) (parent : Option String) (path : String) (field : Field) :
    Compile String :=
  Text.commaSeparated <$>
    argumentTexts schema (argumentTable schema parent field) field.name path field.arguments

end SelectionCompiler.Compile
