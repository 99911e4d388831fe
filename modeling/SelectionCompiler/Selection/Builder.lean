import SelectionCompiler.Selection

/-!
# Building selections

Fields and fragments are built step by step: a field starts from its name and takes an alias,
arguments, argument types and selections; a fragment starts from its type condition and takes
selections.
-/

namespace SelectionCompiler

/-- A field with its selections. -/
structure FieldSelection where
  field : Field
  selections : List Selection
deriving Inhabited

namespace FieldSelection

/-- A field with nothing but its name. -/
def ofName (name : String) : FieldSelection :=
  ⟨Field.ofName name, []⟩

/-- Gives the field an alias in place of the one it had. -/
def withAlias (selection : FieldSelection) (aliasName : String) : FieldSelection :=
  { selection with field := { selection.field with aliasName := some aliasName } }

/-- Gives the field an argument.  An earlier one of the same name is replaced. -/
def withArgument (selection : FieldSelection) (name : String) (value : Value) :
    FieldSelection :=
  { selection with
    field := { selection.field with arguments := selection.field.arguments.put name value } }

/-- Gives the field the types of its arguments in place of those it had. -/
def withArgumentTypes (selection : FieldSelection) (types : Table String) : FieldSelection :=
  { selection with field := { selection.field with argumentTypes := some types } }

/-- Writes the type of one argument, next to those that are set already. -/
def withArgumentType (selection : FieldSelection) (name typeText : String) : FieldSelection :=
  -- the first type makes the table: a field without one leaves the types to the snapshot
  selection.withArgumentTypes ((selection.field.argumentTypes.getD []).put name typeText)

/-- Adds selections behind those that are made already. -/
def select (selection : FieldSelection) (selections : List Selection) : FieldSelection :=
  { selection with selections := selection.selections ++ selections }

/-- The field as a node of a tree. -/
def toSelection (selection : FieldSelection) : Selection :=
  .field selection.field selection.selections

end FieldSelection

/-- An inline fragment with its selections. -/
structure FragmentSelection where
  typeCondition : String
  selections : List Selection
deriving Inhabited

namespace FragmentSelection

/-- A fragment on a type, still without selections. -/
def onType (typeCondition : String) : FragmentSelection :=
  ⟨typeCondition, []⟩

/-- Adds selections behind those that are made already. -/
def select (selection : FragmentSelection) (selections : List Selection) : FragmentSelection :=
  { selection with selections := selection.selections ++ selections }

/-- The fragment as a node of a tree. -/
def toSelection (selection : FragmentSelection) : Selection :=
  .fragment selection.typeCondition selection.selections

end FragmentSelection

namespace Selection

/-- A leaf with nothing but its name. -/
def ofName (name : String) : Selection :=
  .field (Field.ofName name) []

end Selection

end SelectionCompiler
