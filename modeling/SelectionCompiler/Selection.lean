import SelectionCompiler.Table
import SelectionCompiler.Value

/-!
# Selection trees

A selection set is a list of selections: fields, which may have selections of their own, inline
fragments, and nodes of a kind that this library does not know.  What belongs to a field apart
from its selections is its `Field`.
-/

namespace SelectionCompiler

/-- A field without its selections. -/
structure Field where
  name : String
  /-- The key under which the response carries the field, if it is not the name. -/
  aliasName : Option String
  /-- The arguments in the order in which they are written. -/
  arguments : Table Value
  /-- The types of the arguments, if the field brings them along. -/
  argumentTypes : Option (Table String)
deriving Inhabited

namespace Field

/-- A field with nothing but its name. -/
def ofName (name : String) : Field :=
  ⟨name, none, [], none⟩

/-- The key under which the response carries the field. -/
def responseKey (field : Field) : String :=
  field.aliasName.getD field.name

end Field

/-- A node of a selection tree. -/
inductive Selection where
  | field (field : Field) (selections : List Selection)
  | fragment (typeCondition : String) (selections : List Selection)
  | unknown
deriving Inhabited

end SelectionCompiler
