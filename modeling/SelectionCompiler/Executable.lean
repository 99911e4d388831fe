import SelectionCompiler.TypeRef
import SelectionCompiler.Value

/-!
# Executable documents

GraphQL documents as they are read back: operations and fragments with all that the language
allows in them, that is directives, default values, spreads and fragments without a type condition
as well.  The documents of this library use only a part of it.
-/

namespace SelectionCompiler.Executable

/-- A directive with its arguments. -/
structure Directive where
  name : String
  arguments : List (String × Value)

/-- A node of a selection set: a field, an inline fragment, or the spread of a fragment that is
defined elsewhere. -/
inductive Node where
  | field (aliasName : Option String) (name : String) (arguments : List (String × Value))
      (directives : List Directive) (selections : List Node)
  | inline (typeCondition : Option String) (directives : List Directive) (selections : List Node)
  | spread (name : String) (directives : List Directive)

/-- The declaration of a variable.  It carries no directives. -/
structure Declaration where
  name : String
  type : TypeRef
  defaultValue : Option Value

/-- The keywords that open an operation. -/
inductive Keyword where
  | query
  | mutation
  | subscription
deriving DecidableEq

/-- A definition of a document.  A selection set alone is an operation too. -/
inductive Definition where
  | set (selections : List Node)
  | operation (keyword : Keyword) (name : Option String) (declarations : List Declaration)
      (directives : List Directive) (selections : List Node)
  | fragment (name typeCondition : String) (directives : List Directive)
      (selections : List Node)

/-- The keyword as it is written. -/
def Keyword.text : Keyword → String
  | .query => "query"
  | .mutation => "mutation"
  | .subscription => "subscription"

end SelectionCompiler.Executable
