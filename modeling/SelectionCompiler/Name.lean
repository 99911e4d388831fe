/-!
# Names

A GraphQL name starts with an ASCII letter or an underscore and goes on with ASCII letters, digits
and underscores.  Variables and the named types inside a type reference must be names; an enum
value must be a name other than the three literals that look like one.
-/

namespace SelectionCompiler.Name

/-- An ASCII letter or the underscore. -/
def isStart (c : Char) : Bool :=
  c.isAlpha || c == '_'

/-- An ASCII letter, an ASCII digit or the underscore. -/
def isPart (c : Char) : Bool :=
  isStart c || c.isDigit

/-- A nonempty run of name characters that starts with a letter or an underscore. -/
def isNameChars : List Char → Bool
  | [] => false
  | c :: rest => isStart c && rest.all isPart

/-- The whole text is one GraphQL name. -/
def isValid (s : String) : Bool :=
  isNameChars s.toList

/-- A name that can be written as an enum value: `true`, `false` and `null` are read as the
literals of those names. -/
def isEnumValue (s : String) : Bool :=
  isValid s && s != "true" && s != "false" && s != "null"

end SelectionCompiler.Name
