import SelectionCompiler.Decimal.Layout
import SelectionCompiler.Text.Joined
import SelectionCompiler.Text.Quoted

/-!
# JSON values

Selection trees, snapshots and variable declarations are exchanged as JSON.  The entries of an
object are listed in the order in which they are written; a key may occur more than once, and what
that means is up to the reader of the object.
-/

namespace SelectionCompiler

/-- A JSON value.  Whole numbers and doubles are told apart. -/
inductive Json where
  | null
  | bool (value : Bool)
  | integer (value : Int)
  | float (value : Float)
  | string (value : String)
  | array (items : List Json)
  | object (entries : List (String × Json))
deriving Inhabited

namespace Json

/-- The text of a double.  JSON has no text for the infinities and for what is not a number, so
these are written as `null`. -/
def floatText (x : Float) : String :=
  if x.isFinite then Decimal.Layout.json.float x else "null"

/-- The text of a value that is neither an array nor an object. -/
def leafText : Json → String
  | .null => "null"
  | .bool value => if value then "true" else "false"
  | .integer value => Text.decimal value
  | .float value => floatText value
  | .string value => Text.quoted value
  | .array _ => ""
  | .object _ => ""

/-! ### Compact texts -/

mutual
/-- The text of a value without any blanks between its parts. -/
def text : Json → String
  | .array items => "[" ++ Text.commaSeparated (itemTexts items) ++ "]"
  | .object entries => "\x7b" ++ Text.commaSeparated (entryTexts entries) ++ "\x7d"
  | leaf => leafText leaf

/-- The compact texts of the items of an array. -/
def itemTexts : List Json → List String
  | [] => []
  | item :: rest => text item :: itemTexts rest

/-- The compact texts of the entries of an object. -/
def entryTexts : List (String × Json) → List String
  | [] => []
  | (key, value) :: rest => (Text.quoted key ++ ":" ++ text value) :: entryTexts rest
end

/-! ### Indented texts -/

/-- Two blanks for each level. -/
def indentation (level : Nat) : String :=
  String.ofList (List.replicate (2 * level) ' ')

/-- Parts on lines of their own, one level deeper than the brackets around them.  Brackets around
nothing stay together. -/
def block (opening closing : String) (level : Nat) (parts : List String) : String :=
  if parts.isEmpty then opening ++ closing
  else
    let line := "\n" ++ indentation (level + 1)
    opening ++ line ++ (("," ++ line).intercalate parts) ++ "\n" ++ indentation level ++ closing

mutual
/-- The text of a value with each item and each entry on a line of its own. -/
def indented (level : Nat) : Json → String
  | .array items => block "[" "]" level (indentedItems (level + 1) items)
  | .object entries => block "\x7b" "\x7d" level (indentedEntries (level + 1) entries)
  | leaf => leafText leaf

/-- The texts of the items of an array that starts one level further out. -/
def indentedItems (level : Nat) : List Json → List String
  | [] => []
  | item :: rest => indented level item :: indentedItems level rest

/-- The texts of the entries of an object that starts one level further out. -/
def indentedEntries (level : Nat) : List (String × Json) → List String
  | [] => []
  | (key, value) :: rest =>
      (Text.quoted key ++ ": " ++ indented level value) :: indentedEntries level rest
end

/-- The indented text of a value that stands on its own. -/
def prettyText (value : Json) : String :=
  indented 0 value

end Json

end SelectionCompiler
