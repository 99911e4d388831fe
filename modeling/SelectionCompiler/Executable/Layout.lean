import SelectionCompiler.Decimal.Layout
import SelectionCompiler.Executable.Reader
import SelectionCompiler.Text.Joined

/-!
# Indented documents

The layout of executable documents for people: each selection on a line of its own, two blanks of
indentation for each set, a blank line between definitions, and the entries of objects in the
order of their keys.
-/

namespace SelectionCompiler.Executable

/-- Parts with a comma and a blank between neighbours. -/
def listed (parts : List String) : String :=
  ", ".intercalate parts

/-- A character of a string literal.  Characters beyond the basic plane are written by number. -/
def literalChar (c : Char) : List Char :=
  if c = '\r' then ['\\', 'r']
  else if c = '\n' then ['\\', 'n']
  else if c = '\t' then ['\\', 't']
  else if c = '"' then ['\\', '"']
  else if c = '\\' then ['\\', '\\']
  else if 0x20 ≤ c.toNat && c.toNat ≤ 0xFFFF then [c]
  else
    let digits := Text.digits c.toNat
    ['\\', 'u'] ++ List.replicate (4 - digits.length) '0' ++ digits

/-- A string literal on a line with the given indentation. -/
def literal (indent : Nat) (s : String) : String :=
  if BlockString.suits s.toList then String.ofList (BlockString.layOut indent s.toList)
  else String.ofList ('"' :: s.toList.flatMap literalChar ++ ['"'])

/-- A double without an exponent. -/
def floatText (x : Float) : String :=
  if x.isNaN then "NaN"
  else if x.isInf then if x < 0 then "-inf" else "inf"
  else Decimal.Layout.plain.float x

/-- Puts an entry in its place in a list that is sorted by keys.  A later entry replaces an earlier
one with the same key. -/
def insertSorted (entry : String × String) : List (String × String) → List (String × String)
  | [] => [entry]
  | (key, text) :: rest =>
      if entry.1 = key then entry :: rest
      else if entry.1 < key then entry :: (key, text) :: rest
      else (key, text) :: insertSorted entry rest

mutual
/-- The text of a value on a line with the given indentation. -/
def valueText (indent : Nat) : Value → String
  | .variable ref => "$" ++ ref.name
  | .int value => Text.decimal value
  | .float value => floatText value
  | .string value => literal indent value
  | .boolean value => if value then "true" else "false"
  | .null => "null"
  | .enum name => name
  | .list items => "[" ++ listed (itemTexts indent items) ++ "]"
  | .object entries =>
      let sorted := (entryTexts indent entries).foldl
        (fun sorted entry => insertSorted entry sorted) []
      "\x7b" ++ listed (sorted.map fun entry => entry.1 ++ ": " ++ entry.2) ++ "\x7d"

/-- The texts of the items of a list. -/
def itemTexts (indent : Nat) : List Value → List String
  | [] => []
  | item :: rest => valueText indent item :: itemTexts indent rest

/-- The keys of an object with the texts of their values. -/
def entryTexts (indent : Nat) : List (String × Value) → List (String × String)
  | [] => []
  | (key, value) :: rest => (key, valueText indent value) :: entryTexts indent rest
end

/-- Arguments in parentheses, and nothing when there are none. -/
def argumentsText (indent : Nat) (arguments : List (String × Value)) : String :=
  if arguments.isEmpty then ""
  else
    "(" ++ listed (arguments.map fun entry => entry.1 ++ ": " ++ valueText indent entry.2) ++ ")"

/-- The directives of a node or a definition, each behind a blank. -/
def directivesText (indent : Nat) (directives : List Directive) : String :=
  "".intercalate (directives.map fun directive =>
    " @" ++ directive.name ++ argumentsText indent directive.arguments)

/-- The blanks in front of a line. -/
def margin (indent : Nat) : String :=
  String.ofList (List.replicate indent ' ')

mutual
/-- The lines of a node at the given indentation. -/
def nodeText (indent : Nat) : Node → String
  | .field aliasName name arguments directives selections =>
      let head := (aliasName.map (· ++ ": ")).getD "" ++ name ++ argumentsText indent arguments ++
        directivesText indent directives
      margin indent ++ head ++
        if selections.isEmpty then "\n"
        else " \x7b\n" ++ nodeTexts (indent + 2) selections ++ margin indent ++ "\x7d\n"
  | .inline typeCondition directives selections =>
      margin indent ++ "..." ++ (typeCondition.map (" on " ++ ·)).getD "" ++
        directivesText indent directives ++ " \x7b\n" ++ nodeTexts (indent + 2) selections ++
        margin indent ++ "\x7d\n"
  | .spread name directives =>
      margin indent ++ "..." ++ name ++ directivesText indent directives ++ "\n"

/-- The lines of the nodes of a set. -/
def nodeTexts (indent : Nat) : List Node → String
  | [] => ""
  | node :: rest => nodeText indent node ++ nodeTexts indent rest
end

/-- A selection set at the outermost level. -/
def setText (selections : List Node) : String :=
  "\x7b\n" ++ nodeTexts 2 selections ++ "\x7d\n"

/-- The declaration of a variable with its default value, if it has one. -/
def declarationText (declaration : Declaration) : String :=
  "$" ++ declaration.name ++ ": " ++ declaration.type.text ++
    (declaration.defaultValue.map fun value => " = " ++ valueText 0 value).getD ""

/-- The declarations of the variables of an operation.  A subscription shows them only behind its
name, and without anything between them. -/
def preambleText (keyword : Keyword) (name : Option String) (declarations : List Declaration) :
    String :=
  let texts := declarations.map declarationText
  if declarations.isEmpty then ""
  else
    match keyword with
    | .subscription => if name.isNone then "" else "(" ++ "".intercalate texts ++ ")"
    | _ => "(" ++ listed texts ++ ")"

/-- The lines of a definition. -/
def definitionText : Definition → String
  | .set selections => setText selections
  | .operation keyword name declarations directives selections =>
      keyword.text ++ (name.map (" " ++ ·)).getD "" ++ preambleText keyword name declarations ++
        directivesText 0 directives ++ " " ++ setText selections
  | .fragment name typeCondition directives selections =>
      "fragment " ++ name ++ " on " ++ typeCondition ++ directivesText 0 directives ++ " " ++
        setText selections

/-- The lines of a document, with a blank line between definitions. -/
def documentText (definitions : List Definition) : String :=
  "\n".intercalate (definitions.map definitionText)

/-- Brackets may be nested this deeply in a text that is to be laid out. -/
def maxNesting : Nat := 50

/-- Reads a document in the narrow dialect and lays it out anew, unless it is nested too deeply. -/
def layOut? (text : String) : Option String :=
  let s := text.toList
  if maxNesting < Token.nesting .narrow (s.length + 1) 0 0 s then none
  else documentText <$> read? .narrow text

end SelectionCompiler.Executable
