import SelectionCompiler.Compile.Arguments

/-!
# Writing selections

A selection set is written between braces and followed by a blank.  A field is its alias, its name
and its arguments, followed by its set or, for a leaf, by a blank; an inline fragment is its type
condition followed by its set.

The type on which the selections are made is known in the root set and directly inside an inline
fragment.  Below a field it is not, since the snapshot does not hold the types of fields.
-/

namespace SelectionCompiler.Compile

/-- The text of a field in front of its arguments. -/
def fieldHead (field : Field) : String :=
  match field.aliasName with
  | none => field.name
  | some aliasName => aliasName ++ ":" ++ field.name

/-- The arguments of a field in parentheses, and nothing when there are none. -/
def fieldArguments (schema : Schema) (parent : Option String) (path : String) (field : Field) :
    Compile String :=
  if field.arguments.isEmpty then pure ""
  else (fun text => "(" ++ text ++ ")") <$> argumentsText schema parent path field

mutual
/-- The text of one selection made on the given type, in the set at the path. -/
def selectionText (schema : Schema) (parent : Option String) (path : String) :
    Selection → Compile String
  | .field field selections => do
      let fieldPath := path ++ "." ++ field.responseKey
      note (.fieldReached fieldPath)
      let arguments ← fieldArguments schema parent fieldPath field
      if selections.isEmpty then pure (fieldHead field ++ arguments ++ " ")
      else do
        let text ← selectionTexts schema none fieldPath selections
        pure (fieldHead field ++ arguments ++ "\x7b" ++ text ++ "\x7d ")
  | .fragment typeCondition selections => do
      let fragmentPath := path ++ ".(... on " ++ typeCondition ++ ")"
      note (.fragmentReached fragmentPath)
      let text ← selectionTexts schema (some typeCondition) fragmentPath selections
      pure ("... on " ++ typeCondition ++ " \x7b" ++ text ++ "\x7d ")
  | .unknown => throw (.unknownNode path)

/-- The texts of the selections of a set, one directly behind the other. -/
def selectionTexts (schema : Schema) (parent : Option String) (path : String) :
    List Selection → Compile String
  | [] => pure ""
  | selection :: rest => do
      let text ← selectionText schema parent path selection
      let texts ← selectionTexts schema parent path rest
      pure (text ++ texts)
end

/-- The text of the root set, which selects on the root type. -/
def rootText (schema : Schema) (rootType : String) (selections : List Selection) :
    Compile String :=
  (fun text => "\x7b" ++ text ++ "\x7d ") <$>
    selectionTexts schema (some rootType) rootType selections

/-- Renders a root set from the start: its text or an error, and the session reached. -/
def render (schema : Schema) (rootType : String) (selections : List Selection) :
    Except CompileError String × Session :=
  (rootText schema rootType selections).runFrom Session.start

end SelectionCompiler.Compile
