import SelectionCompiler.Executable
import SelectionCompiler.Executable.Token

/-!
# Reading executable documents

A reader by recursive descent.  The next token always decides how to go on, so a reader either
takes a whole phrase from the front of a text and hands back the rest, or fails.

The nested readers recurse on a budget.  Each level of recursion is followed by the consumption of
a token within two further levels, so that three times the length of the text is enough.
-/

namespace SelectionCompiler.Executable

/-- Takes the given punctuator from the front of a text, if it comes next. -/
def takePunctuator (dialect : Dialect) (c : Char) (s : List Char) : Option (List Char) :=
  match Token.next? dialect s with
  | some (.punctuator found, rest) => if found = c then some rest else none
  | _ => none

/-- Takes a name from the front of a text. -/
def takeName (dialect : Dialect) (s : List Char) : Option (String × List Char) :=
  match Token.next? dialect s with
  | some (.name text, rest) => some (text, rest)
  | _ => none

/-- Takes the given name from the front of a text, if it comes next. -/
def takeKeyword (dialect : Dialect) (keyword : String) (s : List Char) : Option (List Char) :=
  match takeName dialect s with
  | some (text, rest) => if text = keyword then some rest else none
  | none => none

/-! ### Types and values -/

/-- A type: a name or a type in brackets, and perhaps an exclamation mark behind it. -/
def readType (dialect : Dialect) (budget : Nat) (s : List Char) : Option (TypeRef × List Char) :=
  match budget with
  | 0 => none
  | budget + 1 => do
      let (type, rest) ← match takePunctuator dialect '[' s with
        | some rest => do
            let (element, rest) ← readType dialect budget rest
            let rest ← takePunctuator dialect ']' rest
            some (TypeRef.list element, rest)
        | none => do
            let (name, rest) ← takeName dialect s
            some (TypeRef.named name, rest)
      match takePunctuator dialect '!' rest with
      | some rest => some (.nonNull type, rest)
      | none => some (type, rest)

/-- The value that a name denotes: one of three literals, or an enum value. -/
def nameValue (text : String) : Value :=
  if text = "true" then .boolean true
  else if text = "false" then .boolean false
  else if text = "null" then .null
  else .enum text

mutual
/-- A value.  Constant values hold no variables. -/
def readValue (dialect : Dialect) (constant : Bool) (budget : Nat) (s : List Char) :
    Option (Value × List Char) :=
  match budget with
  | 0 => none
  | budget + 1 =>
      match Token.next? dialect s with
      | some (.name text, rest) => some (nameValue text, rest)
      | some (.int value, rest) => some (.int value, rest)
      | some (.float value, rest) => some (.float value, rest)
      | some (.string value, rest) => some (.string value, rest)
      | some (.punctuator c, rest) =>
          if c = '$' && !constant then do
            let (name, rest) ← takeName dialect rest
            some (.variable ⟨name, false⟩, rest)
          else if c = '[' then do
            let (items, rest) ← readItems dialect constant budget rest
            some (.list items, rest)
          else if c = '\x7b' then do
            let (entries, rest) ← readEntries dialect constant '\x7d' budget rest
            some (.object entries, rest)
          else none
      | _ => none

/-- The rest of a list from the next item or the closing bracket on. -/
def readItems (dialect : Dialect) (constant : Bool) (budget : Nat) (s : List Char) :
    Option (List Value × List Char) :=
  match budget with
  | 0 => none
  | budget + 1 =>
      match takePunctuator dialect ']' s with
      | some rest => some ([], rest)
      | none => do
          let (item, rest) ← readValue dialect constant budget s
          let (items, rest) ← readItems dialect constant budget rest
          some (item :: items, rest)

/-- Entries of names and values from the next name or the closing punctuator on. -/
def readEntries (dialect : Dialect) (constant : Bool) (closing : Char) (budget : Nat)
    (s : List Char) : Option (List (String × Value) × List Char) :=
  match budget with
  | 0 => none
  | budget + 1 =>
      match takePunctuator dialect closing s with
      | some rest => some ([], rest)
      | none => do
          let (name, rest) ← takeName dialect s
          let rest ← takePunctuator dialect ':' rest
          let (value, rest) ← readValue dialect constant budget rest
          let (entries, rest) ← readEntries dialect constant closing budget rest
          some ((name, value) :: entries, rest)
end

/-- Arguments in parentheses, at least one if there are parentheses. -/
def readArguments (dialect : Dialect) (budget : Nat) (s : List Char) :
    Option (List (String × Value) × List Char) :=
  match takePunctuator dialect '(' s with
  | none => some ([], s)
  | some rest => do
      let (arguments, rest) ← readEntries dialect false ')' budget rest
      if arguments.isEmpty then none else some (arguments, rest)

/-- The directives that come next, perhaps none. -/
def readDirectives (dialect : Dialect) (budget : Nat) (s : List Char) :
    Option (List Directive × List Char) :=
  match budget with
  | 0 => none
  | budget + 1 =>
      match takePunctuator dialect '@' s with
      | none => some ([], s)
      | some rest => do
          let (name, rest) ← takeName dialect rest
          let (arguments, rest) ← readArguments dialect budget rest
          let (directives, rest) ← readDirectives dialect budget rest
          some (⟨name, arguments⟩ :: directives, rest)

/-! ### Selections -/

mutual
/-- A node of a selection set. -/
def readNode (dialect : Dialect) (budget : Nat) (s : List Char) : Option (Node × List Char) :=
  match budget with
  | 0 => none
  | budget + 1 =>
      match Token.next? dialect s with
      | some (.name first, rest) => do
          -- only what follows the first name tells whether it is an alias
          let (aliasName, name, rest) ← match takePunctuator dialect ':' rest with
            | some rest => do
                let (name, rest) ← takeName dialect rest
                some (some first, name, rest)
            | none => some (none, first, rest)
          let (arguments, rest) ← readArguments dialect budget rest
          let (directives, rest) ← readDirectives dialect budget rest
          match takePunctuator dialect '\x7b' rest with
          | none => some (.field aliasName name arguments directives [], rest)
          | some rest => do
              let (selections, rest) ← readNodes dialect budget rest
              if selections.isEmpty then none
              else some (.field aliasName name arguments directives selections, rest)
      | some (.spread, rest) =>
          match takeName dialect rest with
          | some (name, behind) =>
              -- no fragment is called `on`, so this name always opens a type condition
              if name = "on" then do
                let (typeCondition, rest) ← takeName dialect behind
                let (directives, rest) ← readDirectives dialect budget rest
                let rest ← takePunctuator dialect '\x7b' rest
                let (selections, rest) ← readNodes dialect budget rest
                if selections.isEmpty then none
                else some (.inline (some typeCondition) directives selections, rest)
              else do
                let (directives, rest) ← readDirectives dialect budget behind
                some (.spread name directives, rest)
          | none => do
              let (directives, rest) ← readDirectives dialect budget rest
              let rest ← takePunctuator dialect '\x7b' rest
              let (selections, rest) ← readNodes dialect budget rest
              if selections.isEmpty then none else some (.inline none directives selections, rest)
      | _ => none

/-- The rest of a selection set from the next node or the closing brace on. -/
def readNodes (dialect : Dialect) (budget : Nat) (s : List Char) :
    Option (List Node × List Char) :=
  match budget with
  | 0 => none
  | budget + 1 =>
      match takePunctuator dialect '\x7d' s with
      | some rest => some ([], rest)
      | none => do
          let (node, rest) ← readNode dialect budget s
          let (nodes, rest) ← readNodes dialect budget rest
          some (node :: nodes, rest)
end

/-- A selection set, which holds at least one node. -/
def readSet (dialect : Dialect) (budget : Nat) (s : List Char) :
    Option (List Node × List Char) := do
  let rest ← takePunctuator dialect '\x7b' s
  let (nodes, rest) ← readNodes dialect budget rest
  if nodes.isEmpty then none else some (nodes, rest)

/-! ### Definitions -/

/-- The rest of the declarations of variables from the next one or the closing parenthesis on. -/
def readDeclarations (dialect : Dialect) (budget : Nat) (s : List Char) :
    Option (List Declaration × List Char) :=
  match budget with
  | 0 => none
  | budget + 1 =>
      match takePunctuator dialect ')' s with
      | some rest => some ([], rest)
      | none => do
          let rest ← takePunctuator dialect '$' s
          let (name, rest) ← takeName dialect rest
          let rest ← takePunctuator dialect ':' rest
          let (type, rest) ← readType dialect budget rest
          let (defaultValue, rest) ← match takePunctuator dialect '=' rest with
            | none => some (none, rest)
            | some rest => do
                let (value, rest) ← readValue dialect true budget rest
                some (some value, rest)
          let (declarations, rest) ← readDeclarations dialect budget rest
          some (⟨name, type, defaultValue⟩ :: declarations, rest)

/-- The declarations of variables in parentheses, at least one if there are parentheses. -/
def readPreamble (dialect : Dialect) (budget : Nat) (s : List Char) :
    Option (List Declaration × List Char) :=
  match takePunctuator dialect '(' s with
  | none => some ([], s)
  | some rest => do
      let (declarations, rest) ← readDeclarations dialect budget rest
      if declarations.isEmpty then none else some (declarations, rest)

/-- An operation behind its keyword. -/
def readOperation (dialect : Dialect) (keyword : Keyword) (budget : Nat) (s : List Char) :
    Option (Definition × List Char) := do
  let (name, rest) := match takeName dialect s with
    | some (name, rest) => (some name, rest)
    | none => (none, s)
  let (declarations, rest) ← readPreamble dialect budget rest
  let (directives, rest) ← readDirectives dialect budget rest
  let (selections, rest) ← readSet dialect budget rest
  some (.operation keyword name declarations directives selections, rest)

/-- A fragment behind its keyword. -/
def readFragment (dialect : Dialect) (budget : Nat) (s : List Char) :
    Option (Definition × List Char) := do
  let (name, rest) ← takeName dialect s
  let rest ← takeKeyword dialect "on" rest
  let (typeCondition, rest) ← takeName dialect rest
  let (directives, rest) ← readDirectives dialect budget rest
  let (selections, rest) ← readSet dialect budget rest
  some (.fragment name typeCondition directives selections, rest)

/-- A definition, which starts with a keyword unless it is a selection set alone. -/
def readDefinition (dialect : Dialect) (budget : Nat) (s : List Char) :
    Option (Definition × List Char) :=
  match takeName dialect s with
  | none => do
      let (selections, rest) ← readSet dialect budget s
      some (.set selections, rest)
  | some (keyword, rest) =>
      -- a name in this place is never that of the operation, which stands behind the keyword
      if keyword = "query" then readOperation dialect .query budget rest
      else if keyword = "mutation" then readOperation dialect .mutation budget rest
      else if keyword = "subscription" then readOperation dialect .subscription budget rest
      else if keyword = "fragment" then readFragment dialect budget rest
      else none

/-- The definitions up to the end of the text. -/
def readDefinitions (dialect : Dialect) (budget : Nat) (s : List Char) : Option (List Definition) :=
  match budget with
  | 0 => none
  | budget + 1 =>
      if Token.atEnd s then some []
      else do
        let (definition, rest) ← readDefinition dialect budget s
        let definitions ← readDefinitions dialect budget rest
        some (definition :: definitions)

/-- A budget that is enough for a text of this length. -/
def budgetFor (s : List Char) : Nat :=
  3 * s.length + 3

/-- Reads a document, which has at least one definition. -/
def read? (dialect : Dialect) (text : String) : Option (List Definition) :=
  let s := text.toList
  match readDefinitions dialect (budgetFor s) s with
  | some [] => none
  | result => result

end SelectionCompiler.Executable
