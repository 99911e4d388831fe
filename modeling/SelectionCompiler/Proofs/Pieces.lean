import SelectionCompiler.Proofs.NormalForm

/-!
# Documents in pieces

The text of a document is made of pieces.  Some of them are literals of the tree: strings that are
not meant as enum values, integers and truth values.  All else is fixed by the rest of the tree:
names, keys, punctuators, and what other values are written as.

Fixed pieces that follow each other run together to one context, so the text is woven of contexts
and literals in turn.
-/

namespace SelectionCompiler

/-- A literal of the tree. -/
inductive Literal where
  | string (value : String)
  | int (value : Int)
  | boolean (value : Bool)
deriving DecidableEq

namespace Literal

/-- The literal as a value. -/
def value : Literal → Value
  | .string value => .string value
  | .int value => .int value
  | .boolean value => .boolean value

/-- The text of the literal, wherever it stands. -/
def text (literal : Literal) : String :=
  literal.value.text

/-- A literal of the same sort with nothing in it. -/
def blank : Literal → Literal
  | .string _ => .string ""
  | .int _ => .int 0
  | .boolean _ => .boolean false

end Literal

/-- A part of a text. -/
inductive Piece where
  | fixed (text : String)
  | data (literal : Literal)

namespace Piece

/-- The text of a piece. -/
def text : Piece → String
  | .fixed text => text
  | .data literal => literal.text

/-- The literal of a piece, if it is not fixed. -/
def literal? : Piece → Option Literal
  | .fixed _ => none
  | .data literal => some literal

/-- The piece with a blank literal in place of its own. -/
def blank : Piece → Piece
  | .fixed text => .fixed text
  | .data literal => .data literal.blank

/-- The text that the pieces make up. -/
def joined : List Piece → String
  | [] => ""
  | piece :: rest => piece.text ++ joined rest

/-- The literals among pieces. -/
def literals (pieces : List Piece) : List Literal :=
  pieces.filterMap literal?

/-- The parts in order, with one comma between neighbours. -/
def commaSeparated : List (List Piece) → List Piece
  | [] => []
  | [part] => part
  | part :: next :: rest => part ++ .fixed "," :: commaSeparated (next :: rest)

/-! ### Contexts -/

/-- The texts between the literals of pieces, of which the first one goes on from an open text. -/
def contexts (opened : String) : List Piece → List String
  | [] => [opened]
  | .fixed text :: rest => contexts (opened ++ text) rest
  | .data _ :: rest => opened :: contexts "" rest

/-- Contexts and literals in turn, from the first context to the last one. -/
def weave : List String → List Literal → String
  | context :: contexts, literal :: literals => context ++ literal.text ++ weave contexts literals
  | context :: _, [] => context
  | [], _ => ""

theorem weave_contexts (opened : String) (pieces : List Piece) :
    weave (contexts opened pieces) (literals pieces) = opened ++ joined pieces := by
  induction pieces generalizing opened with
  | nil => exact String.append_empty.symm
  | cons piece rest ih =>
      cases piece with
      | fixed text =>
          have hrest := ih (opened ++ text)
          rw [String.append_assoc] at hrest
          exact hrest
      | data literal =>
          have hrest := ih ""
          rw [String.empty_append] at hrest
          show opened ++ literal.text ++ weave (contexts "" rest) (literals rest) = _
          rw [hrest, String.append_assoc]
          rfl

theorem length_contexts (opened : String) (pieces : List Piece) :
    (contexts opened pieces).length = (literals pieces).length + 1 := by
  induction pieces generalizing opened with
  | nil => rfl
  | cons piece rest ih =>
      cases piece with
      | fixed text => exact ih (opened ++ text)
      | data literal => exact congrArg (· + 1) (ih "")

/-! ### Blank pieces -/

theorem contexts_blank (opened : String) (pieces : List Piece) :
    contexts opened (pieces.map blank) = contexts opened pieces := by
  induction pieces generalizing opened with
  | nil => rfl
  | cons piece rest ih =>
      cases piece with
      | fixed text => exact ih (opened ++ text)
      | data literal => exact congrArg (List.cons opened) (ih "")

theorem literals_blank (pieces : List Piece) :
    literals (pieces.map blank) = (literals pieces).map Literal.blank := by
  induction pieces with
  | nil => rfl
  | cons piece rest ih =>
      cases piece with
      | fixed text => exact ih
      | data literal => exact congrArg (List.cons literal.blank) ih

theorem commaSeparated_blank (parts : List (List Piece)) :
    (commaSeparated parts).map blank = commaSeparated (parts.map (List.map blank)) := by
  fun_induction commaSeparated parts with
  | case1 => rfl
  | case2 part => rfl
  | case3 part next rest ih =>
      rw [List.map_append, List.map_cons, ih]
      rfl

/-! ### Texts of pieces -/

@[simp] theorem joined_cons (piece : Piece) (rest : List Piece) :
    joined (piece :: rest) = piece.text ++ joined rest := rfl

@[simp] theorem joined_append (first second : List Piece) :
    joined (first ++ second) = joined first ++ joined second := by
  induction first with
  | nil => exact String.empty_append.symm
  | cons piece rest ih => rw [List.cons_append, joined, joined, ih, String.append_assoc]

theorem joined_commaSeparated (parts : List (List Piece)) :
    joined (commaSeparated parts) = Text.commaSeparated (parts.map joined) := by
  fun_induction commaSeparated parts with
  | case1 => rfl
  | case2 part => rfl
  | case3 part next rest ih =>
      rw [joined_append, joined_cons, ih]
      simp [Text.commaSeparated, text, String.append_assoc]

end Piece

/-! ### Values in pieces -/

namespace Value

mutual
/-- What is written for a value at a place of the given type. -/
def pieces (schema : Schema) (type : Option TypeRef) : Value → List Piece
  | .variable ref => [.fixed ("$" ++ ref.name)]
  | .int value => [.data (.int value)]
  | .float value => [.fixed (Compile.floatText value)]
  | .string value =>
      if schema.expectsEnum type then [.fixed value] else [.data (.string value)]
  | .boolean value => [.data (.boolean value)]
  | .null => [.fixed "null"]
  | .enum name => [.fixed name]
  | .list items =>
      .fixed "[" ::
        (Piece.commaSeparated (itemPieces schema (type.map TypeRef.itemType) items) ++
          [.fixed "]"])
  | .object entries =>
      .fixed "\x7b" ::
        (Piece.commaSeparated (entryPieces schema (schema.inputScope type) entries) ++
          [.fixed "\x7d"])

/-- What is written for each item of a list. -/
def itemPieces (schema : Schema) (type : Option TypeRef) : List Value → List (List Piece)
  | [] => []
  | item :: rest => pieces schema type item :: itemPieces schema type rest

/-- What is written for each of the entries whose keys belong to the given scope. -/
def entryPieces (schema : Schema) (scope : Scope) : List (String × Value) → List (List Piece)
  | [] => []
  | (key, value) :: rest =>
      (.fixed (key ++ ":") :: pieces schema (scope.type? key) value) ::
        entryPieces schema scope rest
end

mutual
theorem joined_pieces (schema : Schema) (type : Option TypeRef) :
    ∀ value : Value, Piece.joined (value.pieces schema type) = (value.normal schema type).text
  | .variable _ => String.append_empty
  | .int _ => String.append_empty
  | .float _ => String.append_empty
  | .boolean _ => String.append_empty
  | .null => String.append_empty
  | .enum _ => String.append_empty
  | .string value => by
      unfold pieces normal
      split <;> exact String.append_empty
  | .list items => by
      simp [pieces, normal, text, Piece.joined, Piece.text, Piece.joined_commaSeparated,
        joined_itemPieces schema (type.map TypeRef.itemType) items, String.append_assoc]
  | .object entries => by
      simp [pieces, normal, text, Piece.joined, Piece.text, Piece.joined_commaSeparated,
        joined_entryPieces schema (schema.inputScope type) entries, String.append_assoc]

theorem joined_itemPieces (schema : Schema) (type : Option TypeRef) :
    ∀ items : List Value, (itemPieces schema type items).map Piece.joined =
      itemTexts (normalItems schema type items)
  | [] => rfl
  | item :: rest => by
      simp only [itemPieces, normalItems, itemTexts, List.map_cons,
        joined_pieces schema type item, joined_itemPieces schema type rest]

theorem joined_entryPieces (schema : Schema) (scope : Scope) :
    ∀ entries : List (String × Value), (entryPieces schema scope entries).map Piece.joined =
      entryTexts (normalEntries schema scope entries)
  | [] => rfl
  | (key, value) :: rest => by
      simp only [entryPieces, normalEntries, entryTexts, List.map_cons, Piece.joined_cons,
        Piece.text, joined_pieces schema (scope.type? key) value,
        joined_entryPieces schema scope rest]
end

end Value

/-! ### Selections in pieces -/

/-- What is written for the arguments of a field that is selected on the given type. -/
def Field.pieces (schema : Schema) (parent : Option String) (field : Field) : List Piece :=
  if field.arguments.isEmpty then []
  else
    .fixed "(" ::
      (Piece.commaSeparated
        (Value.entryPieces schema (field.scope schema parent) field.arguments) ++ [.fixed ")"])

theorem Field.joined_pieces (schema : Schema) (parent : Option String) (field : Field) :
    Piece.joined (field.pieces schema parent) = (field.normal schema parent).argumentsText := by
  unfold pieces argumentsText normal
  rw [Value.normalEntries_isEmpty]
  split
  · rfl
  · simp [Piece.joined, Piece.text, Piece.joined_commaSeparated, Value.joined_entryPieces,
      String.append_assoc]

namespace Selection

mutual
/-- What is written for a selection made on the given type. -/
def pieces (schema : Schema) (parent : Option String) : Selection → List Piece
  | .field head selections =>
      .fixed (Compile.fieldHead head) ::
        (head.pieces schema parent ++
          if selections.isEmpty then [.fixed " "]
          else .fixed "\x7b" :: (setPieces schema none selections ++ [.fixed "\x7d "]))
  | .fragment typeCondition selections =>
      .fixed ("... on " ++ typeCondition ++ " \x7b") ::
        (setPieces schema (some typeCondition) selections ++ [.fixed "\x7d "])
  | .unknown => []

/-- What is written for the selections of a set. -/
def setPieces (schema : Schema) (parent : Option String) : List Selection → List Piece
  | [] => []
  | selection :: rest => pieces schema parent selection ++ setPieces schema parent rest
end

mutual
theorem joined_pieces (schema : Schema) (parent : Option String) :
    ∀ selection : Selection,
      Piece.joined (selection.pieces schema parent) = (selection.normal schema parent).text
  | .field head selections => by
      have hhead : Compile.fieldHead (head.normal schema parent) = Compile.fieldHead head := rfl
      simp only [pieces, normal, text, hhead, normalSet_isEmpty, Piece.joined_cons,
        Piece.joined_append, Piece.text, Field.joined_pieces]
      cases selections with
      | nil => simp [Piece.joined, Piece.text, String.append_assoc]
      | cons selection rest =>
          simp [Piece.joined, Piece.text, joined_setPieces schema none (selection :: rest),
            String.append_assoc]
  | .fragment typeCondition selections => by
      simp [pieces, normal, text, Piece.joined, Piece.text,
        joined_setPieces schema (some typeCondition) selections, String.append_assoc]
  | .unknown => rfl

theorem joined_setPieces (schema : Schema) (parent : Option String) :
    ∀ selections : List Selection, Piece.joined (setPieces schema parent selections) =
      setText (normalSet schema parent selections)
  | [] => rfl
  | selection :: rest => by
      simp only [setPieces, normalSet, setText, Piece.joined_append,
        joined_pieces schema parent selection, joined_setPieces schema parent rest]
end

end Selection

end SelectionCompiler
