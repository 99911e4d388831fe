import SelectionCompiler.Proofs.Pieces
import SelectionCompiler.Proofs.Reading.Values
import SelectionCompiler.Proofs.Walk

/-!
# Literals are mere data

Strings that are not meant as enum values, integers and truth values are the data of a tree.  What
they hold has no bearing on the rest of a document.  Two trees that become the same once their
literals are left blank have the same findings, so both compile or both fail in the same way.  Their
documents have the same contexts, and differ in the literals woven into them.

Each literal is read back from its own text, so it cannot be taken for anything else.
-/

namespace SelectionCompiler

/-! ### Trees with blank literals -/

namespace Value

mutual
/-- The value at a place of the given type with all of its literals left blank.  A string that is
meant as an enum value is no literal. -/
def blank (schema : Schema) (type : Option TypeRef) : Value → Value
  | .int _ => .int 0
  | .boolean _ => .boolean false
  | .string value => if schema.expectsEnum type then .string value else .string ""
  | .list items => .list (blankItems schema (type.map TypeRef.itemType) items)
  | .object entries => .object (blankEntries schema (schema.inputScope type) entries)
  | value => value

/-- The items of a list with all of their literals left blank. -/
def blankItems (schema : Schema) (type : Option TypeRef) : List Value → List Value
  | [] => []
  | item :: rest => blank schema type item :: blankItems schema type rest

/-- Entries whose keys belong to the given scope, with all of their literals left blank. -/
def blankEntries (schema : Schema) (scope : Scope) :
    List (String × Value) → List (String × Value)
  | [] => []
  | (key, value) :: rest =>
      (key, blank schema (scope.type? key) value) :: blankEntries schema scope rest
end

end Value

/-- The field, selected on the given type, with all literals in its arguments left blank. -/
def Field.blank (schema : Schema) (parent : Option String) (field : Field) : Field :=
  { field with
    arguments := Value.blankEntries schema (field.scope schema parent) field.arguments }

namespace Selection

mutual
/-- The selection, made on the given type, with all of its literals left blank. -/
def blank (schema : Schema) (parent : Option String) : Selection → Selection
  | .field head selections => .field (head.blank schema parent) (blankSet schema none selections)
  | .fragment typeCondition selections =>
      .fragment typeCondition (blankSet schema (some typeCondition) selections)
  | .unknown => .unknown

/-- The selections of a set with all of their literals left blank. -/
def blankSet (schema : Schema) (parent : Option String) : List Selection → List Selection
  | [] => []
  | selection :: rest => blank schema parent selection :: blankSet schema parent rest
end

end Selection

namespace Schema

/-- The selections of an operation with all of their literals left blank. -/
def blank (schema : Schema) (kind : OperationKind) (selections : List Selection) :
    List Selection :=
  Selection.blankSet schema (some (schema.rootType kind)) selections

/-- What is written for the selections of an operation. -/
def pieces (schema : Schema) (kind : OperationKind) (selections : List Selection) : List Piece :=
  .fixed "\x7b" ::
    (Selection.setPieces schema (some (schema.rootType kind)) selections ++ [.fixed "\x7d"])

/-- The literals of an operation in the order of the document. -/
def literals (schema : Schema) (kind : OperationKind) (selections : List Selection) :
    List Literal :=
  Piece.literals (schema.pieces kind selections)

end Schema

/-! ### Findings do not see the literals -/

namespace Value

mutual
theorem findings_blank (schema : Schema) (type : Option TypeRef) (path : String) :
    ∀ value : Value,
      (value.blank schema type).findings schema type path = value.findings schema type path
  | .variable _ => rfl
  | .int _ => rfl
  | .float _ => rfl
  | .boolean _ => rfl
  | .null => rfl
  | .enum _ => rfl
  | .string value => by
      unfold blank
      split
      · rfl
      · rename_i henum
        simp only [findings, if_neg henum]
  | .list items => by
      simp only [blank, findings, findings_blankItems]
  | .object entries => by
      simp only [blank, findings, findings_blankEntries]

theorem findings_blankItems (schema : Schema) (type : Option TypeRef) (path : String) :
    ∀ (position : Nat) (items : List Value),
      itemFindings schema type path position (blankItems schema type items) =
        itemFindings schema type path position items
  | _, [] => rfl
  | position, item :: rest => by
      simp only [blankItems, itemFindings, findings_blank, findings_blankItems]

theorem findings_blankEntries (schema : Schema) (scope : Scope) (missing : String → SchemaFault)
    (path : String) :
    ∀ entries : List (String × Value),
      entryFindings schema scope missing path (blankEntries schema scope entries) =
        entryFindings schema scope missing path entries
  | [] => rfl
  | (key, value) :: rest => by
      simp only [blankEntries, entryFindings, findings_blank, findings_blankEntries]
end

end Value

theorem Field.findings_blank (schema : Schema) (parent : Option String) (path : String)
    (field : Field) :
    (field.blank schema parent).findings schema parent path =
      field.findings schema parent path := by
  have hscope : (field.blank schema parent).scope schema parent = field.scope schema parent := rfl
  unfold findings
  rw [hscope]
  exact Value.findings_blankEntries schema _ _ path field.arguments

namespace Selection

mutual
theorem findings_blank (schema : Schema) (parent : Option String) (path : String) :
    ∀ selection : Selection,
      (selection.blank schema parent).findings schema parent path =
        selection.findings schema parent path
  | .field head selections => by
      have hkey : (head.blank schema parent).responseKey = head.responseKey := rfl
      simp only [blank, findings, hkey, Field.findings_blank, findings_blankSet]
  | .fragment typeCondition selections => by
      simp only [blank, findings, findings_blankSet]
  | .unknown => rfl

theorem findings_blankSet (schema : Schema) (parent : Option String) (path : String) :
    ∀ selections : List Selection,
      setFindings schema parent path (blankSet schema parent selections) =
        setFindings schema parent path selections
  | [] => rfl
  | selection :: rest => by
      simp only [blankSet, setFindings, findings_blank, findings_blankSet]
end

end Selection

/-! ### Pieces of trees with blank literals -/

namespace Value

mutual
theorem pieces_blank (schema : Schema) (type : Option TypeRef) :
    ∀ value : Value,
      (value.blank schema type).pieces schema type = (value.pieces schema type).map Piece.blank
  | .variable _ => rfl
  | .int _ => rfl
  | .float _ => rfl
  | .boolean _ => rfl
  | .null => rfl
  | .enum _ => rfl
  | .string value => by
      unfold blank
      split
      · rename_i henum
        simp [pieces, henum, Piece.blank]
      · rename_i henum
        simp [pieces, henum, Piece.blank, Literal.blank]
  | .list items => by
      simp [blank, pieces, Piece.blank, Piece.commaSeparated_blank,
        itemPieces_blank schema (type.map TypeRef.itemType) items]
  | .object entries => by
      simp [blank, pieces, Piece.blank, Piece.commaSeparated_blank,
        entryPieces_blank schema (schema.inputScope type) entries]

theorem itemPieces_blank (schema : Schema) (type : Option TypeRef) :
    ∀ items : List Value, itemPieces schema type (blankItems schema type items) =
      (itemPieces schema type items).map (List.map Piece.blank)
  | [] => rfl
  | item :: rest => by
      simp only [blankItems, itemPieces, List.map_cons, pieces_blank schema type item,
        itemPieces_blank schema type rest]

theorem entryPieces_blank (schema : Schema) (scope : Scope) :
    ∀ entries : List (String × Value),
      entryPieces schema scope (blankEntries schema scope entries) =
        (entryPieces schema scope entries).map (List.map Piece.blank)
  | [] => rfl
  | (key, value) :: rest => by
      simp only [blankEntries, entryPieces, List.map_cons, Piece.blank,
        pieces_blank schema (scope.type? key) value, entryPieces_blank schema scope rest]
end

theorem blankEntries_isEmpty (schema : Schema) (scope : Scope) (entries : List (String × Value)) :
    (blankEntries schema scope entries).isEmpty = entries.isEmpty := by
  cases entries <;> rfl

end Value

theorem Field.pieces_blank (schema : Schema) (parent : Option String) (field : Field) :
    (field.blank schema parent).pieces schema parent =
      (field.pieces schema parent).map Piece.blank := by
  have hscope : (field.blank schema parent).scope schema parent = field.scope schema parent := rfl
  have harguments : (field.blank schema parent).arguments =
      Value.blankEntries schema (field.scope schema parent) field.arguments := rfl
  unfold pieces
  rw [hscope, harguments, Value.blankEntries_isEmpty]
  split
  · rfl
  · simp [Piece.blank, Piece.commaSeparated_blank, Value.entryPieces_blank]

namespace Selection

theorem blankSet_isEmpty (schema : Schema) (parent : Option String)
    (selections : List Selection) :
    (blankSet schema parent selections).isEmpty = selections.isEmpty := by
  cases selections <;> rfl

mutual
theorem pieces_blank (schema : Schema) (parent : Option String) :
    ∀ selection : Selection,
      (selection.blank schema parent).pieces schema parent =
        (selection.pieces schema parent).map Piece.blank
  | .field head selections => by
      have hhead : Compile.fieldHead (head.blank schema parent) = Compile.fieldHead head := rfl
      simp only [blank, pieces, hhead, blankSet_isEmpty, Field.pieces_blank, List.map_cons,
        List.map_append, setPieces_blank schema none selections]
      cases selections with
      | nil => rfl
      | cons selection rest => simp [Piece.blank]
  | .fragment typeCondition selections => by
      simp [blank, pieces, Piece.blank, setPieces_blank schema (some typeCondition) selections]
  | .unknown => rfl

theorem setPieces_blank (schema : Schema) (parent : Option String) :
    ∀ selections : List Selection, setPieces schema parent (blankSet schema parent selections) =
      (setPieces schema parent selections).map Piece.blank
  | [] => rfl
  | selection :: rest => by
      simp only [blankSet, setPieces, List.map_append, pieces_blank schema parent selection,
        setPieces_blank schema parent rest]
end

end Selection

/-! ### Operations -/

namespace Literal

open Executable

/-- A literal is read back from its text, up to what ends a value. -/
theorem readValue_text (literal : Literal) {s : List Char} (hs : endsValue s) :
    readValue .standard true 1 (literal.text.toList ++ s) = some (literal.value, s) := by
  cases literal with
  | string value =>
      have hnext := Token.next?_quoted value hs.endsString
      simp only [text, Literal.value, Value.text, readValue, hnext]
  | int value =>
      have hnext := Token.next?_decimal value hs.endsDecimal
      simp only [text, Literal.value, Value.text, readValue, hnext]
  | boolean value =>
      cases value with
      | true => exact readValue_name "true" (by decide) hs
      | false => exact readValue_name "false" (by decide) hs

theorem readValue_text_alone (literal : Literal) :
    readValue .standard true 1 literal.text.toList = some (literal.value, []) := by
  have hread := literal.readValue_text endsValue_nil
  rwa [List.append_nil] at hread

end Literal

namespace Schema

variable {schema : Schema} {kind : OperationKind}

theorem findings_blank (selections : List Selection) :
    schema.findings kind (schema.blank kind selections) = schema.findings kind selections :=
  Selection.findings_blankSet schema _ _ selections

theorem pieces_blank (selections : List Selection) :
    schema.pieces kind (schema.blank kind selections) =
      (schema.pieces kind selections).map Piece.blank := by
  simp [pieces, blank, Piece.blank, Selection.setPieces_blank]

/-- The body of a document, woven of its contexts and literals. -/
theorem weave_pieces (name : Option String) (selections : List Selection) :
    Piece.weave (Piece.contexts "" (schema.pieces kind selections))
        (schema.literals kind selections) =
      (schema.document kind name selections).body := by
  rw [literals, Piece.weave_contexts, String.empty_append]
  simp [pieces, document, normal, Piece.joined, Piece.text, Selection.joined_setPieces,
    String.append_assoc]

end Schema

namespace Compile

/-- Trees that differ in the contents of literals only fail with the same error, or compile to
documents with the same declarations and the same contexts, into which the literals of the one tree
and those of the other are woven.  They have literals of the same sorts, and each literal can be
told from its text. -/
theorem literals_leave_structure {schema : Schema} {kind : OperationKind} (name : Option String)
    {first second : List Selection}
    (hblank : schema.blank kind first = schema.blank kind second) :
    ((∃ error, (operation schema kind name first).1 = .error error ∧
        (operation schema kind name second).1 = .error error) ∨
      ∃ definitions contexts,
        (operation schema kind name first).1 =
          .ok ⟨kind, name, definitions, Piece.weave contexts (schema.literals kind first)⟩ ∧
        (operation schema kind name second).1 =
          .ok ⟨kind, name, definitions, Piece.weave contexts (schema.literals kind second)⟩ ∧
        contexts.length = (schema.literals kind first).length + 1) ∧
      (schema.literals kind first).map Literal.blank =
        (schema.literals kind second).map Literal.blank ∧
      ∀ literal : Literal,
        Executable.readValue .standard true 1 literal.text.toList = some (literal.value, []) := by
  -- The findings and the contexts are those of the common blank tree.
  have hfindings : schema.findings kind first = schema.findings kind second := by
    rw [← Schema.findings_blank, hblank, Schema.findings_blank]
  have hpieces : (schema.pieces kind first).map Piece.blank =
      (schema.pieces kind second).map Piece.blank := by
    rw [← Schema.pieces_blank, hblank, Schema.pieces_blank]
  have hcontexts : Piece.contexts "" (schema.pieces kind first) =
      Piece.contexts "" (schema.pieces kind second) := by
    rw [← Piece.contexts_blank, hpieces, Piece.contexts_blank]
  refine ⟨?_, ?_, Literal.readValue_text_alone⟩
  · rw [(operation_spec schema kind name first).1, (operation_spec schema kind name second).1,
      hfindings]
    cases herrors : Finding.errors (schema.findings kind second) with
    | cons error others =>
        left
        exact ⟨error, Finding.outcome_of_error herrors _, Finding.outcome_of_error herrors _⟩
    | nil =>
        right
        refine ⟨(schema.document kind name second).definitions,
          Piece.contexts "" (schema.pieces kind second), ?_, ?_, ?_⟩
        · rw [Finding.outcome_of_ok herrors, ← hcontexts, Schema.weave_pieces name]
          unfold Schema.document Schema.usages
          rw [hfindings]
        · rw [Finding.outcome_of_ok herrors, Schema.weave_pieces name]
          rfl
        · rw [← hcontexts]
          exact Piece.length_contexts "" _
  · unfold Schema.literals
    rw [← Piece.literals_blank, hpieces, Piece.literals_blank]

/-- A schema with one enum, and types for four arguments of one field. -/
def noteSchema : Schema :=
  (Schema.empty.withEnum "Color").withFieldArguments "Query" "notes"
    [("color", "Color"), ("texts", "[String!]"), ("first", "Int"), ("open", "Boolean")]

/-- A field with a string that is meant as an enum value, with a variable, and with three
literals. -/
def noteTree (text : String) (first : Int) (opened : Bool) : List Selection :=
  [.field ⟨"notes", none,
      [("color", .string "RED"), ("texts", .list [.variable ⟨"v", false⟩, .string text]),
        ("first", .int first), ("open", .boolean opened)], none⟩
    [.field (.ofName "id") []]]

/-- A text that would end its literal and open a selection set if it were written as it is. -/
def intrusiveText : String :=
  "\"])\x7bid\x7d#"

/-- What the tree is compiled to with three harmless literals. -/
def noteDocument : Document :=
  ⟨.query, none, [⟨"v", .nonNull (.named "String")⟩],
    "\x7bnotes(color:RED,texts:[$v,\"a\"],first:1,open:true)\x7bid \x7d \x7d"⟩

theorem noteTree_literals_leave_structure :
    noteSchema.blank .query (noteTree "a" 1 true) =
        noteSchema.blank .query (noteTree intrusiveText (-7) false) ∧
      ∃ contexts,
        (operation noteSchema .query none (noteTree "a" 1 true)).1 =
          .ok ⟨.query, none, noteDocument.definitions,
            Piece.weave contexts [.string "a", .int 1, .boolean true]⟩ ∧
        (operation noteSchema .query none (noteTree intrusiveText (-7) false)).1 =
          .ok ⟨.query, none, noteDocument.definitions,
            Piece.weave contexts [.string intrusiveText, .int (-7), .boolean false]⟩ ∧
        contexts.length = 4 := by
  have hblank : noteSchema.blank .query (noteTree "a" 1 true) =
      noteSchema.blank .query (noteTree intrusiveText (-7) false) := by
    with_unfolding_all rfl
  have hfirst : noteSchema.literals .query (noteTree "a" 1 true) =
      [.string "a", .int 1, .boolean true] := by
    decide +kernel
  have hsecond : noteSchema.literals .query (noteTree intrusiveText (-7) false) =
      [.string intrusiveText, .int (-7), .boolean false] := by
    decide +kernel
  have hdocument : (operation noteSchema .query none (noteTree "a" 1 true)).1 =
      .ok noteDocument := by
    decide +kernel
  refine ⟨hblank, ?_⟩
  rcases (literals_leave_structure none hblank).1 with ⟨error, herror, _⟩ |
    ⟨definitions, contexts, hone, hother, hlength⟩
  · rw [hdocument] at herror
    cases herror
  · rw [hfirst] at hone hlength
    rw [hsecond] at hother
    have hdefinitions : noteDocument.definitions = definitions := by
      rw [hdocument] at hone
      exact congrArg Document.definitions (Except.ok.inj hone)
    rw [hdefinitions]
    exact ⟨contexts, hone, hother, hlength⟩

end Compile

end SelectionCompiler
