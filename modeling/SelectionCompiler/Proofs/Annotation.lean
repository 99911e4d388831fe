import SelectionCompiler.Proofs.Lookups

/-!
# Argument types written on the fields

The types of the arguments of a field come from one of two places: the field brings them along, or
they are looked up in the snapshot under the type on which the field is selected.  A tree can be
annotated beforehand with all that would be looked up.  The compilation then takes the same course
without the entries of the snapshot on arguments.

The annotation has to agree with the compiler on the type on which a field is selected.  It is the
root type in the root set and the type condition directly inside an inline fragment.  Below a field
no type is known.
-/

namespace SelectionCompiler

/-- The snapshot without its entries on the arguments of fields. -/
def Schema.withoutFieldArguments (schema : Schema) : Schema :=
  { schema with fieldArguments := [] }

theorem Schema.withoutFieldArguments_describesAs (schema : Schema) :
    schema.withoutFieldArguments.DescribesAs schema where
  isEnum _ := rfl
  inputType? _ := rfl

/-- The field with the types that the snapshot has for its arguments.  A field that brings its own
along, even an empty table, keeps them. -/
def Field.annotate (schema : Schema) (parent : Option String) (field : Field) : Field :=
  { field with
    argumentTypes := field.argumentTypes.or
      (parent.bind fun typeName => schema.fieldArguments? typeName field.name) }

namespace Selection

mutual
/-- A selection made on the given type, with the types of the snapshot on its fields. -/
def annotate (schema : Schema) (parent : Option String) : Selection → Selection
  | .field head selections =>
      .field (head.annotate schema parent) (annotateSet schema none selections)
  | .fragment typeCondition selections =>
      .fragment typeCondition (annotateSet schema (some typeCondition) selections)
  | .unknown => .unknown

/-- The selections of a set, with the types of the snapshot on their fields. -/
def annotateSet (schema : Schema) (parent : Option String) : List Selection → List Selection
  | [] => []
  | selection :: rest => annotate schema parent selection :: annotateSet schema parent rest
end

theorem annotateSet_isEmpty (schema : Schema) (parent : Option String)
    (selections : List Selection) :
    (annotateSet schema parent selections).isEmpty = selections.isEmpty := by
  cases selections <;> rfl

end Selection

/-- The selections of an operation, with the types of the snapshot on their fields. -/
def Schema.annotate (schema : Schema) (kind : OperationKind) (selections : List Selection) :
    List Selection :=
  Selection.annotateSet schema (some (schema.rootType kind)) selections

namespace Compile

/-! ### Arguments of annotated fields -/

/-- The table of an annotated field is the one that applied before.  The snapshot that is asked now
may have fewer tables, since those it lacks are written on the fields. -/
theorem argumentTable_annotate {schema other : Schema}
    (hother : ∀ typeName fieldName, schema.fieldArguments? typeName fieldName = none →
      other.fieldArguments? typeName fieldName = none)
    (parent : Option String) (field : Field) :
    argumentTable other parent (field.annotate schema parent) =
      argumentTable schema parent field := by
  unfold Field.annotate argumentTable
  cases field.argumentTypes with
  | some table => rfl
  | none =>
      cases parent with
      | none => rfl
      | some typeName =>
          cases htable : schema.fieldArguments? typeName field.name with
          | some table => simp [htable]
          | none => simp [htable, hother typeName field.name htable]

variable (schema : Schema)

theorem fieldArguments_withoutFieldArguments (parent : Option String) (path : String)
    (field : Field) :
    fieldArguments schema.withoutFieldArguments parent path (field.annotate schema parent) =
      fieldArguments schema parent path field := by
  have htable : argumentTable schema.withoutFieldArguments parent (field.annotate schema parent) =
      argumentTable schema parent field := argumentTable_annotate (fun _ _ _ => rfl) parent field
  unfold fieldArguments argumentsText
  rw [htable, argumentTexts_congr schema.withoutFieldArguments_describesAs]
  rfl

/-! ### The compilation of an annotated tree -/

mutual
theorem selectionText_annotate (parent : Option String) (path : String) :
    ∀ selection : Selection,
      selectionText schema.withoutFieldArguments parent path (selection.annotate schema parent) =
        selectionText schema parent path selection
  | .field field selections => by
      -- What is written in front of the arguments is not touched by the annotation.
      have hkey : (field.annotate schema parent).responseKey = field.responseKey := rfl
      have hhead : fieldHead (field.annotate schema parent) = fieldHead field := rfl
      simp only [selectionText, Selection.annotate, hkey, hhead, Selection.annotateSet_isEmpty,
        fieldArguments_withoutFieldArguments, selectionTexts_annotateSet]
  | .fragment typeCondition selections => by
      simp only [selectionText, Selection.annotate, selectionTexts_annotateSet]
  | .unknown => rfl

theorem selectionTexts_annotateSet (parent : Option String) (path : String) :
    ∀ selections : List Selection,
      selectionTexts schema.withoutFieldArguments parent path
          (Selection.annotateSet schema parent selections) =
        selectionTexts schema parent path selections
  | [] => rfl
  | selection :: rest => by
      simp only [selectionTexts, Selection.annotateSet, selectionText_annotate,
        selectionTexts_annotateSet]
end

/-- The annotated field refuses what the snapshot refused, without being asked for its types. -/
example :
    let schema := Schema.empty.withFieldArguments "Query" "user" [("id", "ID!")]
    let selections := [Selection.field ⟨"user", none, [("name", .int 1)], none⟩ []]
    (operation schema.withoutFieldArguments .query none (schema.annotate .query selections)).1 =
      .error (.schema "Query.user.name" (.undeclaredArgument "name" "user")) := by
  rfl

end Compile

/-! ### Fields of the root selector -/

namespace FieldSelection

/-- The field with the types that the snapshot has for its arguments. -/
def annotate (schema : Schema) (parent : Option String) (selection : FieldSelection) :
    FieldSelection :=
  { selection with field := selection.field.annotate schema parent }

end FieldSelection

namespace Compile

end Compile

end SelectionCompiler
