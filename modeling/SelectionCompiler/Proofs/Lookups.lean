import SelectionCompiler.Compile.Operation

/-!
# What a compilation asks of a snapshot

A compilation never goes through a snapshot.  It asks whether a name is that of an enum, which
fields an input type has, which arguments a field has, and on which type the operations of a kind
select.  So two snapshots that give the same answers are compiled with alike, and the session is the
same too.  Values are written with the first two answers alone.
-/

namespace SelectionCompiler

/-- Snapshots that give the same answers on enums and input types. -/
structure Schema.DescribesAs (schema other : Schema) : Prop where
  isEnum : ∀ typeName, schema.isEnum typeName = other.isEnum typeName
  inputType? : ∀ typeName, schema.inputType? typeName = other.inputType? typeName

/-- Snapshots that give the same answers on everything. -/
structure Schema.AnswersAs (schema other : Schema) : Prop extends schema.DescribesAs other where
  fieldArguments? : ∀ typeName fieldName,
    schema.fieldArguments? typeName fieldName = other.fieldArguments? typeName fieldName
  rootType : ∀ kind, schema.rootType kind = other.rootType kind

namespace Compile

variable {schema other : Schema}

/-! ### Values -/

mutual
theorem valueText_congr (hdescribes : schema.DescribesAs other) (type : Option TypeRef)
    (path : String) :
    ∀ value : Value, valueText schema type path value = valueText other type path value
  | .null => rfl
  | .int _ => rfl
  | .float _ => rfl
  | .boolean _ => rfl
  | .enum _ => rfl
  | .string _ => by simp only [valueText, hdescribes.isEnum]
  | .variable _ => rfl
  | .list items => by simp only [valueText, itemTexts_congr hdescribes]
  | .object entries => by
      have htable : inputTable schema type path = inputTable other type path := by
        simp only [inputTable, hdescribes.inputType?]
      simp only [valueText, htable, entryTexts_congr hdescribes]

theorem itemTexts_congr (hdescribes : schema.DescribesAs other) (type : Option TypeRef)
    (path : String) : ∀ (position : Nat) (items : List Value),
      itemTexts schema type path position items = itemTexts other type path position items
  | _, [] => rfl
  | position, item :: rest => by
      simp only [itemTexts, valueText_congr hdescribes, itemTexts_congr hdescribes]

theorem entryTexts_congr (hdescribes : schema.DescribesAs other) (table : Option (Table String))
    (typeName path : String) : ∀ entries : List (String × Value),
      entryTexts schema table typeName path entries = entryTexts other table typeName path entries
  | [] => rfl
  | (key, value) :: rest => by
      simp only [entryTexts, valueText_congr hdescribes, entryTexts_congr hdescribes]
end

theorem argumentTexts_congr (hdescribes : schema.DescribesAs other) (table : Option (Table String))
    (fieldName path : String) (entries : List (String × Value)) :
    argumentTexts schema table fieldName path entries =
      argumentTexts other table fieldName path entries := by
  induction entries with
  | nil => rfl
  | cons entry rest ih => simp only [argumentTexts, valueText_congr hdescribes, ih]

/-! ### Selections -/

theorem fieldArguments_congr (hanswers : schema.AnswersAs other) (parent : Option String)
    (path : String) (field : Field) :
    fieldArguments schema parent path field = fieldArguments other parent path field := by
  have htable : argumentTable schema parent field = argumentTable other parent field := by
    simp only [argumentTable, hanswers.fieldArguments?]
  unfold fieldArguments argumentsText
  rw [htable, argumentTexts_congr hanswers.toDescribesAs]

mutual
theorem selectionText_congr (hanswers : schema.AnswersAs other) (parent : Option String)
    (path : String) : ∀ selection : Selection,
      selectionText schema parent path selection = selectionText other parent path selection
  | .field field selections => by
      simp only [selectionText, fieldArguments_congr hanswers, selectionTexts_congr hanswers]
  | .fragment typeCondition selections => by
      simp only [selectionText, selectionTexts_congr hanswers]
  | .unknown => rfl

theorem selectionTexts_congr (hanswers : schema.AnswersAs other) (parent : Option String)
    (path : String) : ∀ selections : List Selection,
      selectionTexts schema parent path selections = selectionTexts other parent path selections
  | [] => rfl
  | selection :: rest => by
      simp only [selectionTexts, selectionText_congr hanswers, selectionTexts_congr hanswers]
end

/-- An operation is compiled alike, and leaves the same session. -/
theorem operation_congr (hanswers : schema.AnswersAs other) (kind : OperationKind)
    (name : Option String) (selections : List Selection) :
    operation schema kind name selections = operation other kind name selections := by
  unfold operation operationSteps rootText
  rw [hanswers.rootType, selectionTexts_congr hanswers]

end Compile

end SelectionCompiler
