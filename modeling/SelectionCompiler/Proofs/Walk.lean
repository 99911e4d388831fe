import SelectionCompiler.Compile.Operation
import SelectionCompiler.Proofs.Declarations
import SelectionCompiler.Proofs.NormalForm

/-!
# What a compilation does

Each step of a compilation is a walk through a part of the tree.  It registers the uses that it
meets, stops at the first violation, and ends in the text of the normal form if there is none.  The
session in which it starts decides nothing but the one in which it ends.

`Performs` says this of a step: the findings are those of the walk, and the value is the one in
which it would end.  The lemmas on the ways to compose steps come first.  After them there is one
for each function of the compiler.
-/

namespace SelectionCompiler

/-! ### Sessions -/

/-- A session after uses have been registered, with their warnings among what was reported. -/
structure Session.Reaches (session : Session) (usages : List Usage) (next : Session) : Prop where
  registry : next.registry = session.registry.registerAll usages
  warnings : Event.warnings next.log =
    Event.warnings session.log ++ session.registry.warningsOf usages

namespace Session.Reaches

variable {session next last : Session} {first second : List Usage}

theorem refl (session : Session) : session.Reaches [] session :=
  ⟨rfl, by simp [Registry.warningsOf]⟩

theorem trans (hfirst : session.Reaches first next) (hsecond : next.Reaches second last) :
    session.Reaches (first ++ second) last where
  registry := by rw [hsecond.registry, hfirst.registry, Registry.registerAll_append]
  warnings := by
    rw [hsecond.warnings, hfirst.warnings, hfirst.registry, Registry.warningsOf_append,
      List.append_assoc]

theorem note (session : Session) {event : Event} (hlevel : event.level ≠ .warn) :
    session.Reaches [] (session.note event) :=
  ⟨rfl, by simp [Session.note, Event.warnings, Registry.warningsOf, hlevel]⟩

theorem use (session : Session) (usage : Usage) :
    session.Reaches [usage] (session.use usage) :=
  ⟨rfl, by simp [Session.use, Event.warnings, Registry.warningsOf]⟩

end Session.Reaches

/-! ### Steps -/

namespace Compile

variable {α β : Type}

/-- A step is a walk with the given findings that would end in the given value. -/
def Performs (step : Compile α) (findings : List Finding) (value : α) : Prop :=
  ∀ session, ∃ next, session.Reaches (Finding.usagesAhead findings) next ∧
    step.runFrom session = (Finding.outcome findings value, next)

theorem runFrom_bind_of_ok {step : Compile α} {continue_ : α → Compile β} {session next : Session}
    {value : α} (hstep : step.runFrom session = (.ok value, next)) :
    (step >>= continue_).runFrom session = (continue_ value).runFrom next := by
  show ExceptT.bindCont continue_ (step.run.run session).1 (step.run.run session).2 = _
  rw [show step.run.run session = (.ok value, next) from hstep]
  rfl

theorem runFrom_bind_of_error {step : Compile α} {continue_ : α → Compile β}
    {session next : Session} {error : CompileError}
    (hstep : step.runFrom session = (.error error, next)) :
    (step >>= continue_).runFrom session = (.error error, next) := by
  show ExceptT.bindCont continue_ (step.run.run session).1 (step.run.run session).2 = _
  rw [show step.run.run session = (.error error, next) from hstep]
  rfl

theorem performs_pure (value : α) : Performs (pure value) [] value :=
  fun session => ⟨session, .refl session, rfl⟩

theorem performs_throw (error : CompileError) (rest : List Finding) (value : α) :
    Performs (throw error) (.violation error :: rest) value :=
  fun session => ⟨session, .refl session, rfl⟩

theorem performs_use (usage : Usage) : Performs (use usage) [.use usage] () :=
  fun session => ⟨session.use usage, .use session usage, rfl⟩

theorem performs_note {event : Event} (hlevel : event.level ≠ .warn) :
    Performs (note event) [] () :=
  fun session => ⟨session.note event, .note session hlevel, rfl⟩

/-- The findings of two steps stand one after the other.  If the first step stops at a violation,
the second one is not made, and its findings are not counted. -/
theorem Performs.bind {step : Compile α} {continue_ : α → Compile β}
    {first second : List Finding} {value : α} {result : β} (hstep : Performs step first value)
    (hcontinue : Performs (continue_ value) second result) :
    Performs (step >>= continue_) (first ++ second) result := by
  intro session
  obtain ⟨next, hreach, hrun⟩ := hstep session
  cases herrors : Finding.errors first with
  | nil =>
      -- The second step starts in the session in which the first one ended.
      obtain ⟨last, hreach', hrun'⟩ := hcontinue next
      refine ⟨last, ?_, ?_⟩
      · rw [Finding.usagesAhead_append_of_ok herrors]
        exact hreach.trans hreach'
      · rw [Finding.outcome_of_ok herrors] at hrun
        rw [runFrom_bind_of_ok hrun, hrun', Finding.outcome_append_of_ok herrors]
  | cons error others =>
      have happend : Finding.errors (first ++ second) =
          error :: (others ++ Finding.errors second) := by simp [herrors]
      refine ⟨next, ?_, ?_⟩
      · rw [Finding.usagesAhead_append_of_error herrors]
        exact hreach
      · rw [Finding.outcome_of_error herrors] at hrun
        rw [runFrom_bind_of_error hrun, Finding.outcome_of_error happend]

theorem Performs.bind_pure {step : Compile α} {f : α → β} {findings : List Finding} {value : α}
    (hstep : Performs step findings value) :
    Performs (step >>= fun value => pure (f value)) findings (f value) := by
  have hbind : Performs (step >>= fun value => pure (f value)) (findings ++ []) (f value) :=
    hstep.bind (performs_pure (f value))
  rwa [List.append_nil] at hbind

theorem Performs.map {step : Compile α} {findings : List Finding} {value : α} (f : α → β)
    (hstep : Performs step findings value) : Performs (f <$> step) findings (f value) := by
  rw [← bind_pure_comp]
  exact hstep.bind_pure

/-! ### Arguments -/

theorem performs_enumText (path value : String) :
    Performs (enumText path value) (Value.enumFindings path value) value := by
  unfold enumText Value.enumFindings
  by_cases hvalue : Name.isEnumValue value
  · rw [if_pos hvalue, if_pos hvalue]
    exact performs_pure value
  · rw [if_neg hvalue, if_neg hvalue]
    exact performs_throw _ [] value

theorem performs_entryType (scope : Scope) (path key : String) (missing : SchemaFault) :
    Performs (entryType scope path key missing)
      (Finding.ofFault path (scope.fault? key missing)) (scope.type? key) := by
  unfold entryType Scope.fault? Scope.type? readType
  cases scope with
  | none => exact performs_pure none
  | some table =>
      simp only [Option.bind_some]
      cases table.get? key with
      | none => exact performs_throw _ [] _
      | some text =>
          simp only [Option.bind_some]
          cases TypeRef.read text with
          | ok type => exact (performs_pure type).map some
          | error error => exact performs_throw _ [] _

theorem performs_inputTable (schema : Schema) (type : Option TypeRef) (path : String) :
    Performs (inputTable schema type path) (Finding.ofFault path (schema.inputFault? type))
      (schema.inputScope type) := by
  unfold inputTable Schema.inputFault? Schema.inputScope
  cases type with
  | none => exact performs_pure none
  | some type =>
      simp only [Option.bind_some]
      cases schema.inputType? type.baseName with
      | none => exact performs_throw _ [] _
      | some fields => exact performs_pure (some fields)

theorem performs_variableText (type : Option TypeRef) (path : String) (ref : VariableRef) :
    Performs (variableText type path ref) (Value.variableFindings type path ref)
      ("$" ++ ref.name) := by
  unfold variableText Value.variableFindings
  by_cases hname : Name.isValid ref.name
  · rw [if_pos hname, if_pos hname]
    cases type with
    | none => exact performs_throw _ [] _
    | some type => exact (performs_use _).bind (performs_pure _)
  · rw [if_neg hname, if_neg hname]
    exact performs_throw _ _ _

mutual
theorem performs_valueText (schema : Schema) (type : Option TypeRef) (path : String) :
    ∀ value : Value, Performs (valueText schema type path value)
      (value.findings schema type path) (value.normal schema type).text
  | .null => performs_pure _
  | .int _ => performs_pure _
  | .float _ => performs_pure _
  | .boolean _ => performs_pure _
  | .enum name => performs_enumText path name
  | .variable ref => performs_variableText type path ref
  | .string value => by
      unfold valueText Value.findings Value.normal Schema.expectsEnum
      split
      · exact performs_enumText path value
      · exact performs_pure _
  | .list items => by
      simp only [valueText, Value.findings, Value.normal, Value.text]
      exact (performs_itemTexts schema (type.map TypeRef.itemType) path 0 items).bind_pure
  | .object entries => by
      simp only [valueText, Value.findings, Value.normal, Value.text]
      exact (performs_inputTable schema type path).bind
        (performs_entryTexts schema (schema.inputScope type) _ path entries).bind_pure

theorem performs_itemTexts (schema : Schema) (type : Option TypeRef) (path : String) :
    ∀ (position : Nat) (items : List Value), Performs (itemTexts schema type path position items)
      (Value.itemFindings schema type path position items)
      (Value.itemTexts (Value.normalItems schema type items))
  | _, [] => performs_pure _
  | position, item :: rest => by
      simp only [itemTexts, Value.itemFindings, Value.normalItems, Value.itemTexts]
      exact (performs_valueText schema type _ item).bind
        (performs_itemTexts schema type path (position + 1) rest).bind_pure

theorem performs_entryTexts (schema : Schema) (scope : Scope) (typeName path : String) :
    ∀ entries : List (String × Value), Performs (entryTexts schema scope typeName path entries)
      (Value.entryFindings schema scope (fun key => .undeclaredInputField key typeName) path
        entries)
      (Value.entryTexts (Value.normalEntries schema scope entries))
  | [] => performs_pure _
  | (key, value) :: rest => by
      simp only [entryTexts, Value.entryFindings, Value.normalEntries, Value.entryTexts,
        List.append_assoc]
      exact (performs_entryType scope _ key _).bind
        ((performs_valueText schema (scope.type? key) _ value).bind
          (performs_entryTexts schema scope typeName path rest).bind_pure)
end

theorem performs_argumentTexts (schema : Schema) (scope : Scope) (fieldName path : String) :
    ∀ entries : List (String × Value), Performs (argumentTexts schema scope fieldName path entries)
      (Value.entryFindings schema scope (fun key => .undeclaredArgument key fieldName) path entries)
      (Value.entryTexts (Value.normalEntries schema scope entries))
  | [] => performs_pure _
  | (key, value) :: rest => by
      simp only [argumentTexts, Value.entryFindings, Value.normalEntries, Value.entryTexts,
        List.append_assoc]
      exact (performs_entryType scope _ key _).bind
        ((performs_valueText schema (scope.type? key) _ value).bind
          ((performs_note (by simp [Event.level])).bind
            (performs_argumentTexts schema scope fieldName path rest).bind_pure))

theorem performs_argumentsText (schema : Schema) (parent : Option String) (path : String)
    (field : Field) :
    Performs (argumentsText schema parent path field) (field.findings schema parent path)
      (Text.commaSeparated (Value.entryTexts
        (Value.normalEntries schema (field.scope schema parent) field.arguments))) := by
  have hscope : argumentTable schema parent field = field.scope schema parent := by
    unfold argumentTable Field.scope
    cases field.argumentTypes <;> rfl
  unfold argumentsText Field.findings
  rw [hscope]
  exact (performs_argumentTexts schema _ field.name path field.arguments).map _

theorem performs_fieldArguments (schema : Schema) (parent : Option String) (path : String)
    (field : Field) :
    Performs (fieldArguments schema parent path field) (field.findings schema parent path)
      (field.normal schema parent).argumentsText := by
  have harguments := performs_argumentsText schema parent path field
  unfold fieldArguments Field.argumentsText Field.normal
  rw [Value.normalEntries_isEmpty]
  cases hempty : field.arguments.isEmpty with
  | true =>
      unfold Field.findings
      rw [List.isEmpty_iff.mp hempty]
      exact performs_pure ""
  | false => exact harguments.map _

/-! ### Selections -/

mutual
theorem performs_selectionText (schema : Schema) (parent : Option String) (path : String) :
    ∀ selection : Selection, Performs (selectionText schema parent path selection)
      (selection.findings schema parent path) (selection.normal schema parent).text
  | .field field selections => by
      -- The field is noted first, then come its arguments and the selections below it.
      have harguments := performs_fieldArguments schema parent (path ++ "." ++ field.responseKey)
        field
      have hhead : fieldHead (field.normal schema parent) = fieldHead field := rfl
      simp only [selectionText, Selection.findings, Selection.normal, Selection.text, hhead,
        Selection.normalSet_isEmpty]
      refine (performs_note (by simp [Event.level])).bind (harguments.bind ?_)
      cases selections with
      | nil => exact performs_pure _
      | cons selection rest =>
          simp only [List.isEmpty_cons, Bool.false_eq_true, if_false, String.append_assoc]
          exact (performs_selectionTexts schema none _ (selection :: rest)).bind_pure
  | .fragment typeCondition selections => by
      simp only [selectionText, Selection.findings, Selection.normal, Selection.text]
      exact (performs_note (by simp [Event.level])).bind
        (performs_selectionTexts schema (some typeCondition) _ selections).bind_pure
  | .unknown => performs_throw _ [] _

theorem performs_selectionTexts (schema : Schema) (parent : Option String) (path : String) :
    ∀ selections : List Selection, Performs (selectionTexts schema parent path selections)
      (Selection.setFindings schema parent path selections)
      (Selection.setText (Selection.normalSet schema parent selections))
  | [] => performs_pure _
  | selection :: rest => by
      simp only [selectionTexts, Selection.setFindings, Selection.normalSet, Selection.setText]
      exact (performs_selectionText schema parent path selection).bind
        (performs_selectionTexts schema parent path rest).bind_pure
end

theorem performs_rootText (schema : Schema) (rootType : String) (selections : List Selection) :
    Performs (rootText schema rootType selections)
      (Selection.setFindings schema (some rootType) rootType selections)
      ("\x7b" ++ Selection.setText (Selection.normalSet schema (some rootType) selections) ++
        "\x7d ") :=
  (performs_selectionTexts schema (some rootType) rootType selections).map _

/-! ### Operations -/

/-- A root set loses exactly the blank behind its closing brace. -/
theorem trimEnd_rootText (text : String) :
    String.ofList (Text.trimEnd ("\x7b" ++ text ++ "\x7d ").toList) = "\x7b" ++ text ++ "\x7d" := by
  apply String.toList_injective
  simp [Text.trimEnd, Text.isBlank]

end Compile

/-- The document of an operation without violations. -/
def Schema.document (schema : Schema) (kind : OperationKind) (name : Option String)
    (selections : List Selection) : Document :=
  ⟨kind, name, (Registry.empty.registerAll (schema.usages kind selections)).definitions,
    "\x7b" ++ Selection.setText (schema.normal kind selections) ++ "\x7d"⟩

namespace Compile

variable (schema : Schema) (kind : OperationKind) (name : Option String)
  (selections : List Selection)

/-- The compilation of an operation ends in its document or in the first violation, and in a session
that has met the uses in front of it. -/
theorem operation_spec :
    (operation schema kind name selections).1 =
        Finding.outcome (schema.findings kind selections)
          (schema.document kind name selections) ∧
      Session.start.Reaches (Finding.usagesAhead (schema.findings kind selections))
        (operation schema kind name selections).2 := by
  have hroot : Performs (rootText schema (schema.rootType kind) selections)
      (schema.findings kind selections)
      ("\x7b" ++ Selection.setText (schema.normal kind selections) ++ "\x7d ") :=
    performs_rootText schema (schema.rootType kind) selections
  obtain ⟨next, hreach, hrun⟩ := hroot Session.start
  cases herrors : Finding.errors (schema.findings kind selections) with
  | nil =>
      rw [Finding.outcome_of_ok herrors] at hrun ⊢
      have hoperation : operation schema kind name selections =
          (.ok (schema.document kind name selections),
            next.note (.compiled (schema.document kind name selections).text)) := by
        have hdefinitions : next.registry.definitions =
            (Registry.empty.registerAll (schema.usages kind selections)).definitions := by
          rw [hreach.registry, Finding.usagesAhead_of_ok herrors]
          rfl
        unfold operation operationSteps Schema.document
        rw [runFrom_bind_of_ok hrun, ← trimEnd_rootText, ← hdefinitions]
        rfl
      rw [hoperation]
      -- The last event tells that the operation was compiled.  It is no warning.
      have hlevel : (Event.compiled (schema.document kind name selections).text).level ≠ .warn := by
        simp [Event.level]
      have hnote := hreach.trans (.note next hlevel)
      rw [List.append_nil] at hnote
      exact ⟨rfl, hnote⟩
  | cons error others =>
      rw [Finding.outcome_of_error herrors] at hrun ⊢
      have hoperation : operation schema kind name selections = (.error error, next) :=
        runFrom_bind_of_error hrun
      rw [hoperation]
      exact ⟨rfl, hreach⟩

/-- An operation compiles if it has no violations, and then to its document. -/
theorem operation_eq_ok_iff {document : Document} :
    (operation schema kind name selections).1 = .ok document ↔
      schema.violations kind selections = [] ∧
        document = schema.document kind name selections := by
  rw [(operation_spec schema kind name selections).1, Finding.outcome_eq_ok_iff, Schema.violations]

/-- Whether an operation compiles is decided by its violations. -/
theorem operation_compiles_iff :
    (∃ document, (operation schema kind name selections).1 = .ok document) ↔
      schema.violations kind selections = [] := by
  simp only [operation_eq_ok_iff, exists_and_left, exists_eq, and_true]

end Compile

end SelectionCompiler
