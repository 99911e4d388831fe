import SelectionCompiler.CompileError
import SelectionCompiler.Registry
import SelectionCompiler.Schema
import SelectionCompiler.Selection
import SelectionCompiler.Text.Joined

/-!
# What a selection tree holds

Someone who goes through a selection tree in the order of the document comes upon two sorts of
things.  A variable at a place whose type is known is a *use* of it.  Whatever cannot stand where it
stands is a *violation*.  This file lists both in the order in which they are met: the selections of
a set from left to right, the arguments of a field before its selections, the items of a list and
the entries of an object from left to right.

The list never ends early.  Below a key without a readable type the walk goes on at a place of
unknown type, where strings are mere strings, objects may have any keys, and variables are
violations.
-/

namespace SelectionCompiler

/-- Something that is met on the walk through a selection tree. -/
inductive Finding where
  | use (usage : Usage)
  | violation (error : CompileError)
deriving DecidableEq

namespace Finding

/-- The use of a variable that a finding is. -/
def usage? : Finding → Option Usage
  | .use usage => some usage
  | .violation _ => none

/-- The violation that a finding is. -/
def error? : Finding → Option CompileError
  | .use _ => none
  | .violation error => some error

/-- The violations among findings. -/
def errors (findings : List Finding) : List CompileError :=
  findings.filterMap error?

/-- The uses of variables among findings. -/
def usages (findings : List Finding) : List Usage :=
  findings.filterMap usage?

/-- The uses in front of the first violation. -/
def usagesAhead : List Finding → List Usage
  | [] => []
  | .use usage :: rest => usage :: usagesAhead rest
  | .violation _ :: _ => []

/-- The finding that something stands at a path where it cannot stand, if there is a fault. -/
def ofFault (path : String) (fault : Option SchemaFault) : List Finding :=
  (fault.map fun fault => violation (.schema path fault)).toList

end Finding

/-! ### Types of places -/

/-- The declared types of the keys that may be written at a place, if they are known. -/
abbrev Scope := Option (Table String)

namespace Scope

/-- The type declared for a key, if there is one and it can be read. -/
def type? (scope : Scope) (key : String) : Option TypeRef :=
  scope.bind fun table => (table.get? key).bind fun text => (TypeRef.read text).toOption

/-- What keeps a key from being written: the table lacks it, or its type cannot be read. -/
def fault? (scope : Scope) (key : String) (missing : SchemaFault) : Option SchemaFault :=
  scope.bind fun table =>
    match table.get? key with
    | none => some missing
    | some text =>
        match TypeRef.read text with
        | .error error => some (.invalidTypeRef text error)
        | .ok _ => none

end Scope

namespace Schema

/-- A string at a place of the type is meant as an enum value. -/
def expectsEnum (schema : Schema) (type : Option TypeRef) : Bool :=
  type.any fun type => schema.isEnum type.baseName

/-- The keys of an object at a place of the type. -/
def inputScope (schema : Schema) (type : Option TypeRef) : Scope :=
  type.bind fun type => schema.inputType? type.baseName

/-- What keeps an object from standing at a place of the type. -/
def inputFault? (schema : Schema) (type : Option TypeRef) : Option SchemaFault :=
  type.bind fun type =>
    if (schema.inputType? type.baseName).isNone then some (.undescribedInput type.baseName)
    else none

end Schema

/-- The arguments of a field that is selected on the parent type: those that the field brings along,
else those that the snapshot has for the field. -/
def Field.scope (schema : Schema) (parent : Option String) (field : Field) : Scope :=
  field.argumentTypes.or (parent.bind fun typeName => schema.fieldArguments? typeName field.name)

/-! ### Findings in values -/

namespace Value

/-- A bare word stands where an enum value is meant. -/
def enumFindings (path name : String) : List Finding :=
  Finding.ofFault path (if Name.isEnumValue name then none else some (.invalidEnumValue name))

/-- A variable stands at a place of the type. -/
def variableFindings (type : Option TypeRef) (path : String) (ref : VariableRef) : List Finding :=
  (if Name.isValid ref.name then []
    else [.violation (.configuration ref.name path .invalidName)]) ++
    match type with
    | none => [.violation (.configuration ref.name path .untypedPlace)]
    | some type => [.use ⟨ref.name, type, ref.alwaysRequired⟩]

mutual
/-- The findings in a value at a place of the given type. -/
def findings (schema : Schema) (type : Option TypeRef) (path : String) : Value → List Finding
  | .variable ref => variableFindings type path ref
  | .enum name => enumFindings path name
  | .string value => if schema.expectsEnum type then enumFindings path value else []
  | .list items => itemFindings schema (type.map TypeRef.itemType) path 0 items
  | .object entries =>
      Finding.ofFault path (schema.inputFault? type) ++
        entryFindings schema (schema.inputScope type)
          (fun key => .undeclaredInputField key ((type.map TypeRef.baseName).getD "")) path entries
  | _ => []

/-- The findings in the items of a list, from the given position on. -/
def itemFindings (schema : Schema) (type : Option TypeRef) (path : String) (position : Nat) :
    List Value → List Finding
  | [] => []
  | item :: rest =>
      findings schema type (path ++ "[" ++ Text.decimal position ++ "]") item ++
        itemFindings schema type path (position + 1) rest

/-- The findings in entries whose keys belong to the given scope. -/
def entryFindings (schema : Schema) (scope : Scope) (missing : String → SchemaFault)
    (path : String) : List (String × Value) → List Finding
  | [] => []
  | (key, value) :: rest =>
      Finding.ofFault (path ++ "." ++ key) (scope.fault? key (missing key)) ++
        findings schema (scope.type? key) (path ++ "." ++ key) value ++
        entryFindings schema scope missing path rest
end

end Value

/-! ### Findings in selections -/

/-- The findings in the arguments of a field. -/
def Field.findings (schema : Schema) (parent : Option String) (path : String) (field : Field) :
    List Finding :=
  Value.entryFindings schema (field.scope schema parent)
    (fun key => .undeclaredArgument key field.name) path field.arguments

namespace Selection

mutual
/-- The findings in a selection made on the given type, in the set at the path. -/
def findings (schema : Schema) (parent : Option String) (path : String) :
    Selection → List Finding
  | .field head selections =>
      head.findings schema parent (path ++ "." ++ head.responseKey) ++
        setFindings schema none (path ++ "." ++ head.responseKey) selections
  | .fragment typeCondition selections =>
      setFindings schema (some typeCondition) (path ++ ".(... on " ++ typeCondition ++ ")")
        selections
  | .unknown => [.violation (.unknownNode path)]

/-- The findings in the selections of a set. -/
def setFindings (schema : Schema) (parent : Option String) (path : String) :
    List Selection → List Finding
  | [] => []
  | selection :: rest =>
      findings schema parent path selection ++ setFindings schema parent path rest
end

end Selection

namespace Schema

/-- The findings in the selections of an operation, which are made on the root type of its kind. -/
def findings (schema : Schema) (kind : OperationKind) (selections : List Selection) :
    List Finding :=
  Selection.setFindings schema (some (schema.rootType kind)) (schema.rootType kind) selections

/-- The violations of an operation in the order of the document. -/
def violations (schema : Schema) (kind : OperationKind) (selections : List Selection) :
    List CompileError :=
  Finding.errors (schema.findings kind selections)

/-- The uses of variables in an operation in the order of the document. -/
def usages (schema : Schema) (kind : OperationKind) (selections : List Selection) : List Usage :=
  Finding.usages (schema.findings kind selections)

end Schema

/-! ### Findings one after the other -/

namespace Finding

variable {α : Type} {first second : List Finding}

@[simp] theorem errors_nil : errors [] = [] := rfl

@[simp] theorem errors_use (usage : Usage) : errors (.use usage :: first) = errors first := rfl

@[simp] theorem errors_violation (error : CompileError) :
    errors (.violation error :: first) = error :: errors first := rfl

@[simp] theorem errors_append : errors (first ++ second) = errors first ++ errors second :=
  List.filterMap_append

@[simp] theorem usages_nil : usages [] = [] := rfl

@[simp] theorem usages_use (usage : Usage) :
    usages (.use usage :: first) = usage :: usages first := rfl

@[simp] theorem usages_violation (error : CompileError) :
    usages (.violation error :: first) = usages first := rfl

@[simp] theorem usages_append : usages (first ++ second) = usages first ++ usages second :=
  List.filterMap_append

@[simp] theorem usages_ofFault (path : String) (fault : Option SchemaFault) :
    usages (ofFault path fault) = [] := by
  cases fault <;> rfl

/-- What comes of a walk that would end in a value: the value, or the first violation. -/
def outcome : List Finding → α → Except CompileError α
  | [], value => .ok value
  | .use _ :: rest, value => outcome rest value
  | .violation error :: _, _ => .error error

theorem outcome_of_ok (hok : errors first = []) (value : α) : outcome first value = .ok value := by
  induction first with
  | nil => rfl
  | cons finding rest ih =>
      cases finding with
      | use usage => exact ih (by simpa using hok)
      | violation error => simp at hok

theorem outcome_of_error {error : CompileError} {others : List CompileError}
    (herror : errors first = error :: others) (value : α) :
    outcome first value = .error error := by
  induction first with
  | nil => simp at herror
  | cons finding rest ih =>
      cases finding with
      | use usage => exact ih (by simpa using herror)
      | violation error =>
          simp only [errors_violation, List.cons.injEq] at herror
          rw [outcome, herror.1]

/-- A walk ends in its value exactly if there are no violations. -/
theorem outcome_eq_ok_iff {findings : List Finding} {value result : α} :
    outcome findings value = .ok result ↔ errors findings = [] ∧ result = value := by
  cases herrors : errors findings with
  | nil => simp [outcome_of_ok herrors, eq_comm]
  | cons error others => simp [outcome_of_error herrors]

/-- A walk ends in an error exactly if that is the first violation. -/
theorem outcome_eq_error_iff {findings : List Finding} {value : α} {error : CompileError} :
    outcome findings value = .error error ↔ (errors findings).head? = some error := by
  cases herrors : errors findings with
  | nil => simp [outcome_of_ok herrors]
  | cons first others => simp [outcome_of_error herrors]

theorem map_outcome {β : Type} (f : α → β) (findings : List Finding) (value : α) :
    (outcome findings value).map f = outcome findings (f value) := by
  induction findings with
  | nil => rfl
  | cons finding rest ih =>
      cases finding with
      | use usage => exact ih
      | violation error => rfl

/-- Without a violation in the first part, the second one decides what comes of a walk. -/
theorem outcome_append_of_ok (hok : errors first = []) (value : α) :
    outcome (first ++ second) value = outcome second value := by
  cases h : errors second with
  | nil => rw [outcome_of_ok (by simp [hok, h]), outcome_of_ok h]
  | cons error others =>
      have herror : errors (first ++ second) = error :: others := by simp [hok, h]
      rw [outcome_of_error herror, outcome_of_error h]

theorem usagesAhead_append_of_ok (hok : errors first = []) :
    usagesAhead (first ++ second) = usagesAhead first ++ usagesAhead second := by
  induction first with
  | nil => rfl
  | cons finding rest ih =>
      cases finding with
      | use usage => simp [usagesAhead, ih (by simpa using hok)]
      | violation error => simp at hok

theorem usagesAhead_append_of_error {error : CompileError} {others : List CompileError}
    (herror : errors first = error :: others) :
    usagesAhead (first ++ second) = usagesAhead first := by
  induction first with
  | nil => simp at herror
  | cons finding rest ih =>
      cases finding with
      | use usage => simp [usagesAhead, ih (by simpa using herror)]
      | violation error => rfl

/-- Without violations all uses stand in front of the first one. -/
theorem usagesAhead_of_ok (hok : errors first = []) : usagesAhead first = usages first := by
  induction first with
  | nil => rfl
  | cons finding rest ih =>
      cases finding with
      | use usage => simp [usagesAhead, ih (by simpa using hok)]
      | violation error => simp at hok

end Finding

end SelectionCompiler
