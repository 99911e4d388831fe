import SelectionCompiler.Proofs.Walk

/-!
# Snapshots that grow

A service's schema gains input types, fields and arguments in the course of time, and so does its
snapshot.  An operation that compiled before compiles to the same document afterwards.  Tables are
only ever asked for the keys that a tree writes, and a tree without violations writes keys that the
old tables had.  What is new is not looked at, so it may hold any text.

Two things must not be added.  A string is written bare where the name of an enum is expected, so
the names of the enums have to stay.  And a field without a table is not checked at all, so a table
of its own could refuse its arguments.
-/

namespace SelectionCompiler

/-! ### Larger tables -/

/-- The larger table has the entries of the other one, in whatever order, and may have more. -/
def Table.Extends {α : Type} (larger table : Table α) : Prop :=
  ∀ key value, table.get? key = some value → larger.get? key = some value

theorem Table.extends_of_forall_mem {α : Type} {larger table : Table α}
    (hall : ∀ entry ∈ table, larger.get? entry.1 = some entry.2) : larger.Extends table := by
  intro key value hget
  exact hall (key, value) (Table.mem_of_get? hget)

/-- The keys that may be written at a place have become more.  If they were unknown, they are still
unknown. -/
inductive Scope.Extends : Scope → Scope → Prop where
  | unknown : Extends none none
  | known {larger table : Table String} :
      larger.Extends table → Extends (some larger) (some table)

namespace Scope.Extends

variable {larger scope : Scope}

theorem refl (scope : Scope) : scope.Extends scope := by
  cases scope with
  | none => exact .unknown
  | some table => exact .known fun _ _ hget => hget

/-- A key that could be written before can be written as before. -/
theorem lookup_eq (hscope : larger.Extends scope) {key : String} {missing : SchemaFault}
    (hfault : scope.fault? key missing = none) :
    larger.fault? key missing = none ∧ larger.type? key = scope.type? key := by
  cases hscope with
  | unknown => exact ⟨rfl, rfl⟩
  | @known larger table htable =>
      cases htext : table.get? key with
      | none => simp [Scope.fault?, htext] at hfault
      | some text =>
          have hlarger : larger.get? key = some text := htable key text htext
          constructor
          · calc fault? (some larger) key missing
                = fault? (some table) key missing := by simp [Scope.fault?, hlarger, htext]
              _ = none := hfault
          · simp [Scope.type?, hlarger, htext]

end Scope.Extends

/-! ### Larger snapshots -/

/-- The larger snapshot has the names of the other one and all entries of its tables.  It may have
more entries and more input types, but no field has its first table there. -/
structure Schema.Extends (larger schema : Schema) : Prop where
  queryType : larger.queryType = schema.queryType
  mutationType : larger.mutationType = schema.mutationType
  enums : ∀ name, name ∈ larger.enums ↔ name ∈ schema.enums
  inputTypes : ∀ typeName table, schema.inputType? typeName = some table →
    ∃ more : Table String, larger.inputType? typeName = some more ∧ more.Extends table
  fieldArguments : ∀ typeName fieldName,
    Scope.Extends (larger.fieldArguments? typeName fieldName)
      (schema.fieldArguments? typeName fieldName)

namespace Schema.Extends

variable {larger schema : Schema}

theorem rootType_eq (hschema : larger.Extends schema) (kind : OperationKind) :
    larger.rootType kind = schema.rootType kind := by
  cases kind with
  | query => exact hschema.queryType
  | mutation => exact hschema.mutationType

theorem expectsEnum_eq (hschema : larger.Extends schema) (type : Option TypeRef) :
    larger.expectsEnum type = schema.expectsEnum type := by
  have henum : larger.isEnum = schema.isEnum := by
    funext name
    rw [Bool.eq_iff_iff]
    simp only [Schema.isEnum, List.contains_iff_mem]
    exact hschema.enums name
  unfold Schema.expectsEnum
  rw [henum]

/-- Where an object could stand, it can stand in the larger snapshot too, with more keys perhaps. -/
theorem inputScope (hschema : larger.Extends schema) {type : Option TypeRef}
    (hfault : schema.inputFault? type = none) :
    larger.inputFault? type = none ∧
      Scope.Extends (larger.inputScope type) (schema.inputScope type) := by
  cases type with
  | none => exact ⟨rfl, .unknown⟩
  | some type =>
      cases htable : schema.inputType? type.baseName with
      | none => simp [Schema.inputFault?, htable] at hfault
      | some table =>
          obtain ⟨more, hmore, hextends⟩ := hschema.inputTypes _ _ htable
          constructor
          · simp [Schema.inputFault?, hmore]
          · simp only [Schema.inputScope, Option.bind_some, hmore, htable]
            exact .known hextends

theorem fieldScope (hschema : larger.Extends schema) (parent : Option String) (field : Field) :
    Scope.Extends (field.scope larger parent) (field.scope schema parent) := by
  unfold Field.scope
  cases field.argumentTypes with
  | some table => exact Scope.Extends.refl _
  | none =>
      cases parent with
      | none => exact .unknown
      | some typeName => exact hschema.fieldArguments typeName field.name

end Schema.Extends

/-! ### The walk in the larger snapshot -/

theorem Finding.fault_eq_none_of_errors {path : String} {fault : Option SchemaFault}
    (hok : Finding.errors (Finding.ofFault path fault) = []) : fault = none := by
  cases fault with
  | none => rfl
  | some fault => cases hok

variable {larger schema : Schema}

namespace Value

mutual
theorem findings_of_extends (hschema : larger.Extends schema) (type : Option TypeRef)
    (path : String) : ∀ value : Value, Finding.errors (value.findings schema type path) = [] →
      value.findings larger type path = value.findings schema type path ∧
        value.normal larger type = value.normal schema type
  | .variable _, _ => ⟨rfl, rfl⟩
  | .enum _, _ => ⟨rfl, rfl⟩
  | .string _, _ => by
      simp only [findings, normal, hschema.expectsEnum_eq, and_self]
  | .list items, hok => by
      obtain ⟨hfindings, hnormal⟩ :=
        itemFindings_of_extends hschema (type.map TypeRef.itemType) path 0 items hok
      simp only [findings, normal, hfindings, hnormal, and_self]
  | .object entries, hok => by
      simp only [findings, Finding.errors_append, List.append_eq_nil_iff] at hok
      have hfault := Finding.fault_eq_none_of_errors hok.1
      obtain ⟨hlarger, hscope⟩ := hschema.inputScope hfault
      obtain ⟨hfindings, hnormal⟩ := entryFindings_of_extends hschema hscope _ path entries hok.2
      simp only [findings, normal, hlarger, hfault, hfindings, hnormal, and_self]
  | .int _, _ => ⟨rfl, rfl⟩
  | .float _, _ => ⟨rfl, rfl⟩
  | .boolean _, _ => ⟨rfl, rfl⟩
  | .null, _ => ⟨rfl, rfl⟩

theorem itemFindings_of_extends (hschema : larger.Extends schema) (type : Option TypeRef)
    (path : String) : ∀ (position : Nat) (items : List Value),
      Finding.errors (itemFindings schema type path position items) = [] →
      itemFindings larger type path position items = itemFindings schema type path position items ∧
        normalItems larger type items = normalItems schema type items
  | _, [], _ => ⟨rfl, rfl⟩
  | position, item :: rest, hok => by
      simp only [itemFindings, Finding.errors_append, List.append_eq_nil_iff] at hok
      obtain ⟨hitem, hnormal⟩ := findings_of_extends hschema type _ item hok.1
      obtain ⟨hrest, hothers⟩ :=
        itemFindings_of_extends hschema type path (position + 1) rest hok.2
      simp only [itemFindings, normalItems, hitem, hnormal, hrest, hothers, and_self]

theorem entryFindings_of_extends (hschema : larger.Extends schema) {more scope : Scope}
    (hscope : more.Extends scope) (missing : String → SchemaFault) (path : String) :
    ∀ entries : List (String × Value),
      Finding.errors (entryFindings schema scope missing path entries) = [] →
      entryFindings larger more missing path entries =
          entryFindings schema scope missing path entries ∧
        normalEntries larger more entries = normalEntries schema scope entries
  | [], _ => ⟨rfl, rfl⟩
  | (key, value) :: rest, hok => by
      simp only [entryFindings, Finding.errors_append, List.append_eq_nil_iff] at hok
      have hfault := Finding.fault_eq_none_of_errors hok.1.1
      -- The key was there, so its type is the one that it had.
      obtain ⟨hlarger, htype⟩ := hscope.lookup_eq hfault
      obtain ⟨hvalue, hnormal⟩ := findings_of_extends hschema (scope.type? key) _ value hok.1.2
      obtain ⟨hrest, hothers⟩ := entryFindings_of_extends hschema hscope missing path rest hok.2
      simp only [entryFindings, normalEntries, hlarger, hfault, htype, hvalue, hnormal, hrest,
        hothers, and_self]
end

end Value

namespace Selection

mutual
theorem findings_of_extends (hschema : larger.Extends schema) (parent : Option String)
    (path : String) : ∀ selection : Selection,
      Finding.errors (selection.findings schema parent path) = [] →
      selection.findings larger parent path = selection.findings schema parent path ∧
        selection.normal larger parent = selection.normal schema parent
  | .field head selections, hok => by
      simp only [findings, Field.findings, Finding.errors_append, List.append_eq_nil_iff] at hok
      obtain ⟨harguments, hnormal⟩ := Value.entryFindings_of_extends hschema
        (hschema.fieldScope parent head) _ _ head.arguments hok.1
      obtain ⟨hselections, hothers⟩ := setFindings_of_extends hschema none _ selections hok.2
      simp only [findings, normal, Field.findings, Field.normal, harguments, hnormal, hselections,
        hothers, and_self]
  | .fragment typeCondition selections, hok => by
      obtain ⟨hselections, hnormal⟩ :=
        setFindings_of_extends hschema (some typeCondition) _ selections hok
      simp only [findings, normal, hselections, hnormal, and_self]
  | .unknown, _ => ⟨rfl, rfl⟩

theorem setFindings_of_extends (hschema : larger.Extends schema) (parent : Option String)
    (path : String) : ∀ selections : List Selection,
      Finding.errors (setFindings schema parent path selections) = [] →
      setFindings larger parent path selections = setFindings schema parent path selections ∧
        normalSet larger parent selections = normalSet schema parent selections
  | [], _ => ⟨rfl, rfl⟩
  | selection :: rest, hok => by
      simp only [setFindings, Finding.errors_append, List.append_eq_nil_iff] at hok
      obtain ⟨hselection, hnormal⟩ := findings_of_extends hschema parent path selection hok.1
      obtain ⟨hrest, hothers⟩ := setFindings_of_extends hschema parent path rest hok.2
      simp only [setFindings, normalSet, hselection, hnormal, hrest, hothers, and_self]
end

end Selection

/-! ### Operations -/

namespace Compile

/-- A tree without violations in a snapshot has the same findings and the same normal form in a
larger one. -/
theorem findings_of_extends (hschema : larger.Extends schema) {kind : OperationKind}
    {selections : List Selection} (hok : schema.violations kind selections = []) :
    larger.findings kind selections = schema.findings kind selections ∧
      larger.normal kind selections = schema.normal kind selections := by
  unfold Schema.findings Schema.normal
  rw [hschema.rootType_eq kind]
  exact Selection.setFindings_of_extends hschema _ _ selections hok

/-- An operation that compiles keeps its document when the snapshot grows. -/
theorem document_survives_growth (hschema : larger.Extends schema) {kind : OperationKind}
    {name : Option String} {selections : List Selection} {document : Document}
    (hdocument : (operation schema kind name selections).1 = .ok document) :
    (operation larger kind name selections).1 = .ok document := by
  obtain ⟨hok, rfl⟩ := (operation_eq_ok_iff schema kind name selections).mp hdocument
  obtain ⟨hfindings, hnormal⟩ := findings_of_extends hschema hok
  rw [operation_eq_ok_iff]
  constructor
  · calc larger.violations kind selections
        = schema.violations kind selections := by unfold Schema.violations; rw [hfindings]
      _ = [] := hok
  · unfold Schema.document Schema.usages
    rw [hfindings, hnormal]

/-- A snapshot with an enum, an input type and a field of the root type. -/
def filterSchema : Schema :=
  { Schema.empty with
    enums := ["Role"]
    inputTypes := [("UserFilter", [("role", "Role!"), ("ids", "[ID!]")])]
    fieldArguments := [("Query", [("users", [("filter", "UserFilter"), ("first", "Int")])])] }

/-- The snapshot with more keys, with another input type, and in another order.  None of the types
that are new can be read. -/
def grownFilterSchema : Schema :=
  { filterSchema with
    inputTypes := [("Page", [("size", "Int!!")]),
      ("UserFilter", [("sort", "[["), ("ids", "[ID!]"), ("role", "Role!")])]
    fieldArguments :=
      [("Query", [("users", [("after", ""), ("first", "Int"), ("filter", "UserFilter")])])] }

/-- A field with an enum value, a variable in a list and a variable on its own. -/
def filterSelections : List Selection :=
  [.field ⟨"users", none,
      [("filter", .object [("role", .string "ADMIN"), ("ids", .list [.variable ⟨"id", false⟩])]),
        ("first", .variable ⟨"n", true⟩)], none⟩
    [.field (.ofName "name") []]]

/-- What the field is compiled to. -/
def filterDocument : Document :=
  ⟨.query, none, [⟨"id", .nonNull (.named "ID")⟩, ⟨"n", .nonNull (.named "Int")⟩],
    "\x7busers(filter:\x7brole:ADMIN,ids:[$id]\x7d,first:$n)\x7bname \x7d \x7d"⟩

theorem grownFilterSchema_extends : grownFilterSchema.Extends filterSchema where
  queryType := rfl
  mutationType := rfl
  enums _ := Iff.rfl
  inputTypes typeName table htable := by
    have hmem := Table.mem_of_get? htable
    obtain ⟨rfl, rfl⟩ :
        typeName = "UserFilter" ∧ table = [("role", "Role!"), ("ids", "[ID!]")] := by
      simpa [filterSchema] using hmem
    exact ⟨_, rfl, Table.extends_of_forall_mem (by decide)⟩
  fieldArguments typeName fieldName := by
    by_cases htype : typeName = "Query"
    · by_cases hfield : fieldName = "users"
      · subst htype hfield
        exact .known (Table.extends_of_forall_mem (by decide))
      · have hnone : ∀ table : Table String, Table.get? [("users", table)] fieldName = none := by
          intro table
          simp [Table.get?_cons, hfield]
        simp [Schema.fieldArguments?, filterSchema, grownFilterSchema, Table.get?_cons, htype,
          hnone, Scope.Extends.unknown]
    · simp [Schema.fieldArguments?, filterSchema, grownFilterSchema, Table.get?_cons, htype,
        Scope.Extends.unknown]

theorem users_survive_growth :
    grownFilterSchema.Extends filterSchema ∧
      (operation filterSchema .query none filterSelections).1 = .ok filterDocument ∧
      (operation grownFilterSchema .query none filterSelections).1 = .ok filterDocument := by
  have hdocument :
      (operation filterSchema .query none filterSelections).1 = .ok filterDocument := by
    decide +kernel
  exact ⟨grownFilterSchema_extends, hdocument,
    document_survives_growth grownFilterSchema_extends hdocument⟩

end Compile

end SelectionCompiler
