import SelectionCompiler.Proofs.Walk

/-!
# Hoisting variables

The variables of a document are declared in front of its body, wherever in the tree they are used.
Which variables a tree uses can be said without the schema: they are the variables among the values
of its arguments.  If there are no violations, each of them stands at a place whose type is known,
so it is registered, and nothing else is.
-/

namespace SelectionCompiler

/-- The variable that is used, as it stands in the tree. -/
def Usage.ref (usage : Usage) : VariableRef :=
  ⟨usage.name, usage.alwaysRequired⟩

namespace Value

mutual
/-- The variables in a value, from left to right. -/
def refs : Value → List VariableRef
  | .variable ref => [ref]
  | .list items => itemRefs items
  | .object entries => entryRefs entries
  | _ => []

/-- The variables in the items of a list. -/
def itemRefs : List Value → List VariableRef
  | [] => []
  | item :: rest => refs item ++ itemRefs rest

/-- The variables in entries. -/
def entryRefs : List (String × Value) → List VariableRef
  | [] => []
  | (_, value) :: rest => refs value ++ entryRefs rest
end

end Value

namespace Selection

mutual
/-- The variables in a selection, those in the arguments of a field before those below it. -/
def refs : Selection → List VariableRef
  | .field head selections => Value.entryRefs head.arguments ++ setRefs selections
  | .fragment _ selections => setRefs selections
  | .unknown => []

/-- The variables in the selections of a set. -/
def setRefs : List Selection → List VariableRef
  | [] => []
  | selection :: rest => refs selection ++ setRefs rest
end

end Selection

/-! ### Every variable is a use -/

namespace Value

theorem usages_enumFindings (path name : String) :
    Finding.usages (enumFindings path name) = [] :=
  Finding.usages_ofFault _ _

theorem refs_variableFindings {type : Option TypeRef} {path : String} {ref : VariableRef}
    (hok : Finding.errors (variableFindings type path ref) = []) :
    (Finding.usages (variableFindings type path ref)).map Usage.ref = [ref] := by
  unfold variableFindings at hok ⊢
  cases type with
  | none => simp at hok
  | some type =>
      split
      · rfl
      · rename_i hname
        simp [hname] at hok

mutual
theorem refs_findings {schema : Schema} {type : Option TypeRef} {path : String} :
    ∀ value : Value, Finding.errors (value.findings schema type path) = [] →
      (Finding.usages (value.findings schema type path)).map Usage.ref = value.refs
  | .variable _, hok => refs_variableFindings hok
  | .enum name, _ => by simp [findings, usages_enumFindings, refs]
  | .string value, _ => by
      unfold findings
      split
      · simp [usages_enumFindings, refs]
      · rfl
  | .list items, hok => refs_itemFindings 0 items hok
  | .object entries, hok => by
      simp only [findings, Finding.errors_append, List.append_eq_nil_iff] at hok
      simpa [findings, refs] using refs_entryFindings entries hok.2
  | .int _, _ => rfl
  | .float _, _ => rfl
  | .boolean _, _ => rfl
  | .null, _ => rfl

theorem refs_itemFindings {schema : Schema} {type : Option TypeRef} {path : String} :
    ∀ (position : Nat) (items : List Value),
      Finding.errors (itemFindings schema type path position items) = [] →
      (Finding.usages (itemFindings schema type path position items)).map Usage.ref =
        itemRefs items
  | _, [], _ => rfl
  | position, item :: rest, hok => by
      simp only [itemFindings, Finding.errors_append, List.append_eq_nil_iff] at hok
      simp only [itemFindings, Finding.usages_append, List.map_append, itemRefs]
      rw [refs_findings item hok.1, refs_itemFindings (position + 1) rest hok.2]

theorem refs_entryFindings {schema : Schema} {scope : Scope} {missing : String → SchemaFault}
    {path : String} :
    ∀ entries : List (String × Value),
      Finding.errors (entryFindings schema scope missing path entries) = [] →
      (Finding.usages (entryFindings schema scope missing path entries)).map Usage.ref =
        entryRefs entries
  | [], _ => rfl
  | (key, value) :: rest, hok => by
      simp only [entryFindings, Finding.errors_append, List.append_eq_nil_iff] at hok
      simp only [entryFindings, Finding.usages_append, Finding.usages_ofFault, List.nil_append,
        List.map_append, entryRefs]
      rw [refs_findings value hok.1.2, refs_entryFindings rest hok.2]
end

end Value

namespace Selection

mutual
theorem refs_findings {schema : Schema} {parent : Option String} {path : String} :
    ∀ selection : Selection, Finding.errors (selection.findings schema parent path) = [] →
      (Finding.usages (selection.findings schema parent path)).map Usage.ref = selection.refs
  | .field head selections, hok => by
      simp only [findings, Field.findings, Finding.errors_append, List.append_eq_nil_iff] at hok
      simp only [findings, Field.findings, Finding.usages_append, List.map_append, refs]
      rw [Value.refs_entryFindings head.arguments hok.1, refs_setFindings selections hok.2]
  | .fragment _ selections, hok => refs_setFindings selections hok
  | .unknown, hok => by simp [findings] at hok

theorem refs_setFindings {schema : Schema} {parent : Option String} {path : String} :
    ∀ selections : List Selection, Finding.errors (setFindings schema parent path selections) = [] →
      (Finding.usages (setFindings schema parent path selections)).map Usage.ref =
        setRefs selections
  | [], _ => rfl
  | selection :: rest, hok => by
      simp only [setFindings, Finding.errors_append, List.append_eq_nil_iff] at hok
      simp only [setFindings, Finding.usages_append, List.map_append, setRefs]
      rw [refs_findings selection hok.1, refs_setFindings rest hok.2]
end

end Selection

/-! ### Declarations of a document -/

namespace Compile

/-- The declarations of a document are those of a fresh registry after the uses of the tree, which
are all of its variables in the order of the document.  So each variable of the tree is declared
once, in the order of the first uses, and no other variable is. -/
theorem document_declares_refs {schema : Schema} {kind : OperationKind}
    {name : Option String} {selections : List Selection} {document : Document}
    (hdocument : (operation schema kind name selections).1 = .ok document) :
    document.definitions =
        (Registry.empty.registerAll (schema.usages kind selections)).definitions ∧
      (schema.usages kind selections).map Usage.ref = Selection.setRefs selections ∧
      (document.definitions.map VariableDefinition.name).Nodup ∧
      document.definitions.map VariableDefinition.name =
        ((Selection.setRefs selections).map VariableRef.name).eraseDups ∧
      ∀ declared, declared ∈ document.definitions.map VariableDefinition.name ↔
        ∃ ref ∈ Selection.setRefs selections, ref.name = declared := by
  obtain ⟨hviolations, rfl⟩ := (operation_eq_ok_iff schema kind name selections).mp hdocument
  have hrefs : (schema.usages kind selections).map Usage.ref = Selection.setRefs selections :=
    Selection.refs_setFindings selections hviolations
  have hnames : (schema.document kind name selections).definitions.map VariableDefinition.name =
      ((Selection.setRefs selections).map VariableRef.name).eraseDups := by
    rw [← hrefs, List.map_map]
    exact (Registry.names_definitions _).trans (Registry.names_registerAll _)
  refine ⟨rfl, hrefs, ?_, hnames, fun declared => ?_⟩
  · rw [show (schema.document kind name selections).definitions.map VariableDefinition.name = _ from
      Registry.names_definitions _]
    exact Registry.nodup_names _
  · rw [hnames, List.mem_eraseDups, List.mem_map]

/-- A tree with three uses of two variables, one of them in an item of a list in an input object. -/
def nestedUses : List Selection :=
  [.field ⟨"search", none,
      [("filter", .object [("ids", .list [.variable ⟨"b", false⟩, .int 1])]),
        ("first", .variable ⟨"a", false⟩)],
      some [("filter", "Filter!"), ("first", "Int")]⟩
    [.field ⟨"node", none, [("id", .variable ⟨"b", true⟩)], some [("id", "ID")]⟩ []]]

/-- A schema in which the places of the three uses have types. -/
def nestedSchema : Schema :=
  Schema.empty.withInputType "Filter" [("ids", "[ID!]")]

/-- What the tree is compiled to. -/
def nestedDocument : Document :=
  ⟨.query, none, [⟨"b", .nonNull (.named "ID")⟩, ⟨"a", .named "Int"⟩],
    "\x7bsearch(filter:\x7bids:[$b,1]\x7d,first:$a)\x7bnode(id:$b) \x7d \x7d"⟩

theorem nestedUses_declared :
    (operation nestedSchema .query none nestedUses).1 = .ok nestedDocument ∧
      ["b", "a"] = ((Selection.setRefs nestedUses).map VariableRef.name).eraseDups := by
  have hdocument : (operation nestedSchema .query none nestedUses).1 = .ok nestedDocument := by
    decide +kernel
  obtain ⟨_, _, _, hnames, _⟩ := document_declares_refs hdocument
  exact ⟨hdocument, hnames⟩

end Compile

end SelectionCompiler
