import SelectionCompiler.Proofs.Markers

/-!
# Sibling selections

A set of selections can be rendered in parts.  What stands in one part does not change the text of
another one, nor the error with which it fails.  The texts follow one another, and the error is that
of the first part that has one.

Only the variables know of each other.  A part that comes later can add variables behind those of
the parts in front of it, and it can add markers to their types.
-/

namespace SelectionCompiler

/-! ### Longer sets -/

namespace Selection

theorem setFindings_append (schema : Schema) (parent : Option String) (path : String)
    (first second : List Selection) :
    setFindings schema parent path (first ++ second) =
      setFindings schema parent path first ++ setFindings schema parent path second := by
  induction first with
  | nil => rfl
  | cons selection rest ih =>
      rw [List.cons_append, setFindings, setFindings, ih, List.append_assoc]

theorem normalSet_append (schema : Schema) (parent : Option String)
    (first second : List Selection) :
    normalSet schema parent (first ++ second) =
      normalSet schema parent first ++ normalSet schema parent second := by
  induction first with
  | nil => rfl
  | cons selection rest ih => rw [List.cons_append, normalSet, normalSet, ih, List.cons_append]

theorem setText_append (first second : List Selection) :
    setText (first ++ second) = setText first ++ setText second := by
  induction first with
  | nil => rw [List.nil_append, setText, String.empty_append]
  | cons selection rest ih =>
      rw [List.cons_append, setText, setText, ih, String.append_assoc]

end Selection

/-! ### Types that gain markers -/

namespace TypeRef

/-- A type with the name and the list levels of another one and at least its markers. -/
structure Sharpens (sharper type : TypeRef) : Prop where
  baseName : sharper.baseName = type.baseName
  depth : sharper.depth = type.depth
  requiredAt : ∀ level, type.requiredAt level = true → sharper.requiredAt level = true

theorem strengthenAll_sharpens {type : TypeRef} (htype : type.wellFormed = true)
    {usages : List Usage} (husages : ∀ usage ∈ usages, usage.requiredType.wellFormed = true) :
    (type.strengthenAll usages).Sharpens type where
  baseName := by rw [← baseName_erased, erased_strengthenAll, baseName_erased]
  depth := depth_strengthenAll type usages
  requiredAt level hlevel := by
    rw [requiredAt_strengthenAll htype husages, hlevel, Bool.true_or]

end TypeRef

/-! ### Registries that grow -/

namespace Registry

/-- A registry after more uses.  It begins with the names of the one before them, and the types of
these have gained markers at most. -/
structure Extends (later registry : Registry) : Prop where
  names : registry.names <+: later.names
  types : ∀ name type, registry.get? name = some type →
    ∃ sharper, later.get? name = some sharper ∧ sharper.Sharpens type

/-- All declared types are well-formed. -/
def IsWellFormed (registry : Registry) : Prop :=
  ∀ name type, registry.get? name = some type → type.wellFormed = true

theorem IsWritable.isWellFormed {registry : Registry} (hregistry : registry.IsWritable) :
    registry.IsWellFormed :=
  fun name type hget => (hregistry name type hget).2.wellFormed

theorem names_prefix_register (registry : Registry) (usage : Usage) :
    registry.names <+: (registry.register usage).names := by
  rw [names_register]
  split
  · exact List.prefix_refl registry.names
  · exact List.prefix_append registry.names [usage.name]

theorem names_prefix_registerAll (registry : Registry) (usages : List Usage) :
    registry.names <+: (registry.registerAll usages).names := by
  induction usages generalizing registry with
  | nil => exact List.prefix_refl registry.names
  | cons usage rest ih => exact (names_prefix_register registry usage).trans (ih _)

theorem registerAll_extends {registry : Registry} (hregistry : registry.IsWellFormed)
    {usages : List Usage} (husages : ∀ usage ∈ usages, usage.type.wellFormed = true) :
    (registry.registerAll usages).Extends registry where
  names := names_prefix_registerAll registry usages
  types name type htype := by
    refine ⟨_, get?_registerAll_of_some htype usages, ?_⟩
    have hown : ∀ usage ∈ Usage.ofVariable name usages, usage.requiredType.wellFormed = true :=
      fun usage husage =>
        TypeRef.wellFormed_requireIf _ (husages usage (List.mem_filter.mp husage).1)
    exact TypeRef.strengthenAll_sharpens (hregistry name type htype) hown

end Registry

/-! ### Root sets -/

namespace Compile

/-- The violations in a root set. -/
def rootErrors (schema : Schema) (rootType : String) (selections : List Selection) :
    List CompileError :=
  Finding.errors (Selection.setFindings schema (some rootType) rootType selections)

/-- The uses in a root set. -/
def rootUsages (schema : Schema) (rootType : String) (selections : List Selection) : List Usage :=
  Finding.usages (Selection.setFindings schema (some rootType) rootType selections)

/-- What is written between the braces of a root set. -/
def innerText (schema : Schema) (rootType : String) (selections : List Selection) : String :=
  Selection.setText (Selection.normalSet schema (some rootType) selections)

variable (schema : Schema) (rootType : String) (first second selections : List Selection)

theorem rootErrors_append :
    rootErrors schema rootType (first ++ second) =
      rootErrors schema rootType first ++ rootErrors schema rootType second := by
  rw [rootErrors, Selection.setFindings_append, Finding.errors_append, rootErrors, rootErrors]

theorem rootUsages_append :
    rootUsages schema rootType (first ++ second) =
      rootUsages schema rootType first ++ rootUsages schema rootType second := by
  rw [rootUsages, Selection.setFindings_append, Finding.usages_append, rootUsages, rootUsages]

theorem innerText_append :
    innerText schema rootType (first ++ second) =
      innerText schema rootType first ++ innerText schema rootType second := by
  rw [innerText, Selection.normalSet_append, Selection.setText_append, innerText, innerText]

/-- Rendering ends in the text of the root set or in its first violation. -/
theorem render_outcome :
    (render schema rootType selections).1 =
      Finding.outcome (Selection.setFindings schema (some rootType) rootType selections)
        ("\x7b" ++ innerText schema rootType selections ++ "\x7d ") := by
  obtain ⟨next, -, hrun⟩ := performs_rootText schema rootType selections Session.start
  rw [render, hrun, innerText]

theorem render_eq_ok_iff {text : String} :
    (render schema rootType selections).1 = .ok text ↔
      rootErrors schema rootType selections = [] ∧
        text = "\x7b" ++ innerText schema rootType selections ++ "\x7d " := by
  rw [render_outcome, Finding.outcome_eq_ok_iff, rootErrors]

theorem render_eq_error_iff {error : CompileError} :
    (render schema rootType selections).1 = .error error ↔
      (rootErrors schema rootType selections).head? = some error := by
  rw [render_outcome, Finding.outcome_eq_error_iff, rootErrors]

theorem render_compiles_iff :
    (∃ text, (render schema rootType selections).1 = .ok text) ↔
      rootErrors schema rootType selections = [] := by
  simp only [render_eq_ok_iff, exists_and_left, exists_eq, and_true]

variable {schema rootType first second selections}

/-- All uses in a root set without violations are registered. -/
theorem render_registry (hok : rootErrors schema rootType selections = []) :
    (render schema rootType selections).2.registry =
      Registry.empty.registerAll (rootUsages schema rootType selections) := by
  obtain ⟨next, hreach, hrun⟩ := performs_rootText schema rootType selections Session.start
  rw [render, hrun, hreach.registry, Finding.usagesAhead_of_ok hok]
  rfl

theorem isWritable_of_mem_rootUsages (hok : rootErrors schema rootType selections = []) :
    ∀ usage ∈ rootUsages schema rootType selections, usage.IsWritable :=
  Selection.isWritable_of_setFindings selections hok

/-- The selections behind a set only add to its registry. -/
theorem render_append_extends (hfirst : rootErrors schema rootType first = [])
    (hsecond : rootErrors schema rootType second = []) :
    (render schema rootType (first ++ second)).2.registry.Extends
      (render schema rootType first).2.registry := by
  have hboth : rootErrors schema rootType (first ++ second) = [] := by
    rw [rootErrors_append, hfirst, hsecond, List.append_nil]
  rw [render_registry hboth, render_registry hfirst, rootUsages_append,
    Registry.registerAll_append]
  have hregistry := Registry.isWritable_empty.registerAll (isWritable_of_mem_rootUsages hfirst)
  exact Registry.registerAll_extends hregistry.isWellFormed fun usage husage =>
    (isWritable_of_mem_rootUsages hsecond usage husage).type.wellFormed

/-- An operation has the rendered root set as its body, except for the blank at the end. -/
theorem render_eq_map_operation (schema : Schema) (kind : OperationKind) (name : Option String)
    (selections : List Selection) :
    (render schema (schema.rootType kind) selections).1 =
      (operation schema kind name selections).1.map fun document => document.body ++ " " := by
  rw [render_outcome, (operation_spec schema kind name selections).1, Finding.map_outcome]
  have hbody : (schema.document kind name selections).body ++ " " =
      "\x7b" ++ innerText schema (schema.rootType kind) selections ++ "\x7d " := by
    rw [Schema.document, String.append_assoc]
    rfl
  rw [hbody]
  rfl

/-- Two sets one after the other are rendered if each of them is.  The text is then made of both
texts, and the second set only adds to the registry of the first one.  Otherwise it fails like the
first set that fails.  The body of an operation is the text without the blank at its end. -/
theorem render_append (schema : Schema) (rootType : String) (first second : List Selection) :
    ((∃ text, (render schema rootType (first ++ second)).1 = .ok text) ↔
        (∃ text, (render schema rootType first).1 = .ok text) ∧
          ∃ text, (render schema rootType second).1 = .ok text) ∧
      (∀ text other, (render schema rootType first).1 = .ok text →
        (render schema rootType second).1 = .ok other →
        ∃ inner otherInner, text = "\x7b" ++ inner ++ "\x7d " ∧
          other = "\x7b" ++ otherInner ++ "\x7d " ∧
          (render schema rootType (first ++ second)).1 =
            .ok ("\x7b" ++ (inner ++ otherInner) ++ "\x7d ") ∧
          (render schema rootType (first ++ second)).2.registry.Extends
            (render schema rootType first).2.registry) ∧
      (∀ error, (render schema rootType first).1 = .error error →
        (render schema rootType (first ++ second)).1 = .error error) ∧
      (∀ text error, (render schema rootType first).1 = .ok text →
        (render schema rootType second).1 = .error error →
        (render schema rootType (first ++ second)).1 = .error error) ∧
      ∀ kind name selections, (render schema (schema.rootType kind) selections).1 =
        (operation schema kind name selections).1.map fun document => document.body ++ " " := by
  refine ⟨?_, fun text other htext hother => ?_, fun error herror => ?_,
    fun text error htext herror => ?_, render_eq_map_operation schema⟩
  · rw [render_compiles_iff, render_compiles_iff, render_compiles_iff, rootErrors_append,
      List.append_eq_nil_iff]
  · obtain ⟨hfirst, rfl⟩ := (render_eq_ok_iff schema rootType first).mp htext
    obtain ⟨hsecond, rfl⟩ := (render_eq_ok_iff schema rootType second).mp hother
    refine ⟨innerText schema rootType first, innerText schema rootType second, rfl, rfl, ?_,
      render_append_extends hfirst hsecond⟩
    rw [render_eq_ok_iff, rootErrors_append, innerText_append, hfirst, hsecond]
    exact ⟨rfl, rfl⟩
  · rw [render_eq_error_iff] at herror ⊢
    rw [rootErrors_append, List.head?_append, herror, Option.some_or]
  · obtain ⟨hfirst, -⟩ := (render_eq_ok_iff schema rootType first).mp htext
    rw [render_eq_error_iff] at herror ⊢
    rw [rootErrors_append, hfirst, List.nil_append, herror]

/-- A field with a variable for a list. -/
def countSet : List Selection :=
  [.field ⟨"count", none, [("ids", .variable ⟨"v", false⟩)], some [("ids", "[Int]")]⟩ []]

/-- A field with the same variable for a stricter list, and with another variable. -/
def itemsSet : List Selection :=
  [.field ⟨"items", none, [("ids", .variable ⟨"v", false⟩), ("key", .variable ⟨"w", false⟩)],
    some [("ids", "[Int!]!"), ("key", "String")]⟩ [.field (.ofName "id") []]]

theorem countSet_render_append :
    (render .empty "Query" countSet).1 = .ok "\x7bcount(ids:$v) \x7d " ∧
      (render .empty "Query" itemsSet).1 = .ok "\x7bitems(ids:$v,key:$w)\x7bid \x7d \x7d " ∧
      (render .empty "Query" (countSet ++ itemsSet)).1 =
        .ok "\x7bcount(ids:$v) items(ids:$v,key:$w)\x7bid \x7d \x7d " ∧
      (render .empty "Query" (countSet ++ itemsSet)).2.registry.Extends
        ⟨[("v", .list (.named "Int"))]⟩ ∧
      (render .empty "Query" (countSet ++ itemsSet)).2.registry =
        ⟨[("v", .nonNull (.list (.nonNull (.named "Int")))), ("w", .named "String")]⟩ ∧
      (render .empty "Query" (countSet ++ [.unknown])).1 = .error (.unknownNode "Query") ∧
      (render .empty "Query" ([.unknown] ++ itemsSet)).1 = .error (.unknownNode "Query") := by
  have hcount : (render .empty "Query" countSet).1 = .ok "\x7bcount(ids:$v) \x7d " := by
    decide +kernel
  have hitems : (render .empty "Query" itemsSet).1 =
      .ok "\x7bitems(ids:$v,key:$w)\x7bid \x7d \x7d " := by
    decide +kernel
  have hunknown : (render .empty "Query" [.unknown]).1 = .error (.unknownNode "Query") := rfl
  have hboth : (render .empty "Query" (countSet ++ itemsSet)).1 =
      .ok "\x7bcount(ids:$v) items(ids:$v,key:$w)\x7bid \x7d \x7d " := by
    decide +kernel
  have hregistry :
      (render .empty "Query" countSet).2.registry = ⟨[("v", .list (.named "Int"))]⟩ := by
    decide +kernel
  have hregistries : (render .empty "Query" (countSet ++ itemsSet)).2.registry =
      ⟨[("v", .nonNull (.list (.nonNull (.named "Int")))), ("w", .named "String")]⟩ := by
    decide +kernel
  obtain ⟨-, hok, -⟩ := render_append .empty "Query" countSet itemsSet
  obtain ⟨-, -, -, hbehind, -⟩ := render_append .empty "Query" countSet [.unknown]
  obtain ⟨-, -, hahead, -⟩ := render_append .empty "Query" [.unknown] itemsSet
  obtain ⟨_, _, _, _, _, hextends⟩ := hok _ _ hcount hitems
  rw [hregistry] at hextends
  exact ⟨hcount, hitems, hboth, hextends, hregistries, hbehind _ _ hcount hunknown,
    hahead _ hunknown⟩

end Compile

end SelectionCompiler
