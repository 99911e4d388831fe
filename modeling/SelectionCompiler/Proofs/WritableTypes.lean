import SelectionCompiler.Proofs.Compatibility
import SelectionCompiler.Proofs.Declarations
import SelectionCompiler.Proofs.Findings

/-!
# Types that can be written

A text is read as a type only if the grammar could have written that type: there are no two non-null
markers in a row, and the innermost level is a name.  The types of places are read from texts or
taken from inside such types, so in a tree without violations every use has a type that can be
written, and a variable name that can be written too.
-/

namespace SelectionCompiler

namespace TypeRef

/-- The grammar can write the type. -/
structure IsWritable (type : TypeRef) : Prop where
  wellFormed : type.wellFormed = true
  baseName : Name.isValid type.baseName = true

theorem isWritable_of_ofChars {chars : List Char} {type : TypeRef}
    (hread : ofChars chars = .ok type) : type.IsWritable := by
  -- Of the ten ways through the grammar seven end in an error.
  fun_induction ofChars chars generalizing type with
  | case1 => cases hread
  | case2 => cases hread
  | case3 => cases hread
  | case4 chars first rest _ inside _ inner hinner hmarker ih =>
      cases hread
      have hmarker' : inner.isNonNull = false := by simpa using hmarker
      refine ⟨?_, (ih hinner).baseName⟩
      show (!inner.isNonNull && inner.wellFormed) = true
      rw [hmarker', (ih hinner).wellFormed]
      rfl
  | case5 => cases hread
  | case6 chars rest inside _ element helement _ _ ih =>
      cases hread
      exact ⟨(ih helement).wellFormed, (ih helement).baseName⟩
  | case7 => cases hread
  | case8 => cases hread
  | case9 chars first rest _ _ _ _ hname =>
      cases hread
      refine ⟨rfl, ?_⟩
      show Name.isNameChars (String.ofList (first :: rest)).toList = true
      rwa [String.toList_ofList]
  | case10 => cases hread

/-- What is read from a text can be written. -/
theorem isWritable_of_read {text : String} {type : TypeRef} (hread : read text = .ok type) :
    type.IsWritable :=
  isWritable_of_ofChars hread

theorem IsWritable.element {element : TypeRef} (htype : (list element).IsWritable) :
    element.IsWritable :=
  ⟨htype.wellFormed, htype.baseName⟩

theorem IsWritable.inner {inner : TypeRef} (htype : (nonNull inner).IsWritable) :
    inner.IsWritable ∧ inner.isNonNull = false := by
  obtain ⟨hmarker, hinner⟩ := Bool.and_eq_true_iff.mp htype.wellFormed
  exact ⟨⟨hinner, htype.baseName⟩, by simpa using hmarker⟩

theorem IsWritable.of_element? {type element : TypeRef} (htype : type.IsWritable)
    (helement : type.element? = some element) : element.IsWritable := by
  induction type with
  | list inner =>
      cases helement
      exact htype.element
  | nonNull inner ih => exact ih htype.inner.1 helement
  | named name => cases helement

theorem IsWritable.itemType {type : TypeRef} (htype : type.IsWritable) :
    type.itemType.IsWritable := by
  unfold TypeRef.itemType
  cases helement : type.element? with
  | none => exact htype
  | some element => exact htype.of_element? helement

theorem IsWritable.requireIf {type : TypeRef} (htype : type.IsWritable) (required : Bool) :
    (requireIf required type).IsWritable :=
  ⟨wellFormed_requireIf required htype.wellFormed, by
    rw [baseName_requireIf]
    exact htype.baseName⟩

theorem IsWritable.strengthen {type : TypeRef} (htype : type.IsWritable) (used : TypeRef) :
    (type.strengthen used).IsWritable :=
  ⟨wellFormed_strengthen htype.wellFormed used, by
    rw [baseName_strengthen]
    exact htype.baseName⟩

end TypeRef

theorem Scope.isWritable_of_type? {scope : Scope} {key : String} {type : TypeRef}
    (htype : scope.type? key = some type) : type.IsWritable := by
  simp only [Scope.type?, Option.bind_eq_some_iff] at htype
  obtain ⟨table, _, text, _, hread⟩ := htype
  cases h : TypeRef.read text with
  | ok found =>
      rw [h] at hread
      cases hread
      exact TypeRef.isWritable_of_read h
  | error error =>
      rw [h] at hread
      cases hread

/-! ### Uses -/

/-- The grammar can write the name of the variable and the type of the place. -/
structure Usage.IsWritable (usage : Usage) : Prop where
  name : Name.isValid usage.name = true
  type : usage.type.IsWritable

theorem Usage.IsWritable.requiredType {usage : Usage} (husage : usage.IsWritable) :
    usage.requiredType.IsWritable :=
  husage.type.requireIf _

theorem Usage.IsWritable.declare {usage : Usage} (husage : usage.IsWritable)
    {declared : Option TypeRef} (hdeclared : ∀ known ∈ declared, TypeRef.IsWritable known) :
    (usage.declare declared).IsWritable := by
  cases declared with
  | none => exact husage.requiredType
  | some known => exact (hdeclared known rfl).strengthen _

namespace Value

theorem isWritable_of_variableFindings {type : Option TypeRef} {path : String} {ref : VariableRef}
    (htype : ∀ known ∈ type, TypeRef.IsWritable known)
    (hok : Finding.errors (variableFindings type path ref) = []) :
    ∀ usage ∈ Finding.usages (variableFindings type path ref), usage.IsWritable := by
  unfold variableFindings at hok ⊢
  by_cases hname : Name.isValid ref.name
  · rw [if_pos hname]
    cases type with
    | none => simp
    | some type => simpa using ⟨hname, htype type rfl⟩
  · rw [if_neg hname] at hok
    simp at hok

mutual
theorem isWritable_of_findings {schema : Schema} {type : Option TypeRef} {path : String}
    (htype : ∀ known ∈ type, TypeRef.IsWritable known) :
    ∀ value : Value, Finding.errors (value.findings schema type path) = [] →
      ∀ usage ∈ Finding.usages (value.findings schema type path), usage.IsWritable
  | .variable _, hok => isWritable_of_variableFindings htype hok
  | .enum name, _ => by simp [findings, enumFindings]
  | .string value, _ => by
      unfold findings
      split <;> simp [enumFindings]
  | .list items, hok => by
      have hitem : ∀ known ∈ type.map TypeRef.itemType, TypeRef.IsWritable known := by
        intro known hknown
        obtain ⟨outer, houter, rfl⟩ := Option.map_eq_some_iff.mp hknown
        exact (htype outer houter).itemType
      exact isWritable_of_itemFindings hitem 0 items hok
  | .object entries, hok => by
      simp only [findings, Finding.errors_append, List.append_eq_nil_iff] at hok
      simp only [findings, Finding.usages_append, Finding.usages_ofFault, List.nil_append]
      exact isWritable_of_entryFindings entries hok.2
  | .int _, _ => by simp [findings]
  | .float _, _ => by simp [findings]
  | .boolean _, _ => by simp [findings]
  | .null, _ => by simp [findings]

theorem isWritable_of_itemFindings {schema : Schema} {type : Option TypeRef} {path : String}
    (htype : ∀ known ∈ type, TypeRef.IsWritable known) :
    ∀ (position : Nat) (items : List Value),
      Finding.errors (itemFindings schema type path position items) = [] →
      ∀ usage ∈ Finding.usages (itemFindings schema type path position items), usage.IsWritable
  | _, [], _ => by simp [itemFindings]
  | position, item :: rest, hok => by
      simp only [itemFindings, Finding.errors_append, List.append_eq_nil_iff] at hok
      simp only [itemFindings, Finding.usages_append, List.forall_mem_append]
      exact ⟨isWritable_of_findings htype item hok.1,
        isWritable_of_itemFindings htype (position + 1) rest hok.2⟩

theorem isWritable_of_entryFindings {schema : Schema} {scope : Scope}
    {missing : String → SchemaFault} {path : String} :
    ∀ entries : List (String × Value),
      Finding.errors (entryFindings schema scope missing path entries) = [] →
      ∀ usage ∈ Finding.usages (entryFindings schema scope missing path entries), usage.IsWritable
  | [], _ => by simp [entryFindings]
  | (key, value) :: rest, hok => by
      simp only [entryFindings, Finding.errors_append, List.append_eq_nil_iff] at hok
      simp only [entryFindings, Finding.usages_append, Finding.usages_ofFault, List.nil_append,
        List.forall_mem_append]
      have htype : ∀ known ∈ scope.type? key, TypeRef.IsWritable known :=
        fun known hknown => Scope.isWritable_of_type? hknown
      exact ⟨isWritable_of_findings htype value hok.1.2, isWritable_of_entryFindings rest hok.2⟩
end

end Value

namespace Selection

mutual
theorem isWritable_of_findings {schema : Schema} {parent : Option String} {path : String} :
    ∀ selection : Selection, Finding.errors (selection.findings schema parent path) = [] →
      ∀ usage ∈ Finding.usages (selection.findings schema parent path), usage.IsWritable
  | .field head selections, hok => by
      simp only [findings, Field.findings, Finding.errors_append, List.append_eq_nil_iff] at hok
      simp only [findings, Field.findings, Finding.usages_append, List.forall_mem_append]
      exact ⟨Value.isWritable_of_entryFindings head.arguments hok.1,
        isWritable_of_setFindings selections hok.2⟩
  | .fragment _ selections, hok => isWritable_of_setFindings selections hok
  | .unknown, _ => by simp [findings]

theorem isWritable_of_setFindings {schema : Schema} {parent : Option String} {path : String} :
    ∀ selections : List Selection,
      Finding.errors (setFindings schema parent path selections) = [] →
      ∀ usage ∈ Finding.usages (setFindings schema parent path selections), usage.IsWritable
  | [], _ => by simp [setFindings]
  | selection :: rest, hok => by
      simp only [setFindings, Finding.errors_append, List.append_eq_nil_iff] at hok
      simp only [setFindings, Finding.usages_append, List.forall_mem_append]
      exact ⟨isWritable_of_findings selection hok.1, isWritable_of_setFindings rest hok.2⟩
end

end Selection

theorem Schema.isWritable_of_mem_usages {schema : Schema} {kind : OperationKind}
    {selections : List Selection} (hok : schema.violations kind selections = []) {usage : Usage}
    (husage : usage ∈ schema.usages kind selections) : usage.IsWritable :=
  Selection.isWritable_of_setFindings selections hok usage husage

/-! ### Declarations -/

/-- The grammar can write all declarations of the registry. -/
def Registry.IsWritable (registry : Registry) : Prop :=
  ∀ name type, registry.get? name = some type → Name.isValid name = true ∧ type.IsWritable

namespace Registry

theorem isWritable_empty : empty.IsWritable := by
  intro name type hget
  cases hget

theorem IsWritable.register {registry : Registry} (hregistry : registry.IsWritable)
    {usage : Usage} (husage : usage.IsWritable) : (registry.register usage).IsWritable := by
  intro name type hget
  rw [get?_register] at hget
  split at hget
  · rename_i hname
    rw [hname, ← Option.some.inj hget]
    exact ⟨husage.name, husage.declare fun known hknown => (hregistry usage.name known hknown).2⟩
  · exact hregistry name type hget

theorem IsWritable.registerAll {registry : Registry} (hregistry : registry.IsWritable)
    {usages : List Usage} (husages : ∀ usage ∈ usages, usage.IsWritable) :
    (registry.registerAll usages).IsWritable := by
  induction usages generalizing registry with
  | nil => exact hregistry
  | cons usage rest ih =>
      obtain ⟨husage, hrest⟩ := List.forall_mem_cons.mp husages
      exact ih (hregistry.register husage) hrest

end Registry

end SelectionCompiler
