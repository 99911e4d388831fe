import SelectionCompiler.Proofs.Walk
import SelectionCompiler.Proofs.WritableTypes

/-!
# Declared types suit the uses

The first use of a variable fixes the names and the list levels of its declared type.  From then on
the type can only become stricter, so a place that it suits once, it suits for ever.  A later use
makes it strict enough for its own place, provided that the place differs from the first one by
non-null markers only.  Uses of other kinds may stand in between, since they cannot take a marker
away.

A use at a place of another kind causes a warning.  Without warnings there are none.
-/

namespace SelectionCompiler

namespace TypeRef

/-- The type that is declared after further uses of a variable. -/
def strengthenAll (type : TypeRef) (usages : List Usage) : TypeRef :=
  usages.foldl (fun type usage => type.strengthen usage.requiredType) type

@[simp] theorem strengthenAll_cons (type : TypeRef) (usage : Usage) (rest : List Usage) :
    type.strengthenAll (usage :: rest) =
      (type.strengthen usage.requiredType).strengthenAll rest := rfl

theorem erased_strengthenAll (type : TypeRef) (usages : List Usage) :
    (type.strengthenAll usages).erased = type.erased := by
  induction usages generalizing type with
  | nil => rfl
  | cons usage rest ih => rw [strengthenAll_cons, ih, erased_strengthen]

theorem strengthenAll_suits_left {type : TypeRef} (htype : type.wellFormed = true)
    (usages : List Usage) : (type.strengthenAll usages).suits type = true := by
  induction usages generalizing type with
  | nil => exact suits_refl type
  | cons usage rest ih =>
      exact suits_trans (ih (wellFormed_strengthen htype _)) (strengthen_suits_left htype _)

/-- The declared type suits every use that differs from the first one by non-null markers only. -/
theorem strengthenAll_suits_of_mem {type : TypeRef} (htype : type.wellFormed = true)
    {usages : List Usage} (husages : ∀ usage ∈ usages, usage.IsWritable) {usage : Usage}
    (hmem : usage ∈ usages) (herased : usage.type.erased = type.erased) :
    (type.strengthenAll usages).suits usage.type = true := by
  induction usages generalizing type with
  | nil => cases hmem
  | cons head rest ih =>
      have hstronger := wellFormed_strengthen htype head.requiredType
      obtain ⟨hhead, hrest⟩ := List.forall_mem_cons.mp husages
      rcases List.mem_cons.mp hmem with rfl | hmem
      · -- The use makes the type strict enough, and no later use takes anything away.
        have hrequired : type.erased = usage.requiredType.erased := by
          rw [← herased]
          exact (erased_requireIf _ _).symm
        have hsuits := strengthen_suits_right htype hhead.requiredType.wellFormed hrequired
        exact suits_trans (strengthenAll_suits_left hstronger rest)
          (suits_trans hsuits (requireIf_suits _ _))
      · exact ih hstronger hrest hmem (by rw [herased, erased_strengthen])

theorem isNonNull_strengthenAll (type : TypeRef) (usages : List Usage) :
    (type.strengthenAll usages).isNonNull =
      (type.isNonNull || usages.any fun usage => usage.requiredType.isNonNull) := by
  induction usages generalizing type with
  | nil => simp [strengthenAll]
  | cons usage rest ih =>
      rw [strengthenAll_cons, ih, isNonNull_strengthen, List.any_cons, Bool.or_assoc]

end TypeRef

/-! ### The declared type of a variable -/

namespace Usage

/-- The uses of a variable among others. -/
def ofVariable (name : String) (usages : List Usage) : List Usage :=
  usages.filter fun usage => usage.name = name

theorem isNonNull_requiredType {usage : Usage} (hrequired : usage.alwaysRequired = true) :
    usage.requiredType.isNonNull = true := by
  unfold requiredType
  rw [TypeRef.isNonNull_requireIf, hrequired, Bool.true_or]

end Usage

namespace Registry

theorem get?_registerAll_of_some {registry : Registry} {name : String} {declared : TypeRef}
    (hdeclared : registry.get? name = some declared) (usages : List Usage) :
    (registry.registerAll usages).get? name =
      some (declared.strengthenAll (Usage.ofVariable name usages)) := by
  rw [get?_registerAll, hdeclared]
  exact List.foldl_hom some fun _ _ => rfl

theorem get?_registerAll_empty {name : String} {usages rest : List Usage} {first : Usage}
    (hfirst : Usage.ofVariable name usages = first :: rest) :
    (empty.registerAll usages).get? name = some (first.requiredType.strengthenAll rest) := by
  rw [get?_registerAll]
  show (Usage.ofVariable name usages).foldl _ none = _
  rw [hfirst]
  exact List.foldl_hom some fun _ _ => rfl

/-- The declared type of a variable is that of its first use, made stricter by all later ones. -/
theorem definition_type {usages : List Usage} {definition : VariableDefinition}
    (hmem : definition ∈ (empty.registerAll usages).definitions) :
    ∃ first rest, Usage.ofVariable definition.name usages = first :: rest ∧
      definition.type = first.requiredType.strengthenAll rest := by
  have hget := get?_of_mem_definitions (nodup_names usages) hmem
  cases hown : Usage.ofVariable definition.name usages with
  | nil =>
      rw [get?_registerAll] at hget
      change (Usage.ofVariable definition.name usages).foldl _ none = _ at hget
      rw [hown] at hget
      cases hget
  | cons first rest =>
      rw [get?_registerAll_empty hown] at hget
      exact ⟨first, rest, rfl, (Option.some.inj hget).symm⟩

/-- What a declared type owes to the uses of its variable. -/
theorem suits_of_mem_definitions {usages : List Usage}
    (husages : ∀ usage ∈ usages, usage.IsWritable) {definition : VariableDefinition}
    (hmem : definition ∈ (empty.registerAll usages).definitions) :
    ∃ first, usages.find? (fun usage => usage.name = definition.name) = some first ∧
      ∀ usage ∈ usages, usage.name = definition.name →
        (usage.type.erased = first.type.erased → definition.type.suits usage.type = true) ∧
        (usage.alwaysRequired = true → definition.type.isNonNull = true) := by
  obtain ⟨first, rest, hown, htype⟩ := definition_type hmem
  -- From here on only the uses of the one variable matter.
  have hwritable : ∀ usage ∈ first :: rest, usage.IsWritable := by
    intro usage husage
    rw [← hown] at husage
    exact husages usage (List.mem_filter.mp husage).1
  obtain ⟨hfirst, hrest⟩ := List.forall_mem_cons.mp hwritable
  refine ⟨first, ?_, fun usage husage hname => ?_⟩
  · rw [← List.head?_filter]
    exact congrArg List.head? hown
  have hmem : usage ∈ first :: rest := by
    rw [← hown]
    exact List.mem_filter.mpr ⟨husage, by simpa using hname⟩
  have hwellFormed := hfirst.requiredType.wellFormed
  rw [htype, TypeRef.isNonNull_strengthenAll]
  rcases List.mem_cons.mp hmem with rfl | hmem
  · refine ⟨fun _ => ?_, fun hrequired => ?_⟩
    · exact TypeRef.suits_trans (TypeRef.strengthenAll_suits_left hwellFormed rest)
        (TypeRef.requireIf_suits _ _)
    · rw [Usage.isNonNull_requiredType hrequired, Bool.true_or]
  · refine ⟨fun herased => ?_, fun hrequired => ?_⟩
    · refine TypeRef.strengthenAll_suits_of_mem hwellFormed hrest hmem ?_
      rw [herased]
      exact (TypeRef.erased_requireIf _ _).symm
    · have hany : (rest.any fun usage => usage.requiredType.isNonNull) = true :=
        List.any_eq_true.mpr ⟨usage, hmem, Usage.isNonNull_requiredType hrequired⟩
      rw [hany, Bool.or_true]

/-- A use that causes no warning has the shape of the declaration. -/
theorem erased_declare_of_warnings_eventsOf {registry : Registry} {usage : Usage}
    (hsilent : Event.warnings (registry.eventsOf usage) = []) :
    (usage.declare (registry.get? usage.name)).erased = usage.type.erased := by
  cases hdeclared : registry.get? usage.name with
  | none => exact TypeRef.erased_requireIf _ _
  | some declared =>
      have hshape : declared.sameShape usage.requiredType = true :=
        warnings_eventsOf_eq_nil_iff.mp hsilent declared hdeclared
      show (declared.strengthen usage.requiredType).erased = _
      rw [TypeRef.erased_strengthen, TypeRef.erased_eq_of_sameShape hshape]
      exact TypeRef.erased_requireIf _ _

/-- Without warnings every declared type has the names and list levels of all its uses. -/
theorem erased_eq_of_warningsOf {registry : Registry} {usages : List Usage}
    (hsilent : registry.warningsOf usages = []) {usage : Usage} (hmem : usage ∈ usages)
    {declared : TypeRef}
    (hdeclared : (registry.registerAll usages).get? usage.name = some declared) :
    declared.erased = usage.type.erased := by
  induction usages generalizing registry with
  | nil => cases hmem
  | cons head rest ih =>
      obtain ⟨hhead, hrest⟩ := List.append_eq_nil_iff.mp hsilent
      rcases List.mem_cons.mp hmem with rfl | hmem
      · -- Behind this use the type only gets markers, which leave the names and levels alone.
        have hregister := get?_register registry usage usage.name
        rw [if_pos rfl] at hregister
        rw [registerAll_cons, get?_registerAll_of_some hregister] at hdeclared
        rw [← Option.some.inj hdeclared, TypeRef.erased_strengthenAll]
        exact erased_declare_of_warnings_eventsOf hhead
      · exact ih hrest hmem hdeclared

end Registry

/-! ### Operations -/

namespace Compile

theorem operation_warnings {schema : Schema} {kind : OperationKind} (name : Option String)
    {selections : List Selection} (hok : schema.violations kind selections = []) :
    Event.warnings (operation schema kind name selections).2.log =
      Registry.empty.warningsOf (schema.usages kind selections) := by
  rw [(operation_spec schema kind name selections).2.warnings, Finding.usagesAhead_of_ok hok]
  rfl

/-- The declared type of a variable suits every use of the kind of the first one, and it is non-null
if a use asks for that.  If no warning was given, it suits every use. -/
theorem document_types_suit_uses {schema : Schema} {kind : OperationKind} {name : Option String}
    {selections : List Selection} {document : Document}
    (hdocument : (operation schema kind name selections).1 = .ok document) :
    (∀ definition ∈ document.definitions, ∃ first,
        (schema.usages kind selections).find? (fun usage => usage.name = definition.name) =
          some first ∧
        ∀ usage ∈ schema.usages kind selections, usage.name = definition.name →
          (usage.type.erased = first.type.erased → definition.type.suits usage.type = true) ∧
          (usage.alwaysRequired = true → definition.type.isNonNull = true)) ∧
      ((∀ event ∈ (operation schema kind name selections).2.log, event.level ≠ .warn) →
        ∀ definition ∈ document.definitions, ∀ usage ∈ schema.usages kind selections,
          usage.name = definition.name → definition.type.suits usage.type = true) := by
  obtain ⟨hok, rfl⟩ := (operation_eq_ok_iff schema kind name selections).mp hdocument
  have hspec : ∀ definition ∈ (schema.document kind name selections).definitions, _ :=
    fun definition hmem => Registry.suits_of_mem_definitions
      (fun usage husage => Schema.isWritable_of_mem_usages hok husage) hmem
  refine ⟨hspec, fun hsilent definition hmem usage husage hname => ?_⟩
  have hwarnings : Registry.empty.warningsOf (schema.usages kind selections) = [] := by
    rw [← operation_warnings name hok]
    exact List.filter_eq_nil_iff.mpr (by simpa using hsilent)
  have hdeclared := Registry.get?_of_mem_definitions (Registry.nodup_names _) hmem
  -- Both the first use and this one have the names and the list levels of the declared type.
  have herased : ∀ other ∈ schema.usages kind selections, other.name = definition.name →
      definition.type.erased = other.type.erased := by
    intro other hother hothername
    rw [← hothername] at hdeclared
    exact Registry.erased_eq_of_warningsOf hwarnings hother hdeclared
  obtain ⟨first, hfirst, huses⟩ := hspec definition hmem
  have hfirstname : first.name = definition.name := by simpa using List.find?_some hfirst
  refine (huses usage husage hname).1 ?_
  rw [← herased usage husage hname, ← herased first (List.mem_of_find?_eq_some hfirst) hfirstname]

/-- Three uses of a variable: for a list, for a list of strict items, and for a list again, where
the variable has to be there. -/
def threeUses : List Selection :=
  [.field ⟨"a", none, [("in", .variable ⟨"v", false⟩)], some [("in", "[Int]")]⟩ [],
    .field ⟨"b", none, [("in", .variable ⟨"v", false⟩)], some [("in", "[Int!]")]⟩ [],
    .field ⟨"c", none, [("in", .variable ⟨"v", true⟩)], some [("in", "[Int]")]⟩ []]

/-- What the three uses are compiled to. -/
def threeUsesDocument : Document :=
  ⟨.query, none, [⟨"v", .nonNull (.list (.nonNull (.named "Int")))⟩],
    "\x7ba(in:$v) b(in:$v) c(in:$v) \x7d"⟩

/-- The two uses of these that do not cause a warning. -/
def silentUses : List Selection :=
  [.field ⟨"a", none, [("in", .variable ⟨"v", false⟩)], some [("in", "[Int]")]⟩ [],
    .field ⟨"c", none, [("in", .variable ⟨"v", true⟩)], some [("in", "[Int]")]⟩ []]

/-- What the two uses are compiled to. -/
def silentUsesDocument : Document :=
  ⟨.query, none, [⟨"v", .nonNull (.list (.named "Int"))⟩], "\x7ba(in:$v) c(in:$v) \x7d"⟩

theorem threeUses_suited :
    (operation .empty .query none threeUses).1 = .ok threeUsesDocument ∧
      (∃ first, (Schema.empty.usages .query threeUses).find? (fun usage => usage.name = "v") =
          some first ∧
        ∀ usage ∈ Schema.empty.usages .query threeUses, usage.name = "v" →
          (usage.type.erased = first.type.erased →
            (TypeRef.nonNull (.list (.nonNull (.named "Int")))).suits usage.type = true) ∧
          (usage.alwaysRequired = true →
            (TypeRef.nonNull (.list (.nonNull (.named "Int")))).isNonNull = true)) ∧
      (operation .empty .query none silentUses).1 = .ok silentUsesDocument ∧
      ∀ usage ∈ Schema.empty.usages .query silentUses, usage.name = "v" →
        (TypeRef.nonNull (.list (.named "Int"))).suits usage.type = true := by
  have hthree : (operation .empty .query none threeUses).1 = .ok threeUsesDocument := by
    decide +kernel
  have hsilent : (operation .empty .query none silentUses).1 = .ok silentUsesDocument := by
    decide +kernel
  have hwarnings : Event.warnings (operation .empty .query none silentUses).2.log = [] := by
    decide +kernel
  have hlevels : ∀ event ∈ (operation .empty .query none silentUses).2.log, event.level ≠ .warn :=
    fun event hevent => by simpa using List.filter_eq_nil_iff.mp hwarnings event hevent
  have hsuits := (document_types_suit_uses hthree).1
  exact ⟨hthree, hsuits ⟨"v", .nonNull (.list (.nonNull (.named "Int")))⟩
    (List.mem_singleton.mpr rfl), hsilent, (document_types_suit_uses hsilent).2 hlevels
      ⟨"v", .nonNull (.list (.named "Int"))⟩ (List.mem_singleton.mpr rfl)⟩

end Compile

end SelectionCompiler
