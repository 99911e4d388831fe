import SelectionCompiler.Proofs.Markers

/-!
# The order of selections

The selections of a set, the arguments of a field and the entries of an object may be written in any
order.  Trees that differ in nothing else have the same findings, though not in the same order,
since no path tells where among its neighbours a selection or a key stands.  So they have the same
violations, and one of them compiles if the other does.

They also have the same uses.  The order of the uses decides which of them makes a declaration, and
the others cannot change its name or its list levels.  Where all uses of a variable agree on these,
the order does not matter.
-/

namespace SelectionCompiler

/-! ### Trees in another order -/

namespace Value

mutual
/-- The values differ at most in the order of the entries of objects, at any depth. -/
inductive Reordered : Value → Value → Prop where
  | refl (value : Value) : Reordered value value
  | list {items others : List Value} :
      ItemsReordered items others → Reordered (.list items) (.list others)
  | object {entries others : List (String × Value)} :
      EntriesReordered entries others → Reordered (.object entries) (.object others)

/-- The items of two lists differ in that way.  Their own order is the same. -/
inductive ItemsReordered : List Value → List Value → Prop where
  | nil : ItemsReordered [] []
  | cons {item other : Value} {rest others : List Value} :
      Reordered item other → ItemsReordered rest others →
        ItemsReordered (item :: rest) (other :: others)

/-- The entries differ in their order, and their values in that way. -/
inductive EntriesReordered : List (String × Value) → List (String × Value) → Prop where
  | refl (entries : List (String × Value)) : EntriesReordered entries entries
  | cons (key : String) {value other : Value} {rest others : List (String × Value)} :
      Reordered value other → EntriesReordered rest others →
        EntriesReordered ((key, value) :: rest) ((key, other) :: others)
  | swap (first second : String × Value) (rest : List (String × Value)) :
      EntriesReordered (first :: second :: rest) (second :: first :: rest)
  | trans {entries between others : List (String × Value)} :
      EntriesReordered entries between → EntriesReordered between others →
        EntriesReordered entries others
end

end Value

namespace Selection

mutual
/-- The selections differ at most in the order of arguments, of entries, and of the selections in
sets, at any depth. -/
inductive Reordered : Selection → Selection → Prop where
  | refl (selection : Selection) : Reordered selection selection
  | field (head : Field) {arguments : List (String × Value)} {selections others : List Selection} :
      Value.EntriesReordered head.arguments arguments → SetReordered selections others →
        Reordered (.field head selections) (.field { head with arguments := arguments } others)
  | fragment (typeCondition : String) {selections others : List Selection} :
      SetReordered selections others →
        Reordered (.fragment typeCondition selections) (.fragment typeCondition others)

/-- The sets differ in the order of their selections, and these in that way. -/
inductive SetReordered : List Selection → List Selection → Prop where
  | refl (selections : List Selection) : SetReordered selections selections
  | cons {selection other : Selection} {rest others : List Selection} :
      Reordered selection other → SetReordered rest others →
        SetReordered (selection :: rest) (other :: others)
  | swap (first second : Selection) (rest : List Selection) :
      SetReordered (first :: second :: rest) (second :: first :: rest)
  | trans {selections between others : List Selection} :
      SetReordered selections between → SetReordered between others →
        SetReordered selections others
end

end Selection

/-! ### Findings in another order -/

/-- Two blocks of findings in front of others change places. -/
theorem Finding.perm_swap (first second rest : List Finding) :
    (first ++ (second ++ rest)).Perm (second ++ (first ++ rest)) := by
  rw [← List.append_assoc, ← List.append_assoc]
  exact List.perm_append_comm.append_right rest

namespace Value

mutual
theorem Reordered.findings_perm (schema : Schema) :
    ∀ {value other : Value}, Reordered value other → ∀ (type : Option TypeRef) (path : String),
      (value.findings schema type path).Perm (other.findings schema type path)
  | _, _, .refl _, _, _ => .refl _
  | _, _, .list hitems, _, path => hitems.findings_perm schema _ path 0
  | _, _, .object hentries, _, path =>
      (hentries.findings_perm schema _ _ path).append_left _

theorem ItemsReordered.findings_perm (schema : Schema) :
    ∀ {items others : List Value}, ItemsReordered items others →
      ∀ (type : Option TypeRef) (path : String) (position : Nat),
      (itemFindings schema type path position items).Perm
        (itemFindings schema type path position others)
  | _, _, .nil, _, _, _ => .refl _
  | _, _, .cons hitem hrest, type, path, position =>
      (hitem.findings_perm schema type _).append
        (hrest.findings_perm schema type path (position + 1))

theorem EntriesReordered.findings_perm (schema : Schema) :
    ∀ {entries others : List (String × Value)}, EntriesReordered entries others →
      ∀ (scope : Scope) (missing : String → SchemaFault) (path : String),
      (entryFindings schema scope missing path entries).Perm
        (entryFindings schema scope missing path others)
  | _, _, .refl _, _, _, _ => .refl _
  | _, _, .cons key hvalue hrest, scope, missing, path =>
      ((hvalue.findings_perm schema (scope.type? key) _).append_left _).append
        (hrest.findings_perm schema scope missing path)
  | _, _, .swap _ _ _, _, _, _ => Finding.perm_swap _ _ _
  | _, _, .trans hfirst hsecond, scope, missing, path =>
      (hfirst.findings_perm schema scope missing path).trans
        (hsecond.findings_perm schema scope missing path)
end

end Value

namespace Selection

mutual
theorem Reordered.findings_perm (schema : Schema) :
    ∀ {selection other : Selection}, Reordered selection other →
      ∀ (parent : Option String) (path : String),
      (selection.findings schema parent path).Perm (other.findings schema parent path)
  | _, _, .refl _, _, _ => .refl _
  | _, _, .field _ harguments hselections, _, _ =>
      (harguments.findings_perm schema _ _ _).append (hselections.findings_perm schema none _)
  | _, _, .fragment _ hselections, _, _ => hselections.findings_perm schema _ _

theorem SetReordered.findings_perm (schema : Schema) :
    ∀ {selections others : List Selection}, SetReordered selections others →
      ∀ (parent : Option String) (path : String),
      (setFindings schema parent path selections).Perm (setFindings schema parent path others)
  | _, _, .refl _, _, _ => .refl _
  | _, _, .cons hselection hrest, parent, path =>
      (hselection.findings_perm schema parent path).append (hrest.findings_perm schema parent path)
  | _, _, .swap _ _ _, _, _ => Finding.perm_swap _ _ _
  | _, _, .trans hfirst hsecond, parent, path =>
      (hfirst.findings_perm schema parent path).trans (hsecond.findings_perm schema parent path)
end

end Selection

/-! ### Declarations in another order -/

namespace TypeRef

/-- The types that two sequences of the same uses declare are equal if their first uses agree on the
name and the list levels. -/
theorem strengthenAll_eq_of_perm {first second : Usage} {rest others : List Usage}
    (hperm : (first :: rest).Perm (second :: others))
    (husages : ∀ usage ∈ first :: rest, usage.requiredType.wellFormed = true)
    (herased : first.requiredType.erased = second.requiredType.erased) :
    first.requiredType.strengthenAll rest = second.requiredType.strengthenAll others := by
  have hothers : ∀ usage ∈ second :: others, usage.requiredType.wellFormed = true :=
    fun usage hmem => husages usage (hperm.mem_iff.mpr hmem)
  obtain ⟨hfirst, hrest⟩ := List.forall_mem_cons.mp husages
  obtain ⟨hsecond, hothers⟩ := List.forall_mem_cons.mp hothers
  have hdepth : first.requiredType.depth = second.requiredType.depth := by
    rw [← depth_erased, herased, depth_erased]
  refine eq_of_requiredAt (wellFormed_strengthenAll hfirst rest)
    (wellFormed_strengthenAll hsecond others) ?_ fun level => ?_
  · rw [erased_strengthenAll, erased_strengthenAll, herased]
  · rw [requiredAt_strengthenAll hfirst hrest, requiredAt_strengthenAll hsecond hothers, ← hdepth]
    -- At each level of the types, a marker is there if one of all the uses has it.
    have hany := hperm.any_eq (f := fun usage => usage.requiredType.requiredAt level)
    by_cases hlevel : level ≤ first.requiredType.depth
    · simpa [hlevel] using hany
    · have hdeep : second.requiredType.depth < level := by omega
      simp [hlevel, requiredAt_of_depth_lt hdeep, requiredAt_of_depth_lt (Nat.lt_of_not_le hlevel)]

end TypeRef

namespace Registry

theorem get?_registerAll_of_unused {name : String} {usages : List Usage}
    (hunused : Usage.ofVariable name usages = []) :
    (empty.registerAll usages).get? name = none := by
  rw [get?_registerAll]
  exact congrArg (List.foldl _ none) hunused

/-- A variable whose uses agree on the name and the list levels gets the same type in every order of
the uses. -/
theorem get?_registerAll_eq_of_perm {usages others : List Usage} (hperm : usages.Perm others)
    (husages : ∀ usage ∈ usages, usage.IsWritable) {name : String}
    (hagree : ∀ first ∈ usages, ∀ second ∈ usages, first.name = name → second.name = name →
      first.type.erased = second.type.erased) :
    (empty.registerAll usages).get? name = (empty.registerAll others).get? name := by
  have hown : (Usage.ofVariable name usages).Perm (Usage.ofVariable name others) :=
    hperm.filter _
  have hmem : ∀ usage ∈ Usage.ofVariable name usages, usage ∈ usages ∧ usage.name = name :=
    fun usage husage => by simpa [Usage.ofVariable] using husage
  cases hfirst : Usage.ofVariable name usages with
  | nil =>
      rw [hfirst] at hown
      rw [get?_registerAll_of_unused hfirst, get?_registerAll_of_unused hown.nil_eq.symm]
  | cons first rest =>
      cases hsecond : Usage.ofVariable name others with
      | nil =>
          rw [hfirst, hsecond] at hown
          exact absurd hown.eq_nil (List.cons_ne_nil first rest)
      | cons second others =>
          rw [hfirst, hsecond] at hown
          rw [hfirst] at hmem
          obtain ⟨hmemFirst, hnameFirst⟩ := hmem first List.mem_cons_self
          obtain ⟨hmemSecond, hnameSecond⟩ :=
            hmem second (hown.mem_iff.mpr List.mem_cons_self)
          have herased : first.requiredType.erased = second.requiredType.erased :=
            calc first.requiredType.erased
                = first.type.erased := TypeRef.erased_requireIf _ _
              _ = second.type.erased := hagree _ hmemFirst _ hmemSecond hnameFirst hnameSecond
              _ = second.requiredType.erased := (TypeRef.erased_requireIf _ _).symm
          have hwellFormed : ∀ usage ∈ first :: rest, usage.requiredType.wellFormed = true :=
            fun usage husage => (husages usage (hmem usage husage).1).requiredType.wellFormed
          rw [get?_registerAll_empty hfirst, get?_registerAll_empty hsecond,
            TypeRef.strengthenAll_eq_of_perm hown hwellFormed herased]

theorem mem_names_registerAll {usages : List Usage} {name : String} :
    name ∈ (empty.registerAll usages).names ↔ name ∈ usages.map Usage.name := by
  rw [names_registerAll, List.mem_eraseDups]

theorem mem_definitions_iff {registry : Registry} (hnodup : registry.names.Nodup) {name : String}
    {type : TypeRef} : ⟨name, type⟩ ∈ registry.definitions ↔ registry.get? name = some type := by
  refine ⟨get?_of_mem_definitions hnodup, fun hget => ?_⟩
  exact List.mem_map.mpr ⟨(name, type), Table.mem_of_get? hget, rfl⟩

end Registry

/-! ### Operations -/

namespace Schema

theorem findings_perm {schema : Schema} {kind : OperationKind} {first second : List Selection}
    (hreordered : Selection.SetReordered first second) :
    (schema.findings kind first).Perm (schema.findings kind second) :=
  hreordered.findings_perm schema _ _

theorem usages_perm {schema : Schema} {kind : OperationKind} {first second : List Selection}
    (hreordered : Selection.SetReordered first second) :
    (schema.usages kind first).Perm (schema.usages kind second) :=
  (findings_perm hreordered).filterMap _

theorem violations_perm {schema : Schema} {kind : OperationKind} {first second : List Selection}
    (hreordered : Selection.SetReordered first second) :
    (schema.violations kind first).Perm (schema.violations kind second) :=
  (findings_perm hreordered).filterMap _

end Schema

namespace Compile

/-- Of two trees that differ only in the order of selections, arguments and entries, one compiles if
the other does.  The documents then declare the same variables.  A variable is declared with the
same type in both if its uses agree on the name and the list levels. -/
theorem order_leaves_declarations {schema : Schema} {kind : OperationKind} (name : Option String)
    {first second : List Selection} (hreordered : Selection.SetReordered first second) :
    ((∃ document, (operation schema kind name first).1 = .ok document) ↔
        ∃ document, (operation schema kind name second).1 = .ok document) ∧
      ∀ document other, (operation schema kind name first).1 = .ok document →
        (operation schema kind name second).1 = .ok other →
        (∀ declared, declared ∈ document.definitions.map VariableDefinition.name ↔
          declared ∈ other.definitions.map VariableDefinition.name) ∧
        ∀ declared, (∀ usage ∈ schema.usages kind first, ∀ next ∈ schema.usages kind first,
            usage.name = declared → next.name = declared →
            usage.type.erased = next.type.erased) →
          ∀ type, ⟨declared, type⟩ ∈ document.definitions ↔ ⟨declared, type⟩ ∈ other.definitions := by
  have husages : (schema.usages kind first).Perm (schema.usages kind second) :=
    Schema.usages_perm hreordered
  constructor
  · have hviolations : (schema.violations kind first).Perm (schema.violations kind second) :=
      Schema.violations_perm hreordered
    rw [operation_compiles_iff, operation_compiles_iff, ← List.length_eq_zero_iff,
      hviolations.length_eq, List.length_eq_zero_iff]
  · intro document other hdocument hother
    obtain ⟨hok, rfl⟩ := (operation_eq_ok_iff schema kind name first).mp hdocument
    obtain ⟨_, rfl⟩ := (operation_eq_ok_iff schema kind name second).mp hother
    refine ⟨fun declared => ?_, fun declared hagree type => ?_⟩
    · have hnames := (husages.map Usage.name).mem_iff (a := declared)
      rwa [← Registry.mem_names_registerAll, ← Registry.mem_names_registerAll,
        ← Registry.names_definitions, ← Registry.names_definitions] at hnames
    · have hwritable : ∀ usage ∈ schema.usages kind first, usage.IsWritable :=
        fun usage husage => Schema.isWritable_of_mem_usages hok husage
      have htype := Registry.get?_registerAll_eq_of_perm husages hwritable hagree
      show ⟨declared, type⟩ ∈ (Registry.empty.registerAll (schema.usages kind first)).definitions ↔
        ⟨declared, type⟩ ∈ (Registry.empty.registerAll (schema.usages kind second)).definitions
      rw [Registry.mem_definitions_iff (Registry.nodup_names _),
        Registry.mem_definitions_iff (Registry.nodup_names _), htype]

/-- A schema with one input type. -/
def searchSchema : Schema :=
  Schema.empty.withInputType "Filter" [("ids", "[Int]"), ("key", "Int")]

/-- All uses of the variable `v` are for lists of numbers.  Those of the variable `w` are for a
number and for a text. -/
def searchTree : List Selection :=
  [.field ⟨"items", none,
      [("ids", .variable ⟨"v", false⟩),
        ("in", .object [("ids", .variable ⟨"v", true⟩), ("key", .variable ⟨"w", false⟩)])],
      some [("ids", "[Int!]"), ("in", "Filter")]⟩
      [.field (.ofName "id") [], .field (.ofName "name") []],
    .field ⟨"count", none, [("key", .variable ⟨"w", false⟩)], some [("key", "String")]⟩ []]

/-- The same selections, arguments and entries in another order. -/
def turnedSearchTree : List Selection :=
  [.field ⟨"count", none, [("key", .variable ⟨"w", false⟩)], some [("key", "String")]⟩ [],
    .field ⟨"items", none,
      [("in", .object [("key", .variable ⟨"w", false⟩), ("ids", .variable ⟨"v", true⟩)]),
        ("ids", .variable ⟨"v", false⟩)],
      some [("ids", "[Int!]"), ("in", "Filter")]⟩
      [.field (.ofName "name") [], .field (.ofName "id") []]]

/-- What the search is compiled to. -/
def searchDocument : Document :=
  ⟨.query, none, [⟨"v", .nonNull (.list (.nonNull (.named "Int")))⟩, ⟨"w", .named "Int"⟩],
    "\x7bitems(ids:$v,in:\x7bids:$v,key:$w\x7d)\x7bid name \x7d count(key:$w) \x7d"⟩

/-- What the turned search is compiled to.  Another use of `w` comes first, so its type differs. -/
def turnedSearchDocument : Document :=
  ⟨.query, none, [⟨"w", .named "String"⟩, ⟨"v", .nonNull (.list (.nonNull (.named "Int")))⟩],
    "\x7bcount(key:$w) items(in:\x7bkey:$w,ids:$v\x7d,ids:$v)\x7bname id \x7d \x7d"⟩

theorem searchTree_order_leaves_declarations :
    Selection.SetReordered searchTree turnedSearchTree ∧
      (operation searchSchema .query none searchTree).1 = .ok searchDocument ∧
      (operation searchSchema .query none turnedSearchTree).1 = .ok turnedSearchDocument ∧
      (∀ declared, declared ∈ searchDocument.definitions.map VariableDefinition.name ↔
        declared ∈ turnedSearchDocument.definitions.map VariableDefinition.name) ∧
      ∀ type, ⟨"v", type⟩ ∈ searchDocument.definitions ↔
        ⟨"v", type⟩ ∈ turnedSearchDocument.definitions := by
  have hreordered : Selection.SetReordered searchTree turnedSearchTree := by
    refine .trans (.swap _ _ []) (.cons (.refl _) (.cons (.field _ ?_ (.swap _ _ [])) (.refl [])))
    -- The entries of the object change places first, then the arguments do.
    exact .trans (.cons "ids" (.refl _) (.cons "in" (.object (.swap _ _ [])) (.refl [])))
      (.swap _ _ [])
  have hdocument : (operation searchSchema .query none searchTree).1 = .ok searchDocument := by
    decide +kernel
  have hturned : (operation searchSchema .query none turnedSearchTree).1 =
      .ok turnedSearchDocument := by
    decide +kernel
  have husages : searchSchema.usages .query searchTree =
      [⟨"v", .list (.nonNull (.named "Int")), false⟩, ⟨"v", .list (.named "Int"), true⟩,
        ⟨"w", .named "Int", false⟩, ⟨"w", .named "String", false⟩] := by
    decide +kernel
  obtain ⟨hnames, htypes⟩ :=
    (order_leaves_declarations none hreordered).2 searchDocument turnedSearchDocument hdocument
      hturned
  refine ⟨hreordered, hdocument, hturned, hnames, htypes "v" ?_⟩
  rw [husages]
  decide

end Compile

end SelectionCompiler
