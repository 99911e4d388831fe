import SelectionCompiler.Proofs.Hoisting

/-!
# The base name of a type decides

What is written at a place depends on the type of the place only through the name under its
wrappers.  A list takes off one list level for its items, or keeps the type where there is none to
take off; an object and a string look at the name alone.  So the wrappers that are left at a place
deep inside a value differ from type to type, but the name there does not.

Two runs for types of one name are followed side by side.  At every step they do the same, up to the
types with which variables are registered: these are the wrappers that are left, and they stay
different.
-/

namespace SelectionCompiler

namespace TypeRef

theorem baseName_of_element? {type element : TypeRef} (helement : type.element? = some element) :
    element.baseName = type.baseName := by
  induction type with
  | list inner ih =>
      cases helement
      rfl
  | nonNull inner ih => exact ih helement
  | named name => cases helement

/-- The items of a list have the name of the type of its place, at every depth. -/
theorem baseName_itemType (type : TypeRef) : type.itemType.baseName = type.baseName := by
  unfold itemType
  cases helement : type.element? with
  | none => rfl
  | some element => exact baseName_of_element? helement

/-- The types of two places have the same name, or neither place has a type. -/
def SameName (first second : Option TypeRef) : Prop :=
  first.map baseName = second.map baseName

variable {first second : Option TypeRef}

theorem SameName.itemType (hname : SameName first second) :
    SameName (first.map TypeRef.itemType) (second.map TypeRef.itemType) := by
  have hitems : baseName ∘ TypeRef.itemType = baseName := funext baseName_itemType
  unfold SameName
  rw [Option.map_map, Option.map_map, hitems]
  exact hname

/-- Either both places have a type, and then the names are equal, or neither has one. -/
theorem SameName.cases (hname : SameName first second) :
    (first = none ∧ second = none) ∨
      ∃ type other, first = some type ∧ second = some other ∧ type.baseName = other.baseName := by
  unfold SameName at hname
  rcases first with _ | type
  · rcases second with _ | other
    · exact Or.inl ⟨rfl, rfl⟩
    · cases hname
  · rcases second with _ | other
    · cases hname
    · exact Or.inr ⟨type, other, rfl, rfl, Option.some.inj hname⟩

end TypeRef

/-! ### Uses one after the other -/

namespace Session

/-- The session after uses have been registered. -/
def useAll (session : Session) (usages : List Usage) : Session :=
  usages.foldl use session

theorem useAll_append (session : Session) (usages others : List Usage) :
    session.useAll (usages ++ others) = (session.useAll usages).useAll others :=
  List.foldl_append

theorem registry_useAll (session : Session) (usages : List Usage) :
    (session.useAll usages).registry = session.registry.registerAll usages := by
  induction usages generalizing session with
  | nil => rfl
  | cons usage rest ih => exact ih (session.use usage)

end Session

/-- The names of a registry follow from the names of the uses. -/
theorem Registry.names_registerAll_congr {registry other : Registry} {usages others : List Usage}
    (hregistry : registry.names = other.names)
    (husages : usages.map Usage.ref = others.map Usage.ref) :
    (registry.registerAll usages).names = (other.registerAll others).names := by
  induction usages generalizing registry other others with
  | nil =>
      have hnil : others = [] := List.map_eq_nil_iff.mp husages.symm
      rw [hnil]
      exact hregistry
  | cons usage rest ih =>
      obtain ⟨next, others, rfl, href, hrest⟩ := List.map_eq_cons_iff.mp husages.symm
      have hname : next.name = usage.name := congrArg VariableRef.name href
      apply ih _ hrest.symm
      rw [names_register, names_register, hregistry, hname]

/-! ### Steps side by side -/

namespace Compile

variable {α β : Type}

/-- Both steps come to one result from every session, and change the session only by registering
uses.  They are uses of the same variables, required alike, in the same order. -/
def Parallels (step other : Compile α) : Prop :=
  ∃ result usages others, usages.map Usage.ref = others.map Usage.ref ∧
    ∀ session : Session, step.runFrom session = (result, session.useAll usages) ∧
      other.runFrom session = (result, session.useAll others)

theorem parallels_pure (value : α) : Parallels (pure value) (pure value) :=
  ⟨.ok value, [], [], rfl, fun _ => ⟨rfl, rfl⟩⟩

theorem parallels_throw (error : CompileError) :
    Parallels (throw error : Compile α) (throw error) :=
  ⟨.error error, [], [], rfl, fun _ => ⟨rfl, rfl⟩⟩

theorem parallels_use {usage other : Usage} (href : usage.ref = other.ref) :
    Parallels (use usage) (use other) :=
  ⟨.ok (), [usage], [other], congrArg (fun ref => [ref]) href, fun _ => ⟨rfl, rfl⟩⟩

/-- Steps that run side by side go on side by side, if they are continued alike. -/
theorem Parallels.bind {step other : Compile α} {continue_ continueOther : α → Compile β}
    (hstep : Parallels step other)
    (hcontinue : ∀ value, Parallels (continue_ value) (continueOther value)) :
    Parallels (step >>= continue_) (other >>= continueOther) := by
  obtain ⟨result, usages, others, hrefs, hruns⟩ := hstep
  cases result with
  | error error =>
      refine ⟨.error error, usages, others, hrefs, ?_⟩
      intro session
      obtain ⟨hrun, hother⟩ := hruns session
      exact ⟨runFrom_bind_of_error hrun, runFrom_bind_of_error hother⟩
  | ok value =>
      obtain ⟨last, usages', others', hrefs', hruns'⟩ := hcontinue value
      refine ⟨last, usages ++ usages', others ++ others', ?_, ?_⟩
      · rw [List.map_append, List.map_append, hrefs, hrefs']
      · intro session
        obtain ⟨hrun, hother⟩ := hruns session
        constructor
        · rw [runFrom_bind_of_ok hrun, (hruns' _).1, Session.useAll_append]
        · rw [runFrom_bind_of_ok hother, (hruns' _).2, Session.useAll_append]

theorem Parallels.map {step other : Compile α} (f : α → β) (hstep : Parallels step other) :
    Parallels (f <$> step) (f <$> other) := by
  rw [← bind_pure_comp, ← bind_pure_comp]
  apply hstep.bind
  intro value
  exact parallels_pure (f value)

/-! ### Values side by side -/

theorem parallels_enumText (path value : String) :
    Parallels (enumText path value) (enumText path value) := by
  unfold enumText
  by_cases hvalue : Name.isEnumValue value
  · rw [if_pos hvalue]
    exact parallels_pure value
  · rw [if_neg hvalue]
    exact parallels_throw _

theorem parallels_readType (path text : String) :
    Parallels (readType path text) (readType path text) := by
  unfold readType
  cases TypeRef.read text with
  | ok type => exact parallels_pure type
  | error error => exact parallels_throw _

theorem parallels_entryType (table : Option (Table String)) (path key : String)
    (missing : SchemaFault) :
    Parallels (entryType table path key missing) (entryType table path key missing) := by
  unfold entryType
  cases table with
  | none => exact parallels_pure none
  | some table =>
      simp only
      cases table.get? key with
      | none => exact parallels_throw _
      | some text => exact (parallels_readType path text).map some

variable {first second : Option TypeRef} (hname : TypeRef.SameName first second)

include hname

theorem parallels_inputTable (schema : Schema) (path : String) :
    Parallels (inputTable schema first path) (inputTable schema second path) := by
  rcases hname.cases with ⟨rfl, rfl⟩ | ⟨type, other, rfl, rfl, hbase⟩
  · exact parallels_pure none
  · simp only [inputTable, hbase]
    cases schema.inputType? other.baseName with
    | none => exact parallels_throw _
    | some fields => exact parallels_pure (some fields)

/-- A variable is registered with what is left of the type of its place.  This is the one step at
which the two runs part. -/
theorem parallels_variableText (path : String) (ref : VariableRef) :
    Parallels (variableText first path ref) (variableText second path ref) := by
  unfold variableText
  by_cases hvalid : Name.isValid ref.name
  · rw [if_pos hvalid, if_pos hvalid]
    rcases hname.cases with ⟨rfl, rfl⟩ | ⟨type, other, rfl, rfl, -⟩
    · exact parallels_throw _
    · have huse : Parallels (use ⟨ref.name, type, ref.alwaysRequired⟩)
          (use ⟨ref.name, other, ref.alwaysRequired⟩) := parallels_use rfl
      exact huse.bind fun _ => parallels_pure _
  · rw [if_neg hvalid, if_neg hvalid]
    exact parallels_throw _

theorem isEnum_of_sameName (schema : Schema) :
    (first.any fun type => schema.isEnum type.baseName) =
      second.any fun type => schema.isEnum type.baseName := by
  rcases hname.cases with ⟨rfl, rfl⟩ | ⟨type, other, rfl, rfl, hbase⟩
  · rfl
  · rw [Option.any_some, Option.any_some, hbase]

omit hname

mutual
theorem parallels_valueText (schema : Schema) {first second : Option TypeRef}
    (hname : TypeRef.SameName first second) (path : String) :
    ∀ value : Value,
      Parallels (valueText schema first path value) (valueText schema second path value)
  | .null => parallels_pure _
  | .int _ => parallels_pure _
  | .float _ => parallels_pure _
  | .boolean _ => parallels_pure _
  | .enum name => parallels_enumText path name
  | .variable ref => parallels_variableText hname path ref
  | .string value => by
      unfold valueText
      rw [isEnum_of_sameName hname schema]
      split
      · exact parallels_enumText path value
      · exact parallels_pure _
  | .list items => by
      unfold valueText
      apply (parallels_itemTexts schema hname.itemType path 0 items).bind
      intro texts
      exact parallels_pure _
  | .object entries => by
      have hnames : first.map TypeRef.baseName = second.map TypeRef.baseName := hname
      unfold valueText
      apply (parallels_inputTable hname schema path).bind
      intro table
      rw [hnames]
      -- From here on both runs look types up in the same table.
      apply (parallels_entryTexts schema table _ path entries).bind
      intro texts
      exact parallels_pure _

theorem parallels_itemTexts (schema : Schema) {first second : Option TypeRef}
    (hname : TypeRef.SameName first second) (path : String) :
    ∀ (position : Nat) (items : List Value),
      Parallels (itemTexts schema first path position items)
        (itemTexts schema second path position items)
  | _, [] => parallels_pure _
  | position, item :: rest => by
      unfold itemTexts
      apply (parallels_valueText schema hname _ item).bind
      intro text
      apply (parallels_itemTexts schema hname path (position + 1) rest).bind
      intro texts
      exact parallels_pure _

theorem parallels_entryTexts (schema : Schema) (table : Option (Table String))
    (typeName path : String) :
    ∀ entries : List (String × Value),
      Parallels (entryTexts schema table typeName path entries)
        (entryTexts schema table typeName path entries)
  | [] => parallels_pure _
  | (key, value) :: rest => by
      unfold entryTexts
      apply (parallels_entryType table _ key _).bind
      intro type
      apply (parallels_valueText schema rfl _ value).bind
      intro text
      apply (parallels_entryTexts schema table typeName path rest).bind
      intro texts
      exact parallels_pure _
end

/-- At places whose types have one base name a value is written alike, or fails alike, from every
session.  The same variables are registered, required alike and in the same order, so they have the
same declarations up to types. -/
theorem base_name_decides_text (schema : Schema) {first second : TypeRef}
    (hbase : first.baseName = second.baseName) (path : String) (value : Value) :
    ∃ result usages others, usages.map Usage.ref = others.map Usage.ref ∧
      ∀ session : Session,
        (valueText schema (some first) path value).runFrom session =
            (result, session.useAll usages) ∧
        (valueText schema (some second) path value).runFrom session =
            (result, session.useAll others) ∧
        (session.useAll usages).registry = session.registry.registerAll usages ∧
        (session.useAll others).registry = session.registry.registerAll others ∧
        (session.useAll usages).registry.names = (session.useAll others).registry.names := by
  have hname : TypeRef.SameName (some first) (some second) := congrArg some hbase
  obtain ⟨result, usages, others, hrefs, hruns⟩ := parallels_valueText schema hname path value
  refine ⟨result, usages, others, hrefs, ?_⟩
  intro session
  have husages := session.registry_useAll usages
  have hothers := session.registry_useAll others
  refine ⟨(hruns session).1, (hruns session).2, husages, hothers, ?_⟩
  rw [husages, hothers]
  exact Registry.names_registerAll_congr rfl hrefs

/-- A schema with one enum. -/
def suitSchema : Schema :=
  Schema.empty.withEnum "Suit"

/-- Lists of lists of suits. -/
def suitsType : TypeRef :=
  .list (.list (.nonNull (.named "Suit")))

/-- Suits, marked twice. -/
def markedSuitType : TypeRef :=
  .nonNull (.nonNull (.named "Suit"))

/-- A list of which one item is a list. -/
def suitsValue : Value :=
  .list [.string "HEARTS", .list [.variable ⟨"v", false⟩, .string "CLUBS"], .variable ⟨"w", true⟩]

/-- The session after the list was written for the first type. -/
def suitsSession : Session :=
  Session.start.useAll
    [⟨"v", .nonNull (.named "Suit"), false⟩, ⟨"w", .list (.nonNull (.named "Suit")), true⟩]

/-- The list is written alike for the second type, though its items have two list levels too many
there. -/
theorem suitsValue_written_alike :
    suitsType.baseName = markedSuitType.baseName ∧
      (valueText suitSchema (some suitsType) "in" suitsValue).runFrom .start =
        (.ok "[HEARTS,[$v,CLUBS],$w]", suitsSession) ∧
      ((valueText suitSchema (some markedSuitType) "in" suitsValue).runFrom .start).1 =
        .ok "[HEARTS,[$v,CLUBS],$w]" ∧
      ((valueText suitSchema (some markedSuitType) "in" suitsValue).runFrom
        .start).2.registry.names = ["v", "w"] := by
  have hbase : suitsType.baseName = markedSuitType.baseName := by
    decide
  have hrun : (valueText suitSchema (some suitsType) "in" suitsValue).runFrom .start =
      (.ok "[HEARTS,[$v,CLUBS],$w]", suitsSession) := by
    decide +kernel
  obtain ⟨result, usages, others, -, hruns⟩ :=
    base_name_decides_text suitSchema hbase "in" suitsValue
  obtain ⟨hfirst, hsecond, -, -, hnames⟩ := hruns .start
  rw [hrun] at hfirst
  obtain ⟨hresult, hsession⟩ := Prod.mk.inj hfirst
  rw [hsecond, ← hresult, ← hnames, ← hsession]
  exact ⟨hbase, hrun, rfl, by decide⟩

end Compile

end SelectionCompiler
