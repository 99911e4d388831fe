import Mathlib.Data.List.Basic
import SelectionCompiler.Proofs.Hoisting

/-!
# Visits to the places of a value

While a value is written, its places are visited from left to right: an object before its keys, a
key before the value behind it.  At some of them there is something to check, and the writing stops
at the first one that fails.  Which places are visited, of which types they are, and what fails at
them can be said of a value and the type of its place alone.

So the registry has no influence on the text or the error.  What becomes of it is known from the
visits: up to the one that fails, or up to the end, each variable that is met is registered.
-/

namespace SelectionCompiler

/-- A visit to a place of a value. -/
inductive Visit where
  /-- A variable stands at the path, at a place of the type if one is known. -/
  | reference (type : Option TypeRef) (path : String) (ref : VariableRef)
  /-- A bare word, an object or a key stands at the path, perhaps wrongly. -/
  | other (path : String) (fault : Option SchemaFault)

/-! ### One visit -/

namespace Visit

/-- The variable that is met. -/
def ref? : Visit → Option VariableRef
  | .reference _ _ ref => some ref
  | .other _ _ => none

/-- The use of a variable at a place of a known type. -/
def usage? : Visit → Option Usage
  | .reference (some type) _ ref => some ⟨ref.name, type, ref.alwaysRequired⟩
  | _ => none

/-- What fails at the place.  The name of a variable is looked at before the type of its place. -/
def error? : Visit → Option CompileError
  | .reference none path ref =>
      if Name.isValid ref.name then some (.configuration ref.name path .untypedPlace)
      else some (.configuration ref.name path .invalidName)
  | .reference (some _) path ref =>
      if Name.isValid ref.name then none else some (.configuration ref.name path .invalidName)
  | .other path fault => fault.map (CompileError.schema path)

/-- The variables met on visits. -/
def refs (visits : List Visit) : List VariableRef :=
  visits.filterMap ref?

/-- The uses of variables met on visits. -/
def usages (visits : List Visit) : List Usage :=
  visits.filterMap usage?

/-- What is found on a visit. -/
def findings : Visit → List Finding
  | .reference type path ref => Value.variableFindings type path ref
  | .other path fault => Finding.ofFault path fault

/-- A variable can be met if its name is valid and the type of its place is known. -/
theorem error?_reference_eq_none {type : Option TypeRef} {path : String} {ref : VariableRef}
    (hok : (reference type path ref).error? = none) :
    Name.isValid ref.name = true ∧ ∃ known, type = some known := by
  by_cases hname : Name.isValid ref.name = true
  · cases type with
    | none =>
        rw [error?, if_pos hname] at hok
        cases hok
    | some known => exact ⟨hname, known, rfl⟩
  · cases type with
    | none =>
        rw [error?, if_neg hname] at hok
        cases hok
    | some known =>
        rw [error?, if_neg hname] at hok
        cases hok

theorem findings_of_ok {visit : Visit} (hok : visit.error? = none) :
    visit.findings = visit.usage?.toList.map Finding.use := by
  cases visit with
  | reference type path ref =>
      obtain ⟨hname, known, rfl⟩ := error?_reference_eq_none hok
      rw [findings, Value.variableFindings, if_pos hname]
      rfl
  | other path fault =>
      cases fault with
      | none => rfl
      | some fault => cases hok

theorem findings_of_error {visit : Visit} {error : CompileError}
    (herror : visit.error? = some error) : ∃ rest, visit.findings = .violation error :: rest := by
  cases visit with
  | reference type path ref =>
      show ∃ rest, Value.variableFindings type path ref = .violation error :: rest
      unfold Value.variableFindings
      by_cases hname : Name.isValid ref.name = true
      · cases type with
        | none =>
            rw [error?, if_pos hname] at herror
            cases herror
            exact ⟨[], by rw [if_pos hname, List.nil_append]⟩
        | some known =>
            rw [error?, if_pos hname] at herror
            cases herror
      · have hfault : error = .configuration ref.name path .invalidName := by
          cases type <;> rw [error?, if_neg hname] at herror <;> exact (Option.some.inj herror).symm
        exact ⟨_, by rw [if_neg hname, List.singleton_append, hfault]⟩
  | other path fault =>
      cases fault with
      | none => cases herror
      | some fault =>
          cases herror
          exact ⟨[], rfl⟩

theorem map_ref_usage?_of_ok {visit : Visit} (hok : visit.error? = none) :
    visit.usage?.map Usage.ref = visit.ref? := by
  cases visit with
  | reference type path ref =>
      obtain ⟨-, known, rfl⟩ := error?_reference_eq_none hok
      rfl
  | other path fault => rfl

/-! ### Visits one after the other -/

section

variable {visits : List Visit} (hok : ∀ visit ∈ visits, visit.error? = none)

include hok

theorem flatMap_findings_of_ok : visits.flatMap findings = (usages visits).map Finding.use := by
  induction visits with
  | nil => rfl
  | cons visit rest ih =>
      obtain ⟨hvisit, hrest⟩ := List.forall_mem_cons.mp hok
      rw [List.flatMap_cons, ih hrest, findings_of_ok hvisit, usages, usages, List.filterMap_cons]
      cases visit.usage? <;> rfl

/-- If nothing fails, every variable that is met is used. -/
theorem map_ref_usages_of_ok : (usages visits).map Usage.ref = refs visits := by
  rw [usages, refs, List.map_filterMap]
  exact List.filterMap_congr fun visit hmem => map_ref_usage?_of_ok (hok visit hmem)

end

end Visit

theorem Finding.errors_map_use (usages : List Usage) : errors (usages.map use) = [] :=
  List.filterMap_eq_nil_iff.mpr (by simp [error?])

theorem Finding.usagesAhead_map_use (usages : List Usage) :
    usagesAhead (usages.map use) = usages := by
  induction usages with
  | nil => rfl
  | cons usage rest ih => rw [List.map_cons, usagesAhead, ih]

/-! ### Steps that make visits -/

namespace Compile

variable {α : Type} {step : Compile α} {visits : List Visit}

/-- A step that makes the visits in turn.  The session in which it starts has no influence on its
result.  If it succeeds, nothing fails on any visit, and all variables are registered.  Otherwise it
reports what fails first, and has registered the variables in front of it and no others. -/
structure Makes (step : Compile α) (visits : List Visit) : Prop where
  result_eq : ∀ first second : Session, (step.runFrom first).1 = (step.runFrom second).1
  of_ok : ∀ (session next : Session) (value : α), step.runFrom session = (.ok value, next) →
    (∀ visit ∈ visits, visit.error? = none) ∧
      (Visit.usages visits).map Usage.ref = Visit.refs visits ∧
      next.registry = session.registry.registerAll (Visit.usages visits)
  of_error : ∀ (session next : Session) (error : CompileError),
    step.runFrom session = (.error error, next) →
    ∃ before visit after, visits = before ++ visit :: after ∧
      (∀ earlier ∈ before, earlier.error? = none) ∧ visit.error? = some error ∧
      (Visit.usages before).map Usage.ref = Visit.refs before ∧
      next.registry = session.registry.registerAll (Visit.usages before)

namespace Performs

variable {value : α} (hstep : Performs step (visits.flatMap Visit.findings) value)

include hstep

theorem runFrom_of_ok (hok : ∀ visit ∈ visits, visit.error? = none) (session : Session) :
    ∃ next, step.runFrom session = (.ok value, next) ∧
      next.registry = session.registry.registerAll (Visit.usages visits) := by
  obtain ⟨next, hreach, hrun⟩ := hstep session
  rw [Visit.flatMap_findings_of_ok hok] at hreach hrun
  rw [Finding.outcome_of_ok (Finding.errors_map_use _)] at hrun
  have hregistry := hreach.registry
  rw [Finding.usagesAhead_map_use] at hregistry
  exact ⟨next, hrun, hregistry⟩

theorem runFrom_of_error {before after : List Visit} {visit : Visit} {error : CompileError}
    (hvisits : visits = before ++ visit :: after)
    (hbefore : ∀ earlier ∈ before, earlier.error? = none) (hvisit : visit.error? = some error)
    (session : Session) :
    ∃ next, step.runFrom session = (.error error, next) ∧
      next.registry = session.registry.registerAll (Visit.usages before) := by
  obtain ⟨rest, hrest⟩ := Visit.findings_of_error hvisit
  have hahead := Finding.errors_map_use (Visit.usages before)
  have hfindings : visits.flatMap Visit.findings =
      (Visit.usages before).map Finding.use ++
        (.violation error :: (rest ++ after.flatMap Visit.findings)) := by
    rw [hvisits, List.flatMap_append, List.flatMap_cons, Visit.flatMap_findings_of_ok hbefore,
      hrest, List.cons_append]
  obtain ⟨next, hreach, hrun⟩ := hstep session
  rw [hfindings, Finding.outcome_append_of_ok hahead] at hrun
  have hregistry := hreach.registry
  rw [hfindings, Finding.usagesAhead_append_of_ok hahead, Finding.usagesAhead_map_use,
    Finding.usagesAhead, List.append_nil] at hregistry
  exact ⟨next, hrun, hregistry⟩

/-- A walk whose findings are those of visits makes these visits. -/
theorem makes : step.Makes visits where
  result_eq first second := by
    obtain ⟨_, -, hfirst⟩ := hstep first
    obtain ⟨_, -, hsecond⟩ := hstep second
    rw [hfirst, hsecond]
  of_ok session next result hrun := by
    cases hfails : visits.findSome? Visit.error? with
    | none =>
        have hok := List.findSome?_eq_none_iff.mp hfails
        obtain ⟨last, hrun', hregistry⟩ := hstep.runFrom_of_ok hok session
        rw [hrun] at hrun'
        cases hrun'
        exact ⟨hok, Visit.map_ref_usages_of_ok hok, hregistry⟩
    | some error =>
        obtain ⟨before, visit, after, hvisits, hvisit, hbefore⟩ :=
          List.findSome?_eq_some_iff.mp hfails
        obtain ⟨last, hrun', -⟩ := hstep.runFrom_of_error hvisits hbefore hvisit session
        rw [hrun] at hrun'
        cases hrun'
  of_error session next error hrun := by
    cases hfails : visits.findSome? Visit.error? with
    | none =>
        obtain ⟨last, hrun', -⟩ :=
          hstep.runFrom_of_ok (List.findSome?_eq_none_iff.mp hfails) session
        rw [hrun] at hrun'
        cases hrun'
    | some first =>
        obtain ⟨before, visit, after, hvisits, hvisit, hbefore⟩ :=
          List.findSome?_eq_some_iff.mp hfails
        obtain ⟨last, hrun', hregistry⟩ := hstep.runFrom_of_error hvisits hbefore hvisit session
        rw [hrun] at hrun'
        cases hrun'
        exact ⟨before, visit, after, hvisits, hbefore, hvisit,
          Visit.map_ref_usages_of_ok hbefore, hregistry⟩

end Performs

end Compile

/-! ### The places of a value -/

namespace Value

/-- The visit to a bare word. -/
def wordVisit (path name : String) : Visit :=
  .other path (if Name.isEnumValue name then none else some (.invalidEnumValue name))

mutual
/-- The visits to the places of a value at a place of the given type.  The items of a list are at
places of the element type, or of the type itself if that is no list. -/
def visits (schema : Schema) (type : Option TypeRef) (path : String) : Value → List Visit
  | .variable ref => [.reference type path ref]
  | .enum name => [wordVisit path name]
  | .string value => if schema.expectsEnum type then [wordVisit path value] else []
  | .list items => itemVisits schema (type.map TypeRef.itemType) path 0 items
  | .object entries =>
      .other path (schema.inputFault? type) ::
        entryVisits schema (schema.inputScope type)
          (fun key => .undeclaredInputField key ((type.map TypeRef.baseName).getD "")) path entries
  | _ => []

/-- The visits to the items of a list, from the given position on. -/
def itemVisits (schema : Schema) (type : Option TypeRef) (path : String) (position : Nat) :
    List Value → List Visit
  | [] => []
  | item :: rest =>
      visits schema type (path ++ "[" ++ Text.decimal position ++ "]") item ++
        itemVisits schema type path (position + 1) rest

/-- The visits to entries whose keys belong to the given scope. -/
def entryVisits (schema : Schema) (scope : Scope) (missing : String → SchemaFault) (path : String) :
    List (String × Value) → List Visit
  | [] => []
  | (key, value) :: rest =>
      .other (path ++ "." ++ key) (scope.fault? key (missing key)) ::
        (visits schema (scope.type? key) (path ++ "." ++ key) value ++
          entryVisits schema scope missing path rest)
end

mutual
theorem refs_visits (schema : Schema) (type : Option TypeRef) (path : String) :
    ∀ value : Value, Visit.refs (value.visits schema type path) = value.refs
  | .variable _ => rfl
  | .enum _ => rfl
  | .string value => by
      unfold visits
      split <;> rfl
  | .list items => refs_itemVisits schema _ path 0 items
  | .object entries => refs_entryVisits schema _ _ path entries
  | .int _ => rfl
  | .float _ => rfl
  | .boolean _ => rfl
  | .null => rfl

theorem refs_itemVisits (schema : Schema) (type : Option TypeRef) (path : String) :
    ∀ (position : Nat) (items : List Value),
      Visit.refs (itemVisits schema type path position items) = itemRefs items
  | _, [] => rfl
  | position, item :: rest => by
      have hitem := refs_visits schema type (path ++ "[" ++ Text.decimal position ++ "]") item
      have hrest := refs_itemVisits schema type path (position + 1) rest
      rw [itemVisits, itemRefs, ← hitem, ← hrest]
      exact List.filterMap_append

theorem refs_entryVisits (schema : Schema) (scope : Scope) (missing : String → SchemaFault)
    (path : String) : ∀ entries : List (String × Value),
      Visit.refs (entryVisits schema scope missing path entries) = entryRefs entries
  | [] => rfl
  | (key, value) :: rest => by
      have hvalue := refs_visits schema (scope.type? key) (path ++ "." ++ key) value
      have hrest := refs_entryVisits schema scope missing path rest
      rw [entryVisits, entryRefs, ← hvalue, ← hrest]
      exact List.filterMap_append
end

mutual
theorem flatMap_findings_visits (schema : Schema) (type : Option TypeRef) (path : String) :
    ∀ value : Value,
      (value.visits schema type path).flatMap Visit.findings = value.findings schema type path
  | .variable _ => List.flatMap_singleton _ _
  | .enum _ => List.flatMap_singleton _ _
  | .string value => by
      unfold visits findings
      split
      · exact List.flatMap_singleton _ _
      · rfl
  | .list items => flatMap_findings_itemVisits schema _ path 0 items
  | .object entries => by
      rw [visits, findings, List.flatMap_cons, flatMap_findings_entryVisits]
      rfl
  | .int _ => rfl
  | .float _ => rfl
  | .boolean _ => rfl
  | .null => rfl

theorem flatMap_findings_itemVisits (schema : Schema) (type : Option TypeRef) (path : String) :
    ∀ (position : Nat) (items : List Value),
      (itemVisits schema type path position items).flatMap Visit.findings =
        itemFindings schema type path position items
  | _, [] => rfl
  | position, item :: rest => by
      rw [itemVisits, itemFindings, List.flatMap_append, flatMap_findings_visits,
        flatMap_findings_itemVisits]

theorem flatMap_findings_entryVisits (schema : Schema) (scope : Scope)
    (missing : String → SchemaFault) (path : String) : ∀ entries : List (String × Value),
      (entryVisits schema scope missing path entries).flatMap Visit.findings =
        entryFindings schema scope missing path entries
  | [] => rfl
  | (key, value) :: rest => by
      rw [entryVisits, entryFindings, List.flatMap_cons, List.flatMap_append,
        flatMap_findings_visits, flatMap_findings_entryVisits, List.append_assoc]
      rfl
end

end Value

/-- The visits to the arguments of a field. -/
def Field.visits (schema : Schema) (parent : Option String) (path : String) (field : Field) :
    List Visit :=
  Value.entryVisits schema (field.scope schema parent)
    (fun key => .undeclaredArgument key field.name) path field.arguments

namespace Compile

/-- Writing a value makes the visits to its places, and writing the arguments of a field those to
the places of the arguments.  The variables met on the visits are all variables of the value. -/
theorem writing_makes_visits (schema : Schema) :
    (∀ (type : Option TypeRef) (path : String) (value : Value),
        (valueText schema type path value).Makes (value.visits schema type path) ∧
          Visit.refs (value.visits schema type path) = value.refs) ∧
      ∀ (parent : Option String) (path : String) (field : Field),
        (argumentsText schema parent path field).Makes (field.visits schema parent path) ∧
          Visit.refs (field.visits schema parent path) = Value.entryRefs field.arguments := by
  refine ⟨fun type path value => ⟨?_, Value.refs_visits schema type path value⟩,
    fun parent path field => ⟨?_, Value.refs_entryVisits schema _ _ path field.arguments⟩⟩
  · have hvalue := performs_valueText schema type path value
    rw [← Value.flatMap_findings_visits] at hvalue
    exact hvalue.makes
  · have harguments := performs_argumentsText schema parent path field
    rw [Field.findings, ← Value.flatMap_findings_entryVisits] at harguments
    exact harguments.makes

/-- A schema with one input type. -/
def pageSchema : Schema :=
  Schema.empty.withInputType "Page" [("ids", "[Int!]"), ("size", "Int"), ("after", "String")]

/-- An object whose second variable of three entries has no name. -/
def pageValue : Value :=
  .object [("ids", .list [.variable ⟨"first", true⟩, .variable ⟨"second", false⟩]),
    ("size", .variable ⟨"", false⟩), ("after", .variable ⟨"third", false⟩)]

/-- The object fails alike in every session, and behind the variables in front of the nameless
one. -/
theorem pageValue_makes_visits :
    (∀ session : Session,
        ((valueText pageSchema (some (.named "Page")) "in" pageValue).runFrom session).1 =
          .error (.configuration "" "in.size" .invalidName)) ∧
      Visit.refs (pageValue.visits pageSchema (some (.named "Page")) "in") =
        [⟨"first", true⟩, ⟨"second", false⟩, ⟨"", false⟩, ⟨"third", false⟩] ∧
      ((valueText pageSchema (some (.named "Page")) "in" pageValue).runFrom
          (.resume ⟨[("first", .list (.named "Int"))]⟩)).2.registry =
        ⟨[("first", .nonNull (.list (.named "Int"))), ("second", .nonNull (.named "Int"))]⟩ := by
  obtain ⟨hmakes, hrefs⟩ :=
    (writing_makes_visits pageSchema).1 (some (.named "Page")) "in" pageValue
  have hstart :
      ((valueText pageSchema (some (.named "Page")) "in" pageValue).runFrom .start).1 =
        .error (.configuration "" "in.size" .invalidName) := by
    decide +kernel
  have hresume :
      ((valueText pageSchema (some (.named "Page")) "in" pageValue).runFrom
          (.resume ⟨[("first", .list (.named "Int"))]⟩)).2.registry =
        ⟨[("first", .nonNull (.list (.named "Int"))), ("second", .nonNull (.named "Int"))]⟩ := by
    decide +kernel
  exact ⟨fun session => (hmakes.result_eq session .start).trans hstart, hrefs, hresume⟩

end Compile

end SelectionCompiler
