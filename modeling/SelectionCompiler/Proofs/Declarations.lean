import Mathlib.Data.List.Induction
import SelectionCompiler.Document

/-!
# What becomes of uses

A registry is a table under the names of variables, so it is known from the names it holds and from
the type it has for each.  One more use appends its name unless the name is there, and changes the
type of that name alone.  Over a sequence of uses the names come in the order of their first
occurrences, and the type of a name is decided by the uses of that name.
-/

namespace SelectionCompiler

namespace Usage

/-- The declared type after a use, which may be the first one. -/
def declare (declared : Option TypeRef) (usage : Usage) : TypeRef :=
  match declared with
  | none => usage.requiredType
  | some type => type.strengthen usage.requiredType

end Usage

/-- The events of a list that are warnings. -/
def Event.warnings (events : List Event) : List Event :=
  events.filter fun event => event.level = .warn

namespace Registry

/-- The names of the declared variables. -/
def names (registry : Registry) : List String :=
  registry.entries.keys

/-- The warnings that uses cause one after the other. -/
def warningsOf (registry : Registry) : List Usage → List Event
  | [] => []
  | usage :: rest =>
      Event.warnings (registry.eventsOf usage) ++ (registry.register usage).warningsOf rest

theorem names_definitions (registry : Registry) :
    registry.definitions.map VariableDefinition.name = registry.names := by
  simp [definitions, names, Table.keys]

theorem get?_of_mem_definitions {registry : Registry} (hnodup : registry.names.Nodup)
    {definition : VariableDefinition} (hmem : definition ∈ registry.definitions) :
    registry.get? definition.name = some definition.type := by
  obtain ⟨entry, hentry, rfl⟩ := List.mem_map.mp hmem
  exact Table.Distinct.get?_of_mem hnodup hentry

/-! ### One use -/

theorem get?_register (registry : Registry) (usage : Usage) (name : String) :
    (registry.register usage).get? name =
      if name = usage.name then some (usage.declare (registry.get? usage.name))
      else registry.get? name := by
  unfold register
  cases hdeclared : registry.get? usage.name with
  | none =>
      show Table.get? (registry.entries ++ [(usage.name, usage.requiredType)]) name = _
      rw [Table.get?_append, Table.get?_cons, Table.get?_nil]
      by_cases hname : name = usage.name
      · rw [if_pos hname, if_pos hname, hname, show registry.entries.get? usage.name = none from
          hdeclared]
        rfl
      · rw [if_neg hname, if_neg hname, Option.or_none]
        rfl
  | some declared => exact Table.get?_put _ _ _ _

/-- A use is silent exactly if its variable is new, or declared with a type that looks like the
required one. -/
theorem warnings_eventsOf_eq_nil_iff {registry : Registry} {usage : Usage} :
    Event.warnings (registry.eventsOf usage) = [] ↔
      ∀ declared, registry.get? usage.name = some declared →
        declared.sameShape usage.requiredType = true := by
  unfold eventsOf
  cases registry.get? usage.name with
  | none => simp [Event.warnings, Event.level]
  | some declared =>
      by_cases hshape : declared.sameShape usage.requiredType = true
      · simp [hshape, Event.warnings, Event.level]
      · simp [hshape, Event.warnings, Event.level]

theorem names_register (registry : Registry) (usage : Usage) :
    (registry.register usage).names =
      if usage.name ∈ registry.names then registry.names
      else registry.names ++ [usage.name] := by
  unfold register
  cases hdeclared : registry.get? usage.name with
  | none =>
      have hnot : usage.name ∉ registry.names := Table.get?_eq_none_iff.mp hdeclared
      rw [if_neg hnot]
      simp [names, Table.keys]
  | some declared =>
      have hmem : usage.name ∈ registry.names := by
        refine Decidable.of_not_not fun hnot => ?_
        have hnone : registry.get? usage.name = none := Table.get?_eq_none_iff.mpr hnot
        rw [hnone] at hdeclared
        cases hdeclared
      rw [if_pos hmem]
      exact Table.keys_put_of_mem hmem

theorem nodup_names_register {registry : Registry} (hnodup : registry.names.Nodup)
    (usage : Usage) : (registry.register usage).names.Nodup := by
  rw [names_register]
  split
  · exact hnodup
  · rename_i hnot
    have hfresh : ∀ name ∈ registry.names, name ≠ usage.name := by
      rintro name hname rfl
      exact hnot hname
    simpa [List.nodup_append, hnodup] using hfresh

/-! ### A sequence of uses -/

@[simp] theorem registerAll_nil (registry : Registry) : registry.registerAll [] = registry := rfl

@[simp] theorem registerAll_cons (registry : Registry) (usage : Usage) (rest : List Usage) :
    registry.registerAll (usage :: rest) = (registry.register usage).registerAll rest := rfl

theorem registerAll_append (registry : Registry) (first second : List Usage) :
    registry.registerAll (first ++ second) = (registry.registerAll first).registerAll second :=
  List.foldl_append

theorem warningsOf_append (registry : Registry) (first second : List Usage) :
    registry.warningsOf (first ++ second) =
      registry.warningsOf first ++ (registry.registerAll first).warningsOf second := by
  induction first generalizing registry with
  | nil => rfl
  | cons usage rest ih => simp [warningsOf, ih]

theorem nodup_names_registerAll {registry : Registry} (hnodup : registry.names.Nodup)
    (usages : List Usage) : (registry.registerAll usages).names.Nodup := by
  induction usages generalizing registry with
  | nil => exact hnodup
  | cons usage rest ih => exact ih (nodup_names_register hnodup usage)

theorem nodup_names (usages : List Usage) : (empty.registerAll usages).names.Nodup := by
  have hempty : empty.names.Nodup := List.nodup_nil
  exact nodup_names_registerAll hempty usages

/-- The names are declared in the order of their first occurrences. -/
theorem names_registerAll (usages : List Usage) :
    (empty.registerAll usages).names = (usages.map Usage.name).eraseDups := by
  -- The last use comes after all others, so the induction takes uses away from the end.
  induction usages using List.reverseRecOn with
  | nil => rfl
  | append_singleton usages usage ih =>
      rw [registerAll_append, registerAll_cons, registerAll_nil, names_register, ih,
        List.map_append, List.eraseDups_append]
      simp only [List.mem_eraseDups]
      by_cases hmem : usage.name ∈ usages.map Usage.name
      · rw [if_pos hmem]
        simp [hmem, List.cons_removeAll]
      · rw [if_neg hmem]
        simp [hmem, List.cons_removeAll, List.eraseDups_cons]

/-- The type of a variable changes with its own uses only. -/
theorem get?_registerAll (registry : Registry) (usages : List Usage) (name : String) :
    (registry.registerAll usages).get? name =
      (usages.filter fun usage => usage.name = name).foldl
        (fun declared usage => some (usage.declare declared)) (registry.get? name) := by
  induction usages generalizing registry with
  | nil => rfl
  | cons usage rest ih =>
      rw [registerAll_cons, ih, get?_register]
      by_cases hname : usage.name = name
      · simp [hname]
      · simp [hname, Ne.symm hname]

end Registry

end SelectionCompiler
