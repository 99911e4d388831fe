import SelectionCompiler.Proofs.ClosedForm

/-!
# Warnings and shapes

The shape of a type is what is left of it without its non-null markers.  A use conflicts with the
declaration of its variable if the shapes differ.  Then there is no type that suits both places, so
the declaration that is kept cannot suit the new one.  Otherwise the merged type suits both.

The registry warns of uses that do not look like the declaration, and there it leaves only the
outermost markers out of account.  So it warns of every conflict, but also of a use that differs
from the declaration in a marker at an inner list level, though the merge settles that difference.
-/

namespace SelectionCompiler

namespace TypeRef

/-- The types have the same non-null markers below the outermost list level. -/
def SameInside (first second : TypeRef) : Prop :=
  ∀ level, first.requiredAt (level + 1) = second.requiredAt (level + 1)

/-- Two well-formed types look alike up to the outermost markers exactly if they have one shape and
the same markers inside. -/
theorem sameShape_iff {first second : TypeRef} (hfirst : first.wellFormed = true)
    (hsecond : second.wellFormed = true) :
    first.sameShape second = true ↔ first.erased = second.erased ∧ first.SameInside second := by
  constructor
  · intro hshape
    have hnullable : first.toNullable = second.toNullable := eq_of_beq hshape
    refine ⟨erased_eq_of_sameShape hshape, ?_⟩
    intro level
    rw [← requiredAt_toNullable_succ first, hnullable, requiredAt_toNullable_succ]
  · rintro ⟨herased, hinside⟩
    apply beq_iff_eq.mpr
    apply eq_of_requiredAt (wellFormed_toNullable hfirst) (wellFormed_toNullable hsecond)
    · rw [erased_toNullable, erased_toNullable, herased]
    · intro level
      rcases level with _ | level
      · rw [requiredAt_zero, requiredAt_zero, isNonNull_toNullable hfirst,
          isNonNull_toNullable hsecond]
      · rw [requiredAt_toNullable_succ, requiredAt_toNullable_succ, hinside level]

/-- A type suits places of its own shape only. -/
theorem erased_eq_of_suits {declared expected : TypeRef}
    (hsuits : declared.suits expected = true) : declared.erased = expected.erased := by
  fun_induction suits declared expected with
  | case1 declared expected ih => exact ih hsuits
  | case2 declared expected _ ih => exact ih hsuits
  | case3 => cases hsuits
  | case4 declared expected ih => exact congrArg list (ih hsuits)
  | case5 declared expected => exact congrArg named (eq_of_beq hsuits)
  | case6 => cases hsuits

theorem sameInside_requireIf_iff (required : Bool) (first second : TypeRef) :
    first.SameInside (requireIf required second) ↔ first.SameInside second := by
  unfold SameInside
  simp only [requiredAt_requireIf_succ]

end TypeRef

namespace Usage

/-- The type that comes of a use after a declaration suits both places exactly if these have one
shape. -/
theorem declare_suits_iff {usage : Usage} (husage : usage.type.wellFormed = true)
    {declared : TypeRef} (hdeclared : declared.wellFormed = true) :
    (usage.declare (some declared)).suits declared = true ∧
        (usage.declare (some declared)).suits usage.type = true ↔
      declared.erased = usage.type.erased := by
  have hrequired : usage.requiredType.erased = usage.type.erased := TypeRef.erased_requireIf _ _
  constructor
  · rintro ⟨hleft, hright⟩
    rw [← TypeRef.erased_eq_of_suits hleft, TypeRef.erased_eq_of_suits hright]
  · intro herased
    refine ⟨TypeRef.strengthen_suits_left hdeclared _, ?_⟩
    have hmerged : (declared.strengthen usage.requiredType).suits usage.requiredType = true := by
      apply TypeRef.strengthen_suits_right hdeclared (TypeRef.wellFormed_requireIf _ husage)
      exact herased.trans hrequired.symm
    exact TypeRef.suits_trans hmerged (TypeRef.requireIf_suits _ _)

end Usage

namespace Registry

/-- There is a warning when the use is registered. -/
def Warns (registry : Registry) (usage : Usage) : Prop :=
  ∃ event ∈ registry.eventsOf usage, event.level = .warn

/-- The variable is declared with a type of another shape. -/
def Conflicts (registry : Registry) (usage : Usage) : Prop :=
  ∃ declared, registry.get? usage.name = some declared ∧ declared.erased ≠ usage.type.erased

theorem warns_iff_not_sameShape (registry : Registry) (usage : Usage) :
    registry.Warns usage ↔ ∃ declared, registry.get? usage.name = some declared ∧
      ¬declared.sameShape usage.requiredType = true := by
  have hsilent : ¬registry.Warns usage ↔ Event.warnings (registry.eventsOf usage) = [] := by
    simp [Warns, Event.warnings]
  rw [← not_iff_not, hsilent, warnings_eventsOf_eq_nil_iff]
  simp only [not_exists, not_and, not_not]

/-- A warning has one of two causes: another shape, or other markers inside. -/
theorem warns_iff {registry : Registry} (hregistry : registry.IsWellFormed) {usage : Usage}
    (husage : usage.type.wellFormed = true) :
    registry.Warns usage ↔ ∃ declared, registry.get? usage.name = some declared ∧
      (declared.erased ≠ usage.type.erased ∨ ¬declared.SameInside usage.type) := by
  have hrequired : usage.requiredType.wellFormed = true := TypeRef.wellFormed_requireIf _ husage
  have herased : usage.requiredType.erased = usage.type.erased := TypeRef.erased_requireIf _ _
  rw [warns_iff_not_sameShape]
  apply exists_congr
  intro declared
  apply and_congr_right
  intro hget
  rw [TypeRef.sameShape_iff (hregistry _ _ hget) hrequired, herased, Usage.requiredType,
    TypeRef.sameInside_requireIf_iff, not_and_or]

/-- After uses of well-formed types a further one is warned of exactly if its type has another shape
than the declaration or other markers inside.  The declaration that comes of it suits both places
exactly if the shapes are equal.  So a warning tells of a conflict, and silence of none, unless the
use has the shape of the declaration and other markers inside. -/
theorem warns_of_conflicts_iff {usages : List Usage}
    (husages : ∀ usage ∈ usages, usage.type.wellFormed = true) {usage : Usage}
    (husage : usage.type.wellFormed = true) :
    ((empty.registerAll usages).Warns usage ↔
        ∃ declared, (empty.registerAll usages).get? usage.name = some declared ∧
          (declared.erased ≠ usage.type.erased ∨ ¬declared.SameInside usage.type)) ∧
      (∀ declared, (empty.registerAll usages).get? usage.name = some declared →
        ∃ merged, ((empty.registerAll usages).register usage).get? usage.name = some merged ∧
          (merged.suits declared = true ∧ merged.suits usage.type = true ↔
            declared.erased = usage.type.erased)) ∧
      (((empty.registerAll usages).Warns usage ↔ (empty.registerAll usages).Conflicts usage) ↔
        ∀ declared, (empty.registerAll usages).get? usage.name = some declared →
          declared.erased = usage.type.erased → declared.SameInside usage.type) := by
  have hregistry : (empty.registerAll usages).IsWellFormed := isWellFormed_registerAll husages
  have hwarns := warns_iff hregistry husage
  refine ⟨hwarns, ?_, ?_⟩
  · intro declared hget
    refine ⟨usage.declare (some declared), ?_, ?_⟩
    · rw [get?_register, if_pos rfl, hget]
    · exact Usage.declare_suits_iff husage (hregistry _ _ hget)
  · rw [hwarns]
    constructor
    · intro hconflicts declared hget herased
      -- Other markers inside would cause a warning, and there is no conflict to go with it.
      by_contra hinside
      obtain ⟨other, hother, hshape⟩ := hconflicts.mp ⟨declared, hget, Or.inr hinside⟩
      rw [hget] at hother
      cases hother
      exact hshape herased
    · intro hsame
      constructor
      · rintro ⟨declared, hget, hshape | hinside⟩
        · exact ⟨declared, hget, hshape⟩
        · refine ⟨declared, hget, ?_⟩
          intro herased
          exact hinside (hsame declared hget herased)
      · rintro ⟨declared, hget, hshape⟩
        exact ⟨declared, hget, Or.inl hshape⟩

/-- A use that differs from the declaration after the mixed uses in the outermost marker only. -/
def optionalUse : Usage :=
  ⟨"v", .list (.nonNull (.named "Int")), false⟩

/-- A use that differs from the declaration after the mixed uses by a list level. -/
def deeperUse : Usage :=
  ⟨"w", .list (.named "String"), false⟩

theorem mixedUsages_warn_of_conflicts :
    (∀ usage ∈ mixedUsages, usage.type.wellFormed = true) ∧
      optionalUse.type.wellFormed = true ∧ deeperUse.type.wellFormed = true ∧
      ¬(empty.registerAll mixedUsages).Warns optionalUse ∧
      (empty.registerAll mixedUsages).Warns deeperUse ∧
      ((empty.registerAll mixedUsages).Warns deeperUse ↔
        (empty.registerAll mixedUsages).Conflicts deeperUse) := by
  have husages : ∀ usage ∈ mixedUsages, usage.type.wellFormed = true := by
    decide
  have hoptional : optionalUse.type.wellFormed = true := rfl
  have hdeeper : deeperUse.type.wellFormed = true := rfl
  have hv : (empty.registerAll mixedUsages).get? optionalUse.name =
      some (.nonNull (.list (.nonNull (.named "Int")))) := by
    decide
  have hw : (empty.registerAll mixedUsages).get? deeperUse.name =
      some (.nonNull (.named "String")) := by
    decide
  obtain ⟨hcauses, -, -⟩ := warns_of_conflicts_iff husages hoptional
  obtain ⟨hcauses', -, hright⟩ := warns_of_conflicts_iff husages hdeeper
  refine ⟨husages, hoptional, hdeeper, ?_, ?_, ?_⟩
  · intro hwarns
    obtain ⟨declared, hget, hcause⟩ := hcauses.mp hwarns
    rw [hv] at hget
    cases hget
    rcases hcause with hshape | hinside
    · exact hshape rfl
    · exact hinside fun _ => rfl
  · exact hcauses'.mpr ⟨_, hw, Or.inl (by decide)⟩
  · apply hright.mpr
    intro declared hget herased
    rw [hw] at hget
    cases hget
    cases herased

/-- A use for a list. -/
def listUse : Usage :=
  ⟨"v", .list (.named "Int"), false⟩

/-- A use for a list without null items. -/
def strictItemsUse : Usage :=
  ⟨"v", .list (.nonNull (.named "Int")), false⟩

/-- There is a warning although there is no conflict: the declaration that comes of the two uses
suits both places. -/
theorem strictItemsUse_warns_without_conflict :
    listUse.type.wellFormed = true ∧ strictItemsUse.type.wellFormed = true ∧
      (empty.registerAll [listUse]).Warns strictItemsUse ∧
      ¬(empty.registerAll [listUse]).Conflicts strictItemsUse ∧
      ∃ merged, ((empty.registerAll [listUse]).register strictItemsUse).get? "v" = some merged ∧
        merged.suits listUse.type = true ∧ merged.suits strictItemsUse.type = true := by
  refine ⟨rfl, rfl, ?_, ?_, strictItemsUse.type, by decide, by decide, by decide⟩
  · exact ⟨.conflict "v" strictItemsUse.type listUse.type, by decide, rfl⟩
  · rintro ⟨declared, hget, hshape⟩
    cases hget
    exact hshape rfl

end Registry

end SelectionCompiler
