import SelectionCompiler.Proofs.MergedTypes

/-!
# Markers at list levels

A well-formed type is known from its name, the number of its list levels, and whether it has a
non-null marker at each of them.  The outermost level is number zero.

Seen like this the merge of types is simple.  It leaves the name and the levels of the first type
alone and adds the markers of the second one at all levels that the first one has.
-/

namespace SelectionCompiler

namespace TypeRef

/-- The number of list wrappers. -/
def depth : TypeRef → Nat
  | .list element => element.depth + 1
  | .nonNull inner => inner.depth
  | .named _ => 0

/-- There is a non-null marker at the list level. -/
def requiredAt : TypeRef → Nat → Bool
  | .list _, 0 => false
  | .list element, level + 1 => element.requiredAt level
  | .nonNull _, 0 => true
  | .nonNull inner, level + 1 => inner.requiredAt (level + 1)
  | .named _, _ => false

theorem depth_erased (type : TypeRef) : type.erased.depth = type.depth := by
  induction type with
  | list element ih => exact congrArg (· + 1) ih
  | nonNull inner ih => exact ih
  | named name => rfl

theorem baseName_erased (type : TypeRef) : type.erased.baseName = type.baseName := by
  induction type with
  | list element ih => exact ih
  | nonNull inner ih => exact ih
  | named name => rfl

theorem requiredAt_zero (type : TypeRef) : type.requiredAt 0 = type.isNonNull := by
  cases type <;> rfl

/-- There are no markers below the last list level. -/
theorem requiredAt_of_depth_lt {type : TypeRef} {level : Nat} (hlevel : type.depth < level) :
    type.requiredAt level = false := by
  induction type generalizing level with
  | list element ih =>
      cases level with
      | zero => rfl
      | succ level => exact ih (Nat.lt_of_succ_lt_succ hlevel)
  | nonNull inner ih =>
      cases level with
      | zero => cases hlevel
      | succ level => exact ih hlevel
  | named name => rfl

theorem requiredAt_toNullable_succ (type : TypeRef) (level : Nat) :
    type.toNullable.requiredAt (level + 1) = type.requiredAt (level + 1) := by
  cases type <;> rfl

theorem requiredAt_requireIf_zero (required : Bool) (type : TypeRef) :
    (requireIf required type).requiredAt 0 = (required || type.isNonNull) := by
  rw [requiredAt_zero, isNonNull_requireIf]

theorem requiredAt_requireIf_succ (required : Bool) (type : TypeRef) (level : Nat) :
    (requireIf required type).requiredAt (level + 1) = type.requiredAt (level + 1) := by
  cases required with
  | false => rfl
  | true => cases type <;> rfl

/-- Well-formed types with the same name, levels and markers are equal. -/
theorem eq_of_requiredAt {first second : TypeRef} (hfirst : first.wellFormed = true)
    (hsecond : second.wellFormed = true) (herased : first.erased = second.erased)
    (hrequired : ∀ level, first.requiredAt level = second.requiredAt level) : first = second := by
  induction first generalizing second with
  | list element ih =>
      cases second with
      | list other =>
          have helements : element = other :=
            ih hfirst hsecond (list.inj herased) fun level => hrequired (level + 1)
          rw [helements]
      | nonNull inner => cases hrequired 0
      | named name => cases herased
  | nonNull inner ih =>
      cases second with
      | nonNull other =>
          -- Neither of the two types below has another marker directly inside.
          have hinner : inner.isNonNull = false := isNonNull_toNullable hfirst
          have hother : other.isNonNull = false := isNonNull_toNullable hsecond
          have hlevels : ∀ level, inner.requiredAt level = other.requiredAt level := by
            intro level
            cases level with
            | zero => rw [requiredAt_zero, requiredAt_zero, hinner, hother]
            | succ level => exact hrequired (level + 1)
          have hequal : inner = other :=
            ih (wellFormed_toNullable hfirst) (wellFormed_toNullable hsecond) herased hlevels
          rw [hequal]
      | list element => cases hrequired 0
      | named name => cases hrequired 0
  | named name =>
      cases second with
      | named other => exact herased
      | list element => cases herased
      | nonNull inner => cases hrequired 0

/-! ### Merged types -/

theorem depth_strengthen (declared used : TypeRef) :
    (declared.strengthen used).depth = declared.depth := by
  rw [← depth_erased, erased_strengthen, depth_erased]

/-- Below the outermost level there is no marker in a type without lists. -/
theorem requiredAt_succ_of_not_list {type : TypeRef} (htype : type.wellFormed = true)
    (hlist : ∀ element, type.toNullable ≠ .list element) (level : Nat) :
    type.requiredAt (level + 1) = false := by
  have hnullable := isNonNull_toNullable htype
  rw [← requiredAt_toNullable_succ]
  cases h : type.toNullable with
  | list element => exact absurd h (hlist element)
  | nonNull inner => rw [h] at hnullable; cases hnullable
  | named name => rfl

/-- A merge adds the markers of the second type at the levels of the first one. -/
theorem requiredAt_strengthen {declared used : TypeRef} (hdeclared : declared.wellFormed = true)
    (hused : used.wellFormed = true) (level : Nat) :
    (declared.strengthen used).requiredAt level =
      (declared.requiredAt level ||
        (decide (level ≤ declared.depth) && used.requiredAt level)) := by
  fun_induction strengthen declared used generalizing level with
  | case1 name used =>
      cases level with
      | zero =>
          rw [requiredAt_requireIf_zero, ← requiredAt_zero used]
          simp [requiredAt, isNonNull]
      | succ level => simp [requiredAt_requireIf_succ, depth]
  | case2 element used inner h ih =>
      have hinner := wellFormed_toNullable hused
      rw [h] at hinner
      cases level with
      | zero =>
          rw [requiredAt_requireIf_zero, ← requiredAt_zero used]
          simp [requiredAt, isNonNull]
      | succ level =>
          have hplace := requiredAt_toNullable_succ used level
          rw [h] at hplace
          rw [requiredAt_requireIf_succ, ← hplace]
          simpa [requiredAt, depth] using ih hdeclared hinner level
  | case3 element used h =>
      cases level with
      | zero =>
          rw [requiredAt_requireIf_zero, ← requiredAt_zero used]
          simp [requiredAt, isNonNull]
      | succ level =>
          rw [requiredAt_requireIf_succ, requiredAt_succ_of_not_list hused h, Bool.and_false,
            Bool.or_false]
  | case4 element used inner h ih =>
      have hinner := wellFormed_toNullable hused
      rw [h] at hinner
      cases level with
      | zero => rfl
      | succ level =>
          have hplace := requiredAt_toNullable_succ used level
          rw [h] at hplace
          rw [← hplace]
          simpa [requiredAt, depth] using ih hdeclared hinner level
  | case5 element used h =>
      cases level with
      | zero => rfl
      | succ level =>
          rw [requiredAt_succ_of_not_list hused h, Bool.and_false, Bool.or_false]
  | case6 inner used h =>
      rw [toNonNull_of_wellFormed hdeclared]
      cases inner with
      | list element => exact absurd rfl (h element)
      | nonNull inner => cases hdeclared
      | named name =>
          cases level with
          | zero => rfl
          | succ level => simp [depth]

theorem wellFormed_strengthenAll {type : TypeRef} (htype : type.wellFormed = true)
    (usages : List Usage) : (type.strengthenAll usages).wellFormed = true := by
  induction usages generalizing type with
  | nil => exact htype
  | cons usage rest ih => exact ih (wellFormed_strengthen htype _)

theorem depth_strengthenAll (type : TypeRef) (usages : List Usage) :
    (type.strengthenAll usages).depth = type.depth := by
  rw [← depth_erased, erased_strengthenAll, depth_erased]

/-- Of several uses, each adds its markers at the levels of the first type. -/
theorem requiredAt_strengthenAll {type : TypeRef} (htype : type.wellFormed = true)
    {usages : List Usage} (husages : ∀ usage ∈ usages, usage.requiredType.wellFormed = true)
    (level : Nat) :
    (type.strengthenAll usages).requiredAt level =
      (type.requiredAt level || (decide (level ≤ type.depth) &&
        usages.any fun usage => usage.requiredType.requiredAt level)) := by
  induction usages generalizing type with
  | nil => simp [strengthenAll]
  | cons usage rest ih =>
      obtain ⟨husage, hrest⟩ := List.forall_mem_cons.mp husages
      rw [strengthenAll_cons, ih (wellFormed_strengthen htype _) hrest,
        requiredAt_strengthen htype husage, depth_strengthen, List.any_cons]
      cases decide (level ≤ type.depth) with
      | false => simp
      | true => simp [Bool.or_assoc]

end TypeRef

end SelectionCompiler
