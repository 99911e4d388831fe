import SelectionCompiler.TypeRef.Merge

/-!
# Compatible types

A variable can be used at a place if its declared type allows no value that the place forbids.  It
may be stricter than the place at every list level, but the names and the list levels have to be
the same.  This is how validation compares the two types, and it orders the types.

The merged type of two uses lies above both in this order as far as that can be: above the first
one always, and above the second one if the two differ by non-null markers only.
-/

namespace SelectionCompiler.TypeRef

/-- A variable of the first type can be used where the second type is expected. -/
def suits : TypeRef → TypeRef → Bool
  | .nonNull declared, .nonNull expected => declared.suits expected
  | .nonNull declared, expected => declared.suits expected
  | _, .nonNull _ => false
  | .list declared, .list expected => declared.suits expected
  | .named declared, .named expected => declared == expected
  | _, _ => false

/-- The type without any non-null markers. -/
def erased : TypeRef → TypeRef
  | .list element => .list element.erased
  | .nonNull inner => inner.erased
  | .named name => .named name

/-! ### The order of types -/

theorem suits_refl (type : TypeRef) : type.suits type = true := by
  induction type with
  | list element ih => exact ih
  | nonNull inner ih => exact ih
  | named name => exact beq_self_eq_true name

theorem suits_trans {first second third : TypeRef} (hfirst : first.suits second = true)
    (hsecond : second.suits third = true) : first.suits third = true := by
  -- A marker of the first type need not be there in the others, so it is taken off alone.
  induction first generalizing second third with
  | list element ih =>
      cases second with
      | list second =>
          cases third with
          | list third => exact ih hfirst hsecond
          | nonNull third => cases hsecond
          | named third => cases hsecond
      | nonNull second => cases hfirst
      | named second => cases hfirst
  | nonNull inner ih =>
      cases second with
      | nonNull second =>
          have hinner : inner.suits second = true := hfirst
          cases third with
          | nonNull third => exact ih hinner hsecond
          | list third => exact ih hinner hsecond
          | named third => exact ih hinner hsecond
      | list second =>
          have hinner : inner.suits (.list second) = true := hfirst
          cases third with
          | list third => exact ih hinner hsecond
          | nonNull third => cases hsecond
          | named third => cases hsecond
      | named second =>
          have hinner : inner.suits (.named second) = true := hfirst
          cases third with
          | named third => exact ih hinner hsecond
          | nonNull third => cases hsecond
          | list third => cases hsecond
  | named name =>
      cases second with
      | named second =>
          have hname : name = second := by simpa [suits] using hfirst
          rw [hname]
          exact hsecond
      | nonNull second => cases hfirst
      | list second => cases hfirst

/-! ### Requiring a type -/

theorem toNonNull_suits (type : TypeRef) : type.toNonNull.suits type = true := by
  cases type with
  | nonNull inner => exact suits_refl inner
  | list element => exact suits_refl (.list element)
  | named name => exact suits_refl (.named name)

theorem requireIf_suits (required : Bool) (type : TypeRef) :
    (requireIf required type).suits type = true := by
  cases required with
  | false => exact suits_refl type
  | true => exact toNonNull_suits type

@[simp] theorem isNonNull_toNonNull (type : TypeRef) : type.toNonNull.isNonNull = true := by
  cases type <;> rfl

theorem isNonNull_requireIf (required : Bool) (type : TypeRef) :
    (requireIf required type).isNonNull = (required || type.isNonNull) := by
  cases required with
  | false => rfl
  | true => exact isNonNull_toNonNull type

theorem erased_requireIf (required : Bool) (type : TypeRef) :
    (requireIf required type).erased = type.erased := by
  cases required with
  | false => rfl
  | true => cases type <;> rfl

theorem baseName_requireIf (required : Bool) (type : TypeRef) :
    (requireIf required type).baseName = type.baseName := by
  cases required with
  | false => rfl
  | true => cases type <;> rfl

theorem wellFormed_requireIf {type : TypeRef} (required : Bool) (htype : type.wellFormed = true) :
    (requireIf required type).wellFormed = true := by
  cases required with
  | false => exact htype
  | true =>
      cases type with
      | nonNull inner => exact htype
      | list element => exact htype
      | named name => rfl

theorem erased_toNullable (type : TypeRef) : type.toNullable.erased = type.erased := by
  cases type <;> rfl

/-- Types of the same shape differ by non-null markers at most. -/
theorem erased_eq_of_sameShape {first second : TypeRef} (hshape : first.sameShape second = true) :
    first.erased = second.erased := by
  rw [← erased_toNullable first, ← erased_toNullable second, eq_of_beq hshape]

/-! ### Well-formed types -/

theorem toNonNull_of_wellFormed {inner : TypeRef} (hinner : (nonNull inner).wellFormed = true) :
    inner.toNonNull = .nonNull inner := by
  cases inner with
  | nonNull inner => cases hinner
  | list element => rfl
  | named name => rfl

theorem requireIf_toNullable {type : TypeRef} (htype : type.wellFormed = true) :
    requireIf type.isNonNull type.toNullable = type := by
  cases type with
  | nonNull inner => exact toNonNull_of_wellFormed htype
  | list element => rfl
  | named name => rfl

theorem wellFormed_toNullable {type : TypeRef} (htype : type.wellFormed = true) :
    type.toNullable.wellFormed = true := by
  cases type with
  | nonNull inner => exact (Bool.and_eq_true_iff.mp htype).2
  | list element => exact htype
  | named name => rfl

theorem isNonNull_toNullable {type : TypeRef} (htype : type.wellFormed = true) :
    type.toNullable.isNonNull = false := by
  cases type with
  | nonNull inner => simpa [toNullable, wellFormed] using (Bool.and_eq_true_iff.mp htype).1
  | list element => rfl
  | named name => rfl

theorem toNullable_eq_named {type : TypeRef} {name : String} (htype : type.wellFormed = true)
    (herased : type.erased = .named name) : type.toNullable = .named name := by
  have hnullable := isNonNull_toNullable htype
  rw [← erased_toNullable] at herased
  cases h : type.toNullable with
  | nonNull inner => rw [h] at hnullable; cases hnullable
  | list element => rw [h] at herased; cases herased
  | named other => rw [h] at herased; exact herased

theorem toNullable_eq_list {type element : TypeRef} (htype : type.wellFormed = true)
    (herased : type.erased = .list element) : ∃ inner, type.toNullable = .list inner := by
  have hnullable := isNonNull_toNullable htype
  rw [← erased_toNullable] at herased
  cases h : type.toNullable with
  | nonNull inner => rw [h] at hnullable; cases hnullable
  | list inner => exact ⟨inner, rfl⟩
  | named name => rw [h] at herased; cases herased

theorem nonNull_suits_requireIf {declared expected : TypeRef} (required : Bool)
    (hsuits : declared.suits expected = true) (hexpected : expected.isNonNull = false) :
    (nonNull declared).suits (requireIf required expected) = true := by
  cases expected with
  | nonNull inner => cases hexpected
  | list element => cases required <;> exact hsuits
  | named name => cases required <;> exact hsuits

/-- Two types that are both made strict or both left alone keep their order. -/
theorem requireIf_suits_requireIf {declared expected : TypeRef} (required : Bool)
    (hsuits : declared.suits expected = true) (hexpected : expected.isNonNull = false) :
    (requireIf required declared).suits (requireIf required expected) = true := by
  cases required with
  | false => exact hsuits
  | true =>
      cases declared with
      | nonNull inner =>
          rw [show requireIf true (nonNull inner) = nonNull inner from rfl]
          cases expected with
          | nonNull inner => cases hexpected
          | list element => exact hsuits
          | named name => exact hsuits
      | list element => exact nonNull_suits_requireIf true hsuits hexpected
      | named name => exact nonNull_suits_requireIf true hsuits hexpected

/-! ### Merged types -/

theorem erased_strengthen (declared used : TypeRef) :
    (declared.strengthen used).erased = declared.erased := by
  fun_induction strengthen declared used with
  | case1 => exact erased_requireIf _ _
  | case2 other element inner h ih => rw [erased_requireIf]; exact congrArg list ih
  | case3 => exact erased_requireIf _ _
  | case4 other element inner h ih => exact congrArg list ih
  | case5 => rfl
  | case6 => exact erased_requireIf true _

theorem baseName_strengthen (declared used : TypeRef) :
    (declared.strengthen used).baseName = declared.baseName := by
  fun_induction strengthen declared used with
  | case1 => exact baseName_requireIf _ _
  | case2 other element inner h ih => rw [baseName_requireIf]; exact ih
  | case3 => exact baseName_requireIf _ _
  | case4 other element inner h ih => exact ih
  | case5 => rfl
  | case6 => exact baseName_requireIf true _

theorem isNonNull_strengthen (declared used : TypeRef) :
    (declared.strengthen used).isNonNull = (declared.isNonNull || used.isNonNull) := by
  fun_induction strengthen declared used with
  | case1 => rw [isNonNull_requireIf]; simp [isNonNull]
  | case2 => rw [isNonNull_requireIf]; simp [isNonNull]
  | case3 => rw [isNonNull_requireIf]; simp [isNonNull]
  | case4 => rfl
  | case5 => rfl
  | case6 => exact isNonNull_toNonNull _

theorem wellFormed_strengthen {declared : TypeRef} (hdeclared : declared.wellFormed = true)
    (used : TypeRef) : (declared.strengthen used).wellFormed = true := by
  fun_induction strengthen declared used with
  | case1 => exact wellFormed_requireIf _ rfl
  | case2 other element inner h ih => exact wellFormed_requireIf _ (ih hdeclared)
  | case3 => exact wellFormed_requireIf _ hdeclared
  | case4 other element inner h ih => exact ih hdeclared
  | case5 => exact hdeclared
  | case6 => rwa [toNonNull_of_wellFormed hdeclared]

/-- A merged type suits all places that the first type suits. -/
theorem strengthen_suits_left {declared : TypeRef} (hdeclared : declared.wellFormed = true)
    (used : TypeRef) : (declared.strengthen used).suits declared = true := by
  fun_induction strengthen declared used with
  | case1 => exact requireIf_suits _ _
  | case2 other element inner h ih => exact suits_trans (requireIf_suits _ _) (ih hdeclared)
  | case3 => exact requireIf_suits _ _
  | case4 other element inner h ih => exact ih hdeclared
  | case5 => exact suits_refl _
  | case6 =>
      rw [toNonNull_of_wellFormed hdeclared]
      exact suits_refl _

/-- A merged type suits the places of the second use, if its type differs from the first one by
non-null markers only. -/
theorem strengthen_suits_right {declared used : TypeRef} (hdeclared : declared.wellFormed = true)
    (hused : used.wellFormed = true) (herased : declared.erased = used.erased) :
    (declared.strengthen used).suits used = true := by
  fun_induction strengthen declared used with
  | case1 used name =>
      -- A name can only meet a name, which may have a marker.
      have hplace := requireIf_toNullable hused
      rw [toNullable_eq_named hused herased.symm] at hplace
      rw [hplace]
      exact suits_refl _
  | case2 element used inner h ih =>
      -- The merged list takes the marker of the second one, if there is one.
      have hplace := requireIf_toNullable hused
      have hinner := wellFormed_toNullable hused
      rw [← erased_toNullable used] at herased
      rw [h] at hplace hinner herased
      have hsuits : (list (element.strengthen inner)).suits (.list inner) = true :=
        ih hdeclared hinner (list.inj herased)
      have hlists := requireIf_suits_requireIf used.isNonNull hsuits rfl
      rwa [hplace] at hlists
  | case3 element used h =>
      -- A list meets no list: the two differ by more than markers.
      obtain ⟨inner, hinner⟩ := toNullable_eq_list hused herased.symm
      exact absurd hinner (h inner)
  | case4 element used inner h ih =>
      -- The merged list is strict already, whatever the second one is.
      have hplace := requireIf_toNullable hused
      have hinner := wellFormed_toNullable hused
      rw [← erased_toNullable used] at herased
      rw [h] at hplace hinner herased
      have hsuits : (list (element.strengthen inner)).suits (.list inner) = true :=
        ih hdeclared hinner (list.inj herased)
      have hlists := nonNull_suits_requireIf used.isNonNull hsuits rfl
      rwa [hplace] at hlists
  | case5 element used h =>
      obtain ⟨inner, hinner⟩ := toNullable_eq_list hused herased.symm
      exact absurd hinner (h inner)
  | case6 inner used h =>
      rw [toNonNull_of_wellFormed hdeclared]
      cases inner with
      | nonNull inner => cases hdeclared
      | list element => exact absurd rfl (h element)
      | named name =>
          have hplace := requireIf_toNullable hused
          rw [toNullable_eq_named hused herased.symm] at hplace
          have hnames := nonNull_suits_requireIf used.isNonNull (suits_refl (.named name)) rfl
          rwa [hplace] at hnames

end SelectionCompiler.TypeRef
