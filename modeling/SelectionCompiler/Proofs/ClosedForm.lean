import Mathlib.Data.List.Basic
import SelectionCompiler.Proofs.Reordering
import SelectionCompiler.Proofs.Siblings

/-!
# The registry in closed form

After a sequence of uses the registry is known from the uses alone.  Its names are those of the
uses, in the order of their first occurrences.  A type has the name and the list levels of the first
use of its variable, and at each of these levels it has a marker if one of the uses has it there, be
it of the same shape or not.

So it does not matter in which order the later uses of a variable come, and a further use can only
add a name behind the others or markers to one type.
-/

namespace SelectionCompiler

namespace TypeRef

/-- Types of the same name and with as many list levels differ by non-null markers only. -/
theorem erased_eq_of_depth {first second : TypeRef} (hname : first.baseName = second.baseName)
    (hdepth : first.depth = second.depth) : first.erased = second.erased := by
  induction first generalizing second with
  | list element ih =>
      induction second with
      | list other => exact congrArg list (ih hname (Nat.succ.inj hdepth))
      | nonNull inner ihInner => exact ihInner hname hdepth
      | named name => cases hdepth
  | nonNull inner ih => exact ih hname hdepth
  | named name =>
      induction second with
      | list other => cases hdepth
      | nonNull inner ihInner => exact ihInner hname hdepth
      | named other => exact congrArg named hname

/-- The type that the uses of a variable add up to.  The first use decides on its name and its list
levels, and each use adds the markers that it has at these levels. -/
structure IsSumOf (type : TypeRef) (first : Usage) (rest : List Usage) : Prop where
  wellFormed : type.wellFormed = true
  baseName : type.baseName = first.requiredType.baseName
  depth : type.depth = first.requiredType.depth
  requiredAt_iff : ∀ level ≤ first.requiredType.depth, (type.requiredAt level = true ↔
    ∃ usage ∈ first :: rest, level ≤ usage.requiredType.depth ∧
      usage.requiredType.requiredAt level = true)

/-- Uses add up to one type only, and their order does not matter behind the first one. -/
theorem IsSumOf.eq_of_perm {type other : TypeRef} {first : Usage} {rest others : List Usage}
    (htype : type.IsSumOf first rest) (hother : other.IsSumOf first others)
    (hperm : rest.Perm others) : type = other := by
  refine eq_of_requiredAt htype.wellFormed hother.wellFormed ?_ fun level => ?_
  · exact erased_eq_of_depth (htype.baseName.trans hother.baseName.symm)
      (htype.depth.trans hother.depth.symm)
  · by_cases hlevel : level ≤ first.requiredType.depth
    · rw [Bool.eq_iff_iff, htype.requiredAt_iff level hlevel, hother.requiredAt_iff level hlevel]
      simp only [(hperm.cons first).mem_iff]
    · have hbelow : first.requiredType.depth < level := Nat.lt_of_not_le hlevel
      rw [requiredAt_of_depth_lt (htype.depth ▸ hbelow),
        requiredAt_of_depth_lt (hother.depth ▸ hbelow)]

theorem strengthenAll_isSumOf {first : Usage} {rest : List Usage}
    (husages : ∀ usage ∈ first :: rest, usage.requiredType.wellFormed = true) :
    (first.requiredType.strengthenAll rest).IsSumOf first rest where
  wellFormed := wellFormed_strengthenAll (husages first List.mem_cons_self) rest
  baseName := by rw [← baseName_erased, erased_strengthenAll, baseName_erased]
  depth := depth_strengthenAll first.requiredType rest
  requiredAt_iff level hlevel := by
    obtain ⟨hfirst, hrest⟩ := List.forall_mem_cons.mp husages
    -- A type has markers at its own levels only, so the bound says nothing new.
    have hplace : ∀ usage : Usage, (level ≤ usage.requiredType.depth ∧
        usage.requiredType.requiredAt level = true) ↔
          usage.requiredType.requiredAt level = true := by
      intro usage
      refine and_iff_right_of_imp fun hmarker => ?_
      by_contra hbelow
      rw [requiredAt_of_depth_lt (Nat.lt_of_not_le hbelow)] at hmarker
      cases hmarker
    rw [requiredAt_strengthenAll hfirst hrest, decide_eq_true hlevel, Bool.true_and,
      Bool.or_eq_true, List.any_eq_true, List.exists_mem_cons_iff]
    simp only [hplace]

end TypeRef

namespace Registry

variable {usages : List Usage} (husages : ∀ usage ∈ usages, usage.type.wellFormed = true)

include husages

/-- The type of a variable is what its uses add up to. -/
theorem exists_isSumOf {name : String} {first : Usage} {rest : List Usage}
    (hown : Usage.ofVariable name usages = first :: rest) :
    ∃ type, (empty.registerAll usages).get? name = some type ∧ type.IsSumOf first rest := by
  refine ⟨_, get?_registerAll_empty hown, TypeRef.strengthenAll_isSumOf fun usage husage => ?_⟩
  rw [← hown] at husage
  exact TypeRef.wellFormed_requireIf _ (husages usage (List.mem_filter.mp husage).1)

theorem isWellFormed_registerAll : (empty.registerAll usages).IsWellFormed := by
  intro name type hget
  cases hown : Usage.ofVariable name usages with
  | nil =>
      rw [get?_registerAll_of_unused hown] at hget
      cases hget
  | cons first rest =>
      obtain ⟨sum, hsum, htype⟩ := exists_isSumOf husages hown
      rw [hget] at hsum
      cases hsum
      exact htype.wellFormed

/-- In every order of the uses that keeps the first one, a variable gets the same type. -/
theorem get?_registerAll_eq_of_find? {others : List Usage} (hperm : usages.Perm others)
    {name : String} (hfirst : others.find? (fun usage => usage.name = name) =
      usages.find? (fun usage => usage.name = name)) :
    (empty.registerAll usages).get? name = (empty.registerAll others).get? name := by
  have hown : (Usage.ofVariable name usages).Perm (Usage.ofVariable name others) :=
    hperm.filter _
  have hhead : (Usage.ofVariable name others).head? = (Usage.ofVariable name usages).head? := by
    rw [Usage.ofVariable, Usage.ofVariable, List.head?_filter, List.head?_filter, hfirst]
  have hothers : ∀ usage ∈ others, usage.type.wellFormed = true :=
    fun usage husage => husages usage (hperm.mem_iff.mpr husage)
  cases huses : Usage.ofVariable name usages with
  | nil =>
      rw [huses] at hown
      rw [get?_registerAll_of_unused huses, get?_registerAll_of_unused hown.nil_eq.symm]
  | cons first rest =>
      rw [huses, List.head?_cons, List.head?_eq_some_iff] at hhead
      obtain ⟨turned, hturned⟩ := hhead
      rw [huses, hturned] at hown
      obtain ⟨type, htype, hsum⟩ := exists_isSumOf husages huses
      obtain ⟨other, hother, hsum'⟩ := exists_isSumOf hothers hturned
      rw [htype, hother, hsum.eq_of_perm hsum' (List.perm_cons first |>.mp hown)]

/-- The registry after uses of well-formed types, in closed form.  Each use only adds to it, and
does not touch the variables of other names.  If the first uses come in the same order, the registry
does not depend on the order of the others. -/
theorem registerAll_closed_form :
    (empty.registerAll usages).names = (usages.map Usage.name).eraseDups ∧
      (∀ name first rest, Usage.ofVariable name usages = first :: rest →
        ∃ type, (empty.registerAll usages).get? name = some type ∧ type.IsSumOf first rest) ∧
      (∀ before usage after, usages = before ++ usage :: after →
        ((empty.registerAll before).register usage).Extends (empty.registerAll before) ∧
          ∀ name, name ≠ usage.name →
            ((empty.registerAll before).register usage).get? name =
              (empty.registerAll before).get? name) ∧
      ∀ others : List Usage, usages.Perm others →
        (∀ usage ∈ usages, others.find? (fun other => other.name = usage.name) =
          usages.find? (fun other => other.name = usage.name)) →
        (∀ name, (empty.registerAll usages).get? name = (empty.registerAll others).get? name) ∧
          ((usages.map Usage.name).eraseDups = (others.map Usage.name).eraseDups →
            empty.registerAll usages = empty.registerAll others) := by
  refine ⟨names_registerAll usages, fun name first rest => exists_isSumOf husages, ?_, ?_⟩
  · rintro before usage after rfl
    have hbefore : ∀ use ∈ before, use.type.wellFormed = true :=
      fun use hmem => husages use (List.mem_append_left _ hmem)
    have husage : ∀ use ∈ [usage], use.type.wellFormed = true := by
      intro use hmem
      rw [List.mem_singleton.mp hmem]
      exact husages usage (List.mem_append_right _ List.mem_cons_self)
    refine ⟨registerAll_extends (isWellFormed_registerAll hbefore) husage, fun name hname => ?_⟩
    rw [get?_register, if_neg hname]
  · intro others hperm hfirst
    have hget : ∀ name,
        (empty.registerAll usages).get? name = (empty.registerAll others).get? name := by
      intro name
      refine get?_registerAll_eq_of_find? husages hperm ?_
      cases huse : usages.find? fun usage => usage.name = name with
      | some usage =>
          have hname : usage.name = name := by simpa using List.find?_some huse
          rw [← huse, ← hname]
          exact hfirst usage (List.mem_of_find?_eq_some huse)
      | none =>
          rw [List.find?_eq_none] at huse ⊢
          exact fun usage hmem => huse usage (hperm.mem_iff.mpr hmem)
    refine ⟨hget, fun hnames => ?_⟩
    rw [← names_registerAll, ← names_registerAll] at hnames
    have hentries := Table.Distinct.eq_of_get? (nodup_names usages) hnames hget
    exact congrArg Registry.mk hentries

omit husages

/-- Uses of a variable at places of three depths, and a use of another one. -/
def mixedUsages : List Usage :=
  [⟨"v", .list (.named "Int"), false⟩, ⟨"w", .named "String", true⟩,
    ⟨"v", .list (.nonNull (.list (.named "Int"))), true⟩, ⟨"v", .nonNull (.named "Float"), false⟩]

/-- The later uses in another order. -/
def turnedMixedUsages : List Usage :=
  [⟨"v", .list (.named "Int"), false⟩, ⟨"v", .nonNull (.named "Float"), false⟩,
    ⟨"w", .named "String", true⟩, ⟨"v", .list (.nonNull (.list (.named "Int"))), true⟩]

theorem mixedUsages_closed_form :
    (∀ usage ∈ mixedUsages, usage.type.wellFormed = true) ∧
      (empty.registerAll mixedUsages).names = ["v", "w"] ∧
      (∃ type, (empty.registerAll mixedUsages).get? "v" = some type ∧
        type.IsSumOf ⟨"v", .list (.named "Int"), false⟩
          [⟨"v", .list (.nonNull (.list (.named "Int"))), true⟩,
            ⟨"v", .nonNull (.named "Float"), false⟩]) ∧
      (empty.registerAll mixedUsages).get? "v" =
        some (.nonNull (.list (.nonNull (.named "Int")))) ∧
      empty.registerAll mixedUsages = empty.registerAll turnedMixedUsages := by
  have husages : ∀ usage ∈ mixedUsages, usage.type.wellFormed = true := by decide
  obtain ⟨hnames, htypes, -, horder⟩ := registerAll_closed_form husages
  have hperm : mixedUsages.Perm turnedMixedUsages := by decide
  exact ⟨husages, hnames.trans (by decide), htypes "v" _ _ (by decide), by decide,
    (horder _ hperm (by decide)).2 (by decide)⟩

end Registry

end SelectionCompiler
