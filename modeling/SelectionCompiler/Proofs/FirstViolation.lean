import SelectionCompiler.Proofs.Walk

/-!
# The first violation decides

The violations of a tree are listed without any regard to the order in which the compiler makes its
checks.  The compiler stops early: of all violations it reports the one that comes first in the
document, and it reports none only if there is none.
-/

namespace SelectionCompiler.Compile

/-- An operation fails exactly with its first violation, and gives a document exactly if it has no
violations. -/
theorem operation_fails_with_first_violation (schema : Schema) (kind : OperationKind)
    (name : Option String) (selections : List Selection) :
    (∀ error, (operation schema kind name selections).1 = .error error ↔
        (schema.violations kind selections).head? = some error) ∧
      ((∃ document, (operation schema kind name selections).1 = .ok document) ↔
        schema.violations kind selections = []) := by
  constructor
  · intro error
    rw [(operation_spec schema kind name selections).1, Schema.violations]
    cases hviolations : Finding.errors (schema.findings kind selections) with
    | nil => simp [Finding.outcome_of_ok hviolations]
    | cons first others => simp [Finding.outcome_of_error hviolations]
  · constructor
    · rintro ⟨document, hdocument⟩
      exact ((operation_eq_ok_iff schema kind name selections).mp hdocument).1
    · intro hviolations
      exact ⟨_, (operation_eq_ok_iff schema kind name selections).mpr ⟨hviolations, rfl⟩⟩

/-- Of an argument that is not declared and a node of no known kind, the argument is reported, since
it comes first. -/
example :
    (operation Schema.empty .query none
      [.field ⟨"user", none, [("id", .int 1)], some []⟩ [.unknown], .unknown]).1 =
      .error (.schema "Query.user.id" (.undeclaredArgument "id" "user")) := by
  rfl

end SelectionCompiler.Compile
