import SelectionCompiler.Proofs.Reading.Values
import SelectionCompiler.Proofs.WritableTypes

/-!
# Reading declarations

A type is read back from its text up to a character that is no exclamation mark, and a declaration
up to the dollar sign of the next one or the closing parenthesis.
-/

namespace SelectionCompiler

/-- The declaration that shows a variable. -/
def VariableDefinition.declaration (definition : VariableDefinition) : Executable.Declaration :=
  ⟨definition.name, definition.type, none⟩

/-- The grammar can write the name and the type of the declaration. -/
structure VariableDefinition.IsWritable (definition : VariableDefinition) : Prop where
  name : Name.isValid definition.name = true
  type : definition.type.IsWritable

theorem Registry.IsWritable.definitions {registry : Registry} (hregistry : registry.IsWritable)
    (hnodup : registry.names.Nodup) :
    ∀ definition ∈ registry.definitions, definition.IsWritable := by
  intro definition hmem
  have hwritable := hregistry _ _ (get?_of_mem_definitions hnodup hmem)
  exact ⟨hwritable.1, hwritable.2⟩

namespace Executable

open Token

variable {dialect : Dialect} {budget : Nat} {s rest : List Char} {c : Char}

/-! ### Types -/

theorem readType_named {name : String} (hname : Name.isValid name = true) (hs : endsName s) :
    readType dialect (budget + 1) (name.toList ++ s) =
      match takePunctuator dialect '!' s with
      | some rest => some (.nonNull (.named name), rest)
      | none => some (.named name, s) := by
  rw [readType, takePunctuator_name hname hs]
  simp only [takeName_name hname hs]
  rfl

theorem readType_list {element : TypeRef}
    (helement : readType dialect budget s = some (element, ']' :: rest)) :
    readType dialect (budget + 1) ('[' :: s) =
      match takePunctuator dialect '!' rest with
      | some behind => some (.nonNull (.list element), behind)
      | none => some (.list element, rest) := by
  rw [readType, takePunctuator_cons (by decide)]
  simp only [helement]
  rfl

/-- A type that can be written is read back from its text. -/
theorem readType_text : ∀ {type : TypeRef}, type.IsWritable → ∀ (budget : Nat) {s : List Char},
    type.text.toList.length + 1 ≤ budget → endsName s → takePunctuator dialect '!' s = none →
    readType dialect budget (type.text.toList ++ s) = some (type, s)
  | .named base, htype, budget + 1, s, _, hs, hmarker => by
      have hread : readType dialect (budget + 1) (base.toList ++ s) = _ :=
        readType_named htype.baseName hs
      rw [hmarker] at hread
      exact hread
  | .list element, htype, budget + 1, s, hbudget, _, hmarker => by
      have hwritable : element.IsWritable := ⟨htype.wellFormed, htype.baseName⟩
      have helement := readType_text hwritable budget (by simp [TypeRef.text] at hbudget ⊢; omega)
        (endsName_cons (c := ']') (by decide) s)
        (takePunctuator_cons_of_ne (by decide) (by decide) s)
      have hread := readType_list helement
      rw [hmarker] at hread
      simpa [TypeRef.text] using hread
  | .nonNull (.named base), htype, budget + 1, s, _, _, _ => by
      have hread : readType dialect (budget + 1) (base.toList ++ '!' :: s) = _ :=
        readType_named htype.baseName (endsName_cons (by decide) s)
      rw [takePunctuator_cons (by decide)] at hread
      simpa [TypeRef.text] using hread
  | .nonNull (.list element), htype, budget + 1, s, hbudget, _, _ => by
      have hwritable : element.IsWritable := ⟨htype.wellFormed, htype.baseName⟩
      have helement := readType_text hwritable budget (by simp [TypeRef.text] at hbudget ⊢; omega)
        (endsName_cons (c := ']') (by decide) ('!' :: s))
        (takePunctuator_cons_of_ne (by decide) (by decide) _)
      have hread := readType_list helement
      rw [takePunctuator_cons (by decide)] at hread
      simpa [TypeRef.text] using hread
  | .nonNull (.nonNull inner), htype, _, _, _, _, _ => by
      cases htype.wellFormed

/-! ### Declarations of variables -/

theorem readDeclarations_of_isIgnored (hc : isIgnored c = true) (s : List Char) :
    readDeclarations dialect budget (c :: s) = readDeclarations dialect budget s := by
  cases budget with
  | zero => simp only [readDeclarations]
  | succ budget => simp only [readDeclarations, takePunctuator_of_isIgnored hc]

theorem readDeclarations_close (s : List Char) :
    readDeclarations dialect (budget + 1) (')' :: s) = some ([], s) := by
  rw [readDeclarations, takePunctuator_cons (by decide)]

/-- Declarations start with a dollar sign, or a parenthesis closes them. -/
theorem takePunctuator_of_readDeclarations {found : List Declaration × List Char}
    (hread : readDeclarations dialect budget s = some found) (hdollar : '$' ≠ c)
    (hclosing : ')' ≠ c) : takePunctuator dialect c s = none := by
  have hother : ∀ {p rest}, takePunctuator dialect p s = some rest → p ≠ c →
      takePunctuator dialect c s = none := by
    intro p rest htake hp
    refine takePunctuator_eq_none ?_
    rw [ahead?_of_next?_punctuator (next?_of_takePunctuator htake)]
    exact fun h => hp (Option.some.inj h)
  cases budget with
  | zero => simp [readDeclarations] at hread
  | succ budget =>
      cases hclose : takePunctuator dialect ')' s with
      | some rest => exact hother hclose hclosing
      | none =>
          cases hopen : takePunctuator dialect '$' s with
          | some rest => exact hother hopen hdollar
          | none => simp [readDeclarations, hclose, hopen] at hread

theorem readDeclarations_cons {name : String} {type : TypeRef} {declarations : List Declaration}
    {behind : List Char} (hname : Name.isValid name = true)
    (htype : readType dialect budget s = some (type, rest))
    (hdefault : takePunctuator dialect '=' rest = none)
    (hdeclarations : readDeclarations dialect budget rest = some (declarations, behind)) :
    readDeclarations dialect (budget + 1) ('$' :: (name.toList ++ ':' :: s)) =
      some (⟨name, type, none⟩ :: declarations, behind) := by
  rw [readDeclarations, takePunctuator_cons_of_ne (by decide) (by decide)]
  simp only [takePunctuator_cons (c := '$') (by decide), takePunctuator_cons (c := ':') (by decide),
    takeName_name hname (endsName_cons (c := ':') (by decide) s), htype, hdefault, hdeclarations,
    Option.bind_eq_bind, Option.bind_some]

/-- Declarations that can be written are read back from their texts. -/
theorem readDeclarations_texts : ∀ {definitions : List VariableDefinition},
    (∀ definition ∈ definitions, definition.IsWritable) → ∀ (budget : Nat) {s : List Char},
    (Text.commaSeparated (definitions.map VariableDefinition.text)).toList.length + 2 ≤ budget →
    readDeclarations dialect budget
        ((Text.commaSeparated (definitions.map VariableDefinition.text)).toList ++ ')' :: s) =
      some (definitions.map VariableDefinition.declaration, s)
  | [], _, budget + 1, s, _ => readDeclarations_close s
  | [definition], hwritable, budget + 2, s, hbudget => by
      obtain ⟨hname, htype⟩ := hwritable definition List.mem_cons_self
      simp only [List.map_cons, List.map_nil, Text.commaSeparated, VariableDefinition.text,
        String.toList_append, List.length_append] at hbudget
      have hread : readType dialect (budget + 1) (definition.type.text.toList ++ ')' :: s) = _ :=
        readType_text htype (budget + 1) (by simp at hbudget ⊢; omega)
          (endsName_cons (by decide) s) (takePunctuator_cons_of_ne (by decide) (by decide) s)
      have hall := readDeclarations_cons hname hread
        (takePunctuator_cons_of_ne (by decide) (by decide) s) (readDeclarations_close s)
      simpa [Text.commaSeparated, VariableDefinition.text, VariableDefinition.declaration]
        using hall
  | definition :: next :: others, hwritable, budget + 1, s, hbudget => by
      obtain ⟨hdefinition, hothers⟩ := List.forall_mem_cons.mp hwritable
      have htexts : Text.commaSeparated
            ((definition :: next :: others).map VariableDefinition.text) =
          "$" ++ definition.name ++ ":" ++ definition.type.text ++ "," ++
            Text.commaSeparated ((next :: others).map VariableDefinition.text) := rfl
      rw [htexts] at hbudget ⊢
      simp only [String.toList_append, List.length_append, List.append_assoc] at hbudget ⊢
      -- Since the others can be read, the type in front of them is not followed by a marker.
      have hdeclarations := readDeclarations_texts hothers budget (s := s)
        (by simp at hbudget ⊢; omega)
      rw [← readDeclarations_of_isIgnored (c := ',') (by decide)] at hdeclarations
      have hread := readType_text hdefinition.type budget (by simp at hbudget ⊢; omega)
        (endsName_cons (by decide) _)
        (takePunctuator_of_readDeclarations hdeclarations (by decide) (by decide))
      exact readDeclarations_cons hdefinition.name hread
        (takePunctuator_of_readDeclarations hdeclarations (by decide) (by decide)) hdeclarations

end Executable

end SelectionCompiler
