import SelectionCompiler.Proofs.NormalForm
import SelectionCompiler.Proofs.Reading.Literals

/-!
# Reading values

The text of a value is read back up to the comma or the closing bracket behind it.  What comes back
is the normal form, since that is what the text shows.  The proof follows the value; a list and an
object are read part by part, with the commas between the parts skipped.
-/

namespace SelectionCompiler

namespace Value

mutual
/-- There are no floats in the value, and all keys of its objects are names. -/
def isRegular : Value → Bool
  | .float _ => false
  | .list items => itemsAreRegular items
  | .object entries => entriesAreRegular entries
  | _ => true

/-- All items of a list are regular. -/
def itemsAreRegular : List Value → Bool
  | [] => true
  | item :: rest => isRegular item && itemsAreRegular rest

/-- All keys are names, and all values are regular. -/
def entriesAreRegular : List (String × Value) → Bool
  | [] => true
  | (key, value) :: rest => Name.isValid key && isRegular value && entriesAreRegular rest
end

end Value

namespace Executable

open Token

/-! ### Continuations -/

/-- The end of the text, or a character that separates or closes values. -/
def endsValue (s : List Char) : Prop :=
  ∀ c ∈ s.head?, c ∈ [',', ')', ']', '\x7d']

variable {s rest : List Char} {c : Char}

theorem endsValue_nil : endsValue [] := by
  rintro _ ⟨⟩

theorem endsValue_cons (hc : c ∈ [',', ')', ']', '\x7d']) (s : List Char) : endsValue (c :: s) := by
  rintro _ ⟨⟩
  exact hc

theorem endsValue.endsName (hs : endsValue s) : endsName s := by
  have hall : ([',', ')', ']', '\x7d'].all fun c => !Name.isPart c) = true := by decide
  intro c hc
  simpa using List.all_eq_true.mp hall c (hs c hc)

theorem endsValue.endsDecimal (hs : endsValue s) : endsDecimal s := by
  intro c hc last
  have hclosers := hs c hc
  simp only [List.mem_cons, List.not_mem_nil, or_false] at hclosers
  rcases hclosers with rfl | rfl | rfl | rfl <;> rfl

theorem endsValue.endsString (hs : endsValue s) : endsString s := by
  intro hquote
  have hmem := hs '"' hquote
  revert hmem
  decide

theorem endsName_cons (hc : Name.isPart c = false) (s : List Char) : endsName (c :: s) := by
  rintro _ ⟨⟩
  exact hc

/-! ### Steps of the reader -/

variable {dialect : Dialect} {constant : Bool} {budget : Nat}

theorem readValue_of_isIgnored (hc : isIgnored c = true) (s : List Char) :
    readValue dialect constant budget (c :: s) = readValue dialect constant budget s := by
  cases budget with
  | zero => simp only [readValue]
  | succ budget => simp only [readValue, next?_of_isIgnored hc]

theorem readItems_of_isIgnored (hc : isIgnored c = true) (s : List Char) :
    readItems dialect constant budget (c :: s) = readItems dialect constant budget s := by
  cases budget with
  | zero => simp only [readItems]
  | succ budget =>
      simp only [readItems, takePunctuator_of_isIgnored hc, readValue_of_isIgnored hc]

theorem readEntries_of_isIgnored (hc : isIgnored c = true) (closing : Char) (s : List Char) :
    readEntries dialect constant closing budget (c :: s) =
      readEntries dialect constant closing budget s := by
  cases budget with
  | zero => simp only [readEntries]
  | succ budget =>
      simp only [readEntries, takePunctuator_of_isIgnored hc, takeName_of_isIgnored hc]

/-- Where a value can be read, no list ends. -/
theorem takePunctuator_of_readValue {found : Value × List Char}
    (hread : readValue dialect constant budget s = some found) :
    takePunctuator dialect ']' s = none := by
  cases budget with
  | zero => simp [readValue] at hread
  | succ budget =>
      unfold takePunctuator
      split
      · rename_i p behind hnext
        have hp : p ≠ ']' := by
          rintro rfl
          simp [readValue, hnext] at hread
        rw [if_neg hp]
      · rfl

theorem readItems_close (s : List Char) :
    readItems dialect constant (budget + 1) (']' :: s) = some ([], s) := by
  rw [readItems, takePunctuator_cons (by decide)]

theorem readItems_cons {item : Value} {items : List Value} {behind : List Char}
    (hitem : readValue dialect constant budget s = some (item, rest))
    (hitems : readItems dialect constant budget rest = some (items, behind)) :
    readItems dialect constant (budget + 1) s = some (item :: items, behind) := by
  rw [readItems, takePunctuator_of_readValue hitem]
  simp only [hitem, hitems, Option.bind_eq_bind, Option.bind_some]

theorem readEntries_close {closing : Char} (hclosing : isPunctuator closing = true)
    (s : List Char) :
    readEntries dialect constant closing (budget + 1) (closing :: s) = some ([], s) := by
  rw [readEntries, takePunctuator_cons hclosing]

theorem readEntries_cons {key : String} {value : Value} {entries : List (String × Value)}
    {closing : Char} {behind : List Char} (hkey : Name.isValid key = true)
    (hvalue : readValue dialect constant budget s = some (value, rest))
    (hentries : readEntries dialect constant closing budget rest = some (entries, behind)) :
    readEntries dialect constant closing (budget + 1) (key.toList ++ ':' :: s) =
      some ((key, value) :: entries, behind) := by
  have hends : endsName (':' :: s) := endsName_cons (by decide) s
  rw [readEntries, takePunctuator_name hkey hends]
  simp only [takeName_name hkey hends, takePunctuator_cons (c := ':') (by decide), hvalue, hentries,
    Option.bind_eq_bind, Option.bind_some]

/-! ### Values -/

theorem isEnumValue_of_enumFindings {path name : String}
    (hok : Finding.errors (Value.enumFindings path name) = []) : Name.isEnumValue name = true := by
  unfold Value.enumFindings at hok
  by_contra hname
  rw [if_neg hname] at hok
  cases hok

theorem isValid_of_variableFindings {type : Option TypeRef} {path : String} {ref : VariableRef}
    (hok : Finding.errors (Value.variableFindings type path ref) = []) :
    Name.isValid ref.name = true := by
  unfold Value.variableFindings at hok
  by_contra hname
  rw [if_neg hname] at hok
  cases hok

theorem readValue_name (name : String) (hname : Name.isValid name = true) (hs : endsValue s) :
    readValue dialect constant (budget + 1) (name.toList ++ s) = some (nameValue name, s) := by
  simp only [readValue, next?_name hname hs.endsName]

theorem readValue_enum {path name : String}
    (hok : Finding.errors (Value.enumFindings path name) = []) (hs : endsValue s) :
    readValue dialect constant (budget + 1) (name.toList ++ s) = some (.enum name, s) := by
  have hname := isEnumValue_of_enumFindings hok
  simp only [Name.isEnumValue, Bool.and_eq_true, bne_iff_ne] at hname
  obtain ⟨⟨⟨hvalid, htrue⟩, hfalse⟩, hnull⟩ := hname
  rw [readValue_name name hvalid hs, nameValue, if_neg htrue, if_neg hfalse, if_neg hnull]

theorem readValue_variable {name : String} (hname : Name.isValid name = true) (hs : endsValue s) :
    readValue dialect false (budget + 1) ('$' :: (name.toList ++ s)) =
      some (.variable ⟨name, false⟩, s) := by
  simp [readValue, next?_punctuator (c := '$') (by decide), takeName_name hname hs.endsName]

theorem readValue_list {items : List Value}
    (hitems : readItems dialect constant budget s = some (items, rest)) :
    readValue dialect constant (budget + 1) ('[' :: s) = some (.list items, rest) := by
  simp [readValue, next?_punctuator (c := '[') (by decide), hitems]

theorem readValue_object {entries : List (String × Value)}
    (hentries : readEntries dialect constant '\x7d' budget s = some (entries, rest)) :
    readValue dialect constant (budget + 1) ('\x7b' :: s) = some (.object entries, rest) := by
  simp [readValue, next?_punctuator (c := '\x7b') (by decide), hentries]

end Executable

namespace Value

open Executable

mutual
/-- A value without violations is read back from its text. -/
theorem readValue_text {schema : Schema} {type : Option TypeRef} {path : String} :
    ∀ value : Value, value.isRegular = true →
      Finding.errors (value.findings schema type path) = [] →
      ∀ (budget : Nat) {s : List Char},
      3 * (value.normal schema type).text.toList.length + 1 ≤ budget → endsValue s →
      readValue .standard false budget ((value.normal schema type).text.toList ++ s) =
        some (value.normal schema type, s)
  | .variable ref, _, hok, budget + 1, s, _, hs => by
      simp only [normal, text, String.toList_append]
      exact readValue_variable (isValid_of_variableFindings hok) hs
  | .null, _, _, budget + 1, s, _, hs => readValue_name "null" (by decide) hs
  | .boolean true, _, _, budget + 1, s, _, hs => readValue_name "true" (by decide) hs
  | .boolean false, _, _, budget + 1, s, _, hs => readValue_name "false" (by decide) hs
  | .int value, _, _, budget + 1, s, _, hs => by
      simp only [normal, text, readValue, Token.next?_decimal value hs.endsDecimal]
  | .enum name, _, hok, budget + 1, s, _, hs => readValue_enum hok hs
  | .string value, _, hok, budget + 1, s, _, hs => by
      unfold findings at hok
      unfold normal
      split
      · rename_i henum
        rw [if_pos henum] at hok
        exact readValue_enum hok hs
      · simp only [text, readValue, Token.next?_quoted value hs.endsString]
  | .list items, hregular, hok, budget + 1, s, hbudget, _ => by
      simp only [normal, text, String.toList_append, List.length_append] at hbudget
      have hitems := readItems_itemTexts items hregular hok budget (s := s)
        (by simp at hbudget; omega)
      simpa [normal, text] using readValue_list hitems
  | .object entries, hregular, hok, budget + 1, s, hbudget, _ => by
      simp only [findings, Finding.errors_append, List.append_eq_nil_iff] at hok
      simp only [normal, text, String.toList_append, List.length_append] at hbudget
      have hentries := readEntries_entryTexts '\x7d' (by decide) (by decide) entries hregular hok.2
        budget (s := s) (by simp at hbudget; omega)
      simpa [normal, text] using readValue_object hentries

/-- The items of a list without violations are read back from their texts. -/
theorem readItems_itemTexts {schema : Schema} {type : Option TypeRef} {path : String}
    {position : Nat} :
    ∀ items : List Value, itemsAreRegular items = true →
      Finding.errors (itemFindings schema type path position items) = [] →
      ∀ (budget : Nat) {s : List Char},
      3 * (Text.commaSeparated (itemTexts (normalItems schema type items))).toList.length + 2 ≤
        budget →
      readItems .standard false budget
          ((Text.commaSeparated (itemTexts (normalItems schema type items))).toList ++ ']' :: s) =
        some (normalItems schema type items, s)
  | [], _, _, budget + 1, s, _ => readItems_close s
  | [item], hregular, hok, budget + 2, s, hbudget => by
      simp only [itemsAreRegular, Bool.and_true] at hregular
      simp only [itemFindings, List.append_nil] at hok
      simp only [normalItems, itemTexts, Text.commaSeparated] at hbudget ⊢
      have hitem := readValue_text item hregular hok (budget + 1) (s := ']' :: s) (by omega)
        (endsValue_cons (by decide) s)
      exact readItems_cons hitem (readItems_close s)
  | item :: next :: rest, hregular, hok, budget + 1, s, hbudget => by
      -- The comma ends the first item and is skipped in front of the next one.
      have htexts :
          Text.commaSeparated (itemTexts (normalItems schema type (item :: next :: rest))) =
          (normal schema type item).text ++ "," ++
            Text.commaSeparated (itemTexts (normalItems schema type (next :: rest))) := rfl
      obtain ⟨hregular, hregulars⟩ := Bool.and_eq_true_iff.mp hregular
      obtain ⟨hok, hoks⟩ := List.append_eq_nil_iff.mp (Finding.errors_append ▸ hok)
      rw [htexts] at hbudget ⊢
      simp only [String.toList_append, List.length_append, List.append_assoc] at hbudget ⊢
      have hitem := readValue_text item hregular hok budget
        (s := ',' :: ((Text.commaSeparated
          (itemTexts (normalItems schema type (next :: rest)))).toList ++ ']' :: s))
        (by omega) (endsValue_cons (by decide) _)
      have hitems := readItems_itemTexts (next :: rest) hregulars hoks budget (s := s)
        (by simp at hbudget ⊢; omega)
      refine readItems_cons hitem ?_
      rw [readItems_of_isIgnored (by decide), hitems]

/-- Entries without violations are read back from their texts. -/
theorem readEntries_entryTexts {schema : Schema} {scope : Scope} {missing : String → SchemaFault}
    {path : String} (closing : Char) (hclosing : Token.isPunctuator closing = true)
    (hends : closing ∈ [',', ')', ']', '\x7d']) :
    ∀ entries : List (String × Value), entriesAreRegular entries = true →
      Finding.errors (entryFindings schema scope missing path entries) = [] →
      ∀ (budget : Nat) {s : List Char},
      3 * (Text.commaSeparated (entryTexts (normalEntries schema scope entries))).toList.length +
        2 ≤ budget →
      readEntries .standard false closing budget
          ((Text.commaSeparated (entryTexts (normalEntries schema scope entries))).toList ++
            closing :: s) =
        some (normalEntries schema scope entries, s)
  | [], _, _, budget + 1, s, _ => readEntries_close hclosing s
  | [(key, value)], hregular, hok, budget + 2, s, hbudget => by
      simp only [entriesAreRegular, Bool.and_true, Bool.and_eq_true] at hregular
      simp only [entryFindings, List.append_nil, Finding.errors_append,
        List.append_eq_nil_iff] at hok
      simp only [normalEntries, entryTexts, Text.commaSeparated, String.toList_append,
        List.length_append, List.append_assoc] at hbudget ⊢
      have hvalue := readValue_text value hregular.2 hok.2 (budget + 1) (s := closing :: s)
        (by omega) (endsValue_cons hends s)
      exact readEntries_cons hregular.1 hvalue (readEntries_close hclosing s)
  | (key, value) :: next :: rest, hregular, hok, budget + 1, s, hbudget => by
      have htexts : Text.commaSeparated
            (entryTexts (normalEntries schema scope ((key, value) :: next :: rest))) =
          key ++ ":" ++ (normal schema (scope.type? key) value).text ++ "," ++
            Text.commaSeparated (entryTexts (normalEntries schema scope (next :: rest))) := rfl
      obtain ⟨hregular, hregulars⟩ := Bool.and_eq_true_iff.mp hregular
      obtain ⟨hkey, hregular⟩ := Bool.and_eq_true_iff.mp hregular
      obtain ⟨hok, hoks⟩ := List.append_eq_nil_iff.mp (Finding.errors_append ▸ hok)
      obtain ⟨_, hok⟩ := List.append_eq_nil_iff.mp (Finding.errors_append ▸ hok)
      rw [htexts] at hbudget ⊢
      simp only [String.toList_append, List.length_append, List.append_assoc] at hbudget ⊢
      have hvalue := readValue_text value hregular hok budget
        (s := ',' :: ((Text.commaSeparated
          (entryTexts (normalEntries schema scope (next :: rest)))).toList ++ closing :: s))
        (by omega) (endsValue_cons (by decide) _)
      have hentries := readEntries_entryTexts closing hclosing hends (next :: rest) hregulars hoks
        budget (s := s) (by simp at hbudget ⊢; omega)
      refine readEntries_cons hkey hvalue ?_
      rw [readEntries_of_isIgnored (by decide), hentries]
end

end Value

end SelectionCompiler
