import SelectionCompiler.Json.Decode
import SelectionCompiler.Proofs.Json.Spacing

/-!
# JSON texts are read back

The text of a value is read back as the value, in either layout, with blanks around it and whatever
may follow.  Doubles are left out, since a double need not be read back as the same one, and so are
whole numbers that would be taken for doubles.

The reader recurses on a budget of three for each character of the text.  A value needs one for
itself and two more before its first item is read; an item needs one or two more than its value, and
it stands behind at least one other character.
-/

namespace SelectionCompiler

namespace Json

/-- Everything in the value is read back as it is. -/
inductive IsExact : Json → Prop where
  | null : IsExact .null
  | bool (value : Bool) : IsExact (.bool value)
  | integer {value : Int} (hwhole : IsWhole value) : IsExact (.integer value)
  | string (value : String) : IsExact (.string value)
  | array {items : List Json} (hitems : ∀ item ∈ items, IsExact item) : IsExact (.array items)
  | object {entries : List (String × Json)} (hentries : ∀ entry ∈ entries, IsExact entry.2) :
      IsExact (.object entries)

/-! ### Blanks -/

theorem skipSpace_append {blanks : List Char} (hblanks : ∀ c ∈ blanks, isSpace c = true)
    (s : List Char) : skipSpace (blanks ++ s) = skipSpace s :=
  List.dropWhile_append_of_pos hblanks

theorem skipSpace_cons {c : Char} (hc : isSpace c = false) (s : List Char) :
    skipSpace (c :: s) = c :: s :=
  List.dropWhile_cons_of_neg (by simp [hc])

theorem skipSpace_blanks {blanks : List Char} (hblanks : ∀ c ∈ blanks, isSpace c = true) :
    skipSpace blanks = [] :=
  List.dropWhile_eq_nil_iff.mpr hblanks

/-! ### Where numbers end -/

/-- What may stand behind a value. -/
def closers : List Char :=
  [' ', '\n', '\t', '\r', ',', ']', '\x7d']

theorem endsNumber_cons {c : Char} (hc : c ∈ closers) (s : List Char) : EndsNumber (c :: s) := by
  have hall : (closers.all fun d => !d.isDigit && d != '.' && d != 'e' && d != 'E') = true := by
    decide
  intro d hd
  rw [← Option.some.inj hd]
  simpa [and_assoc] using List.all_eq_true.mp hall c hc

theorem mem_closers_of_isSpace {c : Char} (hc : isSpace c = true) : c ∈ closers := by
  have hcases : c = ' ' ∨ c = '\n' ∨ c = '\t' ∨ c = '\r' := by
    simpa [isSpace, or_assoc] using hc
  rcases hcases with rfl | rfl | rfl | rfl <;> decide

theorem endsNumber_append {blanks s : List Char} (hblanks : ∀ c ∈ blanks, isSpace c = true)
    (hs : EndsNumber s) : EndsNumber (blanks ++ s) := by
  cases blanks with
  | nil => exact hs
  | cons c rest => exact endsNumber_cons (mem_closers_of_isSpace (hblanks c (by simp))) (rest ++ s)

variable {spacing : Spacing} {level budget : Nat} {s : List Char}

theorem endsNumber_moreItems (spacing : Spacing) (level : Nat) (items : List Json)
    (s : List Char) :
    EndsNumber (moreItems spacing level items ++ s) := by
  cases items with
  | nil =>
      rw [moreItems, List.append_assoc]
      exact endsNumber_append (spacing.isSpace_line level) (endsNumber_cons (by decide) s)
  | cons item rest => exact endsNumber_cons (by decide) _

theorem endsNumber_moreEntries (spacing : Spacing) (level : Nat) (entries : List (String × Json))
    (s : List Char) :
    EndsNumber (moreEntries spacing level entries ++ s) := by
  cases entries with
  | nil =>
      rw [moreEntries, List.append_assoc]
      exact endsNumber_append (spacing.isSpace_line level) (endsNumber_cons (by decide) s)
  | cons entry rest => exact endsNumber_cons (by decide) _

/-! ### Where values start -/

/-- What decides that a character opens a number and nothing else. -/
theorem opensDecimal_spec {c : Char} (hc : Executable.Token.opensDecimal c = true) :
    isSpace c = false ∧ c ≠ ']' ∧ c ≠ 'n' ∧ c ≠ 't' ∧ c ≠ 'f' ∧ c ≠ '"' ∧ c ≠ '[' ∧ c ≠ '\x7b' := by
  have hall : (['-', '0', '1', '2', '3', '4', '5', '6', '7', '8', '9'].all fun d =>
      !isSpace d && d != ']' && d != 'n' && d != 't' && d != 'f' && d != '"' && d != '[' &&
        d != '\x7b') = true := by decide
  simpa [and_assoc] using
    List.all_eq_true.mp hall c (Executable.Token.mem_of_opensDecimal hc)

theorem toList_quoted (text : String) :
    (Text.quoted text).toList = '"' :: (Text.escaped text.toList ++ ['"']) := by
  simp [Text.quoted]

/-- A value starts with a character that is no blank and closes no array. -/
theorem exists_written (spacing : Spacing) (level : Nat) {json : Json} (hjson : json.IsExact) :
    ∃ c rest, written spacing level json = c :: rest ∧ isSpace c = false ∧ c ≠ ']' := by
  cases hjson with
  | null => exact ⟨'n', _, rfl, by decide, by decide⟩
  | bool value =>
      cases value with
      | false => exact ⟨'f', _, rfl, by decide, by decide⟩
      | true => exact ⟨'t', _, rfl, by decide, by decide⟩
  | @integer value hwhole =>
      obtain ⟨first, rest, hchars, hfirst, -⟩ := Executable.Token.exists_decimal value
      have hspec := opensDecimal_spec hfirst
      exact ⟨first, rest, hchars, hspec.1, hspec.2.1⟩
  | string value => exact ⟨'"', _, toList_quoted value, by decide, by decide⟩
  | @array items hitems =>
      cases items with
      | nil => exact ⟨'[', _, rfl, by decide, by decide⟩
      | cons item rest => exact ⟨'[', _, rfl, by decide, by decide⟩
  | @object entries hentries =>
      cases entries with
      | nil => exact ⟨'\x7b', _, rfl, by decide, by decide⟩
      | cons entry rest => exact ⟨'\x7b', _, rfl, by decide, by decide⟩

/-! ### Steps of the reader -/

theorem readValue_append {blanks : List Char} (hblanks : ∀ c ∈ blanks, isSpace c = true) :
    readValue budget (blanks ++ s) = readValue budget s := by
  cases budget with
  | zero => simp only [readValue]
  | succ budget => simp only [readValue, skipSpace_append hblanks]

theorem readArray_append {blanks : List Char} (hblanks : ∀ c ∈ blanks, isSpace c = true) :
    readArray budget (blanks ++ s) = readArray budget s := by
  cases budget with
  | zero => simp only [readArray]
  | succ budget => simp only [readArray, skipSpace_append hblanks]

theorem readObject_append {blanks : List Char} (hblanks : ∀ c ∈ blanks, isSpace c = true) :
    readObject budget (blanks ++ s) = readObject budget s := by
  cases budget with
  | zero => simp only [readObject]
  | succ budget => simp only [readObject, skipSpace_append hblanks]

/-! ### Leaves -/

theorem readValue_decimal {n : Int} (hn : IsWhole n) (hs : EndsNumber s) :
    readValue (budget + 1) ((Text.decimal n).toList ++ s) = (.integer n, some s) := by
  obtain ⟨first, rest, hchars, hfirst, -⟩ := Executable.Token.exists_decimal n
  obtain ⟨hspace, -, hnull, htrue, hfalse, hquote, hbracket, hbrace⟩ := opensDecimal_spec hfirst
  have hopens : (first = '-' || first.isDigit) = true := hfirst
  have hread := readNumber_decimal hn hs
  rw [hchars, List.cons_append] at hread ⊢
  rw [readValue, skipSpace_cons hspace]
  simp only [hnull, htrue, hfalse, hquote, hbracket, hbrace, hopens, if_true, if_false, hread]

theorem readValue_quoted (text : String) (s : List Char) :
    readValue (budget + 1) ((Text.quoted text).toList ++ s) = (.string text, some s) := by
  have hchars : (Text.quoted text).toList ++ s =
      '"' :: (Text.escaped text.toList ++ '"' :: s) := by
    simp [Text.quoted]
  rw [hchars, readValue, skipSpace_cons (by decide)]
  exact readString_escaped text s

theorem readValue_null (s : List Char) :
    readValue (budget + 1) ('n' :: 'u' :: 'l' :: 'l' :: s) = (.null, some s) := by
  rw [readValue, skipSpace_cons (by decide)]
  exact readWord_append ['u', 'l', 'l'] .null s

theorem readValue_true (s : List Char) :
    readValue (budget + 1) ('t' :: 'r' :: 'u' :: 'e' :: s) = (.bool true, some s) := by
  rw [readValue, skipSpace_cons (by decide)]
  exact readWord_append ['r', 'u', 'e'] (.bool true) s

theorem readValue_false (s : List Char) :
    readValue (budget + 1) ('f' :: 'a' :: 'l' :: 's' :: 'e' :: s) = (.bool false, some s) := by
  rw [readValue, skipSpace_cons (by decide)]
  exact readWord_append ['a', 'l', 's', 'e'] (.bool false) s

/-! ### Arrays -/

theorem readValue_bracket (s : List Char) :
    readValue (budget + 1) ('[' :: s) = readArray budget s := by
  rw [readValue, skipSpace_cons (by decide)]
  rfl

theorem readArray_cons {c : Char} (hc : isSpace c = false) (hbracket : c ≠ ']') (s : List Char) :
    readArray (budget + 1) (c :: s) =
      match readItems budget (c :: s) with
      | (items, ending, rest) => (.array items ending, rest) := by
  rw [readArray, skipSpace_cons hc]
  split
  · contradiction
  · rename_i heq
    exact absurd (List.cons.inj heq).1 hbracket
  · rfl

/-- An item with the closing bracket behind it. -/
theorem readItems_close {draft : Draft} {rest behind : List Char}
    (hread : readValue budget s = (draft, some rest)) (hrest : skipSpace rest = ']' :: behind) :
    readItems (budget + 1) s = ([draft], .closed, some behind) := by
  rw [readItems, hread]
  simp only [hrest]

/-- An item with a comma and another item behind it. -/
theorem readItems_comma {draft : Draft} {rest behind next : List Char} {c : Char}
    (hread : readValue budget s = (draft, some rest)) (hrest : skipSpace rest = ',' :: behind)
    (hbehind : skipSpace behind = c :: next) (hc : c ≠ ']') :
    readItems (budget + 1) s =
      match readItems budget (c :: next) with
      | (items, ending, last) => (draft :: items, ending, last) := by
  rw [readItems, hread]
  simp only [hrest, hbehind]
  split
  · contradiction
  · rename_i heq
    exact absurd (List.cons.inj heq).1 hc
  · rfl

/-! ### Objects -/

theorem readValue_brace (s : List Char) :
    readValue (budget + 1) ('\x7b' :: s) = readObject budget s := by
  rw [readValue, skipSpace_cons (by decide)]
  rfl

theorem readObject_quote (s : List Char) :
    readObject (budget + 1) ('"' :: s) =
      match readEntries budget s with
      | (entries, ending, rest) => (.object entries ending, rest) := by
  rw [readObject, skipSpace_cons (by decide)]
  rfl

theorem readEntries_escaped (key : String) (s : List Char) :
    readEntries (budget + 1) (Text.escaped key.toList ++ '"' :: s) =
      readEntriesAfter key budget s := by
  rw [readEntries, scanString_escaped]
  simp only [String.ofList_toList]

/-- An entry with the closing brace behind it. -/
theorem readEntriesAfter_close {key : String} {draft : Draft} {rest behind : List Char}
    (hread : readValue budget s = (draft, some rest)) (hrest : skipSpace rest = '\x7d' :: behind) :
    readEntriesAfter key (budget + 1) (':' :: s) = ([(key, draft)], .closed, some behind) := by
  rw [readEntriesAfter, skipSpace_cons (by decide)]
  simp only [hread, hrest]

/-- An entry with a comma and another entry behind it. -/
theorem readEntriesAfter_comma {key : String} {draft : Draft} {rest behind next : List Char}
    (hread : readValue budget s = (draft, some rest)) (hrest : skipSpace rest = ',' :: behind)
    (hbehind : skipSpace behind = '"' :: next) :
    readEntriesAfter key (budget + 1) (':' :: s) =
      match readEntries budget next with
      | (entries, ending, last) => ((key, draft) :: entries, ending, last) := by
  rw [readEntriesAfter, skipSpace_cons (by decide)]
  simp only [hread, hrest, hbehind]

/-! ### Values -/

/-- The budget of a value is not used up before it is entered. -/
theorem exists_budget {json : Json} (hjson : json.IsExact)
    (hbudget : 3 * (written spacing level json).length ≤ budget) : ∃ left, budget = left + 3 := by
  obtain ⟨c, rest, hchars, -⟩ := exists_written spacing level hjson
  rw [hchars, List.length_cons] at hbudget
  exact Nat.exists_eq_add_of_le' (by omega)

mutual
/-- A value is read back from its characters. -/
theorem readValue_written : ∀ (json : Json), json.IsExact → ∀ (level budget : Nat) {s : List Char},
    EndsNumber s → 3 * (written spacing level json).length ≤ budget →
    readValue budget (written spacing level json ++ s) = (Draft.ofJson json, some s)
  | .null, hjson, _, budget, s, _, hbudget => by
      obtain ⟨left, rfl⟩ := exists_budget hjson hbudget
      exact readValue_null s
  | .bool false, hjson, _, budget, s, _, hbudget => by
      obtain ⟨left, rfl⟩ := exists_budget hjson hbudget
      exact readValue_false s
  | .bool true, hjson, _, budget, s, _, hbudget => by
      obtain ⟨left, rfl⟩ := exists_budget hjson hbudget
      exact readValue_true s
  | .integer n, hjson, _, budget, s, hs, hbudget => by
      obtain ⟨left, rfl⟩ := exists_budget hjson hbudget
      cases hjson with
      | integer hwhole => exact readValue_decimal hwhole hs
  | .float x, hjson, _, budget, s, _, _ => by cases hjson
  | .string text, hjson, _, budget, s, _, hbudget => by
      obtain ⟨left, rfl⟩ := exists_budget hjson hbudget
      exact readValue_quoted text s
  | .array [], hjson, _, budget, s, _, hbudget => by
      obtain ⟨left, rfl⟩ := exists_budget hjson hbudget
      rw [written, List.cons_append, readValue_bracket]
      rfl
  | .array (item :: rest), hjson, level, budget, s, _, hbudget => by
      obtain ⟨left, rfl⟩ := exists_budget hjson hbudget
      cases hjson with
      | array hexact =>
          obtain ⟨hitem, hrest⟩ := List.forall_mem_cons.mp hexact
          simp only [written, List.length_cons, List.length_append] at hbudget
          have hread := readValue_written item hitem (level + 1) left
            (endsNumber_moreItems spacing level rest s) (by omega)
          have hitems := readItems_more rest hrest level left hread (by omega)
          obtain ⟨c, behind, hchars, hspace, hbracket⟩ := exists_written spacing (level + 1) hitem
          rw [hchars, List.cons_append] at hitems
          simp only [written, List.cons_append, List.append_assoc, hchars]
          rw [readValue_bracket, readArray_append (spacing.isSpace_line (level + 1)),
            readArray_cons hspace hbracket, hitems]
          rfl
  | .object [], hjson, _, budget, s, _, hbudget => by
      obtain ⟨left, rfl⟩ := exists_budget hjson hbudget
      rw [written, List.cons_append, readValue_brace]
      rfl
  | .object ((key, value) :: rest), hjson, level, budget, s, _, hbudget => by
      obtain ⟨left, rfl⟩ := exists_budget hjson hbudget
      cases hjson with
      | object hexact =>
          obtain ⟨hvalue, hrest⟩ := List.forall_mem_cons.mp hexact
          simp only [written, toList_quoted, List.length_cons, List.length_append] at hbudget
          obtain ⟨left, rfl⟩ := Nat.exists_eq_add_of_le' (m := 1) (n := left) (by omega)
          have hread := readValue_written value hvalue (level + 1) left
            (endsNumber_moreEntries spacing level rest s) (by omega)
          rw [← readValue_append spacing.isSpace_colon] at hread
          have hentries := readEntriesAfter_more rest hrest level left key hread (by omega)
          simp only [written, List.cons_append, List.append_assoc, toList_quoted, List.nil_append]
          rw [readValue_brace, readObject_append (spacing.isSpace_line (level + 1)),
            readObject_quote, readEntries_escaped, hentries]
          rfl

theorem readItems_more : ∀ (rest : List Json), (∀ item ∈ rest, item.IsExact) →
    ∀ (level budget : Nat) {draft : Draft} {first s : List Char},
    readValue budget first = (draft, some (moreItems spacing level rest ++ s)) →
    3 * (moreItems spacing level rest).length ≤ budget →
    readItems (budget + 1) first = (draft :: Draft.ofItems rest, .closed, some s)
  | [], _, level, budget, draft, first, s, hread, _ => by
      refine readItems_close hread ?_
      rw [moreItems, List.append_assoc, skipSpace_append (spacing.isSpace_line level)]
      exact skipSpace_cons (by decide) s
  | item :: rest, hexact, level, budget, draft, first, s, hread, hbudget => by
      obtain ⟨hitem, hrest⟩ := List.forall_mem_cons.mp hexact
      simp only [moreItems, List.length_cons, List.length_append] at hbudget
      simp only [moreItems, List.cons_append, List.append_assoc] at hread
      obtain ⟨left, rfl⟩ := Nat.exists_eq_add_of_le' (m := 1) (n := budget) (by omega)
      have hnext := readValue_written item hitem (level + 1) left
        (endsNumber_moreItems spacing level rest s) (by omega)
      have hitems := readItems_more rest hrest level left hnext (by omega)
      obtain ⟨c, behind, hchars, hspace, hbracket⟩ := exists_written spacing (level + 1) hitem
      rw [hchars, List.cons_append] at hread hitems
      rw [readItems_comma hread (skipSpace_cons (by decide) _)
        ((skipSpace_append (spacing.isSpace_line (level + 1)) _).trans (skipSpace_cons hspace _))
        hbracket, hitems]
      rfl

theorem readEntriesAfter_more : ∀ (rest : List (String × Json)),
    (∀ entry ∈ rest, entry.2.IsExact) →
    ∀ (level budget : Nat) (key : String) {draft : Draft} {first s : List Char},
    readValue budget first = (draft, some (moreEntries spacing level rest ++ s)) →
    3 * (moreEntries spacing level rest).length ≤ budget →
    readEntriesAfter key (budget + 1) (':' :: first) =
      ((key, draft) :: Draft.ofEntries rest, .closed, some s)
  | [], _, level, budget, key, draft, first, s, hread, _ => by
      refine readEntriesAfter_close hread ?_
      rw [moreEntries, List.append_assoc, skipSpace_append (spacing.isSpace_line level)]
      exact skipSpace_cons (by decide) s
  | (next, value) :: rest, hexact, level, budget, key, draft, first, s, hread, hbudget => by
      obtain ⟨hvalue, hrest⟩ := List.forall_mem_cons.mp hexact
      simp only [moreEntries, toList_quoted, List.length_cons, List.length_append] at hbudget
      simp only [moreEntries, toList_quoted, List.cons_append, List.append_assoc,
        List.nil_append] at hread
      obtain ⟨left, rfl⟩ := Nat.exists_eq_add_of_le' (m := 2) (n := budget) (by omega)
      have hnext := readValue_written value hvalue (level + 1) left
        (endsNumber_moreEntries spacing level rest s) (by omega)
      rw [← readValue_append spacing.isSpace_colon] at hnext
      have hentries := readEntriesAfter_more rest hrest level left next hnext (by omega)
      rw [readEntriesAfter_comma hread (skipSpace_cons (by decide) _)
        ((skipSpace_append (spacing.isSpace_line (level + 1)) _).trans
          (skipSpace_cons (by decide) _)), readEntries_escaped, hentries]
      rfl
end

/-! ### Texts -/

/-- The text is the value in some layout, with blanks behind it. -/
def Shows (text : String) (json : Json) : Prop :=
  ∃ spacing level blanks, text.toList = written spacing level json ++ blanks ∧
    ∀ c ∈ blanks, isSpace c = true

theorem shows_text (json : Json) : Shows json.text json :=
  ⟨.compact, 0, [], by rw [toList_text 0 json, List.append_nil], by simp⟩

theorem shows_prettyText (json : Json) : Shows json.prettyText json :=
  ⟨.pretty, 0, [], by rw [prettyText, toList_indented 0 json, List.append_nil], by simp⟩

theorem Shows.append_line {text : String} {json : Json} (hshows : Shows text json) :
    Shows (text ++ "\n") json := by
  obtain ⟨spacing, level, blanks, htext, hblanks⟩ := hshows
  refine ⟨spacing, level, blanks ++ ['\n'], by simp [htext], ?_⟩
  intro c hc
  rcases List.mem_append.mp hc with hold | hline
  · exact hblanks c hold
  · rw [List.mem_singleton.mp hline]
    rfl

theorem Shows.source_eq {text : String} {json : Json} (hshows : Shows text json)
    (hjson : json.IsExact) :
    Source.ofText text = ⟨(Draft.ofJson json).limit Draft.maxLevels, false⟩ := by
  obtain ⟨spacing, level, blanks, htext, hblanks⟩ := hshows
  have hend : EndsNumber blanks := by
    have hnil : EndsNumber [] := by
      intro c hc
      cases hc
    simpa using endsNumber_append hblanks hnil
  have hread : readValue (3 * text.toList.length + 3) text.toList =
      (Draft.ofJson json, some blanks) := by
    rw [htext]
    refine readValue_written json hjson level _ hend ?_
    rw [List.length_append]
    omega
  simp only [Source.ofText, hread, skipSpace_blanks hblanks, List.isEmpty_nil, Bool.not_true]

/-! ### Nesting -/

mutual
/-- How deeply arrays and objects are nested. -/
def levels : Json → Nat
  | .array items => itemLevels items + 1
  | .object entries => entryLevels entries + 1
  | _ => 0

/-- How deeply arrays and objects are nested in the items of an array. -/
def itemLevels : List Json → Nat
  | [] => 0
  | item :: rest => max (levels item) (itemLevels rest)

/-- How deeply arrays and objects are nested in the values of an object. -/
def entryLevels : List (String × Json) → Nat
  | [] => 0
  | (_, value) :: rest => max (levels value) (entryLevels rest)
end

theorem levels_array_le {items : List Json} {limit : Nat}
    (hitems : ∀ item ∈ items, item.levels ≤ limit) : (Json.array items).levels ≤ limit + 1 := by
  rw [levels, Nat.add_le_add_iff_right]
  induction items with
  | nil => exact Nat.zero_le limit
  | cons item rest ih =>
      obtain ⟨hitem, hrest⟩ := List.forall_mem_cons.mp hitems
      exact Nat.max_le.mpr ⟨hitem, ih hrest⟩

theorem levels_object_le {entries : List (String × Json)} {limit : Nat}
    (hentries : ∀ entry ∈ entries, entry.2.levels ≤ limit) :
    (Json.object entries).levels ≤ limit + 1 := by
  rw [levels, Nat.add_le_add_iff_right]
  induction entries with
  | nil => exact Nat.zero_le limit
  | cons entry rest ih =>
      obtain ⟨hentry, hrest⟩ := List.forall_mem_cons.mp hentries
      exact Nat.max_le.mpr ⟨hentry, ih hrest⟩

namespace Draft

mutual
/-- A value that is not nested too deeply has no marks in its draft. -/
theorem limit_ofJson : ∀ (json : Json) {limit : Nat}, json.levels ≤ limit →
    (ofJson json).limit limit = ofJson json
  | .null, _, _ => rfl
  | .bool _, _, _ => rfl
  | .integer _, _, _ => rfl
  | .float _, _, _ => rfl
  | .string _, _, _ => rfl
  | .array items, limit, hlevels => by
      rw [levels] at hlevels
      obtain ⟨inner, rfl⟩ := Nat.exists_eq_add_of_le' (m := 1) (n := limit) (by omega)
      rw [ofJson, Draft.limit, limitItems_ofItems items (by omega)]
  | .object entries, limit, hlevels => by
      rw [levels] at hlevels
      obtain ⟨inner, rfl⟩ := Nat.exists_eq_add_of_le' (m := 1) (n := limit) (by omega)
      rw [ofJson, Draft.limit, limitEntries_ofEntries entries (by omega)]

theorem limitItems_ofItems : ∀ (items : List Json) {limit : Nat}, itemLevels items ≤ limit →
    limitItems limit (ofItems items) = ofItems items
  | [], _, _ => rfl
  | item :: rest, limit, hlevels => by
      rw [itemLevels, Nat.max_le] at hlevels
      rw [ofItems, limitItems, limit_ofJson item hlevels.1, limitItems_ofItems rest hlevels.2]

theorem limitEntries_ofEntries : ∀ (entries : List (String × Json)) {limit : Nat},
    entryLevels entries ≤ limit → limitEntries limit (ofEntries entries) = ofEntries entries
  | [], _, _ => rfl
  | (key, value) :: rest, limit, hlevels => by
      rw [entryLevels, Nat.max_le] at hlevels
      rw [ofEntries, limitEntries, limit_ofJson value hlevels.1,
        limitEntries_ofEntries rest hlevels.2]
end

mutual
/-- The marks do not hide the value of a draft. -/
theorem toJson?_limit : ∀ (draft : Draft) (limit : Nat),
    (draft.limit limit).toJson? = draft.toJson?
  | .null, _ => rfl
  | .bool _, _ => rfl
  | .integer _, _ => rfl
  | .float _, _ => rfl
  | .string _, _ => rfl
  | .array _ _, 0 => by simp only [Draft.limit, toJson?]
  | .array items ending, limit + 1 => by
      cases ending <;> simp only [Draft.limit, toJson?, itemsToJson?_limitItems items limit]
  | .object _ _, 0 => by simp only [Draft.limit, toJson?]
  | .object entries ending, limit + 1 => by
      cases ending <;> simp only [Draft.limit, toJson?, entriesToJson?_limitEntries entries limit]
  | .keyless, 0 => by simp only [Draft.limit, toJson?]
  | .keyless, _ + 1 => rfl
  | .refused _, _ => rfl
  | .broken _, _ => rfl
  | .tooDeep _, _ => rfl

theorem itemsToJson?_limitItems : ∀ (items : List Draft) (limit : Nat),
    itemsToJson? (limitItems limit items) = itemsToJson? items
  | [], _ => rfl
  | item :: rest, limit => by
      rw [limitItems, itemsToJson?, itemsToJson?, toJson?_limit item limit,
        itemsToJson?_limitItems rest limit]

theorem entriesToJson?_limitEntries : ∀ (entries : List (String × Draft)) (limit : Nat),
    entriesToJson? (limitEntries limit entries) = entriesToJson? entries
  | [], _ => rfl
  | (key, value) :: rest, limit => by
      rw [limitEntries, entriesToJson?, entriesToJson?, toJson?_limit value limit,
        entriesToJson?_limitEntries rest limit]
end

mutual
theorem toJson?_ofJson : ∀ json : Json, (ofJson json).toJson? = some json
  | .null => rfl
  | .bool _ => rfl
  | .integer _ => rfl
  | .float _ => rfl
  | .string _ => rfl
  | .array items => by rw [ofJson, toJson?, itemsToJson?_ofItems items]; rfl
  | .object entries => by rw [ofJson, toJson?, entriesToJson?_ofEntries entries]; rfl

theorem itemsToJson?_ofItems : ∀ items : List Json, itemsToJson? (ofItems items) = some items
  | [] => rfl
  | item :: rest => by
      rw [ofItems, itemsToJson?, toJson?_ofJson item, itemsToJson?_ofItems rest]
      rfl

theorem entriesToJson?_ofEntries : ∀ entries : List (String × Json),
    entriesToJson? (ofEntries entries) = some entries
  | [] => rfl
  | (key, value) :: rest => by
      rw [ofEntries, entriesToJson?, toJson?_ofJson value, entriesToJson?_ofEntries rest]
      rfl
end

end Draft

/-- A text denotes the value that it shows, however deeply that is nested. -/
theorem Shows.ofText?_eq {text : String} {json : Json} (hshows : Shows text json)
    (hjson : json.IsExact) : ofText? text = some json := by
  unfold ofText?
  rw [hshows.source_eq hjson]
  simp only [Bool.false_eq_true, if_false]
  rw [Draft.toJson?_limit, Draft.toJson?_ofJson]

/-- What a decoder makes of the draft of a value it makes of the text, if the text is not nested too
deeply. -/
theorem Shows.decodeText_eq {α : Type} {text : String} {json : Json} {decoder : Draft → Decoded α}
    {value : α} (hshows : Shows text json) (hjson : json.IsExact)
    (hlevels : json.levels ≤ Draft.maxLevels) (hdecode : decoder (Draft.ofJson json) = .ok value) :
    decodeText decoder text = .ok value := by
  unfold decodeText Source.decode
  rw [hshows.source_eq hjson]
  simp only [Draft.limit_ofJson json hlevels, hdecode]
  rfl

end Json

end SelectionCompiler
