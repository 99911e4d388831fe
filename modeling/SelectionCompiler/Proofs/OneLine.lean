import SelectionCompiler.Proofs.Reading.Declarations
import SelectionCompiler.Proofs.Reading.Selections

/-!
# Texts of one line

Nothing in a document breaks its line.  Names and numbers are made of visible characters, strings
escape all control characters, and the characters in between are punctuators and blanks.
-/

namespace SelectionCompiler

namespace Text

/-- A character that is not shown, as a line break. -/
def isControl (c : Char) : Bool :=
  c.toNat < 0x20

/-- There are no control characters in a text, and so no line breaks. -/
def isOneLine (text : String) : Bool :=
  text.toList.all fun c => !isControl c

theorem isOneLine_append {first second : String} (hfirst : isOneLine first = true)
    (hsecond : isOneLine second = true) : isOneLine (first ++ second) = true := by
  unfold isOneLine at hfirst hsecond ⊢
  rw [String.toList_append, List.all_append, hfirst, hsecond]
  rfl

theorem isOneLine_commaSeparated : ∀ {parts : List String},
    (∀ part ∈ parts, isOneLine part = true) → isOneLine (commaSeparated parts) = true
  | [], _ => rfl
  | [part], hparts => hparts part List.mem_cons_self
  | part :: next :: rest, hparts => by
      obtain ⟨hpart, hrest⟩ := List.forall_mem_cons.mp hparts
      exact isOneLine_append (isOneLine_append hpart rfl) (isOneLine_commaSeparated hrest)

theorem isControl_of_isPart {c : Char} (hc : Name.isPart c = true) : isControl c = false := by
  have hall : ∀ n < 0x20, Name.isPart (Char.ofNat n) = false := by decide
  refine decide_eq_false fun hcontrol => ?_
  have hnot := hall c.toNat hcontrol
  rw [Char.ofNat_toNat, hc] at hnot
  cases hnot

theorem isOneLine_name {name : String} (hname : Name.isValid name = true) :
    isOneLine name = true := by
  obtain ⟨first, rest, hchars, hfirst, hrest⟩ := Executable.Token.exists_of_isValid hname
  have hpart : Name.isPart first = true := by
    unfold Name.isPart
    rw [hfirst, Bool.true_or]
  refine List.all_eq_true.mpr fun c hc => ?_
  rw [hchars] at hc
  rcases List.mem_cons.mp hc with rfl | hmem
  · rw [isControl_of_isPart hpart]
    rfl
  · rw [isControl_of_isPart (hrest c hmem)]
    rfl

theorem isOneLine_decimal (n : Int) : isOneLine (decimal n) = true := by
  have hall : (['-', '0', '1', '2', '3', '4', '5', '6', '7', '8', '9'].all
      fun d => !isControl d) = true := by decide
  obtain ⟨first, rest, hchars, hfirst, hrest⟩ := Executable.Token.exists_decimal n
  refine List.all_eq_true.mpr fun c hc => ?_
  rw [hchars] at hc
  refine List.all_eq_true.mp hall c (Executable.Token.mem_of_opensDecimal ?_)
  rcases List.mem_cons.mp hc with rfl | hmem
  · exact hfirst
  · exact Executable.Token.opensDecimal_of_isDigit (hrest c hmem)

theorem isControl_hexDigit : ∀ n < 16, isControl (hexDigit n) = false := by
  decide

theorem isControl_escapeChar (c : Char) : ((escapeChar c).all fun d => !isControl d) = true := by
  have hletters : (escapeLetters.all fun d => !isControl d) = true := by decide
  have hdigits : (['\\', 'u', '0', '0'].all fun d => !isControl d) = true := by decide
  rcases escapeChar_cases c with ⟨letter, hescape, hletter, _⟩ | ⟨hescape, hc⟩ |
    ⟨hescape, _, _, hshown⟩
  · have hshown := List.all_eq_true.mp hletters letter hletter
    rw [hescape, List.all_cons, List.all_cons, hshown]
    rfl
  · have hhigh := isControl_hexDigit (c.toNat / 16) (by omega)
    have hlow := isControl_hexDigit (c.toNat % 16) (by omega)
    simpa [hescape, hhigh, hlow] using hdigits
  · simpa [hescape, isControl] using hshown

theorem isOneLine_quoted (text : String) : isOneLine (quoted text) = true := by
  have hescaped : ((escaped text.toList).all fun d => !isControl d) = true := by
    unfold escaped
    rw [List.all_flatMap]
    exact List.all_eq_true.mpr fun c _ => isControl_escapeChar c
  have hquote : (!isControl '"') = true := by decide
  unfold isOneLine quoted
  rw [String.toList_ofList, List.cons_append, List.all_cons, List.all_append, hescaped, hquote]
  rfl

end Text

/-! ### Types and declarations -/

open Text

theorem TypeRef.isOneLine_text {type : TypeRef} (hname : Name.isValid type.baseName = true) :
    isOneLine type.text = true := by
  induction type with
  | list element ih => exact isOneLine_append (isOneLine_append rfl (ih hname)) rfl
  | nonNull inner ih => exact isOneLine_append (ih hname) rfl
  | named name => exact isOneLine_name hname

theorem VariableDefinition.IsWritable.isOneLine_text {definition : VariableDefinition}
    (hdefinition : definition.IsWritable) : isOneLine definition.text = true :=
  isOneLine_append (isOneLine_append (isOneLine_append rfl (isOneLine_name hdefinition.name)) rfl)
    (TypeRef.isOneLine_text hdefinition.type.baseName)

theorem Document.isOneLine_preamble {document : Document}
    (hdefinitions : ∀ definition ∈ document.definitions, definition.IsWritable) :
    isOneLine document.preamble = true := by
  unfold Document.preamble
  split
  · rfl
  · have hparts : ∀ part ∈ document.definitions.map VariableDefinition.text,
        isOneLine part = true := by
      intro part hpart
      obtain ⟨definition, hmem, rfl⟩ := List.mem_map.mp hpart
      exact (hdefinitions definition hmem).isOneLine_text
    exact isOneLine_append (isOneLine_append rfl (isOneLine_commaSeparated hparts)) rfl

/-! ### Values -/

namespace Value

theorem isOneLine_enum {path name : String}
    (hok : Finding.errors (enumFindings path name) = []) : isOneLine name = true := by
  have hname := Executable.isEnumValue_of_enumFindings hok
  simp only [Name.isEnumValue, Bool.and_eq_true] at hname
  exact isOneLine_name hname.1.1.1

mutual
theorem isOneLine_text {schema : Schema} {type : Option TypeRef} {path : String} :
    ∀ value : Value, value.isRegular = true →
      Finding.errors (value.findings schema type path) = [] →
      isOneLine (value.normal schema type).text = true
  | .variable ref, _, hok => by
      have hname : Name.isValid ref.name = true := Executable.isValid_of_variableFindings hok
      exact isOneLine_append rfl (isOneLine_name hname)
  | .null, _, _ => show isOneLine "null" = true from rfl
  | .boolean true, _, _ => show isOneLine "true" = true from rfl
  | .boolean false, _, _ => show isOneLine "false" = true from rfl
  | .int value, _, _ => isOneLine_decimal value
  | .enum _, _, hok => isOneLine_enum hok
  | .string value, _, hok => by
      unfold findings at hok
      unfold normal
      split
      · rename_i henum
        rw [if_pos henum] at hok
        exact isOneLine_enum hok
      · exact isOneLine_quoted value
  | .list items, hregular, hok =>
      isOneLine_append (isOneLine_append rfl
        (isOneLine_commaSeparated (isOneLine_itemTexts items hregular hok))) rfl
  | .object entries, hregular, hok => by
      simp only [findings, Finding.errors_append, List.append_eq_nil_iff] at hok
      exact isOneLine_append (isOneLine_append rfl
        (isOneLine_commaSeparated (isOneLine_entryTexts entries hregular hok.2))) rfl

theorem isOneLine_itemTexts {schema : Schema} {type : Option TypeRef} {path : String}
    {position : Nat} :
    ∀ items : List Value, itemsAreRegular items = true →
      Finding.errors (itemFindings schema type path position items) = [] →
      ∀ part ∈ itemTexts (normalItems schema type items), isOneLine part = true
  | [], _, _ => by simp [normalItems, itemTexts]
  | item :: rest, hregular, hok => by
      obtain ⟨hregular, hregulars⟩ := Bool.and_eq_true_iff.mp hregular
      obtain ⟨hok, hoks⟩ := List.append_eq_nil_iff.mp (Finding.errors_append ▸ hok)
      exact List.forall_mem_cons.mpr
        ⟨isOneLine_text item hregular hok, isOneLine_itemTexts rest hregulars hoks⟩

theorem isOneLine_entryTexts {schema : Schema} {scope : Scope} {missing : String → SchemaFault}
    {path : String} :
    ∀ entries : List (String × Value), entriesAreRegular entries = true →
      Finding.errors (entryFindings schema scope missing path entries) = [] →
      ∀ part ∈ entryTexts (normalEntries schema scope entries), isOneLine part = true
  | [], _, _ => by simp [normalEntries, entryTexts]
  | (key, value) :: rest, hregular, hok => by
      simp only [entriesAreRegular, Bool.and_eq_true] at hregular
      simp only [entryFindings, Finding.errors_append, List.append_eq_nil_iff] at hok
      exact List.forall_mem_cons.mpr
        ⟨isOneLine_append (isOneLine_append (isOneLine_name hregular.1.1) rfl)
          (isOneLine_text value hregular.1.2 hok.1.2), isOneLine_entryTexts rest hregular.2 hok.2⟩
end

end Value

/-! ### Selections -/

theorem Field.isOneLine_head {head : Field} (hregular : head.isRegular = true) :
    isOneLine (Compile.fieldHead head) = true := by
  simp only [Field.isRegular, Bool.and_eq_true] at hregular
  unfold Compile.fieldHead
  cases halias : head.aliasName with
  | none => exact isOneLine_name hregular.1.1
  | some aliasName =>
      rw [halias] at hregular
      exact isOneLine_append (isOneLine_append (isOneLine_name hregular.1.2) rfl)
        (isOneLine_name hregular.1.1)

theorem Field.isOneLine_argumentsText {schema : Schema} {parent : Option String} {path : String}
    {head : Field} (hregular : head.isRegular = true)
    (hok : Finding.errors (head.findings schema parent path) = []) :
    isOneLine (head.normal schema parent).argumentsText = true := by
  simp only [Field.isRegular, Bool.and_eq_true] at hregular
  unfold Field.argumentsText
  split
  · rfl
  · exact isOneLine_append (isOneLine_append rfl
      (isOneLine_commaSeparated (Value.isOneLine_entryTexts head.arguments hregular.2 hok))) rfl

namespace Selection

mutual
theorem isOneLine_text {schema : Schema} {parent : Option String} {path : String} :
    ∀ selection : Selection, selection.isRegular = true →
      Finding.errors (selection.findings schema parent path) = [] →
      isOneLine (selection.normal schema parent).text = true
  | .field head selections, hregular, hok => by
      obtain ⟨hhead, hselections⟩ := Bool.and_eq_true_iff.mp hregular
      simp only [findings, Finding.errors_append, List.append_eq_nil_iff] at hok
      have hset := isOneLine_setText selections hselections hok.2
      have hname : isOneLine (Compile.fieldHead (head.normal schema parent)) = true :=
        show isOneLine (Compile.fieldHead head) = true from Field.isOneLine_head hhead
      refine isOneLine_append
        (isOneLine_append hname (Field.isOneLine_argumentsText hhead hok.1)) ?_
      split
      · rfl
      · exact isOneLine_append (isOneLine_append rfl hset) rfl
  | .fragment typeCondition selections, hregular, hok => by
      simp only [isRegular, Bool.and_eq_true] at hregular
      have hset := isOneLine_setText selections hregular.2 hok
      have hopening : isOneLine ("... on " ++ typeCondition) = true :=
        isOneLine_append rfl (isOneLine_name hregular.1.1)
      exact isOneLine_append (isOneLine_append (isOneLine_append hopening rfl) hset) rfl
  | .unknown, _, _ => rfl

theorem isOneLine_setText {schema : Schema} {parent : Option String} {path : String} :
    ∀ selections : List Selection, areRegular selections = true →
      Finding.errors (setFindings schema parent path selections) = [] →
      isOneLine (setText (normalSet schema parent selections)) = true
  | [], _, _ => rfl
  | selection :: rest, hregular, hok => by
      obtain ⟨hregular, hregulars⟩ := Bool.and_eq_true_iff.mp hregular
      obtain ⟨hok, hoks⟩ := List.append_eq_nil_iff.mp (Finding.errors_append ▸ hok)
      exact isOneLine_append (isOneLine_text selection hregular hok)
        (isOneLine_setText rest hregulars hoks)
end

end Selection

/-- A document is a line of text if its name, its declarations and its body are. -/
theorem Document.isOneLine_text (document : Document)
    (hname : ∀ name ∈ document.name, Name.isValid name = true)
    (hdefinitions : ∀ definition ∈ document.definitions, definition.IsWritable)
    (hbody : isOneLine document.body = true) : isOneLine document.text = true := by
  have hkeyword : isOneLine document.kind.keyword = true := by
    cases document.kind <;> rfl
  have hnamed : isOneLine (document.name.getD "") = true := by
    cases hcase : document.name with
    | none => rfl
    | some name => exact isOneLine_name (hname name hcase)
  exact isOneLine_append (isOneLine_append (isOneLine_append (isOneLine_append hkeyword rfl) hnamed)
    (Document.isOneLine_preamble hdefinitions)) hbody

end SelectionCompiler
