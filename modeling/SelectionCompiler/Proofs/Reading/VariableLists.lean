import SelectionCompiler.Document.Json
import SelectionCompiler.Proofs.Json.ReadBack
import SelectionCompiler.Proofs.Reading.Declarations
import SelectionCompiler.Proofs.Reading.Types

/-!
# Two lists of the variables

A document lists its variables in parentheses in front of its body, and the JSON form of its
declarations lists them again.  Read without any knowledge of what a name or a type is, both say the
same: the name of each variable in order, and the text of its type.
-/

namespace SelectionCompiler

/-! ### Lists in parentheses -/

theorem Text.toList_commaSeparated_eq_intercalate (parts : List String) :
    (commaSeparated parts).toList = [','].intercalate (parts.map String.toList) := by
  induction parts with
  | nil => rfl
  | cons part rest ih =>
      cases rest with
      | nil => simp [commaSeparated]
      | cons next others =>
          rw [commaSeparated, String.toList_append, String.toList_append, ih]
          simp [List.intercalate_cons_cons]

theorem Text.mem_of_mem_commaSeparated {parts : List String} {c : Char}
    (hc : c ∈ (commaSeparated parts).toList) : c = ',' ∨ ∃ part ∈ parts, c ∈ part.toList := by
  induction parts with
  | nil => cases hc
  | cons part rest ih =>
      cases rest with
      | nil => exact Or.inr ⟨part, List.mem_singleton.mpr rfl, hc⟩
      | cons next others =>
          rw [commaSeparated, String.toList_append, String.toList_append] at hc
          rcases List.mem_append.mp hc with hfront | hbehind
          · rcases List.mem_append.mp hfront with hpart | hcomma
            · exact Or.inr ⟨part, List.mem_cons_self, hpart⟩
            · exact Or.inl (List.mem_singleton.mp hcomma)
          · rcases ih hbehind with hcomma | ⟨other, hother, hmem⟩
            · exact Or.inl hcomma
            · exact Or.inr ⟨other, List.mem_cons_of_mem part hother, hmem⟩

theorem Name.not_mem_of_not_isPart {name : String} (hname : isValid name = true) {c : Char}
    (hpart : isPart c = false) : c ∉ name.toList := by
  intro hmem
  have hmember := isPart_of_mem hname c hmem
  rw [hpart] at hmember
  cases hmember

namespace TypeRef

/-- A type is written with the characters of its name, brackets and exclamation marks. -/
theorem not_mem_text {type : TypeRef} (htype : type.IsWritable) {c : Char}
    (hpart : Name.isPart c = false) (hmark : c ∉ ['[', ']', '!']) : c ∉ type.text.toList := by
  obtain ⟨hopening, hclosing, hmarker⟩ : c ≠ '[' ∧ c ≠ ']' ∧ c ≠ '!' := by simpa using hmark
  induction type with
  | named name => exact Name.not_mem_of_not_isPart htype.baseName hpart
  | list element ih =>
      have helement := ih ⟨htype.wellFormed, htype.baseName⟩
      simp [text, hopening, hclosing, helement]
  | nonNull inner ih =>
      have hinner := ih ⟨(Bool.and_eq_true_iff.mp htype.wellFormed).2, htype.baseName⟩
      simp [text, hmarker, hinner]

end TypeRef

namespace VariableDefinition

/-- What a list of variables says of a variable. -/
def entry (definition : VariableDefinition) : String × String :=
  (definition.name, definition.type.text)

/-- Takes the dollar sign off a declaration and cuts it at its colon. -/
def entryOfText (chars : List Char) : String × String :=
  (String.ofList (chars.tail.takeWhile (· != ':')),
    String.ofList (chars.tail.dropWhile (· != ':')).tail)

/-- The variables of a list in parentheses. -/
def entriesOfText (list : String) : List (String × String) :=
  if list = "" then []
  else (list.toList.tail.dropLast.splitOn ',').map entryOfText

theorem entryOfText_text {definition : VariableDefinition}
    (hdefinition : definition.IsWritable) :
    entryOfText definition.text.toList = definition.entry := by
  have hchars : definition.text.toList.tail =
      definition.name.toList ++ ':' :: definition.type.text.toList := by
    simp [VariableDefinition.text]
  have hname : ∀ c ∈ definition.name.toList, (c != ':') = true := by
    intro c hc
    exact bne_iff_ne.mpr (Name.isPart_spec (Name.isPart_of_mem hdefinition.name c hc)).2.2.2.2.2
  obtain ⟨htake, hdrop⟩ := Executable.Token.cut_append
    (s := ':' :: definition.type.text.toList) hname (by simp)
  rw [entryOfText, hchars, htake, hdrop, List.tail_cons, String.ofList_toList,
    String.ofList_toList, entry]

/-- A declaration is written with a dollar sign and a colon beside its name and its type. -/
theorem not_mem_text {definition : VariableDefinition} (hdefinition : definition.IsWritable)
    {c : Char} (hpart : Name.isPart c = false) (hmark : c ∉ ['$', ':', '[', ']', '!']) :
    c ∉ definition.text.toList := by
  obtain ⟨hdollar, hcolon, hmarks⟩ : c ≠ '$' ∧ c ≠ ':' ∧ c ∉ ['[', ']', '!'] := by
    simpa using hmark
  have htype := TypeRef.not_mem_text hdefinition.type hpart hmarks
  have hname := Name.not_mem_of_not_isPart hdefinition.name hpart
  simp [VariableDefinition.text, hdollar, hcolon, hname, htype]

/-- The list in front of the body names the variables of the document with their types. -/
theorem entriesOfText_preamble {document : Document}
    (hwritable : ∀ definition ∈ document.definitions, definition.IsWritable) :
    entriesOfText document.preamble = document.definitions.map entry := by
  unfold Document.preamble
  cases hdefinitions : document.definitions with
  | nil => rfl
  | cons definition rest =>
      rw [hdefinitions] at hwritable
      have hsplit : ((Text.commaSeparated ((definition :: rest).map text)).toList.splitOn ',') =
          (definition :: rest).map fun definition => definition.text.toList := by
        rw [Text.toList_commaSeparated_eq_intercalate, List.map_map]
        refine List.splitOn_intercalate ',' ?_ (by simp)
        intro chars hchars
        obtain ⟨known, hknown, rfl⟩ := List.mem_map.mp hchars
        exact not_mem_text (hwritable known hknown) (by decide) (by decide)
      have hlist : ("(" ++ Text.commaSeparated ((definition :: rest).map text) ++
          ")").toList.tail.dropLast =
            (Text.commaSeparated ((definition :: rest).map text)).toList := by
        simp
      have hne : "(" ++ Text.commaSeparated ((definition :: rest).map text) ++ ")" ≠ "" := by
        intro hempty
        have hchars := congrArg String.toList hempty
        simp at hchars
      rw [if_neg (by simp), entriesOfText, if_neg hne, hlist, hsplit, List.map_map]
      refine List.map_congr_left fun known hknown => ?_
      exact entryOfText_text (hwritable known hknown)

/-! ### Lists in printed operations -/

theorem brace_not_mem_preamble {document : Document}
    (hwritable : ∀ definition ∈ document.definitions, definition.IsWritable) :
    '\x7b' ∉ document.preamble.toList := by
  have hlist : '\x7b' ∉ (Text.commaSeparated (document.definitions.map text)).toList := by
    intro hbrace
    rcases Text.mem_of_mem_commaSeparated hbrace with hcomma | ⟨part, hpart, hmem⟩
    · cases hcomma
    · obtain ⟨definition, hdefinition, rfl⟩ := List.mem_map.mp hpart
      exact not_mem_text (hwritable definition hdefinition) (by decide) (by decide) hmem
  unfold Document.preamble
  split
  · simp
  · simp [hlist]

/-- The variables of the list between the opening words of a text and its first brace. -/
def entriesBehind (opening text : String) : List (String × String) :=
  entriesOfText (String.ofList
    ((text.toList.drop opening.toList.length).takeWhile (· != '\x7b')))

/-- The variables of a document can be read off its text, though nothing but the opening words is
known of the text. -/
theorem entriesBehind_append {document : Document}
    (hwritable : ∀ definition ∈ document.definitions, definition.IsWritable)
    (opening rest : String) :
    entriesBehind opening (opening ++ document.preamble ++ "\x7b" ++ rest) =
      document.definitions.map entry := by
  have hbehind : (opening ++ document.preamble ++ "\x7b" ++ rest).toList.drop
      opening.toList.length = document.preamble.toList ++ '\x7b' :: rest.toList := by
    simp
  have hinside : ∀ c ∈ document.preamble.toList, (c != '\x7b') = true := by
    intro c hc
    apply bne_iff_ne.mpr
    rintro rfl
    exact brace_not_mem_preamble hwritable hc
  obtain ⟨htake, -⟩ := Executable.Token.cut_append (s := '\x7b' :: rest.toList) hinside (by simp)
  rw [entriesBehind, hbehind, htake, String.ofList_toList, entriesOfText_preamble hwritable]

/-! ### Lists in JSON -/

/-- A record of a name and a type. -/
def entryOfJson? : Json → Option (String × String)
  | .object [(nameKey, .string name), (typeKey, .string type)] =>
      if nameKey = "name" ∧ typeKey = "type" then some (name, type) else none
  | _ => none

/-- The variables of an array of records. -/
def entriesOfJson? : Json → Option (List (String × String))
  | .array items => items.mapM entryOfJson?
  | _ => none

theorem entriesOfJson?_listToJson (definitions : List VariableDefinition) :
    entriesOfJson? (listToJson definitions) = some (definitions.map entry) := by
  rw [listToJson, entriesOfJson?, List.mapM_map]
  induction definitions with
  | nil => rfl
  | cons definition rest ih =>
      have hentry : (entryOfJson? ∘ toJson) definition = some definition.entry := rfl
      rw [List.mapM_cons, hentry]
      simp [ih]

theorem isExact_listToJson (definitions : List VariableDefinition) :
    (listToJson definitions).IsExact := by
  refine .array fun item hitem => ?_
  obtain ⟨definition, -, rfl⟩ := List.mem_map.mp hitem
  refine .object fun entry hentry => ?_
  simp only [List.mem_cons, List.not_mem_nil, or_false] at hentry
  rcases hentry with rfl | rfl
  · exact .string definition.name
  · exact .string definition.type.text

/-- A text that shows the declarations in JSON names the variables with their types. -/
theorem entriesOfJson?_of_shows {text : String} {definitions : List VariableDefinition}
    (hshows : Json.Shows text (listToJson definitions)) :
    (Json.ofText? text).bind entriesOfJson? = some (definitions.map entry) := by
  rw [hshows.ofText?_eq (isExact_listToJson definitions), Option.bind_some,
    entriesOfJson?_listToJson]

end VariableDefinition

end SelectionCompiler
