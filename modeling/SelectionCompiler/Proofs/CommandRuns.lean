import SelectionCompiler.CommandLine
import SelectionCompiler.Proofs.DeclaredTypes
import SelectionCompiler.Proofs.StoredSchemas
import SelectionCompiler.Proofs.StoredTrees

/-!
# Runs of the command line

A run prints a text and a line break, or it fails with a message and prints nothing.  `query` and
`variables` go through the same stages: the two paths, the snapshot file, the selection file, and
the compilation.  They differ in what they print of the document.  The name of the operation comes
last and decides nothing but the name in the document.

What is printed can be compared without the document.  `query` prints a list of the variables
between the name and the first brace, and it is the list that `variables` prints in JSON.
-/

namespace SelectionCompiler

/-- The name is written to the document and decides nothing else. -/
theorem Compile.operation_rename (schema : Schema) (kind : OperationKind)
    (name other : Option String) (selections : List Selection) :
    (operation schema kind name selections).1 =
      (fun document => { document with name := name }) <$>
        (operation schema kind other selections).1 := by
  have hname := (operation_spec schema kind name selections).1
  have hother := (operation_spec schema kind other selections).1
  rw [hname, hother]
  cases herrors : Finding.errors (schema.findings kind selections) with
  | nil =>
      rw [Finding.outcome_of_ok herrors, Finding.outcome_of_ok herrors]
      rfl
  | cons error others =>
      rw [Finding.outcome_of_error herrors, Finding.outcome_of_error herrors]
      rfl

/-- A query shows its keyword and its name, its declarations, and a body that a brace opens. -/
theorem Compile.query_text {schema : Schema} {name : Option String} {selections : List Selection}
    {document : Document} (hdocument : (operation schema .query name selections).1 = .ok document) :
    document.text = "query " ++ name.getD "" ++ document.preamble ++ document.body ∧
      ∃ rest, document.body = "\x7b" ++ rest := by
  obtain ⟨-, rfl⟩ := (operation_eq_ok_iff schema .query name selections).mp hdocument
  refine ⟨rfl, Selection.setText (schema.normal .query selections) ++ "\x7d", ?_⟩
  exact String.append_assoc

/-- The variables of a query are listed behind its name, whatever stands behind its text. -/
theorem Compile.entriesBehind_query {schema : Schema} {name : Option String}
    {selections : List Selection} {document : Document}
    (hdocument : (operation schema .query name selections).1 = .ok document) (rest : String) :
    VariableDefinition.entriesBehind ("query " ++ name.getD "") (document.text ++ rest) =
      document.definitions.map VariableDefinition.entry := by
  -- The list is in front of the body, which starts with the first brace behind the name.
  obtain ⟨htext, inner, hbody⟩ := query_text hdocument
  have hopened : document.text ++ rest =
      "query " ++ name.getD "" ++ document.preamble ++ "\x7b" ++ (inner ++ rest) := by
    rw [htext, hbody]
    simp only [String.append_assoc]
  rw [hopened]
  exact VariableDefinition.entriesBehind_append (isWritable_of_mem_definitions hdocument) _ _

namespace CommandLine

/-! ### Stages -/

namespace Directory

variable (directory : Directory)

/-- The text under a path. -/
def text (path : String) : Except FileError String :=
  (directory.read path).bind textOfBytes

/-- The snapshot under a path. -/
def schema (path : String) : Except Failure Schema := do
  let text ← (directory.text path).mapError (.schemaFile path)
  (Schema.ofJsonText text).mapError .schemaText

/-- The tree under a path. -/
def selections (path : String) : Except Failure (List Selection) := do
  let text ← (directory.text path).mapError (.selectionFile path)
  (Selection.setOfJsonText text).mapError .selectionText

/-- The document that the arguments behind a command ask for. -/
def document (kind : OperationKind) : List String → Except Failure Document
  | schemaPath :: selectionPath :: more => do
      let schema ← directory.schema schemaPath
      let selections ← directory.selections selectionPath
      (Compile.operation schema kind more.head? selections).1.mapError .compilation
  | _ => .error .missingPaths

end Directory

/-- How a run ends. -/
def Outcome.of : Except Failure String → Outcome
  | .ok text => .success text
  | .error failure => .failure failure

section

variable (directory : Directory)

/-- Reads from the directory without any effect. -/
abbrev reader (path : String) : Id (Except FileError ByteArray) :=
  pure (directory.read path)

theorem loadSchema_run (path : String) :
    (loadSchema (reader directory) path).run = pure (directory.schema path) := by
  have hread : readText (reader directory) path = pure (directory.text path) := rfl
  simp only [loadSchema, Directory.schema, hread, ExceptT.run_bind, ExceptT.run_lift, map_pure,
    pure_bind]
  cases directory.text path with
  | error error => rfl
  | ok text =>
      cases hresult : Schema.ofJsonText text <;>
        · simp only [Except.mapError, bind, Except.bind, hresult]
          rfl

theorem loadSelections_run (path : String) :
    (loadSelections (reader directory) path).run = pure (directory.selections path) := by
  have hread : readText (reader directory) path = pure (directory.text path) := rfl
  simp only [loadSelections, Directory.selections, hread, ExceptT.run_bind, ExceptT.run_lift,
    map_pure, pure_bind]
  cases directory.text path with
  | error error => rfl
  | ok text =>
      cases hresult : Selection.setOfJsonText text <;>
        · simp only [Except.mapError, bind, Except.bind, hresult]
          rfl

theorem compileFiles_run (kind : OperationKind) (arguments : List String) :
    (compileFiles (reader directory) kind arguments).run =
      pure (directory.document kind arguments) := by
  match arguments with
  | [] => rfl
  | [_] => rfl
  | schemaPath :: selectionPath :: more =>
      simp only [compileFiles, Directory.document, ExceptT.run_bind, loadSchema_run,
        loadSelections_run, pure_bind]
      cases directory.schema schemaPath with
      | error failure => rfl
      | ok schema =>
          cases directory.selections selectionPath with
          | error failure => rfl
          | ok selections =>
              cases hresult : (Compile.operation schema kind more.head? selections).1 <;>
                · simp only [Except.mapError, bind, Except.bind, hresult]
                  rfl

theorem runIn_of_output {arguments : List String} {result : Except Failure String}
    (houtput : (output (reader directory) arguments).run = pure result) :
    runIn directory arguments = .of result := by
  unfold runIn run
  rw [houtput]
  cases result <;> rfl

theorem runIn_query (arguments : List String) :
    runIn directory ("query" :: arguments) =
      .of (Document.text <$> directory.document .query arguments) := by
  refine runIn_of_output directory ?_
  simp only [output, printDocument, if_true, ExceptT.run_bind, compileFiles_run, pure_bind]
  cases directory.document .query arguments <;> rfl

theorem runIn_variables (arguments : List String) :
    runIn directory ("variables" :: arguments) =
      .of ((fun document => (VariableDefinition.listToJson document.definitions).prettyText) <$>
        directory.document .query arguments) := by
  refine runIn_of_output directory ?_
  have hquery : "variables" ≠ "query" := by decide
  have hmutation : "variables" ≠ "mutation" := by decide
  simp only [output, printVariables, hquery, hmutation, if_true, if_false, ExceptT.run_bind,
    compileFiles_run, pure_bind]
  cases directory.document .query arguments <;> rfl

/-! ### Success and failure -/

namespace Outcome

/-- The run printed a text that ends in a line break, and no message. -/
structure IsSuccess (outcome : Outcome) : Prop where
  exitCode : outcome.exitCode = 0
  stderr : outcome.stderr = ""
  nonempty : outcome.stdout ≠ ""
  line : outcome.stdout.toList.getLast? = some '\n'

/-- The run printed a message, and nothing else. -/
structure IsFailure (outcome : Outcome) : Prop where
  exitCode : outcome.exitCode = 1
  stdout : outcome.stdout = ""
  stderr : outcome.stderr ≠ ""

theorem isSuccess_success (text : String) : (success text).IsSuccess where
  exitCode := rfl
  stderr := rfl
  nonempty := by
    intro hempty
    have hchars := congrArg String.toList hempty
    simp [success] at hchars
  line := by simp [success]

theorem isFailure_failure (failure : Failure) : (Outcome.failure failure).IsFailure where
  exitCode := rfl
  stdout := rfl
  stderr := by
    intro hempty
    have hchars := congrArg String.toList hempty
    simp [Outcome.failure] at hchars

theorem isSuccess_or_isFailure_of (result : Except Failure String) :
    (Outcome.of result).IsSuccess ∨ (Outcome.of result).IsFailure := by
  cases result with
  | ok text => exact .inl (isSuccess_success text)
  | error failure => exact .inr (isFailure_failure failure)

end Outcome

/-- Every run ends in one of the two ways. -/
theorem isSuccess_or_isFailure_runIn (arguments : List String) :
    (runIn directory arguments).IsSuccess ∨ (runIn directory arguments).IsFailure := by
  have hrun : runIn directory arguments = .of (output (reader directory) arguments).run :=
    runIn_of_output directory rfl
  rw [hrun]
  exact Outcome.isSuccess_or_isFailure_of _

/-! ### Documents -/

theorem eq_ok_of_mapError {ε δ α : Type} {result : Except ε α} {f : ε → δ} {a : α}
    (hok : result.mapError f = .ok a) : result = .ok a := by
  cases result with
  | error error => cases hok
  | ok found =>
      cases hok
      rfl

namespace Directory

/-- The name comes last and is only written to the document. -/
theorem document_rename (kind : OperationKind) (schemaPath selectionPath : String)
    (more others : List String) :
    directory.document kind (schemaPath :: selectionPath :: more) =
      (fun document => { document with name := more.head? }) <$>
        directory.document kind (schemaPath :: selectionPath :: others) := by
  simp only [document]
  cases directory.schema schemaPath with
  | error failure => rfl
  | ok schema =>
      cases directory.selections selectionPath with
      | error failure => rfl
      | ok selections =>
          show (Compile.operation schema kind more.head? selections).1.mapError
              Failure.compilation =
            (fun document => { document with name := more.head? }) <$>
              (Compile.operation schema kind others.head? selections).1.mapError
                Failure.compilation
          rw [Compile.operation_rename schema kind more.head? others.head?]
          cases (Compile.operation schema kind others.head? selections).1 <;> rfl

/-- The texts of the two files are those of a snapshot and of a tree. -/
structure Holds (schemaPath selectionPath : String) (schema : Schema)
    (selections : List Selection) : Prop where
  schema : ∃ text, directory.text schemaPath = .ok text ∧ Schema.ofJsonText text = .ok schema
  selections : ∃ text, directory.text selectionPath = .ok text ∧
    Selection.setOfJsonText text = .ok selections

variable {directory}

theorem exists_text_of_schema_eq_ok {path : String} {schema : Schema}
    (hschema : directory.schema path = .ok schema) :
    ∃ text, directory.text path = .ok text ∧ Schema.ofJsonText text = .ok schema := by
  obtain ⟨text, htext, hread⟩ := Json.exists_of_bind_eq_ok hschema
  exact ⟨text, eq_ok_of_mapError htext, eq_ok_of_mapError hread⟩

theorem exists_text_of_selections_eq_ok {path : String} {selections : List Selection}
    (hselections : directory.selections path = .ok selections) :
    ∃ text, directory.text path = .ok text ∧ Selection.setOfJsonText text = .ok selections := by
  obtain ⟨text, htext, hread⟩ := Json.exists_of_bind_eq_ok hselections
  exact ⟨text, eq_ok_of_mapError htext, eq_ok_of_mapError hread⟩

/-- A document is what the compilation of the two files ends in. -/
theorem exists_of_document_eq_ok {kind : OperationKind} {schemaPath selectionPath : String}
    {more : List String} {document : Document}
    (hdocument : directory.document kind (schemaPath :: selectionPath :: more) = .ok document) :
    ∃ schema selections, directory.Holds schemaPath selectionPath schema selections ∧
      (Compile.operation schema kind more.head? selections).1 = .ok document := by
  obtain ⟨schema, hschema, hrest⟩ := Json.exists_of_bind_eq_ok hdocument
  obtain ⟨selections, hselections, hresult⟩ := Json.exists_of_bind_eq_ok hrest
  exact ⟨schema, selections, ⟨exists_text_of_schema_eq_ok hschema,
    exists_text_of_selections_eq_ok hselections⟩, eq_ok_of_mapError hresult⟩

end Directory

end

/-- Every run succeeds with a text or fails with a message.  On the same two files `variables` and
`query` succeed together or fail with the same message, whatever name is asked for.  If they
succeed, `query` prints the document to which the operation compiles: the keyword and the name, the
declarations, the body, and a line break.  Behind the name it lists the variables of the document,
and `variables` prints an array that lists the same ones, in order and with the same texts of
types. -/
theorem commands_agree (directory : Directory) :
    (∀ arguments : List String,
      (runIn directory arguments).IsSuccess ∨ (runIn directory arguments).IsFailure) ∧
      ∀ (schemaPath selectionPath : String) (more others : List String),
        let listing := runIn directory ("variables" :: schemaPath :: selectionPath :: others)
        let query := runIn directory ("query" :: schemaPath :: selectionPath :: more)
        let opening := "query " ++ more.head?.getD ""
        (listing.exitCode = 0 ↔ query.exitCode = 0) ∧
          (query.exitCode ≠ 0 → listing.stderr = query.stderr) ∧
          (query.exitCode = 0 → ∃ schema selections document,
            directory.Holds schemaPath selectionPath schema selections ∧
              (Compile.operation schema .query more.head? selections).1 = .ok document ∧
              query.stdout = document.text ++ "\n" ∧
              query.stdout = opening ++ document.preamble ++ document.body ++ "\n" ∧
              VariableDefinition.entriesOfText document.preamble =
                document.definitions.map VariableDefinition.entry ∧
              VariableDefinition.entriesBehind opening query.stdout =
                document.definitions.map VariableDefinition.entry ∧
              (Json.ofText? listing.stdout).bind VariableDefinition.entriesOfJson? =
                some (VariableDefinition.entriesBehind opening query.stdout)) := by
  refine ⟨isSuccess_or_isFailure_runIn directory, ?_⟩
  intro schemaPath selectionPath more others listing query opening
  have hvariables := runIn_variables directory (schemaPath :: selectionPath :: others)
  have hquery := runIn_query directory (schemaPath :: selectionPath :: more)
  rw [directory.document_rename .query schemaPath selectionPath others more] at hvariables
  cases hresult : directory.document .query (schemaPath :: selectionPath :: more) with
  | error failure =>
      rw [hresult] at hvariables hquery
      have hsame : listing = .failure failure := hvariables
      have hfailed : query = .failure failure := hquery
      rw [hsame, hfailed]
      exact ⟨Iff.rfl, fun _ => rfl, fun hzero => by cases hzero⟩
  | ok document =>
      rw [hresult] at hvariables hquery
      have hlisted : listing =
          .success (VariableDefinition.listToJson document.definitions).prettyText := hvariables
      have hprinted : query = .success document.text := hquery
      obtain ⟨schema, selections, hholds, hdocument⟩ := Directory.exists_of_document_eq_ok hresult
      have hstdout : query.stdout = document.text ++ "\n" := by
        rw [hprinted]
        rfl
      have hbehind : VariableDefinition.entriesBehind opening query.stdout =
          document.definitions.map VariableDefinition.entry := by
        rw [hstdout]
        exact Compile.entriesBehind_query hdocument "\n"
      have hlist : (Json.ofText? listing.stdout).bind VariableDefinition.entriesOfJson? =
          some (document.definitions.map VariableDefinition.entry) := by
        rw [hlisted]
        exact VariableDefinition.entriesOfJson?_of_shows (Json.shows_prettyText _).append_line
      refine ⟨?_, ?_, fun _ => ⟨schema, selections, document, hholds, hdocument, hstdout, ?_,
        VariableDefinition.entriesOfText_preamble
          (Compile.isWritable_of_mem_definitions hdocument), hbehind, ?_⟩⟩
      · rw [hlisted, hprinted]
        exact Iff.rfl
      · intro hfailed
        rw [hprinted] at hfailed
        exact absurd rfl hfailed
      · rw [hstdout, (Compile.query_text hdocument).1]
      · rw [hbehind]
        exact hlist

theorem textOfBytes_toUTF8 (text : String) : textOfBytes text.toUTF8 = .ok text := by
  have hvalid : text.toUTF8.IsValidUTF8 := text.isValidUTF8
  unfold textOfBytes String.fromUTF8?
  rw [dif_pos hvalid]
  rfl

/-- A directory with a snapshot file and a selection file. -/
def twoFiles (schemaText selectionText : String) : Directory :=
  ⟨[("m", schemaText.toUTF8), ("s", selectionText.toUTF8)]⟩

theorem Directory.read_twoFiles (first second : ByteArray) :
    read ⟨[("m", first), ("s", second)]⟩ "m" = .ok first ∧
      read ⟨[("m", first), ("s", second)]⟩ "s" = .ok second := by
  have hsizes : ¬4095 < "m".utf8ByteSize ∧ ¬4095 < "s".utf8ByteSize := by decide
  have hfits : fits ['m'] = true ∧ fits ['s'] = true := by decide +kernel
  constructor <;>
    simp [read, splitPath, follow, file?, components, staysHere, has, hsizes, hfits, List.foldlM]

theorem document_twoFiles {schemaText selectionText : String} {schema : Schema}
    {selections : List Selection} (hschema : Schema.ofJsonText schemaText = .ok schema)
    (hselections : Selection.setOfJsonText selectionText = .ok selections) (kind : OperationKind)
    (more : List String) :
    (twoFiles schemaText selectionText).document kind ("m" :: "s" :: more) =
      (Compile.operation schema kind more.head? selections).1.mapError .compilation := by
  obtain ⟨hm, hs⟩ := Directory.read_twoFiles schemaText.toUTF8 selectionText.toUTF8
  have htext : (twoFiles schemaText selectionText).text "m" = .ok schemaText := by
    rw [Directory.text, twoFiles, hm]
    exact textOfBytes_toUTF8 schemaText
  have htext' : (twoFiles schemaText selectionText).text "s" = .ok selectionText := by
    rw [Directory.text, twoFiles, hs]
    exact textOfBytes_toUTF8 selectionText
  have hfirst : (twoFiles schemaText selectionText).schema "m" = .ok schema := by
    rw [Directory.schema, htext]
    show (Schema.ofJsonText schemaText).mapError Failure.schemaText = _
    rw [hschema]
    rfl
  have hsecond : (twoFiles schemaText selectionText).selections "s" = .ok selections := by
    rw [Directory.selections, htext']
    show (Selection.setOfJsonText selectionText).mapError Failure.selectionText = _
    rw [hselections]
    rfl
  rw [Directory.document, hfirst, hsecond]
  rfl

/-- A snapshot with the type of one argument. -/
def itemSchema : Schema :=
  Schema.empty.withFieldArguments "Query" "item" [("id", "ID")]

/-- A tree of one field whose argument is a variable. -/
def itemTree : List Selection :=
  [.field ⟨"item", none, [("id", .variable ⟨"v", false⟩)], none⟩ []]

/-- A directory in which the snapshot and the tree are stored. -/
def itemFiles : Directory :=
  twoFiles itemSchema.toJson.text (Selection.setToJson itemTree).text

/-- What is compiled from the two files. -/
def itemDocument : Document :=
  ⟨.query, some "Item", [⟨"v", .named "ID"⟩], "\x7bitem(id:$v) \x7d"⟩

theorem document_itemFiles :
    itemFiles.document .query ["m", "s", "Item"] = .ok itemDocument := by
  have htabular : itemSchema.IsTabular :=
    (Schema.isTabular_ofRoots "Query" "Mutation").add
      (.fieldArguments "Query" "item" [("id", "ID")])
  have hstorable : ∀ selection ∈ itemTree, selection.IsStorable := by
    intro selection hselection
    obtain rfl := List.mem_singleton.mp hselection
    refine .field ⟨by decide, ?_, by rintro _ ⟨⟩⟩ (by simp)
    intro entry hentry
    obtain rfl := List.mem_singleton.mp hentry
    exact .variable _
  have hoperation : (Compile.operation itemSchema .query (some "Item") itemTree).1 =
      .ok itemDocument := by
    decide +kernel
  have hselections := Selection.setOfJsonText_eq_ok hstorable (by decide) (.inl rfl)
  unfold itemFiles
  rw [document_twoFiles (Schema.ofJsonText_eq_ok htabular (.inl rfl)) hselections]
  show (Compile.operation itemSchema .query (some "Item") itemTree).1.mapError _ = _
  rw [hoperation]
  rfl

theorem item_commands_agree :
    runIn itemFiles ["query", "m", "s", "Item"] =
        ⟨0, "query Item($v:ID)\x7bitem(id:$v) \x7d\n", ""⟩ ∧
      (runIn itemFiles ["variables", "m", "s"]).exitCode = 0 ∧
      (Json.ofText? (runIn itemFiles ["variables", "m", "s"]).stdout).bind
          VariableDefinition.entriesOfJson? =
        some [("v", "ID")] := by
  have hquery : runIn itemFiles ["query", "m", "s", "Item"] =
      ⟨0, "query Item($v:ID)\x7bitem(id:$v) \x7d\n", ""⟩ := by
    rw [runIn_query, document_itemFiles]
    decide +kernel
  obtain ⟨hcodes, -, hsuccess⟩ := (commands_agree itemFiles).2 "m" "s" ["Item"] []
  rw [hquery] at hcodes hsuccess
  obtain ⟨-, -, -, -, -, -, -, -, -, hlist⟩ := hsuccess rfl
  exact ⟨hquery, hcodes.mpr rfl, hlist.trans (by decide +kernel)⟩

end CommandLine

end SelectionCompiler
