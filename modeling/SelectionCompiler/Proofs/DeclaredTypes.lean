import SelectionCompiler.Proofs.Course
import SelectionCompiler.Proofs.Reading.VariableLists

/-!
# Declared types

Whatever the types of a snapshot look like, no declaration is made that the grammar cannot write:
not at the end of a compilation, not at any point on its way, and not where it fails.  So the types
of the variables of a document can be read from their texts, and it does not matter from which of
its two lists of variables they are taken.
-/

namespace SelectionCompiler

/-- The declarations of a document can be written. -/
theorem Compile.isWritable_of_mem_definitions {schema : Schema} {kind : OperationKind}
    {name : Option String} {selections : List Selection} {document : Document}
    (hdocument : (operation schema kind name selections).1 = .ok document) :
    ∀ definition ∈ document.definitions, definition.IsWritable := by
  obtain ⟨hok, rfl⟩ := (operation_eq_ok_iff schema kind name selections).mp hdocument
  have hregistry := Registry.isWritable_empty.registerAll fun usage husage =>
    Schema.isWritable_of_mem_usages hok husage
  exact hregistry.definitions (Registry.nodup_names _)

namespace Compile

/-- The sessions of a compilation lead from the start to its end, in a document or in an error, and
in each of them all declarations can be written.  Both lists of the variables of a document name the
same variables with the same texts of types, and a type is read back from its text. -/
theorem declarations_stay_writable (schema : Schema) (kind : OperationKind) (name : Option String)
    (selections : List Selection) :
    (Session.start.Before (operation schema kind name selections).2 ∧
      ∀ point : Session, Session.start.Before point →
        point.Before (operation schema kind name selections).2 →
        ∀ definition ∈ point.registry.definitions, definition.IsWritable) ∧
      ∀ document : Document, (operation schema kind name selections).1 = .ok document →
        VariableDefinition.entriesOfText document.preamble =
            document.definitions.map VariableDefinition.entry ∧
          (Json.ofText? (VariableDefinition.listToJson document.definitions).text).bind
              VariableDefinition.entriesOfJson? =
            some (document.definitions.map VariableDefinition.entry) ∧
          ∀ definition ∈ document.definitions,
            TypeRef.read definition.type.text = .ok definition.type := by
  have hleads := start_leads_operation schema kind name selections
  refine ⟨⟨hleads.before, fun point hstart hend => hleads.isWritable_of_before hstart hend⟩, ?_⟩
  intro document hdocument
  have hwritable := isWritable_of_mem_definitions hdocument
  refine ⟨VariableDefinition.entriesOfText_preamble hwritable, ?_, ?_⟩
  · exact VariableDefinition.entriesOfJson?_of_shows (Json.shows_text _)
  · intro definition hmem
    exact TypeRef.read_text (hwritable definition hmem).type

/-- A field with four arguments, of which the last one has a type that cannot be read. -/
def bookSchema : Schema :=
  Schema.empty.withFieldArguments "Query" "books"
    [("ids", " [ ID! ] "), ("after", "ID"), ("all", "[ID]!"), ("page", "Int!!")]

/-- One variable as an item of a list and on its own, and another one as a list. -/
def bookArguments : List (String × Value) :=
  [("ids", .list [.variable ⟨"id", false⟩]), ("after", .variable ⟨"id", true⟩),
    ("all", .variable ⟨"all", false⟩)]

/-- A field with the given arguments. -/
def bookTree (arguments : List (String × Value)) : List Selection :=
  [.field ⟨"books", none, arguments, none⟩ []]

/-- What the tree is compiled to. -/
def bookDocument : Document :=
  ⟨.query, none, [⟨"id", .nonNull (.named "ID")⟩, ⟨"all", .nonNull (.list (.named "ID"))⟩],
    "\x7bbooks(ids:[$id],after:$id,all:$all) \x7d"⟩

/-- With one more argument the compilation fails, and its session holds the same declarations. -/
theorem books_stay_writable :
    ((operation bookSchema .query none (bookTree bookArguments)).1 = .ok bookDocument ∧
      VariableDefinition.entriesOfText bookDocument.preamble = [("id", "ID!"), ("all", "[ID]!")] ∧
      ∀ definition ∈ bookDocument.definitions,
        TypeRef.read definition.type.text = .ok definition.type) ∧
      let failed := operation bookSchema .query none
        (bookTree (bookArguments ++ [("page", .variable ⟨"n", false⟩)]))
      failed.1 = .error (.schema "Query.books.page"
          (.invalidTypeRef "Int!!" (.invalidName "Int!!"))) ∧
        failed.2.registry.definitions = bookDocument.definitions ∧
        ∀ definition ∈ failed.2.registry.definitions, definition.IsWritable := by
  have hdocument : (operation bookSchema .query none (bookTree bookArguments)).1 =
      .ok bookDocument := by
    decide +kernel
  obtain ⟨-, hlists⟩ := declarations_stay_writable bookSchema .query none (bookTree bookArguments)
  obtain ⟨hpreamble, -, hread⟩ := hlists bookDocument hdocument
  obtain ⟨⟨hbefore, hpoints⟩, -⟩ := declarations_stay_writable bookSchema .query none
    (bookTree (bookArguments ++ [("page", .variable ⟨"n", false⟩)]))
  exact ⟨⟨hdocument, hpreamble, hread⟩, by decide +kernel, by decide +kernel,
    hpoints _ hbefore .refl⟩

end Compile

end SelectionCompiler
