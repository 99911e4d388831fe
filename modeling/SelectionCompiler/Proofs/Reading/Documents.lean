import SelectionCompiler.Proofs.OneLine
import SelectionCompiler.Proofs.Walk

/-!
# Reading documents

The text of a document is read back as one operation of the same kind and name, with the same
declarations and with the normal form of the tree it was compiled from.  The name and the
declarations may both be absent; the blank behind the keyword is then skipped in front of the body.
-/

namespace SelectionCompiler

/-- The keyword that opens an operation of the kind. -/
def OperationKind.executable : OperationKind → Executable.Keyword
  | .query => .query
  | .mutation => .mutation

namespace Executable

open Token

variable {dialect : Dialect} {budget : Nat} {s t rest : List Char}

/-! ### Parts of an operation -/

theorem takeName_punctuator {p : Char} (hp : isPunctuator p = true) (s : List Char) :
    takeName dialect (p :: s) = none := by
  unfold takeName
  rw [next?_punctuator hp]

/-- Declarations are read whether or not a blank stands in front of them, and what is left still has
the body as its next token. -/
theorem readPreamble_text {document : Document}
    (hdefinitions : ∀ definition ∈ document.definitions, definition.IsWritable)
    (ht : ∀ c, takePunctuator dialect c t =
      takePunctuator dialect c (document.preamble.toList ++ '\x7b' :: s))
    (hbudget : document.preamble.toList.length ≤ budget) :
    ∃ rest, readPreamble dialect budget t =
        some (document.definitions.map VariableDefinition.declaration, rest) ∧
      ∀ c, takePunctuator dialect c rest = takePunctuator dialect c ('\x7b' :: s) := by
  unfold Document.preamble at ht hbudget
  cases hempty : document.definitions.isEmpty with
  | true =>
      -- Nothing stands in front of the body, and a brace opens no declarations.
      rw [if_pos hempty] at ht
      refine ⟨t, ?_, ht⟩
      rw [readPreamble, ht, List.isEmpty_iff.mp hempty]
      rw [show "".toList ++ '\x7b' :: s = '\x7b' :: s from rfl,
        takePunctuator_cons_of_ne (by decide) (by decide)]
      rfl
  | false =>
      rw [hempty, if_neg Bool.false_ne_true] at ht hbudget
      simp only [String.toList_append, List.length_append, List.append_assoc] at ht hbudget
      refine ⟨'\x7b' :: s, ?_, fun c => rfl⟩
      have hdeclarations : readDeclarations dialect budget _ = _ :=
        readDeclarations_texts hdefinitions budget (s := '\x7b' :: s)
          (by simp at hbudget ⊢; omega)
      have hne : document.definitions ≠ [] := by simpa using hempty
      rw [readPreamble, ht, show "(".toList = ['('] from rfl, List.singleton_append,
        takePunctuator_cons (by decide)]
      simp [hdeclarations, hne]

theorem readSet_cons {nodes : List Node}
    (ht : ∀ c, takePunctuator dialect c t = takePunctuator dialect c ('\x7b' :: s))
    (hnodes : readNodes dialect budget s = some (nodes, rest)) (hnonempty : nodes ≠ []) :
    readSet dialect budget t = some (nodes, rest) := by
  rw [readSet, ht, takePunctuator_cons (by decide)]
  simp [hnodes, hnonempty]

/-- The preamble starts with a parenthesis, or it is empty and the brace of the body comes first. -/
theorem exists_preamble (document : Document) (s : List Char) :
    ∃ p u, document.preamble.toList ++ '\x7b' :: s = p :: u ∧ isPunctuator p = true ∧
      Name.isPart p = false := by
  unfold Document.preamble
  split
  · exact ⟨'\x7b', s, rfl, by decide, by decide⟩
  · exact ⟨'(', _, by simp; rfl, by decide, by decide⟩

/-! ### Operations -/

variable {document : Document} {nodes : List Node}

/-- Behind its name an operation goes on with its declarations and its body. -/
theorem readSet_preamble
    (hdefinitions : ∀ definition ∈ document.definitions, definition.IsWritable)
    (ht : ∀ c, takePunctuator dialect c t =
      takePunctuator dialect c (document.preamble.toList ++ '\x7b' :: s))
    (hbudget : document.preamble.toList.length ≤ budget + 1)
    (hnodes : readNodes dialect (budget + 1) s = some (nodes, rest)) (hnonempty : nodes ≠ []) :
    ∃ u, readPreamble dialect (budget + 1) t =
        some (document.definitions.map VariableDefinition.declaration, u) ∧
      readDirectives dialect (budget + 1) u = some ([], u) ∧
      readSet dialect (budget + 1) u = some (nodes, rest) := by
  obtain ⟨u, hpreamble, hu⟩ := readPreamble_text hdefinitions ht hbudget
  refine ⟨u, hpreamble, readDirectives_none ?_, readSet_cons hu hnodes hnonempty⟩
  rw [hu]
  exact takePunctuator_cons_of_ne (by decide) (by decide) s

/-- An operation is read from behind its keyword. -/
theorem readOperation_text (keyword : Keyword)
    (hname : ∀ name ∈ document.name, Name.isValid name = true)
    (hdefinitions : ∀ definition ∈ document.definitions, definition.IsWritable)
    (hbudget : document.preamble.toList.length ≤ budget + 1)
    (hnodes : readNodes dialect (budget + 1) s = some (nodes, rest)) (hnonempty : nodes ≠ []) :
    readOperation dialect keyword (budget + 1)
        (' ' :: ((document.name.getD "").toList ++
          (document.preamble.toList ++ '\x7b' :: s))) =
      some (.operation keyword document.name
        (document.definitions.map VariableDefinition.declaration) [] nodes, rest) := by
  have hblank : isIgnored ' ' = true := by decide
  obtain ⟨p, u, hstart, hp, hpart⟩ := exists_preamble document s
  cases hcase : document.name with
  | none =>
      have htake : takeName dialect (' ' :: (document.preamble.toList ++ '\x7b' :: s)) = none := by
        rw [takeName_of_isIgnored hblank, hstart, takeName_punctuator hp]
      obtain ⟨v, hpreamble, hdirectives, hset⟩ := readSet_preamble hdefinitions
        (fun c => takePunctuator_of_isIgnored hblank c _) hbudget hnodes hnonempty
      rw [readOperation, Option.getD_none, show "".toList = [] from rfl, List.nil_append]
      simp only [htake, hpreamble, hdirectives, hset, Option.bind_eq_bind, Option.bind_some]
  | some name =>
      have hvalid : Name.isValid name = true := hname name hcase
      have htake : takeName dialect
          (' ' :: (name.toList ++ (document.preamble.toList ++ '\x7b' :: s))) =
            some (name, document.preamble.toList ++ '\x7b' :: s) := by
        rw [takeName_of_isIgnored hblank, hstart]
        exact takeName_name hvalid (endsName_cons hpart u)
      obtain ⟨v, hpreamble, hdirectives, hset⟩ := readSet_preamble hdefinitions
        (fun c => rfl) hbudget hnodes hnonempty
      rw [readOperation, Option.getD_some]
      simp only [htake, hpreamble, hdirectives, hset, Option.bind_eq_bind, Option.bind_some]

theorem readDefinition_text (budget : Nat)
    (hname : ∀ name ∈ document.name, Name.isValid name = true)
    (hdefinitions : ∀ definition ∈ document.definitions, definition.IsWritable)
    (hbody : document.body.toList = '\x7b' :: s)
    (hbudget : document.preamble.toList.length ≤ budget + 1)
    (hnodes : readNodes dialect (budget + 1) s = some (nodes, rest)) (hnonempty : nodes ≠ []) :
    readDefinition dialect (budget + 1) document.text.toList =
      some (.operation document.kind.executable document.name
        (document.definitions.map VariableDefinition.declaration) [] nodes, rest) := by
  have hoperation := fun keyword => readOperation_text keyword hname hdefinitions hbudget hnodes
    hnonempty
  have htext : document.text.toList = document.kind.keyword.toList ++
      ' ' :: ((document.name.getD "").toList ++ (document.preamble.toList ++ '\x7b' :: s)) := by
    simp [Document.text, hbody]
  have hkeyword : Name.isValid document.kind.keyword = true := by
    cases document.kind <;> decide
  have hends := endsName_cons (c := ' ') (by decide)
    ((document.name.getD "").toList ++ (document.preamble.toList ++ '\x7b' :: s))
  rw [readDefinition, htext, takeName_name hkeyword hends]
  cases document.kind with
  | query => exact hoperation .query
  | mutation =>
      have hother : ¬OperationKind.keyword .mutation = "query" := by decide
      simp only
      rw [if_neg hother]
      exact hoperation .mutation

theorem atEnd_text (document : Document) : atEnd document.text.toList = false := by
  unfold Document.text atEnd
  cases document.kind with
  | query =>
      simp only [OperationKind.keyword, String.toList_append, List.append_assoc]
      rw [show "query".toList = ['q', 'u', 'e', 'r', 'y'] from rfl, List.cons_append,
        skipIgnored_of_isVisible (by decide)]
      rfl
  | mutation =>
      simp only [OperationKind.keyword, String.toList_append, List.append_assoc]
      rw [show "mutation".toList = ['m', 'u', 't', 'a', 't', 'i', 'o', 'n'] from rfl,
        List.cons_append, skipIgnored_of_isVisible (by decide)]
      rfl

/-- A document is read back from its text if its body is. -/
theorem read?_text (document : Document)
    (hname : ∀ name ∈ document.name, Name.isValid name = true)
    (hdefinitions : ∀ definition ∈ document.definitions, definition.IsWritable)
    (hbody : document.body.toList = '\x7b' :: s)
    (hnodes : ∀ budget, 3 * s.length + 2 ≤ budget →
      readNodes dialect budget s = some (nodes, [])) (hnonempty : nodes ≠ []) :
    read? dialect document.text =
      some [.operation document.kind.executable document.name
        (document.definitions.map VariableDefinition.declaration) [] nodes] := by
  have hlength : document.preamble.toList.length + s.length ≤ document.text.toList.length := by
    simp only [Document.text, String.toList_append, List.length_append, hbody, List.length_cons]
    omega
  have hdefinition := readDefinition_text (3 * document.text.toList.length + 1) hname hdefinitions
    hbody (by omega) (hnodes _ (by omega)) hnonempty
  have hrest : readDefinitions dialect (3 * document.text.toList.length + 1 + 1) [] = some [] := rfl
  have hread : readDefinitions dialect (budgetFor document.text.toList) document.text.toList =
      some [.operation document.kind.executable document.name
        (document.definitions.map VariableDefinition.declaration) [] nodes] := by
    unfold budgetFor
    rw [readDefinitions, atEnd_text, if_neg Bool.false_ne_true, hdefinition]
    simp only [hrest, Option.bind_eq_bind, Option.bind_some]
  unfold read?
  simp only [hread]

end Executable

/-! ### Compiled documents -/

namespace Compile

open Executable

/-- The document that is compiled from a regular tree is read back from its text: one operation of
the kind and the name asked for, with the declarations of the document and the normal form of the
tree.  The text has no control characters, so it is a single line. -/
theorem document_text_reads_back {schema : Schema} {kind : OperationKind} {name : Option String}
    {selections : List Selection} {document : Document}
    (hname : ∀ text ∈ name, Name.isValid text = true)
    (hregular : Selection.areRegular selections = true) (hnonempty : selections ≠ [])
    (hdocument : (operation schema kind name selections).1 = .ok document) :
    read? .standard document.text =
      some [.operation kind.executable name
        (document.definitions.map VariableDefinition.declaration) []
        (Selection.nodes (schema.normal kind selections))] ∧
      Text.isOneLine document.text = true := by
  obtain ⟨hok, rfl⟩ := (operation_eq_ok_iff schema kind name selections).mp hdocument
  have hdefinitions : ∀ definition ∈ (schema.document kind name selections).definitions,
      definition.IsWritable :=
    (Registry.isWritable_empty.registerAll fun usage husage =>
      Schema.isWritable_of_mem_usages hok husage).definitions
        (Registry.nodup_names _)
  have hnodes : Selection.nodes (schema.normal kind selections) ≠ [] := by
    have hempty := Selection.nodes_isEmpty hok
    rw [List.isEmpty_eq_false_iff.mpr hnonempty] at hempty
    exact List.isEmpty_eq_false_iff.mp hempty
  constructor
  · refine read?_text (schema.document kind name selections) hname hdefinitions
      (s := (Selection.setText (schema.normal kind selections)).toList ++ ['\x7d']) ?_ ?_ hnodes
    · simp [Schema.document]
    · intro budget hbudget
      exact Selection.readNodes_setText selections hregular hok budget
        (by simp [Schema.normal] at hbudget ⊢; omega)
  · have hset : Text.isOneLine (Selection.setText (schema.normal kind selections)) = true :=
      Selection.isOneLine_setText selections hregular hok
    exact (schema.document kind name selections).isOneLine_text hname hdefinitions
      (Text.isOneLine_append (Text.isOneLine_append rfl hset) rfl)

/-- A schema with one enum, and types for three arguments of one field. -/
def userSchema : Schema :=
  (Schema.empty.withEnum "Role").withFieldArguments "Query" "user"
    [("id", "ID!"), ("role", "Role"), ("names", "[String]")]

/-- A field with an alias and arguments of several forms, above a field and an inline fragment. -/
def userTree : List Selection :=
  [.field ⟨"user", some "me",
      [("id", .variable ⟨"v", false⟩), ("role", .string "ADMIN"),
        ("names", .list [.string "", .string "\"", .null])], none⟩
    [.field (.ofName "id") [], .fragment "Member" [.field (.ofName "since") []]]]

/-- What the tree is compiled to. -/
def userDocument : Document :=
  ⟨.query, some "Me", [⟨"v", .nonNull (.named "ID")⟩],
    "\x7bme:user(id:$v,role:ADMIN,names:[\"\",\"\\\"\",null])" ++
      "\x7bid ... on Member \x7bsince \x7d \x7d \x7d"⟩

theorem userDocument_reads_back :
    (operation userSchema .query (some "Me") userTree).1 = .ok userDocument ∧
      read? .standard userDocument.text =
        some [.operation .query (some "Me") [⟨"v", .nonNull (.named "ID"), none⟩] []
          (Selection.nodes (userSchema.normal .query userTree))] ∧
      Text.isOneLine userDocument.text = true := by
  have hname : ∀ text ∈ some "Me", Name.isValid text = true := by
    rintro _ ⟨⟩
    decide
  have hregular : Selection.areRegular userTree = true := by decide
  have hnonempty : userTree ≠ [] := by decide
  have hdocument : (operation userSchema .query (some "Me") userTree).1 = .ok userDocument := by
    decide +kernel
  exact ⟨hdocument, document_text_reads_back hname hregular hnonempty hdocument⟩

end Compile

end SelectionCompiler
