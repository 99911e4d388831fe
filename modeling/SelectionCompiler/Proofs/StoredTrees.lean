import SelectionCompiler.Compile.Operation
import SelectionCompiler.Proofs.Json.StoredValues
import SelectionCompiler.Selection.Json

/-!
# Stored trees

A selection tree is read back from its JSON text as it is.  What is left out of the text, because it
is absent or empty, is what the reader assumes; a table of types without entries is not left out,
since it would come back as an absent one.

The kind of a selection is looked for first, so that its parts are decoded from a draft that has
been read before.  Each optional part is decoded on its own: `partsOfEntries` takes the entries in
front of it and those behind it one after the other.
-/

namespace SelectionCompiler

namespace Field

/-- The arguments of the field can be stored, and no key is repeated in its tables. -/
structure IsStorable (field : Field) : Prop where
  arguments : field.arguments.Distinct
  values : ∀ entry ∈ field.arguments, entry.2.IsStorable
  argumentTypes : ∀ types ∈ field.argumentTypes, Table.Distinct types

/-- What may be among the entries of the JSON form of a field. -/
theorem mem_jsonEntries {field : Field} {entry : String × Json}
    (hentry : entry ∈ field.jsonEntries) :
    entry = ("name", .string field.name) ∨
      (∃ aliasName, entry = ("alias", .string aliasName)) ∨
      entry = ("arguments", .object (Value.entriesToJson field.arguments)) ∨
      ∃ types : Table String, entry = ("argument_types", types.toJson) := by
  unfold jsonEntries at hentry
  simp only [List.mem_append] at hentry
  rcases hentry with ((hname | halias) | harguments) | htypes
  · exact .inl (List.mem_singleton.mp hname)
  · cases haliasName : field.aliasName with
    | none =>
        rw [haliasName] at halias
        cases halias
    | some aliasName =>
        rw [haliasName] at halias
        exact .inr (.inl ⟨aliasName, List.mem_singleton.mp halias⟩)
  · split at harguments
    · cases harguments
    · exact .inr (.inr (.inl (List.mem_singleton.mp harguments)))
  · cases hargumentTypes : field.argumentTypes with
    | none =>
        rw [hargumentTypes] at htypes
        cases htypes
    | some types =>
        rw [hargumentTypes] at htypes
        exact .inr (.inr (.inr ⟨types, List.mem_singleton.mp htypes⟩))

end Field

namespace Selection

/-- A tree that a JSON text can hold without loss. -/
inductive IsStorable : Selection → Prop where
  | field {head : Field} {selections : List Selection} (hhead : head.IsStorable)
      (hselections : ∀ selection ∈ selections, IsStorable selection) :
      IsStorable (.field head selections)
  | fragment (typeCondition : String) {selections : List Selection}
      (hselections : ∀ selection ∈ selections, IsStorable selection) :
      IsStorable (.fragment typeCondition selections)
  | unknown : IsStorable .unknown

open Json

/-! ### Texts of trees -/

theorem isExact_of_mem_jsonEntries {head : Field} (hhead : head.IsStorable) :
    ∀ entry ∈ head.jsonEntries, entry.2.IsExact := by
  intro entry hentry
  rcases Field.mem_jsonEntries hentry with rfl | ⟨aliasName, rfl⟩ | rfl | ⟨types, rfl⟩
  · exact .string head.name
  · exact .string aliasName
  · exact .object (Value.isExact_entriesToJson head.arguments hhead.values)
  · exact isExact_ofTable fun type _ => .string type.2

mutual
theorem isExact_toJson : ∀ selection : Selection, selection.IsStorable → selection.toJson.IsExact
  | .field head selections, hstorable => by
      cases hstorable with
      | field hhead hselections =>
          rw [toJson]
          refine .object fun entry hentry => ?_
          simp only [List.mem_append] at hentry
          rcases hentry with (hkind | hhead') | hset
          · rw [List.mem_singleton.mp hkind]
            exact .string "Field"
          · exact isExact_of_mem_jsonEntries hhead entry hhead'
          · split at hset
            · cases hset
            · rw [List.mem_singleton.mp hset]
              exact .array (isExact_itemsToJson selections hselections)
  | .fragment typeCondition selections, hstorable => by
      cases hstorable with
      | fragment _ hselections =>
          rw [toJson]
          refine .object fun entry hentry => ?_
          simp only [List.mem_cons, List.not_mem_nil, or_false] at hentry
          rcases hentry with rfl | rfl | rfl
          · exact .string "InlineFragment"
          · exact .string typeCondition
          · exact .array (isExact_itemsToJson selections hselections)
  | .unknown, _ => by
      rw [toJson]
      refine .object fun entry hentry => ?_
      rw [List.mem_singleton.mp hentry]
      exact .string "Unknown"

theorem isExact_itemsToJson : ∀ selections : List Selection,
    (∀ selection ∈ selections, selection.IsStorable) →
    ∀ json ∈ itemsToJson selections, json.IsExact
  | [], _ => by
      intro json hjson
      cases hjson
  | selection :: rest, hstorable => by
      obtain ⟨hselection, hrest⟩ := List.forall_mem_cons.mp hstorable
      exact List.forall_mem_cons.mpr
        ⟨isExact_toJson selection hselection, isExact_itemsToJson rest hrest⟩
end

/-! ### Kinds -/

/-- Only the kind is judged while the entries of a selection are read. -/
theorem Kind.ofEntries_of_known (origin : Origin) (kind : Kind) : ∀ entries : List (String × Json),
    (∀ entry ∈ entries, entry.1 ≠ "kind") →
    Kind.ofEntries origin (some kind) (Draft.ofEntries entries) = .ok (some kind)
  | [], _ => rfl
  | (key, value) :: rest, hkeys => by
      obtain ⟨hkey, hrest⟩ := List.forall_mem_cons.mp hkeys
      rw [Draft.ofEntries, Kind.ofEntries, if_neg hkey, Draft.check_ofJson value]
      exact ofEntries_of_known origin kind rest hrest

theorem Kind.ofEntries_kind (origin : Origin) (name : String) {entries : List (String × Json)}
    (hkeys : ∀ entry ∈ entries, entry.1 ≠ "kind") :
    Kind.ofEntries origin none (Draft.ofEntries (("kind", .string name) :: entries)) =
      .ok (some (Kind.ofName name)) := by
  rw [Draft.ofEntries, Kind.ofEntries, if_pos rfl]
  exact Kind.ofEntries_of_known origin (Kind.ofName name) entries hkeys

/-! ### Parts -/

/-- A part other than the selections is added to those that were decoded before. -/
theorem partOfDraft_add {origin : Origin} {kind : Kind} {parts : Parts} {key : String}
    {draft : Draft} (hkey : key ∈ kind.keys) (hnew : parts.has key = false)
    (hother : key ≠ "selections") :
    partOfDraft origin kind parts key draft = parts.add origin key draft := by
  unfold partOfDraft
  rw [if_pos hkey, hnew, if_neg hother]
  rfl

theorem partOfDraft_selections {origin : Origin} {kind : Kind} {parts : Parts} {items : List Draft}
    {selections : List Selection} (hkey : "selections" ∈ kind.keys)
    (hnew : parts.selections = none) (hitems : ofItems origin items = .ok selections) :
    partOfDraft origin kind parts "selections" (.array items .closed) =
      .ok { parts with selections := some selections } := by
  have hhas : parts.has "selections" = false := by simp [Parts.has, hnew]
  unfold partOfDraft
  rw [if_pos hkey, hhas]
  simp only [hitems]
  rfl

theorem partsOfEntries_cons {origin : Origin} {kind : Kind} {parts next : Parts} {key : String}
    {draft : Draft} (hpart : partOfDraft origin kind parts key draft = .ok next)
    (rest : List (String × Draft)) :
    partsOfEntries origin kind parts ((key, draft) :: rest) =
      partsOfEntries origin kind next rest := by
  rw [partsOfEntries, hpart]
  rfl

/-! ### Parts that may be left out -/

variable {parts : Parts} (origin : Origin) (rest : List (String × Json))

theorem partsOfEntries_alias (hnew : parts.aliasName = none) (aliasName : Option String) :
    partsOfEntries origin .field parts (Draft.ofEntries ((match aliasName with
        | none => []
        | some aliasName => [("alias", .string aliasName)]) ++ rest)) =
      partsOfEntries origin .field { parts with aliasName := aliasName.map some }
        (Draft.ofEntries rest) := by
  cases aliasName with
  | none => simp [← hnew]
  | some aliasName =>
      refine partsOfEntries_cons ?_ _
      rw [partOfDraft_add (by decide) (by simp [Parts.has, hnew]) (by decide)]
      rfl

theorem partsOfEntries_arguments (hnew : parts.arguments = none) {arguments : Table Value}
    (hdistinct : arguments.Distinct) (hstorable : ∀ entry ∈ arguments, entry.2.IsStorable) :
    partsOfEntries origin .field parts (Draft.ofEntries ((if arguments.isEmpty then []
        else [("arguments", .object (Value.entriesToJson arguments))]) ++ rest)) =
      partsOfEntries origin .field
        { parts with arguments := if arguments.isEmpty then none else some arguments }
        (Draft.ofEntries rest) := by
  cases hempty : arguments.isEmpty with
  | true => simp [← hnew]
  | false =>
      have htable := Value.tableOfDraft_entriesToJson origin hdistinct hstorable
      refine partsOfEntries_cons ?_ _
      rw [partOfDraft_add (by decide) (by simp [Parts.has, hnew]) (by decide)]
      simp [Parts.add, htable]

theorem partsOfEntries_argumentTypes (hnew : parts.argumentTypes = none)
    (argumentTypes : Option (Table String)) :
    (∀ types ∈ argumentTypes, Table.Distinct types) →
    partsOfEntries origin .field parts (Draft.ofEntries ((match argumentTypes with
        | none => []
        | some types => [("argument_types", types.toJson)]) ++ rest)) =
      partsOfEntries origin .field { parts with argumentTypes := argumentTypes.map some }
        (Draft.ofEntries rest) := by
  intro hdistinct
  cases argumentTypes with
  | none => simp [← hnew]
  | some types =>
      have htable : Draft.asTable Draft.asString (Draft.ofJson types.toJson) = .ok types :=
        Draft.asTable_ofJson (fun _ _ => rfl) (hdistinct types rfl)
      have hsome : Draft.asOption (Draft.asTable Draft.asString) (Draft.ofJson types.toJson) =
          .ok (some types) := by
        show some <$> Draft.asTable Draft.asString (Draft.ofJson types.toJson) = _
        rw [htable]
        rfl
      refine partsOfEntries_cons ?_ _
      rw [partOfDraft_add (by decide) (by simp [Parts.has, hnew]) (by decide)]
      simp [Parts.add, hsome]

theorem partsOfEntries_selections (hnew : parts.selections = none) {selections : List Selection}
    (hitems : ofItems origin (Draft.ofItems (itemsToJson selections)) = .ok selections) :
    partsOfEntries origin .field parts (Draft.ofEntries (if selections.isEmpty then []
        else [("selections", .array (itemsToJson selections))])) =
      .ok { parts with selections := if selections.isEmpty then none else some selections } := by
  cases hempty : selections.isEmpty with
  | true =>
      simp only [if_true, ← hnew]
      rfl
  | false =>
      simp only [Bool.false_eq_true, if_false]
      exact (partsOfEntries_cons (partOfDraft_selections (by decide) hnew hitems) []).trans rfl

/-- The parts of a field are decoded from the entries of its JSON form. -/
theorem partsOfEntries_jsonEntries {head : Field} (hhead : head.IsStorable)
    {selections : List Selection}
    (hitems : ofItems origin (Draft.ofItems (itemsToJson selections)) = .ok selections) :
    partsOfEntries origin .field Parts.none (Draft.ofEntries (head.jsonEntries ++
        (if selections.isEmpty then [] else [("selections", .array (itemsToJson selections))]))) =
      .ok ⟨some head.name, none, head.aliasName.map some,
        if head.arguments.isEmpty then none else some head.arguments,
        head.argumentTypes.map some,
        if selections.isEmpty then none else some selections⟩ := by
  have hname : partOfDraft origin .field Parts.none "name" (.string head.name) =
      .ok { Parts.none with name := some head.name } := by
    rw [partOfDraft_add (by decide) rfl (by decide)]
    rfl
  unfold Field.jsonEntries
  simp only [List.append_assoc]
  rw [List.singleton_append, Draft.ofEntries, Draft.ofJson, partsOfEntries_cons hname]
  refine Eq.trans (partsOfEntries_alias origin _ rfl head.aliasName) ?_
  refine Eq.trans (partsOfEntries_arguments origin _ rfl hhead.arguments hhead.values) ?_
  refine Eq.trans (partsOfEntries_argumentTypes origin _ rfl head.argumentTypes
    hhead.argumentTypes) ?_
  exact partsOfEntries_selections origin rfl hitems

/-- The parts that are left out are what is assumed for them. -/
theorem finish_field (head : Field) (selections : List Selection) :
    Parts.finish ⟨some head.name, none, head.aliasName.map some,
        if head.arguments.isEmpty then none else some head.arguments,
        head.argumentTypes.map some,
        if selections.isEmpty then none else some selections⟩ .field =
      .ok (.field head selections) := by
  obtain ⟨name, aliasName, arguments, argumentTypes⟩ := head
  cases aliasName <;> cases arguments <;> cases argumentTypes <;> cases selections <;> rfl

theorem partsOfEntries_fragment (typeCondition : String) {selections : List Selection}
    (hitems : ofItems origin (Draft.ofItems (itemsToJson selections)) = .ok selections) :
    partsOfEntries origin .fragment Parts.none (Draft.ofEntries
        [("type_condition", .string typeCondition),
          ("selections", .array (itemsToJson selections))]) =
      .ok ⟨none, some typeCondition, none, none, none, some selections⟩ := by
  have hcondition : partOfDraft origin .fragment Parts.none "type_condition"
      (.string typeCondition) = .ok { Parts.none with typeCondition := some typeCondition } := by
    rw [partOfDraft_add (by decide) rfl (by decide)]
    rfl
  rw [Draft.ofEntries, Draft.ofJson, partsOfEntries_cons hcondition]
  exact (partsOfEntries_cons (partOfDraft_selections (by decide) rfl hitems) []).trans rfl

/-- The kind is given once. -/
theorem ne_kind_of_mem_jsonEntries (head : Field) (selections : List Selection) :
    ∀ entry ∈ head.jsonEntries ++
      (if selections.isEmpty then [] else [("selections", Json.array (itemsToJson selections))]),
      entry.1 ≠ "kind" := by
  intro entry hentry
  rcases List.mem_append.mp hentry with hhead | hset
  · rcases Field.mem_jsonEntries hhead with rfl | ⟨aliasName, rfl⟩ | rfl | ⟨types, rfl⟩ <;> simp
  · split at hset
    · cases hset
    · rw [List.mem_singleton.mp hset]
      simp

/-! ### Trees from drafts -/

/-- A selection of a known kind is made of its parts. -/
theorem ofDraft_object {origin : Origin} {name : String} {entries : List (String × Json)}
    {parts : Parts} (hknown : Kind.ofName name ≠ .unknown)
    (hkeys : ∀ entry ∈ entries, entry.1 ≠ "kind")
    (hparts : partsOfEntries .tree (Kind.ofName name) Parts.none (Draft.ofEntries entries) =
      .ok parts) :
    ofDraft origin (.ofJson (.object (("kind", .string name) :: entries))) =
      parts.finish (Kind.ofName name) := by
  have hkind := Kind.ofEntries_kind origin name hkeys
  have hskip : ∀ kind : Kind, partOfDraft .tree kind Parts.none "kind" (.string name) =
      .ok Parts.none := by
    intro kind
    cases kind <;> rfl
  have hall : partsOfEntries .tree (Kind.ofName name) Parts.none
      (Draft.ofEntries (("kind", .string name) :: entries)) = .ok parts := by
    rw [Draft.ofEntries, Draft.ofJson, partsOfEntries_cons (hskip _), hparts]
  rw [Draft.ofJson, ofDraft, hkind]
  -- The kind that was found decides how the parts are decoded.
  cases hfound : Kind.ofName name with
  | field =>
      rw [hfound] at hall
      show (partsOfEntries .tree .field Parts.none _ >>= fun parts => parts.finish .field) = _
      rw [hall]
      rfl
  | fragment =>
      rw [hfound] at hall
      show (partsOfEntries .tree .fragment Parts.none _ >>= fun parts => parts.finish .fragment) = _
      rw [hall]
      rfl
  | unknown => exact absurd hfound hknown

mutual
/-- A selection is decoded from its JSON form. -/
theorem ofDraft_toJson (origin : Origin) : ∀ selection : Selection, selection.IsStorable →
    ofDraft origin (.ofJson selection.toJson) = .ok selection
  | .field head selections, hstorable => by
      cases hstorable with
      | field hhead hselections =>
          have hitems := ofItems_itemsToJson .tree selections hselections
          have hparts : partsOfEntries .tree (Kind.ofName "Field") Parts.none _ = .ok _ :=
            partsOfEntries_jsonEntries .tree hhead hitems
          rw [toJson, List.append_assoc, List.singleton_append,
            ofDraft_object (by decide) (ne_kind_of_mem_jsonEntries head selections) hparts]
          exact finish_field head selections
  | .fragment typeCondition selections, hstorable => by
      cases hstorable with
      | fragment _ hselections =>
          have hitems := ofItems_itemsToJson .tree selections hselections
          have hparts : partsOfEntries .tree (Kind.ofName "InlineFragment") Parts.none
              (Draft.ofEntries [("type_condition", .string typeCondition),
                ("selections", .array (itemsToJson selections))]) =
              .ok ⟨none, some typeCondition, none, none, none, some selections⟩ :=
            partsOfEntries_fragment .tree typeCondition hitems
          rw [toJson, ofDraft_object (by decide) (by simp) hparts]
          rfl
  | .unknown, _ => rfl

theorem ofItems_itemsToJson (origin : Origin) : ∀ selections : List Selection,
    (∀ selection ∈ selections, selection.IsStorable) →
    ofItems origin (Draft.ofItems (itemsToJson selections)) = .ok selections
  | [], _ => rfl
  | selection :: rest, hstorable => by
      obtain ⟨hselection, hrest⟩ := List.forall_mem_cons.mp hstorable
      rw [itemsToJson, Draft.ofItems, ofItems, ofDraft_toJson origin selection hselection,
        ofItems_itemsToJson origin rest hrest]
      rfl
end

theorem setOfDraft_setToJson {selections : List Selection}
    (hstorable : ∀ selection ∈ selections, selection.IsStorable) :
    setOfDraft .text (.ofJson (setToJson selections)) = .ok selections := by
  have hitems := ofItems_itemsToJson .text selections hstorable
  simp only [setToJson, Draft.ofJson, setOfDraft, hitems]
  rfl

/-! ### Trees from texts -/

theorem setOfJsonText_eq_ok {selections : List Selection}
    (hstorable : ∀ selection ∈ selections, selection.IsStorable)
    (hlevels : (setToJson selections).levels ≤ 127) {text : String}
    (htext : text = (setToJson selections).text ∨ text = (setToJson selections).prettyText) :
    setOfJsonText text = .ok selections := by
  have hexact : (setToJson selections).IsExact := .array (isExact_itemsToJson selections hstorable)
  have hread : Shows text (setToJson selections) → setOfJsonText text = .ok selections :=
    fun hshows => hshows.decodeText_eq hexact hlevels (setOfDraft_setToJson hstorable)
  rcases htext with rfl | rfl
  · exact hread (shows_text _)
  · exact hread (shows_prettyText _)

/-- A tree is read back from its compact and from its indented text, with the same items, arguments,
types and entries in the same order.  So the tree that was read compiles as the one that was
written. -/
theorem stored_tree_reads_back {selections : List Selection}
    (hstorable : ∀ selection ∈ selections, selection.IsStorable)
    (hlevels : (setToJson selections).levels ≤ 127) :
    ∀ text, (text = (setToJson selections).text ∨ text = (setToJson selections).prettyText) →
      setOfJsonText text = .ok selections ∧
        ∀ (schema : Schema) (kind : OperationKind) (name : Option String),
          (fun read => Compile.operation schema kind name read) <$> setOfJsonText text =
            .ok (Compile.operation schema kind name selections) := by
  intro text htext
  have hselections : setOfJsonText text = .ok selections :=
    setOfJsonText_eq_ok hstorable hlevels htext
  refine ⟨hselections, fun schema kind name => ?_⟩
  rw [hselections]
  rfl

/-- An object with an escaped string, the smallest integer, and an object without entries. -/
def storedFilter : Value :=
  .object [("name", .string "a\"\\\n"), ("ids", .list [.int (-9223372036854775808), .null]),
    ("deep", .object [])]

/-- A field with all its parts, above one with an empty table of types, and nodes of the other
kinds. -/
def storedTree : List Selection :=
  [.field ⟨"users", some "all", [("filter", storedFilter), ("after", .variable ⟨"id", true⟩)],
      some [("filter", "UserFilter!"), ("after", "ID")]⟩
    [.field ⟨"name", none, [], some []⟩ [], .fragment "Guest" []],
    .unknown]

theorem storedFilter_isStorable : storedFilter.IsStorable := by
  refine .object (by decide) ?_
  simp only [List.forall_mem_cons, List.not_mem_nil, IsEmpty.forall_iff, implies_true, and_true]
  refine ⟨.string _, .list ?_, .object (by decide) (by simp)⟩
  simp only [List.forall_mem_cons, List.not_mem_nil, IsEmpty.forall_iff, implies_true, and_true]
  exact ⟨.int (by decide) (by decide), .null⟩

theorem storedTree_isStorable : ∀ selection ∈ storedTree, selection.IsStorable := by
  have hname : (Selection.field ⟨"name", none, [], some []⟩ []).IsStorable :=
    .field ⟨by decide, by simp, by rintro _ ⟨⟩; decide⟩ (by simp)
  have hguest : (Selection.fragment "Guest" []).IsStorable := .fragment "Guest" (by simp)
  simp only [storedTree, List.forall_mem_cons, List.not_mem_nil, IsEmpty.forall_iff, implies_true,
    and_true]
  refine ⟨.field ⟨by decide, ?_, by rintro _ ⟨⟩; decide⟩ ?_, .unknown⟩
  · simp only [List.forall_mem_cons, List.not_mem_nil, IsEmpty.forall_iff, implies_true, and_true]
    exact ⟨storedFilter_isStorable, .variable _⟩
  · simp only [List.forall_mem_cons, List.not_mem_nil, IsEmpty.forall_iff, implies_true, and_true]
    exact ⟨hname, hguest⟩

theorem storedTree_reads_back :
    (∀ selection ∈ storedTree, selection.IsStorable) ∧ (setToJson storedTree).levels = 8 ∧
      setOfJsonText (setToJson storedTree).text = .ok storedTree := by
  have hlevels : (setToJson storedTree).levels = 8 := by decide
  have hread := stored_tree_reads_back storedTree_isStorable (by omega) _ (.inl rfl)
  exact ⟨storedTree_isStorable, hlevels, hread.1⟩

end Selection

end SelectionCompiler
