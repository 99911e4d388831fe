import Mathlib.Data.List.Nodup
import SelectionCompiler.Proofs.Json.StoredValues
import SelectionCompiler.Proofs.Lookups
import SelectionCompiler.Schema.Json

/-!
# Stored snapshots

A snapshot is built up in code or read from a JSON text.  In either case no enum is listed twice,
and no key of a table is repeated at whatever level.  Such a snapshot is read back from its own text
as it is, with the entries of its tables in the same order.

The types, their fields and the enums have no order that counts, so they may be written in any
order.  The snapshot that is read then holds the same tables as the one that was meant, gives the
same answers, and is compiled with alike.
-/

namespace SelectionCompiler

/-! ### Tables of valid values -/

namespace Table

variable {α : Type} {valid : α → Prop}

/-- No key is repeated, and all values are valid. -/
structure IsTableOf (valid : α → Prop) (table : Table α) : Prop where
  distinct : table.Distinct
  values : ∀ entry ∈ table, valid entry.2

theorem isTableOf_nil : IsTableOf valid [] :=
  ⟨List.nodup_nil, fun _ hentry => absurd hentry List.not_mem_nil⟩

theorem IsTableOf.put {table : Table α} (htable : IsTableOf valid table) (key : String) {value : α}
    (hvalue : valid value) : IsTableOf valid (table.put key value) where
  distinct := htable.distinct.put key value
  values entry hentry := by
    have hget := (htable.distinct.put key value).get?_of_mem hentry
    rw [get?_put] at hget
    split at hget
    · rw [← Option.some.inj hget]
      exact hvalue
    · exact htable.values _ (mem_of_get? hget)

/-- The order in which different keys are listed does not matter for what is under them. -/
theorem Distinct.get?_eq_of_perm {table other : Table α} (hdistinct : table.Distinct)
    (hperm : table.Perm other) (key : String) : table.get? key = other.get? key := by
  cases hget : table.get? key with
  | none =>
      have hkeys : table.keys.Perm other.keys := hperm.map Prod.fst
      rw [get?_eq_none_iff, hkeys.mem_iff] at hget
      exact (get?_eq_none_iff.mpr hget).symm
  | some value =>
      have hother : other.Distinct := (hperm.map Prod.fst).nodup_iff.mp hdistinct
      exact (hother.get?_of_mem (hperm.mem_iff.mp (mem_of_get? hget))).symm

theorem IsTableOf.of_get? {table : Table α} (htable : IsTableOf valid table) {key : String}
    {value : α} (hget : table.get? key = some value) : valid value :=
  htable.values (key, value) (mem_of_get? hget)

end Table

/-! ### Snapshots without repetitions -/

namespace Schema

/-- No enum is listed twice, and no key of a table is repeated. -/
structure IsTabular (schema : Schema) : Prop where
  enums : schema.enums.Nodup
  inputTypes : Table.IsTableOf Table.Distinct schema.inputTypes
  fieldArguments : Table.IsTableOf (Table.IsTableOf Table.Distinct) schema.fieldArguments

/-- Something that is added to a snapshot in code. -/
inductive Addition where
  | enum (name : String)
  | inputType (typeName : String) (fields : List (String × String))
  | fieldArguments (typeName fieldName : String) (arguments : List (String × String))

/-- The snapshot after an addition. -/
def add (schema : Schema) : Addition → Schema
  | .enum name => schema.withEnum name
  | .inputType typeName fields => schema.withInputType typeName fields
  | .fieldArguments typeName fieldName arguments =>
      schema.withFieldArguments typeName fieldName arguments

/-- The snapshot after a sequence of additions. -/
def addAll (schema : Schema) (additions : List Addition) : Schema :=
  additions.foldl add schema

/-- A snapshot with no more than the names of its root types. -/
theorem isTabular_ofRoots (queryType mutationType : String) :
    IsTabular ⟨queryType, mutationType, [], [], []⟩ :=
  ⟨List.nodup_nil, Table.isTableOf_nil, Table.isTableOf_nil⟩

/-- A name that is listed unless it is there already is listed once. -/
theorem nodup_listed {names : List String} (hnames : names.Nodup) (name : String) :
    (if name ∈ names then names else names ++ [name]).Nodup := by
  split
  · exact hnames
  · rename_i hnew
    rw [← List.concat_eq_append]
    exact hnames.concat hnew

theorem IsTabular.add {schema : Schema} (hschema : schema.IsTabular) (addition : Addition) :
    (schema.add addition).IsTabular := by
  obtain ⟨henums, hinputTypes, hfieldArguments⟩ := hschema
  cases addition with
  | enum name =>
      have hlisted := nodup_listed henums name
      show (schema.withEnum name).IsTabular
      unfold withEnum
      split
      · exact ⟨henums, hinputTypes, hfieldArguments⟩
      · rename_i hnew
        rw [if_neg hnew] at hlisted
        exact ⟨hlisted, hinputTypes, hfieldArguments⟩
  | inputType typeName fields =>
      exact ⟨henums, hinputTypes.put typeName (Table.distinct_ofPairs fields), hfieldArguments⟩
  | fieldArguments typeName fieldName arguments =>
      -- The other fields of the type are those that it had before, if it was there.
      have hfields : Table.IsTableOf Table.Distinct
          ((schema.fieldArguments.get? typeName).getD []) := by
        cases hget : schema.fieldArguments.get? typeName with
        | none => exact Table.isTableOf_nil
        | some fields => exact hfieldArguments.of_get? hget
      have hnew := hfields.put fieldName (Table.distinct_ofPairs arguments)
      exact ⟨henums, hinputTypes, hfieldArguments.put typeName hnew⟩

theorem IsTabular.addAll {schema : Schema} (hschema : schema.IsTabular)
    (additions : List Addition) : (schema.addAll additions).IsTabular := by
  induction additions generalizing schema with
  | nil => exact hschema
  | cons addition rest ih => exact ih (hschema.add addition)

end Schema

/-! ### Tables from drafts -/

namespace Json.Draft

variable {α : Type} {valid : α → Prop} {decode : Draft → Decoded α}

theorem isTableOf_tableOfEntries (hdecode : ∀ draft value, decode draft = .ok value → valid value) :
    ∀ (entries : List (String × Draft)) {written table : Table α}, Table.IsTableOf valid written →
      tableOfEntries decode written entries = .ok table → Table.IsTableOf valid table
  | [], _, _, hwritten, hread => by
      cases hread
      exact hwritten
  | (key, draft) :: rest, _, _, hwritten, hread => by
      obtain ⟨value, hvalue, hrest⟩ := exists_of_bind_eq_ok hread
      exact isTableOf_tableOfEntries hdecode rest (hwritten.put key (hdecode _ _ hvalue)) hrest

/-- A table that is decoded repeats no key, whatever is repeated in the text. -/
theorem isTableOf_asTable (hdecode : ∀ draft value, decode draft = .ok value → valid value)
    (draft : Draft) (table : Table α) (hread : asTable decode draft = .ok table) :
    Table.IsTableOf valid table := by
  unfold asTable at hread
  split at hread
  · rename_i entries ending
    obtain ⟨found, hfound, hrest⟩ := exists_of_bind_eq_ok hread
    obtain ⟨-, -, hend⟩ := exists_of_bind_eq_ok hrest
    cases hend
    exact isTableOf_tableOfEntries hdecode entries Table.isTableOf_nil hfound
  · exact absurd hread (notObject_ne_ok _ _ _)

/-- The types of the keys of an object. -/
theorem distinct_asTable (draft : Draft) (types : Table String)
    (hread : asTable asString draft = .ok types) : types.Distinct := by
  have htypes : Table.IsTableOf (fun _ => True) types :=
    isTableOf_asTable (fun _ _ _ => trivial) draft types hread
  exact htypes.distinct

end Json.Draft

namespace Schema

open Json

/-- The tables that were decoded so far repeat no key. -/
structure Parts.IsTabular (parts : Parts) : Prop where
  inputTypes : ∀ table ∈ parts.inputTypes, Table.IsTableOf Table.Distinct table
  fieldArguments : ∀ table ∈ parts.fieldArguments,
    Table.IsTableOf (Table.IsTableOf Table.Distinct) table

namespace Parts.IsTabular

variable {parts next : Parts}

theorem add (hparts : parts.IsTabular) {key : String} {draft : Draft}
    (hadd : parts.add key draft = .ok next) : next.IsTabular := by
  obtain ⟨hinputTypes, hfieldArguments⟩ := hparts
  unfold Parts.add at hadd
  split_ifs at hadd
  · cases hadd
  · obtain ⟨queryType, -, rfl⟩ := exists_of_map_eq_ok hadd
    exact ⟨hinputTypes, hfieldArguments⟩
  · obtain ⟨mutationType, -, rfl⟩ := exists_of_map_eq_ok hadd
    exact ⟨hinputTypes, hfieldArguments⟩
  · obtain ⟨enums, -, rfl⟩ := exists_of_map_eq_ok hadd
    exact ⟨hinputTypes, hfieldArguments⟩
  · obtain ⟨table, hread, rfl⟩ := exists_of_map_eq_ok hadd
    refine ⟨?_, hfieldArguments⟩
    rintro _ ⟨⟩
    exact Draft.isTableOf_asTable Draft.distinct_asTable draft table hread
  · obtain ⟨table, hread, rfl⟩ := exists_of_map_eq_ok hadd
    refine ⟨hinputTypes, ?_⟩
    rintro _ ⟨⟩
    have hfields := Draft.isTableOf_asTable Draft.distinct_asTable
    exact Draft.isTableOf_asTable hfields draft table hread
  · cases hadd

theorem addEntries : ∀ {entries : List (String × Draft)} {parts next : Parts}, parts.IsTabular →
    parts.addEntries entries = .ok next → next.IsTabular
  | [], _, _, hparts, hread => by
      cases hread
      exact hparts
  | (_, _) :: _, _, _, hparts, hread => by
      obtain ⟨_, hadd, hrest⟩ := exists_of_bind_eq_ok hread
      exact (hparts.add hadd).addEntries hrest

end Parts.IsTabular

theorem Parts.isTabular_none : Parts.none.IsTabular :=
  ⟨by rintro _ ⟨⟩, by rintro _ ⟨⟩⟩

theorem nodup_foldl_listed : ∀ (names : List String) {listed : List String}, listed.Nodup →
    (names.foldl (fun listed name => if name ∈ listed then listed else listed ++ [name])
      listed).Nodup
  | [], _, hlisted => hlisted
  | name :: rest, _, hlisted => nodup_foldl_listed rest (nodup_listed hlisted name)

theorem Parts.IsTabular.finish {parts : Parts} (hparts : parts.IsTabular) :
    parts.finish.IsTabular where
  enums := nodup_foldl_listed _ List.nodup_nil
  inputTypes := by
    unfold Parts.finish
    cases hread : parts.inputTypes with
    | none => exact Table.isTableOf_nil
    | some table => exact hparts.inputTypes table hread
  fieldArguments := by
    unfold Parts.finish
    cases hread : parts.fieldArguments with
    | none => exact Table.isTableOf_nil
    | some table => exact hparts.fieldArguments table hread

/-- A snapshot that is read from a text repeats nothing. -/
theorem isTabular_of_ofJsonText {text : String} {schema : Schema}
    (hread : ofJsonText text = .ok schema) : schema.IsTabular := by
  obtain ⟨found, hfound, hrest⟩ := exists_of_bind_eq_ok hread
  have hschema : found = schema := by
    split at hrest
    · cases hrest
    · exact Except.ok.inj hrest
  rw [← hschema]
  unfold ofDraft at hfound
  split at hfound
  · obtain ⟨parts, hparts, hend⟩ := exists_of_bind_eq_ok hfound
    obtain ⟨-, -, hfinish⟩ := exists_of_bind_eq_ok hend
    cases hfinish
    exact (Parts.isTabular_none.addEntries hparts).finish
  · obtain ⟨parts, hparts, hend⟩ := exists_of_bind_eq_ok hfound
    obtain ⟨-, -, hfinish⟩ := exists_of_bind_eq_ok hend
    cases hfinish
    exact (Parts.isTabular_none.addEntries hparts).finish
  · exact absurd hfound (Draft.notRecord_ne_ok _ _ _)

/-! ### Snapshots from their texts -/

/-- The tables under keys as JSON, which is how input types and the fields of a type are stored. -/
def tablesToJson (tables : Table (Table String)) : Json :=
  .object (tables.map fun entry => (entry.1, typesToJson entry.2))

theorem toJson_eq (schema : Schema) :
    schema.toJson = .object [
      ("query_type", .string schema.queryType),
      ("mutation_type", .string schema.mutationType),
      ("enums", .array (schema.enums.map .string)),
      ("input_types", tablesToJson schema.inputTypes),
      ("field_arguments",
        .object (schema.fieldArguments.map fun entry => (entry.1, tablesToJson entry.2)))] := rfl

theorem isExact_tablesToJson (tables : Table (Table String)) : (tablesToJson tables).IsExact :=
  isExact_ofTable fun _ _ => isExact_ofTable fun type _ => .string type.2

theorem isExact_toJson (schema : Schema) : schema.toJson.IsExact := by
  rw [toJson_eq]
  refine .object fun entry hentry => ?_
  simp only [List.mem_cons, List.not_mem_nil, or_false] at hentry
  rcases hentry with rfl | rfl | rfl | rfl | rfl
  · exact .string schema.queryType
  · exact .string schema.mutationType
  · refine .array fun name hname => ?_
    obtain ⟨known, -, rfl⟩ := List.mem_map.mp hname
    exact .string known
  · exact isExact_tablesToJson schema.inputTypes
  · exact isExact_ofTable fun entry _ => isExact_tablesToJson entry.2

theorem levels_tablesToJson_le (tables : Table (Table String)) : (tablesToJson tables).levels ≤ 2 :=
  levels_ofTable_le fun _ _ => levels_ofTable_le fun _ _ => Nat.le_refl 0

/-- A snapshot is far from being nested too deeply. -/
theorem levels_toJson_le (schema : Schema) : schema.toJson.levels ≤ 4 := by
  rw [toJson_eq]
  refine levels_object_le fun entry hentry => ?_
  simp only [List.mem_cons, List.not_mem_nil, or_false] at hentry
  rcases hentry with rfl | rfl | rfl | rfl | rfl
  · exact Nat.zero_le 3
  · exact Nat.zero_le 3
  · refine levels_array_le fun name hname => ?_
    obtain ⟨known, -, rfl⟩ := List.mem_map.mp hname
    exact Nat.zero_le 2
  · exact (levels_tablesToJson_le schema.inputTypes).trans (by decide)
  · exact levels_ofTable_le fun entry _ => levels_tablesToJson_le entry.2

theorem asList_ofJson (names : List String) :
    Draft.asList Draft.asString (.ofJson (.array (names.map .string))) = .ok names := by
  have hitems : ∀ names : List String,
      Draft.listOfItems Draft.asString (Draft.ofItems (names.map .string)) = .ok names := by
    intro names
    induction names with
    | nil => rfl
    | cons name rest ih =>
        rw [List.map_cons, Draft.ofItems, Draft.listOfItems, ih]
        rfl
  rw [Draft.ofJson, Draft.asList, hitems]
  rfl

theorem asTable_tablesToJson {tables : Table (Table String)}
    (htables : Table.IsTableOf Table.Distinct tables) :
    Draft.asTable (Draft.asTable Draft.asString) (.ofJson (tablesToJson tables)) = .ok tables := by
  refine Draft.asTable_ofJson (fun entry hentry => ?_) htables.distinct
  exact Draft.asTable_ofJson (fun _ _ => rfl) (htables.values entry hentry)

/-- The fields of a snapshot are decoded one after the other. -/
theorem Parts.addEntries_cons {parts next : Parts} {key : String} {draft : Draft}
    (hadd : parts.add key draft = .ok next) (rest : List (String × Draft)) :
    parts.addEntries ((key, draft) :: rest) = next.addEntries rest := by
  rw [addEntries, hadd]
  rfl

/-- A list without repetitions is the list of its names. -/
theorem foldl_listed : ∀ (names listed : List String), (listed ++ names).Nodup →
    names.foldl (fun listed name => if name ∈ listed then listed else listed ++ [name]) listed =
      listed ++ names
  | [], listed, _ => (List.append_nil listed).symm
  | name :: rest, listed, hnodup => by
      have hnew : name ∉ listed := by
        intro hmem
        exact (List.nodup_append.mp hnodup).2.2 name hmem name List.mem_cons_self rfl
      have hrest : ((listed ++ [name]) ++ rest).Nodup := by rwa [List.append_assoc]
      rw [List.foldl_cons, if_neg hnew, foldl_listed rest _ hrest, List.append_assoc]
      rfl

theorem Parts.finish_of_nodup {schema : Schema} (henums : schema.enums.Nodup) :
    Parts.finish ⟨some schema.queryType, some schema.mutationType, some schema.enums,
      some schema.inputTypes, some schema.fieldArguments⟩ = schema := by
  have hlisted := foldl_listed schema.enums [] henums
  rw [List.nil_append] at hlisted
  simp only [finish, Option.getD_some, hlisted]

/-- A snapshot that repeats nothing is decoded from its JSON form. -/
theorem ofDraft_toJson {schema : Schema} (hschema : schema.IsTabular) :
    ofDraft (.ofJson schema.toJson) = .ok schema := by
  obtain ⟨queryType, mutationType, enums, inputTypes, fieldArguments⟩ := schema
  have henums := asList_ofJson enums
  have hinputTypes := asTable_tablesToJson hschema.inputTypes
  have hfieldArguments : Draft.asTable (Draft.asTable (Draft.asTable Draft.asString))
      (.ofJson (.object (fieldArguments.map fun entry => (entry.1, tablesToJson entry.2)))) =
        .ok fieldArguments :=
    Draft.asTable_ofJson
      (fun entry hentry => asTable_tablesToJson (hschema.fieldArguments.values entry hentry))
      hschema.fieldArguments.distinct
  -- None of the five fields is there when its key is met.
  have haddQuery : Parts.none.add "query_type" (.ofJson (.string queryType)) =
      .ok ⟨some queryType, none, none, none, none⟩ := rfl
  have haddMutation : Parts.add ⟨some queryType, none, none, none, none⟩ "mutation_type"
      (.ofJson (.string mutationType)) =
      .ok ⟨some queryType, some mutationType, none, none, none⟩ := rfl
  have haddEnums : Parts.add ⟨some queryType, some mutationType, none, none, none⟩ "enums"
      (.ofJson (.array (enums.map .string))) =
      .ok ⟨some queryType, some mutationType, some enums, none, none⟩ := by
    simp [Parts.add, Parts.has, keys, henums]
  have haddInputTypes : Parts.add ⟨some queryType, some mutationType, some enums, none, none⟩
      "input_types" (.ofJson (tablesToJson inputTypes)) =
      .ok ⟨some queryType, some mutationType, some enums, some inputTypes, none⟩ := by
    simp [Parts.add, Parts.has, keys, hinputTypes]
  have haddFieldArguments :
      Parts.add ⟨some queryType, some mutationType, some enums, some inputTypes, none⟩
        "field_arguments"
        (.ofJson (.object (fieldArguments.map fun entry => (entry.1, tablesToJson entry.2)))) =
      .ok ⟨some queryType, some mutationType, some enums, some inputTypes,
        some fieldArguments⟩ := by
    simp [Parts.add, Parts.has, keys, hfieldArguments]
  rw [toJson_eq, Draft.ofJson, ofDraft]
  simp only [Draft.ofEntries]
  rw [Parts.addEntries_cons haddQuery, Parts.addEntries_cons haddMutation,
    Parts.addEntries_cons haddEnums, Parts.addEntries_cons haddInputTypes,
    Parts.addEntries_cons haddFieldArguments, Parts.addEntries]
  exact congrArg Except.ok (Parts.finish_of_nodup hschema.enums)

/-- A snapshot that repeats nothing is read back from its compact and from its indented text. -/
theorem ofJsonText_eq_ok {schema : Schema} (hschema : schema.IsTabular) {text : String}
    (htext : text = schema.toJson.text ∨ text = schema.toJson.prettyText) :
    ofJsonText text = .ok schema := by
  have hread : Shows text schema.toJson → ofJsonText text = .ok schema := fun hshows =>
    hshows.decodeText_eq (isExact_toJson schema)
      ((levels_toJson_le schema).trans (by decide)) (ofDraft_toJson hschema)
  rcases htext with rfl | rfl
  · exact hread (shows_text _)
  · exact hread (shows_prettyText _)

/-! ### Snapshots in another order -/

/-- Snapshots that hold the same.  The enums, the types and the fields of a type may be listed in
different orders, but each table of types has its entries in the same order. -/
structure SameAs (schema other : Schema) : Prop where
  queryType : schema.queryType = other.queryType
  mutationType : schema.mutationType = other.mutationType
  enums : ∀ name, name ∈ schema.enums ↔ name ∈ other.enums
  inputTypes : ∀ typeName, schema.inputType? typeName = other.inputType? typeName
  fieldTypes : ∀ typeName,
    typeName ∈ schema.fieldArguments.keys ↔ typeName ∈ other.fieldArguments.keys
  fieldArguments : ∀ typeName fieldName,
    schema.fieldArguments? typeName fieldName = other.fieldArguments? typeName fieldName

theorem SameAs.answersAs {schema other : Schema} (hsame : schema.SameAs other) :
    schema.AnswersAs other where
  isEnum typeName := by
    rw [Bool.eq_iff_iff, isEnum, isEnum, List.contains_iff_mem, List.contains_iff_mem]
    exact hsame.enums typeName
  inputType? := hsame.inputTypes
  fieldArguments? := hsame.fieldArguments
  rootType kind := by
    cases kind with
    | query => exact hsame.queryType
    | mutation => exact hsame.mutationType

/-- A snapshot repeats nothing if it was built up from the names of its root types, or from what was
read from a text.  In whatever order it is written, it is read back as it was written.  The snapshot
that was read gives the same answers as the one that was meant, and operations are compiled with
both alike. -/
theorem stored_snapshot_answers_alike :
    (∀ (queryType mutationType : String) (additions : List Addition),
        (addAll ⟨queryType, mutationType, [], [], []⟩ additions).IsTabular) ∧
      (∀ (text : String) (schema : Schema) (additions : List Addition),
        ofJsonText text = .ok schema → (schema.addAll additions).IsTabular) ∧
      ∀ schema written : Schema, written.IsTabular → written.SameAs schema →
        ∀ text, (text = written.toJson.text ∨ text = written.toJson.prettyText) →
          ofJsonText text = .ok written ∧ written.AnswersAs schema ∧
            ∀ (kind : OperationKind) (name : Option String) (selections : List Selection),
              Compile.operation written kind name selections =
                Compile.operation schema kind name selections := by
  refine ⟨fun queryType mutationType additions => ?_, fun text schema additions hread => ?_, ?_⟩
  · exact (isTabular_ofRoots queryType mutationType).addAll additions
  · exact (isTabular_of_ofJsonText hread).addAll additions
  · intro schema written hwritten hsame text htext
    exact ⟨ofJsonText_eq_ok hwritten htext, hsame.answersAs,
      Compile.operation_congr hsame.answersAs⟩

/-- Additions that repeat an enum, an input type, its keys and the arguments of a field. -/
def shopAdditions : List Addition :=
  [.enum "Size", .inputType "Filter" [("size", "Int")], .enum "Color", .enum "Size",
    .fieldArguments "Root" "items" [("in", "Int")], .fieldArguments "Root" "count" [],
    .inputType "Filter" [("size", "Size"), ("ids", "[ID!]"), ("size", "Size!")],
    .fieldArguments "Root" "items" [("in", "Filter!"), ("first", "Int")]]

/-- What the additions amount to. -/
def shopSchema : Schema :=
  ⟨"Root", "Change", ["Size", "Color"], [("Filter", [("size", "Size!"), ("ids", "[ID!]")])],
    [("Root", [("items", [("in", "Filter!"), ("first", "Int")]), ("count", [])])]⟩

/-- The same with the enums and the fields of the type in another order. -/
def turnedShopSchema : Schema :=
  addAll ⟨"Root", "Change", [], [], []⟩
    [.enum "Color", .enum "Size", .inputType "Filter" [("size", "Size!"), ("ids", "[ID!]")],
      .fieldArguments "Root" "count" [],
      .fieldArguments "Root" "items" [("in", "Filter!"), ("first", "Int")]]

/-- The text of the turned snapshot. -/
def turnedShopText : String :=
  "\x7b\"query_type\":\"Root\",\"mutation_type\":\"Change\",\"enums\":[\"Color\",\"Size\"]," ++
    "\"input_types\":\x7b\"Filter\":\x7b\"size\":\"Size!\",\"ids\":\"[ID!]\"\x7d\x7d," ++
    "\"field_arguments\":\x7b\"Root\":\x7b\"count\":\x7b\x7d," ++
    "\"items\":\x7b\"in\":\"Filter!\",\"first\":\"Int\"\x7d\x7d\x7d\x7d"

/-- A tree with a word for an enum and a variable, both in an object. -/
def shopTree : List Selection :=
  [.field ⟨"items", none,
    [("in", .object [("size", .string "LARGE"), ("ids", .variable ⟨"ids", false⟩)])], none⟩
    [.field (.ofName "id") []]]

/-- What the tree is compiled to. -/
def shopDocument : Document :=
  ⟨.query, none, [⟨"ids", .list (.nonNull (.named "ID"))⟩],
    "\x7bitems(in:\x7bsize:LARGE,ids:$ids\x7d)\x7bid \x7d \x7d"⟩

theorem turnedShopSchema_sameAs : turnedShopSchema.SameAs shopSchema where
  queryType := rfl
  mutationType := rfl
  enums name := by
    show name ∈ ["Color", "Size"] ↔ name ∈ ["Size", "Color"]
    simp [or_comm]
  inputTypes _ := rfl
  fieldTypes _ := Iff.rfl
  fieldArguments typeName fieldName := by
    have hfields :
        Table.get? [("count", []), ("items", [("in", "Filter!"), ("first", "Int")])] fieldName =
          Table.get? [("items", [("in", "Filter!"), ("first", "Int")]), ("count", [])] fieldName :=
      Table.Distinct.get?_eq_of_perm (by decide) (.swap _ _ []) fieldName
    by_cases htype : typeName = "Root"
    · rw [htype]
      exact hfields
    · have hunknown : ∀ fields : Table (Table String),
          Table.get? [("Root", fields)] typeName = none := by
        intro fields
        rw [Table.get?_cons, if_neg htype, Table.get?_nil]
      show (Table.get? [("Root", _)] typeName).bind _ = (Table.get? [("Root", _)] typeName).bind _
      rw [hunknown, hunknown]

theorem turnedShopSchema_answers_alike :
    addAll ⟨"Root", "Change", [], [], []⟩ shopAdditions = shopSchema ∧
      turnedShopSchema.IsTabular ∧ turnedShopSchema.SameAs shopSchema ∧
      turnedShopText = turnedShopSchema.toJson.text ∧
      ofJsonText turnedShopText = .ok turnedShopSchema ∧
      (Compile.operation shopSchema .query none shopTree).1 = .ok shopDocument ∧
      Compile.operation turnedShopSchema .query none shopTree =
        Compile.operation shopSchema .query none shopTree := by
  obtain ⟨hbuilt, -, hstored⟩ := stored_snapshot_answers_alike
  have htabular : turnedShopSchema.IsTabular := hbuilt "Root" "Change" _
  have htext : turnedShopText = turnedShopSchema.toJson.text := by
    decide +kernel
  obtain ⟨hread, -, hcompile⟩ :=
    hstored shopSchema turnedShopSchema htabular turnedShopSchema_sameAs _ (.inl htext)
  have hdocument : (Compile.operation shopSchema .query none shopTree).1 = .ok shopDocument := by
    decide +kernel
  exact ⟨rfl, htabular, turnedShopSchema_sameAs, htext, hread, hdocument,
    hcompile .query none shopTree⟩

end Schema

end SelectionCompiler
