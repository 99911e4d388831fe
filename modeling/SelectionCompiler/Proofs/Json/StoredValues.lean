import SelectionCompiler.Proofs.Json.ReadBack
import SelectionCompiler.Value.Json

/-!
# Values are decoded from their JSON forms

Each value is decoded from the draft of its JSON form as itself.  It does not matter whether the
draft is decoded along with the text or after it.  An object writes its entries to a table one after
the other, so its keys must be different, as the keys of a table are.
-/

namespace SelectionCompiler

/-! ### Drafts of values -/

namespace Json.Draft

mutual
/-- The draft of a value is complete. -/
theorem check_ofJson : ∀ json : Json, (ofJson json).check = .ok ()
  | .null => rfl
  | .bool _ => rfl
  | .integer _ => rfl
  | .float _ => rfl
  | .string _ => rfl
  | .array items => by rw [ofJson, check, checkItems_ofItems items]; rfl
  | .object entries => by rw [ofJson, check, checkEntries_ofEntries entries]; rfl

theorem checkItems_ofItems : ∀ items : List Json, checkItems (ofItems items) = .ok ()
  | [] => rfl
  | item :: rest => by
      rw [ofItems, checkItems, check_ofJson item]
      exact checkItems_ofItems rest

theorem checkEntries_ofEntries : ∀ entries : List (String × Json),
    checkEntries (ofEntries entries) = .ok ()
  | [] => rfl
  | (key, value) :: rest => by
      rw [ofEntries, checkEntries, check_ofJson value]
      exact checkEntries_ofEntries rest
end

end Json.Draft

/-! ### Tables -/

namespace Table

variable {α : Type}

instance (table : Table α) : Decidable table.Distinct :=
  inferInstanceAs (Decidable table.keys.Nodup)

/-- A key that is not in a table is written at its end. -/
theorem put_of_not_mem {key : String} {table : Table α} (hkey : key ∉ table.keys) (value : α) :
    table.put key value = table ++ [(key, value)] := by
  induction table with
  | nil => rfl
  | cons entry rest ih =>
      obtain ⟨first, known⟩ := entry
      simp only [keys, List.map_cons, List.mem_cons, not_or] at hkey
      obtain ⟨hfirst, hrest⟩ := hkey
      rw [put, if_neg (Ne.symm hfirst), ih hrest, List.cons_append]

/-- The next entry of a table without repeated keys is written at the end of those before it. -/
theorem Distinct.put_next {written rest : Table α} {key : String} {value : α}
    (hdistinct : Distinct (written ++ (key, value) :: rest)) :
    Table.put key value written = written ++ [(key, value)] := by
  refine put_of_not_mem ?_ value
  simp only [Distinct, keys, List.map_append, List.map_cons] at hdistinct
  intro hmem
  exact (List.nodup_append.mp hdistinct).2.2 key hmem key List.mem_cons_self rfl

end Table

theorem Json.Draft.tableOfEntries_ofEntries {α : Type} {decode : Draft → Decoded α}
    {toJson : α → Json} : ∀ entries written : Table α,
      (∀ entry ∈ entries, decode (ofJson (toJson entry.2)) = .ok entry.2) →
      Table.Distinct (written ++ entries) →
      tableOfEntries decode written
          (ofEntries (entries.map fun entry => (entry.1, toJson entry.2))) =
        .ok (written ++ entries)
  | [], written, _, _ => by
      rw [List.append_nil]
      rfl
  | (key, value) :: rest, written, hdecode, hdistinct => by
      obtain ⟨hvalue, hothers⟩ := List.forall_mem_cons.mp hdecode
      have hput := hdistinct.put_next
      have hrest : Table.Distinct ((written ++ [(key, value)]) ++ rest) := by
        rwa [List.append_assoc]
      have hread := tableOfEntries_ofEntries rest _ hothers hrest
      rw [List.append_assoc] at hread
      rw [List.map_cons, ofEntries, tableOfEntries, hvalue]
      show tableOfEntries decode (Table.put key value written) _ = _
      rw [hput]
      exact hread

theorem Json.isExact_ofTable {α : Type} {toJson : α → Json} {table : Table α}
    (hvalues : ∀ entry ∈ table, (toJson entry.2).IsExact) :
    (Json.object (table.map fun entry => (entry.1, toJson entry.2))).IsExact := by
  refine .object fun entry hentry => ?_
  obtain ⟨known, hknown, rfl⟩ := List.mem_map.mp hentry
  exact hvalues known hknown

theorem Json.levels_ofTable_le {α : Type} {toJson : α → Json} {table : Table α} {limit : Nat}
    (hvalues : ∀ entry ∈ table, (toJson entry.2).levels ≤ limit) :
    (Json.object (table.map fun entry => (entry.1, toJson entry.2))).levels ≤ limit + 1 := by
  refine levels_object_le fun entry hentry => ?_
  obtain ⟨known, hknown, rfl⟩ := List.mem_map.mp hentry
  exact hvalues known hknown

/-- A table is decoded from the object of its entries. -/
theorem Json.Draft.asTable_ofJson {α : Type} {decode : Draft → Decoded α} {toJson : α → Json}
    {table : Table α} (hdecode : ∀ entry ∈ table, decode (ofJson (toJson entry.2)) = .ok entry.2)
    (hdistinct : table.Distinct) :
    asTable decode (ofJson (.object (table.map fun entry => (entry.1, toJson entry.2)))) =
      .ok table := by
  rw [ofJson, asTable, tableOfEntries_ofEntries table [] hdecode hdistinct]
  rfl

/-! ### Values -/

theorem VariableRef.isExact_toJson (ref : VariableRef) : ref.toJson.IsExact := by
  refine .object fun entry hentry => ?_
  simp only [List.mem_cons, List.not_mem_nil, or_false] at hentry
  rcases hentry with rfl | rfl
  · exact .string ref.name
  · exact .bool ref.alwaysRequired

namespace Value

/-- A value that a JSON text can hold without loss: there are no doubles in it, its integers have 64
bits, and no key of an object is repeated. -/
inductive IsStorable : Value → Prop where
  | variable (ref : VariableRef) : IsStorable (.variable ref)
  | int {value : Int} (hlower : Int64.minValue.toInt ≤ value)
      (hupper : value ≤ Int64.maxValue.toInt) : IsStorable (.int value)
  | string (value : String) : IsStorable (.string value)
  | boolean (value : Bool) : IsStorable (.boolean value)
  | null : IsStorable .null
  | enum (name : String) : IsStorable (.enum name)
  | list {items : List Value} (hitems : ∀ item ∈ items, IsStorable item) : IsStorable (.list items)
  | object {entries : Table Value} (hdistinct : entries.Distinct)
      (hentries : ∀ entry ∈ entries, IsStorable entry.2) : IsStorable (.object entries)

open Json

/-! ### Texts of values -/

theorem isExact_variant {json : Json} (hjson : json.IsExact) (name : String) :
    (Json.object [(name, json)]).IsExact := by
  refine .object fun entry hentry => ?_
  rw [List.mem_singleton.mp hentry]
  exact hjson

theorem isWhole_of_int {n : Int} (hlower : Int64.minValue.toInt ≤ n)
    (hupper : n ≤ Int64.maxValue.toInt) : IsWhole n := by
  have hsize : Int64.maxValue.toInt < UInt64.size := by decide
  exact ⟨hlower, by omega⟩

mutual
theorem isExact_toJson : ∀ value : Value, value.IsStorable → value.toJson.IsExact
  | .variable ref, _ => isExact_variant ref.isExact_toJson "Variable"
  | .int value, hstorable => by
      cases hstorable with
      | int hlower hupper =>
          exact isExact_variant (.integer (isWhole_of_int hlower hupper)) "Int"
  | .float _, hstorable => by cases hstorable
  | .string value, _ => isExact_variant (.string value) "String"
  | .boolean value, _ => isExact_variant (.bool value) "Boolean"
  | .null, _ => .string "Null"
  | .enum name, _ => isExact_variant (.string name) "Enum"
  | .list items, hstorable => by
      cases hstorable with
      | list hitems => exact isExact_variant (.array (isExact_itemsToJson items hitems)) "List"
  | .object entries, hstorable => by
      cases hstorable with
      | object _ hentries =>
          exact isExact_variant (.object (isExact_entriesToJson entries hentries)) "Object"

theorem isExact_itemsToJson : ∀ items : List Value, (∀ item ∈ items, item.IsStorable) →
    ∀ json ∈ itemsToJson items, json.IsExact
  | [], _ => by
      intro json hjson
      cases hjson
  | item :: rest, hstorable => by
      obtain ⟨hitem, hrest⟩ := List.forall_mem_cons.mp hstorable
      exact List.forall_mem_cons.mpr ⟨isExact_toJson item hitem, isExact_itemsToJson rest hrest⟩

theorem isExact_entriesToJson : ∀ entries : List (String × Value),
    (∀ entry ∈ entries, entry.2.IsStorable) →
    ∀ entry ∈ entriesToJson entries, entry.2.IsExact
  | [], _ => by
      intro entry hentry
      cases hentry
  | (key, value) :: rest, hstorable => by
      obtain ⟨hvalue, hrest⟩ := List.forall_mem_cons.mp hstorable
      exact List.forall_mem_cons.mpr
        ⟨isExact_toJson value hvalue, isExact_entriesToJson rest hrest⟩
end

/-! ### Values from drafts -/

/-- A variant is decoded from an object with its name as the only key. -/
theorem ofDraft_variant {origin : Origin} {name : String} {draft : Draft} {value : Value}
    (hvariant : ofVariant origin name draft = .ok value) :
    ofDraft origin (.object [(name, draft)] .closed) = .ok value := by
  rw [ofDraft, hvariant]
  cases origin <;> rfl

mutual
/-- A value is decoded from its JSON form. -/
theorem ofDraft_toJson (origin : Origin) : ∀ value : Value, value.IsStorable →
    ofDraft origin (.ofJson value.toJson) = .ok value
  | .variable ref, _ => ofDraft_variant rfl
  | .int value, hstorable => by
      cases hstorable with
      | int hlower hupper =>
          refine ofDraft_variant ?_
          have hint : Draft.asInt (.integer value) = .ok value := by
            rw [Draft.asInt, if_pos hupper]
          simp only [ofVariant, Draft.ofJson, hint]
          rfl
  | .float _, hstorable => by cases hstorable
  | .string value, _ => ofDraft_variant rfl
  | .boolean value, _ => ofDraft_variant rfl
  | .null, _ => rfl
  | .enum name, _ => ofDraft_variant rfl
  | .list items, hstorable => by
      cases hstorable with
      | list hitems =>
          refine ofDraft_variant ?_
          have hread := ofItems_itemsToJson origin items hitems
          simp only [ofVariant, Draft.ofJson, hread]
          rfl
  | .object entries, hstorable => by
      cases hstorable with
      | object hdistinct hentries =>
          refine ofDraft_variant ?_
          have hread := ofEntries_entriesToJson origin entries [] hdistinct hentries
          simp only [ofVariant, Draft.ofJson, hread]
          rfl

theorem ofItems_itemsToJson (origin : Origin) : ∀ items : List Value,
    (∀ item ∈ items, item.IsStorable) →
    ofItems origin (Draft.ofItems (itemsToJson items)) = .ok items
  | [], _ => rfl
  | item :: rest, hstorable => by
      obtain ⟨hitem, hrest⟩ := List.forall_mem_cons.mp hstorable
      rw [itemsToJson, Draft.ofItems, ofItems, ofDraft_toJson origin item hitem,
        ofItems_itemsToJson origin rest hrest]
      rfl

theorem ofEntries_entriesToJson (origin : Origin) : ∀ (entries written : Table Value),
    Table.Distinct (written ++ entries) → (∀ entry ∈ entries, entry.2.IsStorable) →
    ofEntries origin written (Draft.ofEntries (entriesToJson entries)) = .ok (written ++ entries)
  | [], written, _, _ => by
      rw [List.append_nil]
      rfl
  | (key, value) :: rest, written, hdistinct, hstorable => by
      obtain ⟨hvalue, hrest⟩ := List.forall_mem_cons.mp hstorable
      have hread := ofEntries_entriesToJson origin rest (written ++ [(key, value)])
        (by rwa [List.append_assoc]) hrest
      rw [List.append_assoc] at hread
      rw [entriesToJson, Draft.ofEntries, ofEntries, ofDraft_toJson origin value hvalue]
      show ofEntries origin (Table.put key value written) _ = _
      rw [hdistinct.put_next]
      exact hread
end

/-- The arguments of a field are decoded from their JSON form. -/
theorem tableOfDraft_entriesToJson (origin : Origin) {entries : Table Value}
    (hdistinct : entries.Distinct) (hstorable : ∀ entry ∈ entries, entry.2.IsStorable) :
    tableOfDraft origin (.ofJson (.object (entriesToJson entries))) = .ok entries := by
  have hread := ofEntries_entriesToJson origin entries [] hdistinct hstorable
  simp only [tableOfDraft, Draft.ofJson, hread]
  rfl

end Value

end SelectionCompiler
