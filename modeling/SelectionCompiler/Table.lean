/-!
# Tables

A table lists entries under text keys in the order in which the keys were first written.  Writing
a key again replaces its value and leaves it in its place.  Tables are plain lists of pairs, so
that they can stand inside the recursive types of values and selections; `Distinct` says that no
key occurs twice, and every table made by `put` has that property.
-/

namespace SelectionCompiler

/-- Entries under text keys, in the order in which the keys were first written. -/
abbrev Table (α : Type) := List (String × α)

namespace Table

variable {α : Type}

/-- The keys of the entries, in their order. -/
def keys (table : Table α) : List String :=
  table.map Prod.fst

/-- No key occurs twice. -/
def Distinct (table : Table α) : Prop :=
  table.keys.Nodup

/-- The value under a key. -/
def get? (table : Table α) (key : String) : Option α :=
  table.lookup key

/-- Writes a value under a key: in place when the key is present, at the end otherwise. -/
def put (key : String) (value : α) : Table α → Table α
  | [] => [(key, value)]
  | (k, v) :: rest => if k = key then (k, value) :: rest else (k, v) :: put key value rest

/-- The table that results from writing the pairs one after the other. -/
def ofPairs (pairs : List (String × α)) : Table α :=
  pairs.foldl (fun table pair => table.put pair.1 pair.2) []

/-! ### Keys after a write -/

theorem mem_keys_put {key other : String} {value : α} {table : Table α} :
    other ∈ (table.put key value).keys ↔ other = key ∨ other ∈ table.keys := by
  induction table with
  | nil => simp [put, keys]
  | cons entry rest ih =>
      obtain ⟨k, v⟩ := entry
      by_cases h : k = key
      · subst h
        simp [put, keys]
      · simp only [keys] at ih
        simp [put, keys, h, ih, or_left_comm]

theorem keys_put_of_mem {key : String} {value : α} {table : Table α} (hmem : key ∈ table.keys) :
    (table.put key value).keys = table.keys := by
  induction table with
  | nil => simp [keys] at hmem
  | cons entry rest ih =>
      obtain ⟨k, v⟩ := entry
      by_cases h : k = key
      · simp [put, keys, h]
      · have hrest : key ∈ Table.keys rest := by simpa [keys, Ne.symm h] using hmem
        simpa [put, keys, h] using ih hrest

theorem Distinct.put {table : Table α} (distinct : table.Distinct) (key : String) (value : α) :
    (table.put key value).Distinct := by
  induction table with
  | nil => simp [Table.put, Distinct, keys]
  | cons entry rest ih =>
      obtain ⟨k, v⟩ := entry
      simp only [Distinct, keys, List.map_cons, List.nodup_cons] at distinct ih
      by_cases h : k = key
      · subst h
        simpa [Table.put, Distinct, keys] using distinct
      · have hmem := @mem_keys_put α key k value rest
        simp only [keys] at hmem
        simp only [Table.put, h, if_false, Distinct, keys, List.map_cons, List.nodup_cons, hmem]
        exact ⟨by simp [distinct.1], ih distinct.2⟩

theorem distinct_ofPairs (pairs : List (String × α)) : (ofPairs pairs).Distinct := by
  have general : ∀ (pairs : List (String × α)) (table : Table α), table.Distinct →
      (pairs.foldl (fun table pair => table.put pair.1 pair.2) table).Distinct := by
    intro pairs
    induction pairs with
    | nil => exact fun table h => h
    | cons pair rest ih => exact fun table h => ih _ (h.put pair.1 pair.2)
  exact general pairs [] (by simp [Distinct, keys])

/-! ### Values under keys -/

@[simp] theorem get?_nil (key : String) : get? ([] : Table α) key = none := rfl

theorem get?_cons (key k : String) (v : α) (rest : Table α) :
    get? ((k, v) :: rest) key = if key = k then some v else get? rest key := by
  unfold get?
  rw [List.lookup_cons]
  by_cases h : key = k
  · simp [h]
  · have hne : (key == k) = false := by simpa using h
    simp [hne, h]

theorem get?_put (key other : String) (value : α) (table : Table α) :
    (table.put key value).get? other = if other = key then some value else table.get? other := by
  induction table with
  | nil => rw [put, get?_cons]
  | cons entry rest ih =>
      obtain ⟨k, v⟩ := entry
      by_cases hkey : k = key
      · subst hkey
        rw [put, if_pos rfl, get?_cons, get?_cons]
        split <;> rfl
      · rw [put, if_neg hkey, get?_cons, get?_cons, ih]
        by_cases h : other = k
        · subst h
          simp [hkey]
        · simp [h]

theorem get?_append (table rest : Table α) (key : String) :
    get? (table ++ rest) key = (table.get? key).or (rest.get? key) :=
  List.lookup_append

theorem get?_eq_none_iff {key : String} {table : Table α} :
    table.get? key = none ↔ key ∉ table.keys := by
  induction table with
  | nil => simp [keys]
  | cons entry rest ih =>
      obtain ⟨k, v⟩ := entry
      rw [get?_cons]
      by_cases h : key = k
      · simp [keys, h]
      · rw [if_neg h, ih]
        simp [keys, h]

theorem Distinct.get?_of_mem {table : Table α} (distinct : table.Distinct) {key : String}
    {value : α} (hmem : (key, value) ∈ table) : table.get? key = some value := by
  induction table with
  | nil => simp at hmem
  | cons entry rest ih =>
      obtain ⟨k, v⟩ := entry
      simp only [Distinct, keys, List.map_cons, List.nodup_cons] at distinct
      rw [get?_cons]
      rcases List.mem_cons.mp hmem with heq | hrest
      · obtain ⟨rfl, rfl⟩ := Prod.mk.inj heq
        simp
      · have hne : key ≠ k := by
          rintro rfl
          exact distinct.1 (List.mem_map_of_mem (f := Prod.fst) hrest)
        rw [if_neg hne]
        exact ih distinct.2 hrest

/-- Tables with the same keys in the same order and with the same value under each key are equal. -/
theorem Distinct.eq_of_get? {table other : Table α} (distinct : table.Distinct)
    (hkeys : table.keys = other.keys) (hget : ∀ key, table.get? key = other.get? key) :
    table = other := by
  induction table generalizing other with
  | nil => exact (List.map_eq_nil_iff.mp hkeys.symm).symm
  | cons entry rest ih =>
      obtain ⟨k, v⟩ := entry
      cases other with
      | nil => cases hkeys
      | cons entry others =>
          obtain ⟨l, w⟩ := entry
          obtain ⟨hfresh, hrest⟩ := List.nodup_cons.mp distinct
          obtain ⟨rfl, htail⟩ : k = l ∧ keys rest = keys others := List.cons.inj hkeys
          have hvalue : v = w := by simpa [get?_cons] using hget k
          have hothers : rest = others := by
            refine ih hrest htail fun key => ?_
            have hkey := hget key
            rw [get?_cons, get?_cons] at hkey
            by_cases h : key = k
            · have hfirst : get? rest key = none := get?_eq_none_iff.mpr (h ▸ hfresh)
              have hsecond : get? others key = none :=
                get?_eq_none_iff.mpr (by rw [h, ← htail]; exact hfresh)
              rw [hfirst, hsecond]
            · rwa [if_neg h, if_neg h] at hkey
          rw [hvalue, hothers]

theorem mem_of_get? {key : String} {value : α} {table : Table α}
    (hget : table.get? key = some value) : (key, value) ∈ table := by
  obtain ⟨before, after, rfl, _⟩ := List.lookup_eq_some_iff.mp hget
  exact List.mem_append_right before List.mem_cons_self

end Table

end SelectionCompiler
