import SelectionCompiler.Json.ReadError
import SelectionCompiler.Json.Reader
import SelectionCompiler.Table

/-!
# Decoding drafts

Decoders turn a draft into a value of the library.  They go through the draft in the order of the
text and stop at the first thing that is wrong.

Some values are decoded while their text is read, others only after it has been read completely.
The two origins differ in how they take an array that is longer than the record it stands for, and
in how they take a variant that is not written as a name or as an object with one key.
-/

namespace SelectionCompiler.Json

/-- Whether a decoder follows the text or looks at a value that was read before. -/
inductive Origin where
  | text
  | tree
deriving DecidableEq

/-- The outcome of a decoder. -/
abbrev Decoded (α : Type) := Except ReadError α

/-- Fails if there is a fault. -/
def reject (fault : Option Fault) : Decoded Unit :=
  match fault with
  | none => .ok ()
  | some fault => .error (.malformed fault)

/-- A value that is not what is wanted. -/
def mismatch {α : Type} (cause : Mismatch) : Decoded α :=
  .error (.mismatch cause)

/-- Where two steps in a row give a result, the first one does. -/
theorem exists_of_bind_eq_ok {ε α β : Type} {result : Except ε α} {next : α → Except ε β} {b : β}
    (hok : result >>= next = .ok b) : ∃ a, result = .ok a ∧ next a = .ok b := by
  cases result with
  | error error => cases hok
  | ok a => exact ⟨a, rfl, hok⟩

theorem exists_of_map_eq_ok {ε α β : Type} {result : Except ε α} {f : α → β} {b : β}
    (hok : f <$> result = .ok b) : ∃ a, result = .ok a ∧ f a = b := by
  cases result with
  | error error => cases hok
  | ok a => exact ⟨a, rfl, Except.ok.inj hok⟩

namespace Draft

/-- What a draft looks like from its first character on. -/
def head : Draft → Except Fault Found
  | .null => .ok .null
  | .bool value => .ok (.bool value)
  | .integer value => .ok (.integer value)
  | .float value => .ok (.float value)
  | .string value => .ok (.string value)
  | .array .. => .ok .sequence
  | .object .. => .ok .map
  | .keyless => .ok .map
  | .refused fault => .error fault
  | .broken fault => .error fault
  -- the type of a value shows before its brackets are entered
  | .tooDeep value => value.head

/-- The draft is of another type than is wanted. -/
def notA {α : Type} (draft : Draft) (wanted : String) : Decoded α :=
  match draft.head with
  | .ok found => mismatch (.invalidType found wanted)
  | .error fault => .error (.malformed fault)

/-- The draft is of another type than an array. -/
def notArray {α : Type} (draft : Draft) (wanted : String) : Decoded α :=
  match draft with
  | .tooDeep (.array ..) => .error (.malformed .tooDeep)
  | draft => draft.notA wanted

/-- The draft is of another type than an object. -/
def notObject {α : Type} (draft : Draft) (wanted : String) : Decoded α :=
  match draft with
  | .tooDeep (.object ..) => .error (.malformed .tooDeep)
  | .tooDeep .keyless => .error (.malformed .tooDeep)
  | .keyless => .error (.malformed .keyExpected)
  | draft => draft.notA wanted

/-- The draft is of another type than a record, which may be an array or an object. -/
def notRecord {α : Type} (draft : Draft) (wanted : String) : Decoded α :=
  match draft with
  | .tooDeep _ => .error (.malformed .tooDeep)
  | .keyless => .error (.malformed .keyExpected)
  | draft => draft.notA wanted

theorem notA_ne_ok {α : Type} (draft : Draft) (wanted : String) (value : α) :
    draft.notA wanted ≠ .ok value := by
  unfold notA
  cases draft.head <;> rintro ⟨⟩

theorem notObject_ne_ok {α : Type} (draft : Draft) (wanted : String) (value : α) :
    draft.notObject wanted ≠ .ok value := by
  unfold notObject
  split
  · rintro ⟨⟩
  · rintro ⟨⟩
  · rintro ⟨⟩
  · exact notA_ne_ok _ _ _

theorem notRecord_ne_ok {α : Type} (draft : Draft) (wanted : String) (value : α) :
    draft.notRecord wanted ≠ .ok value := by
  unfold notRecord
  split
  · rintro ⟨⟩
  · rintro ⟨⟩
  · exact notA_ne_ok _ _ _

/-! ### Values that are read without being used -/

mutual
/-- Reads a value completely, whatever it is. -/
def check : Draft → Decoded Unit
  | .array items ending => do
      checkItems items
      reject ending.itemFault
  | .object entries ending => do
      checkEntries entries
      reject ending.entryFault
  | .keyless => .error (.malformed .keyExpected)
  | .refused fault => .error (.malformed fault)
  | .broken fault => .error (.malformed fault)
  | .tooDeep _ => .error (.malformed .tooDeep)
  | _ => .ok ()

/-- Reads the items of an array completely. -/
def checkItems : List Draft → Decoded Unit
  | [] => .ok ()
  | item :: rest => do
      check item
      checkItems rest

/-- Reads the values of an object completely. -/
def checkEntries : List (String × Draft) → Decoded Unit
  | [] => .ok ()
  | (_, value) :: rest => do
      check value
      checkEntries rest
end

/-- Skips a value.  Only its form matters. -/
def skip (draft : Draft) : Decoded Unit :=
  reject draft.formFault

/-! ### Leaves and tables -/

/-- A text. -/
def asString : Draft → Decoded String
  | .string value => .ok value
  | draft => draft.notA "a string"

/-- A truth value. -/
def asBool : Draft → Decoded Bool
  | .bool value => .ok value
  | draft => draft.notA "a boolean"

/-- A whole number of 64 bits with a sign. -/
def asInt : Draft → Decoded Int
  | .integer value =>
      -- the reader keeps whole numbers up to 64 bits without a sign, never below `Int64.minValue`
      if value ≤ Int64.maxValue.toInt then .ok value
      else mismatch (.invalidValue (.integer value) "i64")
  | draft => draft.notA "i64"

/-- A number as a double. -/
def asFloat : Draft → Decoded Float
  | .float value => .ok value
  | .integer value => .ok (Float.ofInt value)
  | draft => draft.notA "f64"

/-- A value that may be given as `null`. -/
def asOption {α : Type} (decode : Draft → Decoded α) : Draft → Decoded (Option α)
  | .null => .ok none
  | draft => some <$> decode draft

/-- The values of entries, written one after the other to a table. -/
def tableOfEntries {α : Type} (decode : Draft → Decoded α) :
    Table α → List (String × Draft) → Decoded (Table α)
  | table, [] => .ok table
  | table, (key, draft) :: rest => do
      let value ← decode draft
      tableOfEntries decode (table.put key value) rest

/-- An object as a table. -/
def asTable {α : Type} (decode : Draft → Decoded α) : Draft → Decoded (Table α)
  | .object entries ending => do
      let table ← tableOfEntries decode [] entries
      reject ending.entryFault
      pure table
  | draft => draft.notObject "a map"

/-- The values of items, in their order. -/
def listOfItems {α : Type} (decode : Draft → Decoded α) : List Draft → Decoded (List α)
  | [] => .ok []
  | item :: rest => do
      let value ← decode item
      let values ← listOfItems decode rest
      pure (value :: values)

/-- An array as a list. -/
def asList {α : Type} (decode : Draft → Decoded α) : Draft → Decoded (List α)
  | .array items ending => do
      let values ← listOfItems decode items
      reject ending.itemFault
      pure values
  | draft => draft.notArray "a sequence"

end Draft

namespace Origin

/-- Passes over the value of a key that is not known. -/
def ignore (origin : Origin) (draft : Draft) : Decoded Unit :=
  match origin with
  | .text => draft.skip
  | .tree => .ok ()

/-- The end of an array that stands for a record.  Without its first `required` fields there is no
record; the fields behind them may be left out, and more than all `arity` of them are too many. -/
def endRecord (origin : Origin) (record : String) (required arity count : Nat)
    (ending : Ending) : Decoded Unit :=
  if count < arity then do
    -- the text is asked for a further item, and only its end tells that there is none
    reject ending.itemFault
    if count < required then
      mismatch (.invalidLength count
        ("struct " ++ record ++ " with " ++ Text.decimal arity ++ " elements"))
    else .ok ()
  else if count = arity then reject ending.bracketFault
  else
    match origin with
    | .text => .error (.malformed .trailingCharacters)
    | .tree =>
        mismatch (.invalidLength count (Text.decimal arity ++ " elements in sequence"))

/-! ### Variants

A variant is written as an object whose only key is the name of the variant; one without a value
may also be written as its name alone. -/

/-- Before the value of a variant: a value that was read before has to have one key. -/
def beginVariant (origin : Origin) (others : List (String × Draft)) : Decoded Unit :=
  match origin with
  | .text => .ok ()
  | .tree =>
      if others.isEmpty then .ok () else mismatch (.invalidValue .map "map with a single key")

/-- Behind the value of a variant: the text has to go on with the end of the object. -/
def endVariant (origin : Origin) (others : List (String × Draft)) (ending : Ending) :
    Decoded Unit :=
  match origin with
  | .text => if others.isEmpty then reject ending.braceFault else .error (.malformed .valueExpected)
  | .tree => .ok ()

/-- The draft is neither a name nor an object with a key. -/
def notVariant {α : Type} (origin : Origin) (draft : Draft) : Decoded α :=
  match origin with
  | .text =>
      match draft with
      | .keyless => .error (.malformed .keyExpected)
      | .object _ (.badKey fault) => .error (.malformed fault)
      | .object _ (.refusedKey fault _) => .error (.malformed fault)
      | .object _ .cut => .error (.malformed .cutValue)
      | .tooDeep (.object ..) => .error (.malformed .tooDeep)
      | .tooDeep .keyless => .error (.malformed .tooDeep)
      | .broken .cutValue => .error (.malformed .cutValue)
      -- only a quote or a brace opens a variant, so no other character is looked into
      | _ => .error (.malformed .valueExpected)
  | .tree =>
      match draft with
      | .object .. => mismatch (.invalidValue .map "map with a single key")
      | draft => draft.notA "string or map"

/-- The value of a variant that carries none. -/
def noValue (origin : Origin) (draft : Draft) : Decoded Unit :=
  match draft, origin with
  | .null, _ => .ok ()
  | .object [] .closed, .tree => .ok ()
  | draft, _ => draft.notA "unit"

end Origin

/-- Decodes a text that has to hold one value and nothing behind it. -/
def Source.decode {α : Type} (source : Source) (decoder : Draft → Decoded α) : Decoded α := do
  let value ← decoder source.draft
  if source.hasMore then .error (.malformed .trailingCharacters)
  else pure value

/-- Decodes a text. -/
def decodeText {α : Type} (decoder : Draft → Decoded α) (text : String) : Decoded α :=
  (Source.ofText text).decode decoder

end SelectionCompiler.Json
