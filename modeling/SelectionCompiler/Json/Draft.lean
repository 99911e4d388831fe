import SelectionCompiler.Json

/-!
# Drafts of JSON texts

A text that is offered as JSON may break off, or hold something that is not JSON.  Its *draft* is
the tree of all that could be recognised up to that place.  A reader of the draft goes through it
in the order of the text, so that of two things that are wrong with a text the earlier one is
reported, whether it concerns the form of the text or the meaning of a value.

Some faults do not end a text: a number too large for a double, a character escape that denotes no
character, and brackets nested too deeply.  They are noticed when the value is read, and not when
it is skipped.
-/

namespace SelectionCompiler.Json

/-- What keeps a text from being JSON that can be read. -/
inductive Fault where
  | cutArray
  | cutObject
  | cutString
  | cutValue
  | colonExpected
  | commaOrBracketExpected
  | commaOrBraceExpected
  | wordExpected
  | valueExpected
  | invalidEscape
  | invalidNumber
  | numberOutOfRange
  | controlCharacter
  | keyExpected
  | loneSurrogate
  | trailingComma
  | trailingCharacters
  | unpairedSurrogate
  | tooDeep
deriving DecidableEq

/-- The text that tells what is wrong with a JSON text. -/
def Fault.message : Fault → String
  | .cutArray => "EOF while parsing a list"
  | .cutObject => "EOF while parsing an object"
  | .cutString => "EOF while parsing a string"
  | .cutValue => "EOF while parsing a value"
  | .colonExpected => "expected `:`"
  | .commaOrBracketExpected => "expected `,` or `]`"
  | .commaOrBraceExpected => "expected `,` or `\x7d`"
  | .wordExpected => "expected ident"
  | .valueExpected => "expected value"
  | .invalidEscape => "invalid escape"
  | .invalidNumber => "invalid number"
  | .numberOutOfRange => "number out of range"
  | .controlCharacter => "control character (\\u0000-\\u001F) found while parsing a string"
  | .keyExpected => "key must be a string"
  | .loneSurrogate => "lone leading surrogate in hex escape"
  | .trailingComma => "trailing comma"
  | .trailingCharacters => "trailing characters"
  | .unpairedSurrogate => "unexpected end of hex escape"
  | .tooDeep => "recursion limit exceeded"

/-- What follows the last complete item of an array or entry of an object. -/
inductive Ending where
  /-- The closing bracket. -/
  | closed
  /-- The end of the text. -/
  | cut
  /-- Something that is neither a comma nor the closing bracket. -/
  | stray
  /-- A comma and then the closing bracket. -/
  | commaClosed
  /-- A comma and then the end of the text. -/
  | commaCut
  /-- A comma and then something that is no key. -/
  | commaStray
  /-- A key that is no complete string. -/
  | badKey (fault : Fault)
  /-- A complete key that denotes no text.  `behind` is what keeps the rest of the object, from
  that key on, from being JSON. -/
  | refusedKey (fault : Fault) (behind : Option Fault)
deriving DecidableEq

namespace Ending

/-- The fault that is met where the next item of an array is looked for. -/
def itemFault : Ending → Option Fault
  | .closed => none
  | .cut => some .cutArray
  | .stray => some .commaOrBracketExpected
  | .commaClosed => some .trailingComma
  | .commaCut => some .cutValue
  | .commaStray => some .valueExpected
  | .badKey fault => some fault
  | .refusedKey fault _ => some fault

/-- The fault that is met where the end of an array is looked for. -/
def bracketFault : Ending → Option Fault
  | .closed => none
  | .cut => some .cutArray
  | .commaClosed => some .trailingComma
  | _ => some .trailingCharacters

/-- The fault that is met where the next entry of an object is looked for. -/
def entryFault : Ending → Option Fault
  | .closed => none
  | .cut => some .cutObject
  | .stray => some .commaOrBraceExpected
  | .commaClosed => some .trailingComma
  | .commaCut => some .cutValue
  | .commaStray => some .keyExpected
  | .badKey fault => some fault
  | .refusedKey fault _ => some fault

/-- The fault that is met where the next entry of an object is skipped.  What a key denotes does
not matter then. -/
def skippedFault : Ending → Option Fault
  | .refusedKey _ behind => behind
  | ending => ending.entryFault

/-- The fault that is met where the end of an object of one entry is looked for. -/
def braceFault : Ending → Option Fault
  | .closed => none
  | .cut => some .cutObject
  | _ => some .valueExpected

end Ending

/-- A JSON text as far as it could be recognised. -/
inductive Draft where
  | null
  | bool (value : Bool)
  | integer (value : Int)
  | float (value : Float)
  | string (value : String)
  | array (items : List Draft) (ending : Ending)
  | object (entries : List (String × Draft)) (ending : Ending)
  /-- An object with something that is no string in the place of its first key. -/
  | keyless
  /-- A complete number or string that cannot be represented. -/
  | refused (fault : Fault)
  /-- The place where the text stops being JSON. -/
  | broken (fault : Fault)
  /-- An array or object that is nested too deeply to be read. -/
  | tooDeep (value : Draft)
deriving Inhabited

namespace Draft

/-! ### Values as drafts -/

mutual
/-- The draft of the text of a value. -/
def ofJson : Json → Draft
  | .null => .null
  | .bool value => .bool value
  | .integer value => .integer value
  | .float value => .float value
  | .string value => .string value
  | .array items => .array (ofItems items) .closed
  | .object entries => .object (ofEntries entries) .closed

/-- The drafts of the texts of items. -/
def ofItems : List Json → List Draft
  | [] => []
  | item :: rest => ofJson item :: ofItems rest

/-- The drafts of the texts of the values of entries. -/
def ofEntries : List (String × Json) → List (String × Draft)
  | [] => []
  | (key, value) :: rest => (key, ofJson value) :: ofEntries rest
end

mutual
/-- The value of a draft with which nothing is wrong but its depth. -/
def toJson? : Draft → Option Json
  | .null => some .null
  | .bool value => some (.bool value)
  | .integer value => some (.integer value)
  | .float value => some (.float value)
  | .string value => some (.string value)
  | .array items .closed => .array <$> itemsToJson? items
  | .object entries .closed => .object <$> entriesToJson? entries
  | .tooDeep value => toJson? value
  | _ => none

/-- The values of the drafts of items, if nothing is wrong with any of them. -/
def itemsToJson? : List Draft → Option (List Json)
  | [] => some []
  | item :: rest => do
      let value ← toJson? item
      let values ← itemsToJson? rest
      some (value :: values)

/-- The entries of the drafts of entries, if nothing is wrong with any of them. -/
def entriesToJson? : List (String × Draft) → Option (List (String × Json))
  | [] => some []
  | (key, draft) :: rest => do
      let value ← toJson? draft
      let entries ← entriesToJson? rest
      some ((key, value) :: entries)
end

/-! ### Form -/

mutual
/-- What keeps the text of a draft from having the form of JSON, if anything.  What a string or a
number denotes and how deep brackets are nested does not matter. -/
def formFault : Draft → Option Fault
  | .array items ending => (itemsFault items).or ending.itemFault
  | .object entries ending => (entriesFault entries).or ending.skippedFault
  | .keyless => some .keyExpected
  | .broken fault => some fault
  | .tooDeep value => formFault value
  | _ => none

/-- The first fault in the form of items. -/
def itemsFault : List Draft → Option Fault
  | [] => none
  | item :: rest => (formFault item).or (itemsFault rest)

/-- The first fault in the form of the values of entries. -/
def entriesFault : List (String × Draft) → Option Fault
  | [] => none
  | (_, value) :: rest => (formFault value).or (entriesFault rest)
end

/-! ### Nesting -/

mutual
/-- Marks the arrays and objects that have as many as `levels` others around them. -/
def limit (levels : Nat) : Draft → Draft
  | .array items ending =>
      match levels with
      | 0 => .tooDeep (.array items ending)
      | levels + 1 => .array (limitItems levels items) ending
  | .object entries ending =>
      match levels with
      | 0 => .tooDeep (.object entries ending)
      | levels + 1 => .object (limitEntries levels entries) ending
  | .keyless =>
      match levels with
      | 0 => .tooDeep .keyless
      | _ + 1 => .keyless
  | draft => draft

/-- Marks what is nested too deeply in the items of an array. -/
def limitItems (levels : Nat) : List Draft → List Draft
  | [] => []
  | item :: rest => limit levels item :: limitItems levels rest

/-- Marks what is nested too deeply in the values of an object. -/
def limitEntries (levels : Nat) : List (String × Draft) → List (String × Draft)
  | [] => []
  | (key, value) :: rest => (key, limit levels value) :: limitEntries levels rest
end

/-- Arrays and objects may be nested this deeply. -/
def maxLevels : Nat := 127

end Draft

end SelectionCompiler.Json
