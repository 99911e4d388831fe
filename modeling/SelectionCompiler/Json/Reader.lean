import SelectionCompiler.Decimal.Scaled
import SelectionCompiler.Json.Draft

/-!
# Reading JSON texts

The reader turns the characters of a text into its draft.  Each function takes the rest of the
text and hands back what it recognised together with what is left; nothing is left when the text
broke off.  No function fails: a text that is not JSON has a draft that says where and why.

The functions that go down into a value recurse on a budget.  After at most three reductions of
the budget a character is consumed, so three times the length of the text is always enough.
-/

namespace SelectionCompiler.Json

/-- The blanks of JSON. -/
def isSpace (c : Char) : Bool :=
  c == ' ' || c == '\n' || c == '\t' || c == '\r'

/-- The text behind the blanks at its start. -/
def skipSpace (s : List Char) : List Char :=
  s.dropWhile isSpace

/-! ### Strings -/

/-- The value of a hexadecimal digit. -/
def hexValue? (c : Char) : Option Nat :=
  if '0' ≤ c && c ≤ '9' then some (c.toNat - '0'.toNat)
  else if 'a' ≤ c && c ≤ 'f' then some (c.toNat - 'a'.toNat + 10)
  else if 'A' ≤ c && c ≤ 'F' then some (c.toNat - 'A'.toNat + 10)
  else none

/-- The number that four hexadecimal digits denote. -/
def hexNumber? (a b c d : Char) : Option Nat := do
  let a ← hexValue? a
  let b ← hexValue? b
  let c ← hexValue? c
  let d ← hexValue? d
  pure (((a * 16 + b) * 16 + c) * 16 + d)

/-- The fault of an escape whose four digits are missing or are none.  When fewer than four bytes
are left the text counts as cut. -/
def hexFault (rest : List Char) : Fault :=
  if (String.ofList (rest.take 4)).utf8ByteSize < 4 then .cutString else .invalidEscape

/-- The character that a letter behind a backslash denotes. -/
def escapedChar? : Char → Option Char
  | '"' => some '"'
  | '\\' => some '\\'
  | '/' => some '/'
  | 'b' => some '\x08'
  | 'f' => some '\x0c'
  | 'n' => some '\n'
  | 'r' => some '\r'
  | 't' => some '\t'
  | _ => none

/-- What was found behind an opening quote. -/
inductive StringScan where
  /-- The characters of a complete string, and the text behind it. -/
  | complete (chars rest : List Char)
  /-- A complete string with an escape that denotes no character, and the text behind it. -/
  | refused (fault : Fault) (rest : List Char)
  /-- No complete string. -/
  | broken (fault : Fault)

namespace StringScan

/-- What was found, with one more character in front. -/
def cons (c : Char) : StringScan → StringScan
  | .complete chars rest => .complete (c :: chars) rest
  | scan => scan

/-- What was found, behind an escape that denotes no character. -/
def refuse (fault : Fault) : StringScan → StringScan
  | .complete _ rest => .refused fault rest
  | .refused _ rest => .refused fault rest
  | .broken _ => .broken fault

end StringScan

/-- The second half of a surrogate pair. -/
def isLowSurrogate (n : Nat) : Bool :=
  0xDC00 ≤ n && n ≤ 0xDFFF

/-- The first half of a surrogate pair. -/
def isHighSurrogate (n : Nat) : Bool :=
  0xD800 ≤ n && n ≤ 0xDBFF

/-- The character that a surrogate pair denotes. -/
def pairChar (high low : Nat) : Char :=
  Char.ofNat ((high - 0xD800) * 0x400 + (low - 0xDC00) + 0x10000)

/-- The first half of a pair must be followed by the second one, not by something else. -/
def settle (high : Option Nat) (scan : StringScan) : StringScan :=
  if high.isSome then scan.refuse .unpairedSurrogate else scan

/-- Reads the characters behind an opening quote up to the closing one.  `high` is the first half
of a surrogate pair if one stands directly in front. -/
def scanString (high : Option Nat) : List Char → StringScan
  | [] => .broken .cutString
  | '"' :: rest => settle high (.complete [] rest)
  | '\\' :: 'u' :: a :: b :: c :: d :: rest =>
      match hexNumber? a b c d, high with
      | none, _ => .broken (hexFault (a :: b :: c :: d :: rest))
      | some n, some first =>
          if isLowSurrogate n then (scanString none rest).cons (pairChar first n)
          else (scanString none rest).refuse .loneSurrogate
      | some n, none =>
          if isLowSurrogate n then (scanString none rest).refuse .loneSurrogate
          -- the first half waits for the second one, which has to be an escape too
          else if isHighSurrogate n then scanString (some n) rest
          else (scanString none rest).cons (Char.ofNat n)
  | '\\' :: 'u' :: rest => .broken (hexFault rest)
  | ['\\'] => .broken .cutString
  | '\\' :: c :: rest =>
      match escapedChar? c with
      | none => settle high (.broken .invalidEscape)
      | some c => settle high ((scanString none rest).cons c)
  | c :: rest =>
      if c.toNat < 0x20 then settle high (.broken .controlCharacter)
      else settle high ((scanString none rest).cons c)

/-! ### Leaves -/

/-- What was recognised, and the rest of the text unless it broke off. -/
abbrev Reading := Draft × Option (List Char)

/-- Nothing was recognised, and nothing behind it can be. -/
def breakOff (fault : Fault) : Reading :=
  (.broken fault, none)

/-- A word whose first letter has been read, and the value that it denotes. -/
def readWord (word : List Char) (value : Draft) (s : List Char) : Reading :=
  if word.isPrefixOf s then (value, some (s.drop word.length))
  -- the text ends inside the word
  else if s.isPrefixOf word then breakOff .cutValue
  else breakOff .wordExpected

/-- A string behind its opening quote. -/
def readString (s : List Char) : Reading :=
  match scanString none s with
  | .complete chars rest => (.string (String.ofList chars), some rest)
  | .refused fault rest => (.refused fault, some rest)
  | .broken fault => breakOff fault

/-- The draft of a number.  Whole numbers of at most 64 bits stay whole, all others are doubles. -/
def numberDraft (negative : Bool) (whole fraction : List Char) (exponent : Option Int) : Draft :=
  let n := Decimal.ofDigits whole
  if fraction.isEmpty && exponent.isNone && !negative && n < UInt64.size then .integer n
  -- a zero with a minus is a double, since whole numbers have no such zero
  else if fraction.isEmpty && exponent.isNone && negative && 0 < n &&
      Int64.minValue.toInt ≤ -n then .integer (-n)
  else
    match Decimal.magnitude? whole fraction (exponent.getD 0) with
    | none => .refused .numberOutOfRange
    | some x => .float (if negative then -x else x)

/-- A run of digits that must not be empty, and the text behind it. -/
def readDigits (s : List Char) : Except Fault (List Char × List Char) :=
  match s.takeWhile Char.isDigit, s with
  | [], [] => .error .cutValue
  | [], _ => .error .invalidNumber
  | digits, _ => .ok (digits, s.dropWhile Char.isDigit)

/-- The exponent of a number, if there is one. -/
def readExponent (s : List Char) : Except Fault (Option Int × List Char) :=
  match s with
  | [] => .ok (none, [])
  | c :: rest =>
      if c = 'e' || c = 'E' then
        let (negative, rest) := match rest with
          | '-' :: rest => (true, rest)
          | '+' :: rest => (false, rest)
          | rest => (false, rest)
        match readDigits rest with
        | .error fault => .error fault
        | .ok (digits, rest) =>
            let n : Int := Decimal.ofDigits digits
            .ok (some (if negative then -n else n), rest)
      else .ok (none, c :: rest)

/-- The digits behind the decimal point of a number, if there is one. -/
def readFraction (s : List Char) : Except Fault (List Char × List Char) :=
  match s with
  | '.' :: rest => readDigits rest
  | rest => .ok ([], rest)

/-- A number.  A zero in front must be the only digit before the point. -/
def readNumber (s : List Char) : Reading :=
  let (negative, s) := match s with
    | '-' :: rest => (true, rest)
    | rest => (false, rest)
  match readDigits s with
  | .error fault => breakOff fault
  | .ok (whole, rest) =>
      if whole.head? = some '0' && 1 < whole.length then breakOff .invalidNumber
      else
        match readFraction rest with
        | .error fault => breakOff fault
        | .ok (fraction, rest) =>
            match readExponent rest with
            | .error fault => breakOff fault
            | .ok (exponent, rest) => (numberDraft negative whole fraction exponent, some rest)

/-! ### Nested values -/

mutual
/-- A value of any kind. -/
def readValue (budget : Nat) (s : List Char) : Reading :=
  match budget with
  | 0 => breakOff .cutValue
  | budget + 1 =>
      match skipSpace s with
      | [] => breakOff .cutValue
      | c :: rest =>
          if c = 'n' then readWord ['u', 'l', 'l'] .null rest
          else if c = 't' then readWord ['r', 'u', 'e'] (.bool true) rest
          else if c = 'f' then readWord ['a', 'l', 's', 'e'] (.bool false) rest
          else if c = '"' then readString rest
          else if c = '[' then readArray budget rest
          else if c = '\x7b' then readObject budget rest
          else if c = '-' || c.isDigit then readNumber (c :: rest)
          else breakOff .valueExpected

/-- An array behind its opening bracket. -/
def readArray (budget : Nat) (s : List Char) : Reading :=
  match budget with
  | 0 => breakOff .cutValue
  | budget + 1 =>
      match skipSpace s with
      | [] => (.array [] .cut, none)
      | ']' :: rest => (.array [] .closed, some rest)
      | s =>
          let (items, ending, rest) := readItems budget s
          (.array items ending, rest)

/-- The items of an array from the next one on. -/
def readItems (budget : Nat) (s : List Char) : List Draft × Ending × Option (List Char) :=
  match budget with
  | 0 => ([], .cut, none)
  | budget + 1 =>
      match readValue budget s with
      | (item, none) => ([item], .cut, none)
      | (item, some rest) =>
          match skipSpace rest with
          | [] => ([item], .cut, none)
          | ']' :: rest => ([item], .closed, some rest)
          | ',' :: rest =>
              match skipSpace rest with
              | [] => ([item], .commaCut, none)
              | ']' :: _ => ([item], .commaClosed, none)
              | rest =>
                  let (items, ending, rest) := readItems budget rest
                  (item :: items, ending, rest)
          | _ => ([item], .stray, none)

/-- An object behind its opening brace. -/
def readObject (budget : Nat) (s : List Char) : Reading :=
  match budget with
  | 0 => breakOff .cutValue
  | budget + 1 =>
      match skipSpace s with
      | [] => (.object [] .cut, none)
      | '\x7d' :: rest => (.object [] .closed, some rest)
      | '"' :: rest =>
          let (entries, ending, rest) := readEntries budget rest
          (.object entries ending, rest)
      | _ => (.keyless, none)

/-- The entries of an object, behind the opening quote of the next key. -/
def readEntries (budget : Nat) (s : List Char) :
    List (String × Draft) × Ending × Option (List Char) :=
  match budget with
  | 0 => ([], .cut, none)
  | budget + 1 =>
      match scanString none s with
      | .broken fault => ([], .badKey fault, none)
      | .refused fault rest =>
          -- the entries behind a refused key matter only where the whole object is passed over
          let (entries, ending, rest) := readEntriesAfter "" budget rest
          ([], .refusedKey fault ((Draft.entriesFault entries).or ending.skippedFault), rest)
      | .complete chars rest => readEntriesAfter (String.ofList chars) budget rest

/-- The entries of an object, behind the key of the next one. -/
def readEntriesAfter (key : String) (budget : Nat) (s : List Char) :
    List (String × Draft) × Ending × Option (List Char) :=
  match budget with
  | 0 => ([], .cut, none)
  | budget + 1 =>
      match skipSpace s with
      | [] => ([(key, .broken .cutObject)], .cut, none)
      | ':' :: rest =>
          match readValue budget rest with
          | (value, none) => ([(key, value)], .cut, none)
          | (value, some rest) =>
              match skipSpace rest with
              | [] => ([(key, value)], .cut, none)
              | '\x7d' :: rest => ([(key, value)], .closed, some rest)
              | ',' :: rest =>
                  match skipSpace rest with
                  | [] => ([(key, value)], .commaCut, none)
                  | '"' :: rest =>
                      let (entries, ending, rest) := readEntries budget rest
                      ((key, value) :: entries, ending, rest)
                  | '\x7d' :: _ => ([(key, value)], .commaClosed, none)
                  | _ => ([(key, value)], .commaStray, none)
              | _ => ([(key, value)], .stray, none)
      | _ => ([(key, .broken .colonExpected)], .cut, none)
end

/-- A text offered as JSON: its draft, and whether something other than blanks follows it. -/
structure Source where
  draft : Draft
  hasMore : Bool

/-- What is recognised in a text. -/
def Source.ofText (text : String) : Source :=
  let chars := text.toList
  match readValue (3 * chars.length + 3) chars with
  | (draft, none) => ⟨draft.limit Draft.maxLevels, false⟩
  | (draft, some rest) => ⟨draft.limit Draft.maxLevels, !(skipSpace rest).isEmpty⟩

/-- The value that a text denotes, if it is JSON and nothing in it is out of range.  Brackets may be
nested to any depth. -/
def ofText? (text : String) : Option Json :=
  let source := Source.ofText text
  if source.hasMore then none else source.draft.toJson?

end SelectionCompiler.Json
