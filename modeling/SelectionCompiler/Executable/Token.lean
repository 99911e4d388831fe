import SelectionCompiler.Decimal.Nearest
import SelectionCompiler.Executable.BlockString
import SelectionCompiler.Json.Reader
import SelectionCompiler.Name

/-!
# Tokens

The tokens of executable documents: punctuators, names, numbers and strings.  Blanks, commas and
comments separate tokens and mean nothing else.  A string stands between quotes on one line, or
between triple quotes on any number of lines.

Names and punctuators are the same for all readers.  Readers differ in the details of strings and of
numbers, which are left to a `Dialect`.
-/

namespace SelectionCompiler.Executable

/-- The least part of a document that means something. -/
inductive Token where
  | punctuator (c : Char)
  | spread
  | name (text : String)
  | int (value : Int)
  | float (value : Float)
  | string (value : String)

/-- What may differ from one reader of executable documents to the next. -/
structure Dialect where
  /-- The character may stand for itself between quotes, if it is no quote and no backslash. -/
  admitsChar : Char → Bool
  /-- The character that a letter behind a backslash denotes. -/
  escapedChar? : Char → Option Char
  /-- The number that four characters denote behind a backslash and the letter `u`. -/
  escapedNumber? : Char → Char → Char → Char → Option Nat
  /-- How block strings are read. -/
  block : BlockString.Rules
  /-- The whole number can be read. -/
  admitsInt : Int → Bool
  /-- The characters are the exponent of a number. -/
  isExponent : List Char → Bool
  /-- The text of a number that has the first character goes on with the second one. -/
  continuesNumber : Char → Char → Bool

namespace Token

/-- A character that is a token of its own. -/
def isPunctuator (c : Char) : Bool :=
  c ∈ ['\x7b', '\x7d', '(', ')', '[', ']', ':', '=', '!', '|', '&', '@', '$']

/-- A character that separates tokens. -/
def isIgnored (c : Char) : Bool :=
  c ∈ [' ', ',', '\t', '\n', '\r', '\uFEFF']

/-- The text behind the blanks, commas and comments at its start.  `comment` tells whether the
text starts inside a comment. -/
def skipIgnored (comment : Bool) : List Char → List Char
  | [] => []
  | c :: rest =>
      if comment then skipIgnored (c ≠ '\n' && c ≠ '\r') rest
      else if isIgnored c then skipIgnored false rest
      else if c = '#' then skipIgnored true rest
      else c :: rest

/-! ### Exponents -/

/-- The exponent of a number: a letter, digits, and perhaps a sign in front of the digits. -/
def isExponent : List Char → Bool
  | [] => false
  | letter :: rest =>
      let digits := match rest with
        | '+' :: digits => digits
        | '-' :: digits => digits
        | digits => digits
      (letter = 'e' || letter = 'E') && !digits.isEmpty && digits.all Char.isDigit

/-- An exponent in which a sign has to stand in front of digits of which the first is a zero or a
nine. -/
def isNarrowExponent : List Char → Bool
  | letter :: first :: rest =>
      (letter = 'e' || letter = 'E') && rest.all Char.isDigit &&
        if first = '+' || first = '-' then !rest.isEmpty else '1' ≤ first && first ≤ '8'
  | _ => false

end Token

/-! ### Dialects -/

namespace Dialect

/-- Strings are written as in JSON, with no control character but the tab for itself.  Whole numbers
have any size.  A number goes on as long as its characters can belong to one, and a sign belongs to
a number behind the letter of the exponent only. -/
def standard : Dialect where
  admitsChar c := c = '\t' || 0x20 ≤ c.toNat
  escapedChar? := Json.escapedChar?
  escapedNumber? := Json.hexNumber?
  block := .standard
  admitsInt _ := true
  isExponent := Token.isExponent
  continuesNumber last c :=
    c.isAlphanum || c = '_' || c = '.' || (c = '+' || c = '-') && (last = 'e' || last = 'E')

/-- A string goes on up to the end of its line.  The letter `b` denotes U+0010, and the first of the
four characters of an escape may be a plus sign.  Whole numbers have at most 64 bits, and a number
ends at a blank, a comment or a punctuator. -/
def narrow : Dialect where
  admitsChar c := c ≠ '\n'
  escapedChar? c := if c = 'b' then some '\x10' else Json.escapedChar? c
  escapedNumber? a b c d := Json.hexNumber? (if a = '+' then '0' else a) b c d
  block := .narrow
  admitsInt n := Int64.minValue.toInt ≤ n && n ≤ Int64.maxValue.toInt
  isExponent := Token.isNarrowExponent
  continuesNumber _ c := !(Token.isPunctuator c || c ∈ [' ', ',', '\t', '\n', '\r', '#'])

end Dialect

namespace Token

/-! ### Numbers -/

/-- The whole part of a number: a zero, or digits of which the first is no zero. -/
def isWhole (digits : List Char) : Bool :=
  match digits with
  | [] => false
  | '0' :: rest => rest.isEmpty
  | _ => true

/-- The text of a number behind the character `last` that is known to belong to it, and what stands
behind that text. -/
def cutNumber (dialect : Dialect) (last : Char) : List Char → List Char × List Char
  | [] => ([], [])
  | c :: rest =>
      if dialect.continuesNumber last c then
        let (text, behind) := cutNumber dialect c rest
        (c :: text, behind)
      else ([], c :: rest)

/-- The number that a text denotes. -/
def ofNumber? (dialect : Dialect) (s : List Char) : Option Token :=
  let (negative, s) := match s with
    | '-' :: rest => (true, rest)
    | rest => (false, rest)
  let (whole, rest) := Decimal.splitDigits s
  if !isWhole whole then none
  else
    match rest with
    | [] =>
        let n : Int := Decimal.ofDigits whole
        let n := if negative then -n else n
        if dialect.admitsInt n then some (.int n) else none
    | '.' :: rest =>
        let (fraction, rest) := Decimal.splitDigits rest
        if !fraction.isEmpty && (rest.isEmpty || dialect.isExponent rest) then
          float <$> Decimal.unsigned? negative s
        else none
    | rest => if dialect.isExponent rest then float <$> Decimal.unsigned? negative s else none

/-! ### Strings -/

/-- The rest of a string behind its opening quote, and the text behind it. -/
def scanQuoted (dialect : Dialect) : List Char → Option (List Char × List Char)
  | [] => none
  | '"' :: rest => some ([], rest)
  | '\\' :: 'u' :: a :: b :: c :: d :: rest => do
      let n ← dialect.escapedNumber? a b c d
      if Json.isHighSurrogate n || Json.isLowSurrogate n then none
      else
        let (chars, rest) ← scanQuoted dialect rest
        some (Char.ofNat n :: chars, rest)
  | '\\' :: c :: rest => do
      let c ← dialect.escapedChar? c
      let (chars, rest) ← scanQuoted dialect rest
      some (c :: chars, rest)
  | c :: rest =>
      if c = '\\' || !dialect.admitsChar c then none
      else do
        let (chars, rest) ← scanQuoted dialect rest
        some (c :: chars, rest)

/-- A string behind its opening quote.  Two more quotes open a block string. -/
def ofQuoted? (dialect : Dialect) (s : List Char) : Option (Token × List Char) :=
  match s with
  | '"' :: '"' :: rest => do
      let (text, rest) ← BlockString.scan rest
      if text.all dialect.block.admits then
        some (.string (String.ofList (BlockString.value dialect.block text)), rest)
      else none
  | s => do
      let (chars, rest) ← scanQuoted dialect s
      some (.string (String.ofList chars), rest)

/-! ### The next token -/

/-- The first token of a text and what stands behind it. -/
def next? (dialect : Dialect) (s : List Char) : Option (Token × List Char) :=
  match skipIgnored false s with
  | [] => none
  | c :: rest =>
      if isPunctuator c then some (.punctuator c, rest)
      else if c = '.' then
        match rest with
        | '.' :: '.' :: rest => some (.spread, rest)
        | _ => none
      else if Name.isStart c then
        some (.name (String.ofList (c :: rest.takeWhile Name.isPart)), rest.dropWhile Name.isPart)
      else if c = '-' || c.isDigit then do
        let (text, behind) := cutNumber dialect c rest
        let token ← ofNumber? dialect (c :: text)
        some (token, behind)
      else if c = '"' then ofQuoted? dialect rest
      else none

/-- Nothing but blanks, commas and comments is left. -/
def atEnd (s : List Char) : Bool :=
  (skipIgnored false s).isEmpty

/-- How deep brackets of any sort are nested in the text of at most `budget` tokens. -/
def nesting (dialect : Dialect) (budget : Nat) (level deepest : Nat) (s : List Char) : Nat :=
  match budget with
  | 0 => deepest
  | budget + 1 =>
      match next? dialect s with
      | none => deepest
      | some (.punctuator c, rest) =>
          if c ∈ ['\x7b', '(', '['] then
            nesting dialect budget (level + 1) (max deepest (level + 1)) rest
          else if c ∈ ['\x7d', ')', ']'] then nesting dialect budget (level - 1) deepest rest
          else nesting dialect budget level deepest rest
      | some (_, rest) => nesting dialect budget level deepest rest

end Token

end SelectionCompiler.Executable
