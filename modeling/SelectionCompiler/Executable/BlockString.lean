import SelectionCompiler.Text.Blank

/-!
# Block strings

A string between triple quotes may go over several lines.  Its value leaves out what only serves
the layout: blank lines at the start and at the end, and the indentation that all lines behind the
first have in common.  Indentation is counted in bytes, whatever blanks it consists of.  A triple
quote inside is written behind a backslash.

Which characters indent a line, and a few more points, are left to `Rules`.
-/

namespace SelectionCompiler.Executable.BlockString

/-- What may differ from one reader of block strings to the next. -/
structure Rules where
  /-- The character may stand in a block string. -/
  admits : Char → Bool
  /-- The character is a blank, which only serves the layout where it indents a line. -/
  isBlank : Char → Bool
  /-- A carriage return ends a line, also without a line feed behind it. -/
  returnEndsLine : Bool
  /-- A line of fewer blanks than the other lines share keeps them. -/
  keepsShortLines : Bool

namespace Rules

/-- Blanks and tabs indent a line, and there are no other control characters in it. -/
def standard : Rules where
  admits c := c = '\t' || c = '\n' || c = '\r' || 0x20 ≤ c.toNat
  isBlank c := c = ' ' || c = '\t'
  returnEndsLine := true
  keepsShortLines := false

/-- All that counts as white space indents a line. -/
def narrow : Rules where
  admits _ := true
  isBlank := Text.isBlank
  returnEndsLine := false
  keepsShortLines := true

end Rules

/-- Turns each carriage return into a line feed, together with a line feed behind it. -/
def unifyBreaks : List Char → List Char
  | '\r' :: '\n' :: rest => '\n' :: unifyBreaks rest
  | '\r' :: rest => '\n' :: unifyBreaks rest
  | c :: rest => c :: unifyBreaks rest
  | [] => []

/-- The lines of a text from a line on of which `start` has been seen, in reverse.  A line ends at a
line feed, together with a carriage return in front of it. -/
def linesFrom (start : List Char) : List Char → List (List Char)
  | [] => if start.isEmpty then [] else [start.reverse]
  | c :: rest =>
      if c = '\n' then
        (if start.head? = some '\r' then start.tail else start).reverse :: linesFrom [] rest
      else linesFrom (c :: start) rest

/-- The lines of a text. -/
def lines (s : List Char) : List (List Char) :=
  linesFrom [] s

/-- A line without anything to be seen. -/
def isBlankLine (rules : Rules) (line : List Char) : Bool :=
  line.all rules.isBlank

/-- The number of bytes that characters take. -/
def byteCount (s : List Char) : Nat :=
  (String.ofList s).utf8ByteSize

/-- The number of bytes of the blanks in front of a line. -/
def indentation (rules : Rules) (line : List Char) : Nat :=
  byteCount (line.takeWhile rules.isBlank)

/-- The line without the characters that begin in its first `count` bytes. -/
def dropBytes (count : Nat) : List Char → List Char
  | [] => []
  | c :: rest => if count = 0 then c :: rest else dropBytes (count - c.utf8Size) rest

/-- Removes the indentation that all lines with something in them share. -/
def unindent (rules : Rules) (lines : List (List Char)) : List (List Char) :=
  match ((lines.filter (!isBlankLine rules ·)).map (indentation rules)).min? with
  | none => lines
  | some common =>
      lines.map fun line =>
        if rules.keepsShortLines && byteCount line < common then line else dropBytes common line

/-- Removes the blank lines at the start and at the end. -/
def trimLines (rules : Rules) (lines : List (List Char)) : List (List Char) :=
  ((lines.dropWhile (isBlankLine rules)).reverse.dropWhile (isBlankLine rules)).reverse

/-- Takes the backslashes away from triple quotes. -/
def unescape : List Char → List Char
  | '\\' :: '"' :: '"' :: '"' :: rest => '"' :: '"' :: '"' :: unescape rest
  | c :: rest => c :: unescape rest
  | [] => []

/-- Puts backslashes in front of triple quotes. -/
def escape : List Char → List Char
  | '"' :: '"' :: '"' :: rest => '\\' :: '"' :: '"' :: '"' :: escape rest
  | c :: rest => c :: escape rest
  | [] => []

/-- The value of a block string with the given text between its quotes. -/
def value (rules : Rules) (s : List Char) : List Char :=
  let lines := match lines (if rules.returnEndsLine then unifyBreaks s else s) with
    | first :: rest => first :: unindent rules rest
    | [] => []
  ['\n'].intercalate ((trimLines rules lines).map unescape)

/-- The text of a block string behind its opening quotes, and what stands behind the closing
ones. -/
def scan : List Char → Option (List Char × List Char)
  | '\\' :: '"' :: '"' :: '"' :: rest => do
      let (text, rest) ← scan rest
      some ('\\' :: '"' :: '"' :: '"' :: text, rest)
  | '"' :: '"' :: '"' :: rest => some ([], rest)
  | c :: rest => do
      let (text, rest) ← scan rest
      some (c :: text, rest)
  | [] => none

/-- A text is written as a block string if it has more than one line and all its characters can
stand for themselves. -/
def suits (s : List Char) : Bool :=
  s.contains '\n' &&
    s.all fun c => c = '\n' || c = '\r' || c = '\t' || (0x20 ≤ c.toNat && c.toNat ≤ 0xFFFF)

/-- The text of a block string that stands on a line with the given indentation.  Its lines are
indented by two blanks more. -/
def layOut (indent : Nat) (s : List Char) : List Char :=
  let line (line : List Char) :=
    if isBlankLine .narrow line then ['\n']
    else List.replicate (indent + 2) ' ' ++ escape line ++ ['\n']
  ['"', '"', '"', '\n'] ++ (lines s).flatMap line ++ List.replicate indent ' ' ++ ['"', '"', '"']

end SelectionCompiler.Executable.BlockString
