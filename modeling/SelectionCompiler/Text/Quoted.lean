/-!
# Quoted texts

A string literal is the text between double quotes.  The quote, the backslash and the control
characters below the blank are escaped: by a letter where there is one, by four lowercase
hexadecimal digits otherwise.  All other characters stand for themselves.
-/

namespace SelectionCompiler.Text

/-- The lowercase hexadecimal digit of a number below sixteen. -/
def hexDigit (n : Nat) : Char :=
  Nat.digitChar n

/-- A character as it is written inside quotes. -/
def escapeChar (c : Char) : List Char :=
  if c = '"' then ['\\', '"']
  else if c = '\\' then ['\\', '\\']
  else if c = '\x08' then ['\\', 'b']
  else if c = '\t' then ['\\', 't']
  else if c = '\n' then ['\\', 'n']
  else if c = '\x0c' then ['\\', 'f']
  else if c = '\r' then ['\\', 'r']
  else if c.toNat < 0x20 then
    ['\\', 'u', '0', '0', hexDigit (c.toNat / 16), hexDigit (c.toNat % 16)]
  else [c]

/-- Characters as they are written inside quotes. -/
def escaped (s : List Char) : List Char :=
  s.flatMap escapeChar

/-- A text as a literal. -/
def quoted (s : String) : String :=
  String.ofList ('"' :: escaped s.toList ++ ['"'])

end SelectionCompiler.Text
