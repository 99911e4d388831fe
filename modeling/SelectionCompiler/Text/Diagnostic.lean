import SelectionCompiler.Text.Visible

/-!
# Texts in diagnostics

An error that reports a text shows it between quotes on one line.  Characters that cannot be seen
on their own are shown by their number in braces, and a few control characters by a letter.
-/

namespace SelectionCompiler.Text

/-- A character as it is shown in a diagnostic. -/
def showChar (c : Char) : List Char :=
  if c = '\x00' then ['\\', '0']
  else if c = '\t' then ['\\', 't']
  else if c = '\n' then ['\\', 'n']
  else if c = '\r' then ['\\', 'r']
  else if c = '"' then ['\\', '"']
  else if c = '\\' then ['\\', '\\']
  else if isVisible c then [c]
  else ['\\', 'u', '\x7b'] ++ Nat.toDigits 16 c.toNat ++ ['\x7d']

/-- A text as it is shown in a diagnostic. -/
def shown (s : String) : String :=
  String.ofList ('"' :: s.toList.flatMap showChar ++ ['"'])

end SelectionCompiler.Text
