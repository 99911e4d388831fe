/-!
# Joined texts

Arguments, list items, object entries and variable declarations are written one after the other
with a comma between neighbours.  `commaSeparated` is that layout, by recursion on the list of the
parts, and `decimal` the text of an integer.
-/

namespace SelectionCompiler.Text

/-- The parts in order, with one comma between neighbours. -/
def commaSeparated : List String → String
  | [] => ""
  | [part] => part
  | part :: next :: rest => part ++ "," ++ commaSeparated (next :: rest)

/-- The decimal digits of a natural number, most significant first. -/
def digits (n : Nat) : List Char :=
  Nat.toDigits 10 n

/-- The decimal text of an integer, with a minus sign in front of a negative one. -/
def decimal (n : Int) : String :=
  String.ofList (if n < 0 then '-' :: digits n.natAbs else digits n.natAbs)

end SelectionCompiler.Text
