import SelectionCompiler.Decimal.Scaled

/-!
# The nearest double

The double nearest to a decimal number of any length.  Numbers beyond the largest double become
infinite and those below the smallest one become zero.
-/

namespace SelectionCompiler.Decimal

/-- The double nearest to `digits · 10 ^ exponent`, negated if asked for.  A number whose first
digit counts more than `10 ^ 400` or less than `10 ^ -400` is out of the range of doubles. -/
def nearest (negative : Bool) (digits : Nat) (exponent : Int) : Float :=
  let place := exponent + (Nat.toDigits 10 digits).length
  let magnitude :=
    if digits = 0 || place < -400 then 0.0
    else if 400 < place then 1.0 / 0.0
    else Float.ofScientific digits (exponent < 0) exponent.natAbs
  if negative then -magnitude else magnitude

/-- Splits a text into a run of digits and what stands behind it. -/
def splitDigits (s : List Char) : List Char × List Char :=
  (s.takeWhile Char.isDigit, s.dropWhile Char.isDigit)

/-- The number behind the exponent letter of a text: digits after an optional sign. -/
def exponent? (s : List Char) : Option Int :=
  let (negative, s) := match s with
    | '-' :: rest => (true, rest)
    | '+' :: rest => (false, rest)
    | rest => (false, rest)
  let (digits, rest) := splitDigits s
  if digits.isEmpty || !rest.isEmpty then none
  else
    let n : Int := ofDigits digits
    some (if negative then -n else n)

/-- The double of a text of digits with an optional point and an optional exponent.  There has to
be a digit before or behind the point. -/
def unsigned? (negative : Bool) (s : List Char) : Option Float :=
  let (whole, rest) := splitDigits s
  let (fraction, rest) := match rest with
    | '.' :: rest => splitDigits rest
    | rest => ([], rest)
  let value (exponent : Int) :=
    nearest negative (ofDigits (whole ++ fraction)) (exponent - fraction.length)
  if whole.isEmpty && fraction.isEmpty then none
  else
    match rest with
    | [] => some (value 0)
    | c :: rest => if c = 'e' || c = 'E' then value <$> exponent? rest else none

/-- The double of a text: a decimal with an optional sign, or one of the words `inf`, `infinity`
and `nan` in letters of either case. -/
def ofText? (text : String) : Option Float :=
  let (negative, s) := match text.toList with
    | '-' :: rest => (true, rest)
    | '+' :: rest => (false, rest)
    | rest => (false, rest)
  let word := s.map Char.toLower
  if word = ['i', 'n', 'f'] || word = ['i', 'n', 'f', 'i', 'n', 'i', 't', 'y'] then
    some (if negative then -1.0 / 0.0 else 1.0 / 0.0)
  else if word = ['n', 'a', 'n'] then some (0.0 / 0.0)
  else unsigned? negative s

end SelectionCompiler.Decimal
