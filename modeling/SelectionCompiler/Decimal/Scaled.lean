/-!
# Reading decimals

A decimal of a JSON text is read in two steps.  Its digits are gathered in a significand below
`2 ^ 64`; digits that no longer fit are dropped, and those before the point are counted in the
exponent.  Then the significand is rounded to a double and scaled by one power of ten.  For short
numbers this gives the nearest double; the last bit of a long one may differ from it.
-/

namespace SelectionCompiler.Decimal

/-- The number that a decimal digit denotes. -/
def digitValue (c : Char) : Nat :=
  c.toNat - '0'.toNat

/-- Appends digits to a significand as long as it stays below `2 ^ 64`.  The second part holds the
digits that were left out. -/
def gather : Nat → List Char → Nat × List Char
  | significand, [] => (significand, [])
  | significand, c :: rest =>
      let next := significand * 10 + digitValue c
      if next < UInt64.size then gather next rest else (significand, c :: rest)

/-- The number that a run of digits denotes. -/
def ofDigits (digits : List Char) : Nat :=
  digits.foldl (fun n c => n * 10 + digitValue c) 0

/-- The double next to a power of ten. -/
def power (n : Nat) : Float :=
  Float.ofScientific 1 false n

/-- Multiplies a double with a power of ten.  There is no result when it is too large.  Doubles
reach down to about `10 ^ -324`, so a large negative exponent is taken in steps of 308. -/
def scale (x : Float) (exponent : Int) : Option Float :=
  if exponent.natAbs ≤ 308 then
    if 0 ≤ exponent then
      let y := x * power exponent.natAbs
      if y.isInf then none else some y
    else some (x / power exponent.natAbs)
  else if x == 0 then some x
  else if 0 ≤ exponent then none
  else scale (x / power 308) (exponent + 308)
termination_by exponent.natAbs
decreasing_by omega

/-- The double of the decimal with the given digits before and behind its point and the given
power of ten. -/
def magnitude? (whole fraction : List Char) (exponent : Int) : Option Float :=
  let (significand, dropped) := gather 0 whole
  let (significand, ignored) := gather significand fraction
  scale (UInt64.ofNat significand).toFloat
    (exponent + dropped.length - ((fraction.length - ignored.length : Nat) : Int))

end SelectionCompiler.Decimal
