import SelectionCompiler.Decimal.Shortest

/-!
# Layouts of decimals

A decimal is written positionally or with an exponent.  A `Layout` says which numbers are written
positionally, whether a whole number keeps a zero behind its point, and which of two shortest
decimals is written that are equally near to a double.  Two layouts are in use:
`json` for document texts and JSON, and `plain` for indented documents.
-/

namespace SelectionCompiler.Decimal

/-- The choices that fix the text of a decimal. -/
structure Layout where
  /-- Numbers whose first digit counts at least `10 ^ lowest` …  -/
  lowest : Option Int
  /-- … and less than `10 ^ highest` are written positionally. -/
  highest : Option Int
  /-- A positional whole number ends in a point and a zero. -/
  keepPoint : Bool
  /-- Which way an exact tie goes. -/
  tie : Tie

namespace Layout

/-- From a hundred-thousandth up to `10 ^ 16` positionally and with a point, otherwise with an
exponent; ties go to the even digit. -/
def json : Layout :=
  ⟨some (-5), some 16, true, .toEven⟩

/-- Always positionally, and without a point in whole numbers; ties go up. -/
def plain : Layout :=
  ⟨none, none, false, .up⟩

/-- The layout writes a number whose first digit counts `10 ^ place` positionally. -/
def isPositional (layout : Layout) (place : Int) : Bool :=
  layout.lowest.all (· ≤ place) && layout.highest.all (place < ·)

/-- The digits with the point in its place. -/
def positional (layout : Layout) (digits : List Char) (exponent : Int) : List Char :=
  if 0 ≤ exponent then
    digits ++ List.replicate exponent.toNat '0' ++ if layout.keepPoint then ['.', '0'] else []
  else
    let behind := exponent.natAbs
    if behind < digits.length then
      digits.take (digits.length - behind) ++ '.' :: digits.drop (digits.length - behind)
    else '0' :: '.' :: List.replicate (behind - digits.length) '0' ++ digits

/-- One digit before the point, the others behind it, and the place of the first digit with its
sign. -/
def scientific (digits : List Char) (place : Int) : List Char :=
  let fraction := if digits.length ≤ 1 then [] else '.' :: digits.drop 1
  let sign := if place < 0 then '-' else '+'
  digits.take 1 ++ fraction ++ 'e' :: sign :: Nat.toDigits 10 place.natAbs

/-- The text of a decimal without its sign. -/
def write (layout : Layout) (s : Scientific) : List Char :=
  let digits := Nat.toDigits 10 s.digits
  let place := s.exponent + digits.length - 1
  if layout.isPositional place then layout.positional digits s.exponent
  else scientific digits place

/-- The bit of a double that is set for negative ones. -/
def signBit : Nat :=
  0x8000000000000000

/-- The text of a finite double, by its shortest decimal. -/
def float (layout : Layout) (x : Float) : String :=
  let bits := x.toBits.toNat
  let magnitude := bits % signBit
  let text := if magnitude = 0 then layout.positional ['0'] 0
    else layout.write ((Binary.ofBits magnitude).shortest layout.tie)
  String.ofList (if bits / signBit = 1 then '-' :: text else text)

end Layout

end SelectionCompiler.Decimal
