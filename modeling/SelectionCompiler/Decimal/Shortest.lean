/-!
# Shortest decimals

Every finite double is read back from many decimal numbers: all those that are nearer to it than
to its neighbours.  `Binary.shortest` finds among them one with the fewest digits, and of those
with as few the nearest to the double.  Which way an exact tie goes is a parameter.

The search is exact.  A double `m · 2 ^ e` and the two ends of the interval of reals that round to
it are held as multiples of `2 ^ (e - 2)`, and for each number of digits the two neighbours of the
double on that decimal grid are tried.
-/

namespace SelectionCompiler.Decimal

/-- A positive double as `mantissa · 2 ^ exponent`. -/
structure Binary where
  mantissa : Nat
  exponent : Int
  /-- The next smaller double is only half as far away as the next larger one. -/
  narrowBelow : Bool

/-- Which of two decimals is taken that are equally near to a double. -/
inductive Tie where
  /-- The one with the even last digit. -/
  | toEven
  /-- The larger one. -/
  | up
deriving DecidableEq

/-- Of two equally near neighbours on a grid the one below is taken. -/
def Tie.takesBelow (tie : Tie) (below : Nat) : Bool :=
  match tie with
  | .toEven => below % 2 = 0
  | .up => false

/-- The decimal number `digits · 10 ^ exponent`. -/
structure Scientific where
  digits : Nat
  exponent : Int
deriving DecidableEq

namespace Binary

/-- The first bit of a mantissa, which the bits of a double leave out.  The bits behind it are kept
and stand below the exponent. -/
def firstBit : Nat :=
  0x10000000000000

/-- The magnitude that the bits of a finite double encode. -/
def ofBits (bits : Nat) : Binary :=
  let field : Nat := bits / firstBit % 0x800
  let fraction := bits % firstBit
  if field = 0 then ⟨fraction, -1074, false⟩
  else ⟨fraction + firstBit, (field : Int) - 1075, fraction == 0 && 1 < field⟩

/-- What a number of quarters of the last binary place must be multiplied with to be comparable to
points of the grid of multiples of `10 ^ place`, which are multiplied with `gridFactor`. -/
def valueFactor (b : Binary) (place : Int) : Nat :=
  Nat.pow 2 (b.exponent - 2).toNat * Nat.pow 10 (-place).toNat

/-- The partner of `valueFactor`. -/
def gridFactor (b : Binary) (place : Int) : Nat :=
  Nat.pow 2 (2 - b.exponent).toNat * Nat.pow 10 place.toNat

/-- The real `point · 10 ^ place` rounds to the double.  The ends of the interval belong to it when
the mantissa is even. -/
def rounds (b : Binary) (place : Int) (point : Nat) : Bool :=
  let low := (4 * b.mantissa - if b.narrowBelow then 1 else 2) * b.valueFactor place
  let high := (4 * b.mantissa + 2) * b.valueFactor place
  let x := point * b.gridFactor place
  if b.mantissa % 2 = 0 then low ≤ x && x ≤ high else low < x && x < high

/-- The neighbour of the double on the grid of multiples of `10 ^ place` that rounds to it. -/
def onGrid? (b : Binary) (tie : Tie) (place : Int) : Option Nat :=
  let value := 4 * b.mantissa * b.valueFactor place
  let below := value / b.gridFactor place
  let above := below + 1
  match b.rounds place below, b.rounds place above with
  | true, true =>
      let toBelow := value - below * b.gridFactor place
      let toAbove := above * b.gridFactor place - value
      if toBelow < toAbove || (toBelow = toAbove && tie.takesBelow below) then some below
      else some above
  | true, false => some below
  | false, true => some above
  | false, false => none

/-- The number of digits before the decimal point, negative for leading zeros behind it. -/
def magnitude (b : Binary) : Int :=
  let scaled := b.mantissa * Nat.pow 2 b.exponent.toNat * Nat.pow 10 400 /
    Nat.pow 2 (-b.exponent).toNat
  ((Nat.toDigits 10 scaled).length : Int) - 400

/-- The first of the grids with `count`, `count + 1`, … digits that has a number for the double. -/
def firstGrid (b : Binary) (tie : Tie) (magnitude : Int) :
    (left : Nat) → (count : Nat) → Scientific
  | 0, count => ⟨0, magnitude - count⟩
  | left + 1, count =>
      match b.onGrid? tie (magnitude - count) with
      | some digits => ⟨digits, magnitude - count⟩
      | none => firstGrid b tie magnitude left (count + 1)

end Binary

/-- The number without the zeros at the end of its digits. -/
def Scientific.dropZeros : (fuel : Nat) → Scientific → Scientific
  | 0, s => s
  | fuel + 1, s =>
      if s.digits ≠ 0 ∧ s.digits % 10 = 0 then
        dropZeros fuel ⟨s.digits / 10, s.exponent + 1⟩
      else s

/-- The shortest decimal that rounds to a positive double.  Seventeen digits always suffice. -/
def Binary.shortest (b : Binary) (tie : Tie) : Scientific :=
  (b.firstGrid tie b.magnitude 17 1).dropZeros 18

end SelectionCompiler.Decimal
