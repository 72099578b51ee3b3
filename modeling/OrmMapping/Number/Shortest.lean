import OrmMapping.Number.Binary64

/-!
# Shortest decimals

The text of a double is the decimal with the fewest significant digits that reads back as the same
double, and of those the nearest to it. Numbers from `0.0001` up to below `10 ^ 16` are written
positionally, always with a fraction; all others with one digit before the point and an exponent
of at least two digits.

* `Decimal`: significant digits and the place of the point;
* `Binary64.shortest`: the decimal chosen;
* `Binary64.text`: the number as written.
-/

namespace OrmMapping

/-- The decimal `0.d₁d₂… · 10 ^ point` given by its significant digits. -/
structure Decimal where
  digits : List Char
  point : Int
deriving DecidableEq, Repr

namespace Decimal

/-- The decimal digits of a positive number, least first. -/
def digitsRev : (fuel : Nat) → Nat → List Char
  | 0, _ => []
  | fuel + 1, n => if n == 0 then [] else Char.ofNat (0x30 + n % 10) :: digitsRev fuel (n / 10)

/-- The decimal `coefficient · 10 ^ scale`, without zeros at the end. -/
def ofScaled (coefficient : Nat) (scale : Int) : Decimal :=
  let all := digitsRev (coefficient.log2 + 1) coefficient
  ⟨(all.dropWhile (· == '0')).reverse, scale + all.length⟩

/-- One digit before the point, then the exponent with its sign and at least two digits. -/
def scientific (d : Decimal) : List Char :=
  let exponent := d.point - 1
  let size := (toString exponent.natAbs).toList
  let padded := if size.length < 2 then '0' :: size else size
  let mantissa :=
    match d.digits with
    | [] => ['0']
    | [first] => [first]
    | first :: more => first :: '.' :: more
  mantissa ++ 'e' :: (if exponent < 0 then '-' else '+') :: padded

/-- All digits in their places, with at least one on either side of the point. -/
def positional (d : Decimal) : List Char :=
  if d.point ≤ 0 then
    '0' :: '.' :: (List.replicate (-d.point).toNat '0' ++ d.digits)
  else
    let n := d.point.toNat
    let whole := d.digits.take n ++ List.replicate (n - d.digits.length) '0'
    let fraction := d.digits.drop n
    whole ++ '.' :: (if fraction.isEmpty then ['0'] else fraction)

/-- The decimal as written: positional from `10 ^ -4` up to below `10 ^ 16`. -/
def chars (d : Decimal) : List Char :=
  if -4 < d.point && d.point ≤ 16 then d.positional else d.scientific

end Decimal

namespace Binary64

/-- A magnitude `4 · significand · num / den` with the distances, in the same unit, to the ends of
the interval of reals that round to it. -/
structure Interval where
  value : Nat
  below : Nat
  above : Nat
  closed : Bool
  num : Nat
  den : Nat
deriving DecidableEq, Repr

/-- The interval of reals that round to `significand · 2 ^ exponent`. Its ends belong to it when the
significand is even; below a power of two the next double is half as far away. -/
def interval (significand : Nat) (exponent : Int) : Interval where
  value := 4 * significand
  below := if significand == minNormal && minExponent < exponent then 1 else 2
  above := 2
  closed := significand % 2 == 0
  num := if 0 ≤ exponent then Nat.pow 2 exponent.toNat else 1
  den := 4 * if 0 ≤ exponent then 1 else Nat.pow 2 (-exponent).toNat

/-- The interval in units of `10 ^ scale`. -/
def Interval.inUnit (i : Interval) (scale : Int) : Interval :=
  if 0 ≤ scale then { i with den := i.den * Nat.pow 10 scale.toNat }
  else { i with num := i.num * Nat.pow 10 (-scale).toNat }

/-- Whether the integer `n` lies in the interval. -/
def Interval.holds (i : Interval) (n : Nat) : Bool :=
  let low := (i.value - i.below) * i.num
  let high := (i.value + i.above) * i.num
  let at' := n * i.den
  if i.closed then low ≤ at' && at' ≤ high else low < at' && at' < high

/-- Twice the distance from the number to the integer `n`, up to a common factor. -/
def Interval.distance (i : Interval) (n : Nat) : Nat :=
  (i.value * i.num - n * i.den) + (n * i.den - i.value * i.num)

/-- Whether the number is at least `10 ^ exponent`. -/
def Interval.atLeast (i : Interval) (exponent : Int) : Bool :=
  let j := i.inUnit exponent
  j.den ≤ j.value * j.num

/-- The exponent `e` with `10 ^ e ≤ value < 10 ^ (e + 1)`, found among the neighbours of an estimate
by the binary logarithm. -/
def floorLog10 (i : Interval) : Int :=
  let estimate := floorLog2 (i.value * i.num) i.den * 30103 / 100000
  if i.atLeast (estimate + 1) then estimate + 1
  else if i.atLeast estimate then estimate
  else estimate - 1

/-- The integer of the interval nearest to the number, the even one of two equally near; none when
neither neighbour of the number lies in the interval. -/
def Interval.nearest? (i : Interval) : Option Nat :=
  let n := i.value * i.num / i.den
  match i.holds n, i.holds (n + 1) with
  | true, true =>
    let down := i.distance n
    let up := i.distance (n + 1)
    some (if down < up then n else if up < down then n + 1 else n + n % 2)
  | true, false => some n
  | false, true => some (n + 1)
  | false, false => none

/-- The shortest decimal of a positive magnitude: grids of 1, 2, … digits are tried in turn, and
with 17 digits one always fits. -/
def shortest (significand : Nat) (exponent : Int) : Decimal :=
  let i := interval significand exponent
  let top := floorLog10 i
  let tries := (List.range 17).findSome? fun (count : Nat) =>
    let scale := top - count
    ((i.inUnit scale).nearest?).map fun n => Decimal.ofScaled n scale
  tries.getD ⟨[], 0⟩

/-- The characters of a double as written. -/
def chars : Binary64 → List Char
  | .nan => ['n', 'a', 'n']
  | .infinite negative => (if negative then ['-'] else []) ++ ['i', 'n', 'f']
  | .finite negative significand exponent =>
    (if negative then ['-'] else []) ++
      if significand == 0 then ['0', '.', '0'] else (shortest significand exponent).chars

/-- A double as written. -/
def text (x : Binary64) : String :=
  String.ofList x.chars

end Binary64

end OrmMapping
