/-!
# Double-precision numbers

A double is a sign and a magnitude `significand · 2 ^ exponent`, an infinity, or not a number.
Magnitudes are kept in the one form that the format allows: the significand is below `2 ^ 53`, the
exponent at least `-1074`, and a significand below `2 ^ 52` occurs with the least exponent only.

* `Binary64.ofDecimal`: the double nearest to a decimal, ties to the even significand;
* `Binary64.toInt?`: the integer a double stands for.
-/

namespace OrmMapping

/-- A double-precision number. -/
inductive Binary64 where
  | nan
  | infinite (negative : Bool)
  | finite (negative : Bool) (significand : Nat) (exponent : Int)
deriving DecidableEq, Repr, Inhabited

namespace Binary64

/-- The least exponent of the format. -/
def minExponent : Int := -1074

/-- The greatest exponent of the format. -/
def maxExponent : Int := 971

/-- `2 ^ 52`, the least significand of a number that is not subnormal. -/
def minNormal : Nat := 0x10000000000000

/-- `2 ^ 53`, above all significands. -/
def significandBound : Nat := 0x20000000000000

/-- Zero with a sign. -/
def zero (negative : Bool) : Binary64 := .finite negative 0 minExponent

/-- The quotient rounded to the nearest integer, a half to the even one. -/
def roundHalfEven (num den : Nat) : Nat :=
  let quotient := num / den
  let rest := 2 * (num % den)
  if rest < den then quotient
  else if den < rest then quotient + 1
  else quotient + quotient % 2

/-- The exponent `e` with `2 ^ e ≤ num / den < 2 ^ (e + 1)`, for positive arguments. -/
def floorLog2 (num den : Nat) : Int :=
  let estimate : Int := (num.log2 : Int) - (den.log2 : Int)
  let fits :=
    if 0 ≤ estimate then den * Nat.pow 2 estimate.toNat ≤ num
    else den ≤ num * Nat.pow 2 (-estimate).toNat
  if fits then estimate else estimate - 1

/-- The double nearest to the positive ratio `num / den`. -/
def ofRatio (negative : Bool) (num den : Nat) : Binary64 :=
  let wanted := floorLog2 num den - 52
  let exponent := if wanted < minExponent then minExponent else wanted
  let significand :=
    if 0 ≤ exponent then roundHalfEven num (den * Nat.pow 2 exponent.toNat)
    else roundHalfEven (num * Nat.pow 2 (-exponent).toNat) den
  let (significand, exponent) :=
    if significand == significandBound then (minNormal, exponent + 1) else (significand, exponent)
  if maxExponent < exponent then .infinite negative else .finite negative significand exponent

/-- The double nearest to `digits · 10 ^ scale`, where `digits` has at most `width` decimal digits.
Scales so large or so small that the answer is an infinity or zero are not computed with. -/
def ofDecimal (negative : Bool) (digits width : Nat) (scale : Int) : Binary64 :=
  if digits == 0 || (width : Int) + scale < -330 then zero negative
  else if 310 < scale then .infinite negative
  else if 0 ≤ scale then ofRatio negative (digits * Nat.pow 10 scale.toNat) 1
  else ofRatio negative digits (Nat.pow 10 (-scale).toNat)

/-- The integer a finite double stands for, when it has no fraction. -/
def toInt? : Binary64 → Option Int
  | .finite negative significand exponent =>
    let magnitude? : Option Nat :=
      if 0 ≤ exponent then some (significand * Nat.pow 2 exponent.toNat)
      else
        let den := Nat.pow 2 (-exponent).toNat
        if significand % den == 0 then some (significand / den) else none
    magnitude?.map fun m => if negative then -(m : Int) else m
  | _ => none

end Binary64

end OrmMapping
