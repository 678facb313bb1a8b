/-
  This file defines the numbers of the 64-bit binary format
  exactly: a sign and a natural number times a power of two.

  Key definitions include:
    * `Binary64`
    * `Binary64.ofRatio`
    * `Binary64.ofDecimal`
    * `Binary64.plus`
    * `Binary64.times`
    * `Binary64.toInt?`
    * `Binary64.equalsInt`
-/

------------------------------------------------------------
-- Values
------------------------------------------------------------

namespace PocketDart

/-
  A finite number is `significand * 2 ^ exponent` with a
  sign. In the values built here the significand is below
  `2 ^ 53`, the exponent is at least -1074, and one of the
  two bounds is sharp, so that equal values have one form.
  What is no number at all has one form as well.
-/
inductive Binary64 where
  | finite
      (negative : Bool)
      (significand : Nat)
      (exponent : Int)
  | infinite (negative : Bool)
  | undefined
  deriving DecidableEq, Repr

namespace Binary64

/- The number of bits of a significand. -/
def precision : Nat := 53

/- The least exponent, that of the subnormal numbers. -/
def minExponent : Int := -1074

/- The greatest exponent of a finite number. -/
def maxExponent : Int := 971

def signedZero (negative : Bool) : Binary64 :=
  .finite negative 0 minExponent

def isZero : Binary64 → Bool
  | .finite _ significand _ => significand == 0
  | _ => false

------------------------------------------------------------
-- Rounding
------------------------------------------------------------

/- Divide to the nearest integer, a half to the even one. -/
def roundHalfEven
    (num den : Nat) : Nat :=
  let quotient := num / den
  let rest := 2 * (num % den)
  if rest < den ∨ (rest = den ∧ quotient % 2 = 0) then
    quotient
  else quotient + 1

/- A power of two. -/
def twoTo (n : Nat) : Nat :=
  Nat.pow 2 n

/- A power of ten. -/
def tenTo (n : Nat) : Nat :=
  Nat.pow 10 n

/- The ratio `num / den` divided by a power of two. -/
def scale
    (num den : Nat)
    (exponent : Int) : Nat × Nat :=
  if exponent ≥ 0 then (num, den * twoTo exponent.toNat)
  else (num * twoTo (-exponent).toNat, den)

/-
  The number nearest to a ratio of natural numbers. The
  exponent is the one that leaves `precision` bits before
  the binary point, unless that is below `minExponent`.
-/
def ofRatio
    (negative : Bool)
    (num den : Nat) : Binary64 :=
  if num = 0 then signedZero negative else
    let guess : Int := num.log2 - den.log2 - precision
    let (n, d) := scale num den guess
    let fitted :=
      if n < twoTo precision * d then guess else guess + 1
    let exponent := max fitted minExponent
    let (n, d) := scale num den exponent
    let significand := roundHalfEven n d
    let (significand, exponent) :=
      if significand = twoTo precision then
        (twoTo (precision - 1), exponent + 1)
      else (significand, exponent)
    if exponent > maxExponent then .infinite negative
    else .finite negative significand exponent

/-
  The number nearest to `digits * 10 ^ power`. Powers so
  far out that the answer is zero or infinite are settled
  without computing them.
-/
def ofDecimal
    (negative : Bool)
    (digits : Nat)
    (power : Int) : Binary64 :=
  let bits : Int := digits.log2
  if digits = 0 ∨ power < -400 - bits then
    signedZero negative
  else if power > 400 then .infinite negative
  else if power ≥ 0 then
    ofRatio negative (digits * tenTo power.toNat) 1
  else ofRatio negative digits (tenTo (-power).toNat)

------------------------------------------------------------
-- Sums and Products
------------------------------------------------------------

def negate : Binary64 → Binary64
  | .finite negative significand exponent =>
      .finite (!negative) significand exponent
  | .infinite negative => .infinite (!negative)
  | .undefined => .undefined

/- The size as a ratio, which only a finite number has. -/
def ratio? : Binary64 → Option (Nat × Nat)
  | .finite _ significand exponent =>
      some <|
        if exponent ≥ 0 then
          (significand * twoTo exponent.toNat, 1)
        else (significand, twoTo (-exponent).toNat)
  | _ => none

/- The rounded sum of two sizes of numbers. -/
def plus (x y : Binary64) : Binary64 :=
  match x.ratio?, y.ratio? with
  | some (a, b), some (c, d) =>
      ofRatio false (a * d + c * b) (b * d)
  | _, _ => .infinite false

/- The rounded product of a size and a number, rounded too. -/
def times
    (x : Binary64)
    (n : Nat) : Binary64 :=
  match x.ratio?, (ofRatio false n 1).ratio? with
  | some (a, b), some (c, d) =>
      ofRatio false (a * c) (b * d)
  | _, _ => .infinite false

------------------------------------------------------------
-- Integers
------------------------------------------------------------

/- The integer part, which only a finite number has. -/
def toInt? : Binary64 → Option Int
  | .finite negative significand exponent =>
      let size :=
        if exponent ≥ 0 then
          significand * twoTo exponent.toNat
        else significand / twoTo (-exponent).toNat
      some (if negative then -size else size)
  | _ => none

/- Equality of value with an integer. -/
def equalsInt
    (x : Binary64)
    (n : Int) : Bool :=
  match x with
  | .finite negative significand exponent =>
      let n := if negative then -n else n
      if exponent ≥ 0 then
        n == Int.ofNat (significand * twoTo exponent.toNat)
      else
        n * Int.ofNat (twoTo (-exponent).toNat) ==
          Int.ofNat significand
  | _ => false

/-
  Equality of value: the two zeros are equal. What is no
  number is taken for one object, which is found by what it
  is where values are looked up.
-/
def equals (x y : Binary64) : Bool :=
  x == y || (x.isZero && y.isZero)

end Binary64

end PocketDart
