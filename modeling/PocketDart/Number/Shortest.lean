import PocketDart.Number.Binary64

/-
  This file defines the shortest decimal that reads back as
  a given binary number, and how it is written.

  Key definitions include:
    * `Decimal`
    * `Binary64.shortest`
    * `Binary64.render`
-/

------------------------------------------------------------
-- Shortest Decimals
------------------------------------------------------------

namespace PocketDart

/- The decimal `digits * 10 ^ power`. -/
structure Decimal where
  digits : Nat
  power : Int
  deriving DecidableEq, Repr

namespace Binary64

/-
  The reals that round to `significand * 2 ^ exponent`, as
  three numerators over one denominator: the lower end, the
  number itself and the upper end. Below a power of two the
  gap is half as wide.
-/
structure Interval where
  low : Nat
  mid : Nat
  high : Nat
  den : Nat
  closed : Bool

/- The interval of a nonzero finite number. -/
def interval
    (significand : Nat)
    (exponent : Int) : Interval :=
  let isPower :=
    significand = twoTo (precision - 1) ∧
      exponent > minExponent
  let low :=
    if isPower then 4 * significand - 1
    else 4 * significand - 2
  let (factor, den) :=
    if exponent ≥ 0 then (twoTo exponent.toNat, 4)
    else (1, 4 * twoTo (-exponent).toNat)
  { low := low * factor
    mid := 4 * significand * factor
    high := (4 * significand + 2) * factor
    den := den
    closed := significand % 2 = 0 }

namespace Interval

def contains
    (i : Interval)
    (num den : Nat) : Bool :=
  let x := num * i.den
  if i.closed then i.low * den ≤ x && x ≤ i.high * den
  else i.low * den < x && x < i.high * den

/-
  The neighbours of the middle on the grid of multiples of
  `10 ^ power`, the nearer first, an even one first on a
  tie, as far as the interval holds them.
-/
def onGrid
    (i : Interval)
    (power : Int) : Option Decimal :=
  let (up, down) : Nat × Nat :=
    if power ≥ 0 then (tenTo power.toNat, 1)
    else (1, tenTo (-power).toNat)
  let floor := i.mid * down / (i.den * up)
  let nearest := roundHalfEven (i.mid * down) (i.den * up)
  let other :=
    if nearest = floor then floor + 1 else floor
  ([nearest, other].find? fun n =>
    0 < n && i.contains (n * up) down).map
      fun n => ⟨n, power⟩

end Interval

/- The number of decimal digits of a natural number. -/
def digitCount (n : Nat) : Nat :=
  (Nat.toDigits 10 n).length

/-
  The decimal exponent of a positive ratio: the number of
  digits before its decimal point.
-/
def magnitude
    (num den : Nat) : Int :=
  let whole := num / den
  if whole > 0 then digitCount whole
  else
    let places := digitCount (den / num)
    if num * tenTo (places - 1) < den then 1 - places
    else 2 - places

/- Cut trailing zeros, at most `fuel` of them. -/
def Decimal.trimZeros : Nat → Decimal → Decimal
  | 0, d => d
  | fuel + 1, d =>
      if d.digits > 0 ∧ d.digits % 10 = 0 then
        Decimal.trimZeros fuel ⟨d.digits / 10, d.power + 1⟩
      else d

/-
  The coarsest grid with a point in the interval gives the
  fewest digits. Seventeen digits always suffice.
-/
def shortest
    (significand : Nat)
    (exponent : Int) : Decimal :=
  if significand = 0 then ⟨0, 0⟩ else
    let i := interval significand exponent
    let top := magnitude i.mid i.den
    let found :=
      (List.range 18).findSome? fun (count : Nat) =>
        i.onGrid (top - count)
    Decimal.trimZeros 20 (found.getD ⟨0, 0⟩)

------------------------------------------------------------
-- Written Form
------------------------------------------------------------

/-
  How a shortest decimal is written: positionally when the
  decimal point falls within these bounds, else with an
  exponent of at least two digits.
-/
structure NumberFormat where
  leastPoint : Int
  greatestPoint : Int

/-
  A positional number starts at the fourth zero after the
  point and ends at the sixteenth digit before it.
-/
def format : NumberFormat :=
  { leastPoint := -3, greatestPoint := 16 }

/- A text of zeros. -/
def zeros (n : Nat) : String :=
  String.ofList (List.replicate n '0')

/- An exponent with its sign and at least two digits. -/
def renderExponent (exponent : Int) : String :=
  let sign := if exponent < 0 then "-" else "+"
  let digits := toString exponent.natAbs
  let digits :=
    if digits.length < 2 then "0" ++ digits else digits
  "e" ++ sign ++ digits

/- Digits with the decimal point after `point` of them. -/
def renderDecimal (d : Decimal) : String :=
  let digits := Nat.toDigits 10 d.digits
  let count : Int := digits.length
  let point := if d.digits = 0 then 1 else count + d.power
  if point < format.leastPoint ∨
      point > format.greatestPoint then
    let fraction :=
      match digits.drop 1 with
      | [] => ""
      | more => "." ++ String.ofList more
    String.ofList (digits.take 1) ++ fraction ++
      renderExponent (point - 1)
  else if point ≤ 0 then
    "0." ++ zeros (-point).toNat ++ String.ofList digits
  else if count ≤ point then
    String.ofList digits ++ zeros (point - count).toNat ++
      ".0"
  else
    String.ofList (digits.take point.toNat) ++ "." ++
      String.ofList (digits.drop point.toNat)

/- The shortest text that reads back as the number. -/
def render : Binary64 → String
  | .infinite negative => if negative then "-inf" else "inf"
  | .finite negative significand exponent =>
      (if negative then "-" else "") ++
        renderDecimal (shortest significand exponent)
  | .undefined => "nan"

end Binary64

end PocketDart
