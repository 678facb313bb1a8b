import PocketDart.Text.Digit

/-
  This file defines how the digits of plain scalars are
  read, in several bases and with a sign.

  Key definitions include:
    * `Yaml.digits?`
    * `Yaml.number?`
    * `Yaml.sixtieths?`
-/

------------------------------------------------------------
-- Digits
------------------------------------------------------------

namespace PocketDart

namespace Yaml

/- The value of a digit in a base up to sixteen. -/
def digit?
    (base : Nat)
    (c : Char) : Option Nat :=
  let value :=
    if c.isDigit then c.toNat - '0'.toNat
    else if 'a' ≤ c ∧ c ≤ 'f' then c.toNat - 'a'.toNat + 10
    else if 'A' ≤ c ∧ c ≤ 'F' then c.toNat - 'A'.toNat + 10
    else 16
  if value < base then some value else none

/- The values of digits between which underscores may be. -/
def digits?
    (base : Nat)
    (cs : List Char) : Option (List Nat) :=
  (cs.filter (· ≠ '_')).mapM (digit? base)

/- The number of digits, of which there is at least one. -/
def number?
    (base : Nat)
    (cs : List Char) : Option Nat :=
  match digits? base cs with
  | none | some [] => none
  | some digits => some (Text.ofDigits base digits)

/- A text cut behind its sign, and whether that is minus. -/
def cutSign : List Char → Bool × List Char
  | '-' :: rest => (true, rest)
  | '+' :: rest => (false, rest)
  | cs => (false, cs)

/- A number with its sign. -/
def signed
    (negative : Bool)
    (n : Nat) : Int :=
  if negative then -n else n

/-
  The part of a number in base sixty that follows a colon:
  one digit, or two below sixty.
-/
def sixtieths? (part : List Char) : Option Nat :=
  match part with
  | [ones] => digit? 10 ones
  | [tens, ones] => do
      let tens ← digit? 6 tens
      return 10 * tens + (← digit? 10 ones)
  | _ => none

end Yaml

end PocketDart
