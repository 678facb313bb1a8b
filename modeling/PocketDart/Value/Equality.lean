import PocketDart.Value.Basic

/-
  This file defines when two document values count as the
  same: numbers by their value, with true and false as one
  and zero, and objects regardless of the order of keys.

  Key definitions include:
    * `Value.equals`
    * `Value.equalsAlone`
    * `Value.equalsText`

  Key theorems include:
    * `Value.equals_text`
-/

------------------------------------------------------------
-- Numbers
------------------------------------------------------------

namespace PocketDart

namespace Value

/- Truth values count as integers. -/
def toInt? : Value → Option Int
  | .bool b => some (if b then 1 else 0)
  | .int n => some n
  | _ => none

/- Equality of numbers, whatever their kinds. -/
def equalsNumber (x y : Value) : Bool :=
  match x, y with
  | .float a, .float b => a.equals b
  | .float a, other => other.toInt?.any a.equalsInt
  | other, .float b => other.toInt?.any b.equalsInt
  | a, b =>
      match a.toInt?, b.toInt? with
      | some m, some n => m == n
      | _, _ => false

------------------------------------------------------------
-- Values
------------------------------------------------------------

mutual

def equals : Value → Value → Bool
  | .null, .null => true
  | .text a, .text b => a == b
  | .list xs, .list ys => equalsItems xs ys
  | .object xs, .object ys =>
      xs.length == ys.length && equalsEntries xs ys
  | x, y => equalsNumber x y

def equalsItems : List Value → List Value → Bool
  | [], [] => true
  | x :: xs, y :: ys => equals x y && equalsItems xs ys
  | _, _ => false

/- Every entry of the first object is in the second. -/
def equalsEntries :
    List (String × Value) → List (String × Value) → Bool
  | [], _ => true
  | (key, x) :: xs, ys =>
      (match ys.lookup key with
        | some y => equals x y
        | none => false) && equalsEntries xs ys

end

/-
  Equality outside of any container, where what is no number
  is not equal to itself.
-/
def equalsAlone (x y : Value) : Bool :=
  match x with
  | .float .undefined => false
  | _ => x.equals y

def equalsText
    (value : Value)
    (s : String) : Bool :=
  value.equals (.text s)

@[simp]
theorem equals_text (a b : String) :
    equals (.text a) (.text b) = (a == b) := by
  simp [equals]

end Value

end PocketDart
