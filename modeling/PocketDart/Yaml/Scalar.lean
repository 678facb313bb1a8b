import PocketDart.Config.Document
import PocketDart.Text.Segments
import PocketDart.Yaml.Fault
import PocketDart.Yaml.Timestamp

/-
  This file defines the value of a plain scalar: null, a
  truth value, a number, a moment or else a text. Some that
  are written like an integer or a moment have no value, and
  neither have two words with a meaning of their own.

  Key definitions include:
    * `Yaml.truthValue?`
    * `Yaml.integer?`
    * `Yaml.float?`
    * `Yaml.plainValue`
-/

------------------------------------------------------------
-- Words
------------------------------------------------------------

namespace PocketDart

namespace Yaml

def nullWords : List String :=
  ["", "~", "null", "Null", "NULL"]

def trueWords : List String :=
  ["yes", "Yes", "YES", "true", "True", "TRUE",
   "on", "On", "ON"]

def falseWords : List String :=
  ["no", "No", "NO", "false", "False", "FALSE",
   "off", "Off", "OFF"]

/- The key that takes over the entries of its value. -/
def mergeWord : String := "<<"

def wordsWithoutValue : List String :=
  ["=", mergeWord]

/- The truth value of a word. -/
def truthValue? (s : String) : Option Bool :=
  if s ∈ trueWords then some true
  else if s ∈ falseWords then some false
  else none

------------------------------------------------------------
-- Integers
------------------------------------------------------------

/- What a scalar that is written like an integer stands for. -/
abbrev Whole :=
  Except ScalarFault Nat

/- The number of decimal digits, unless there are too many. -/
def decimalWhole (digits : List Nat) : Whole :=
  if Text.maxDigits < digits.length then
    .error (.tooLong digits.length)
  else .ok (Text.ofDigits 10 digits)

/- The number of the digits behind the letter of a base. -/
def basedWhole? (base : Nat) : List Char → Option Whole
  | [] => none
  | cs =>
      (digits? base cs).map fun digits =>
        if digits.isEmpty then .error (.noDigits base)
        else .ok (Text.ofDigits base digits)

/-
  A number in base sixty: parts between colons, the first
  in decimal digits, the others below sixty.
-/
def sexagesimal? (cs : List Char) : Option Whole := do
  let (first, more) := Text.split ':' cs
  if more.isEmpty then none
  let leading ← digits? 10 first
  let rest ← more.mapM sixtieths?
  return do
    return Text.ofDigits 60 ((← decimalWhole leading) :: rest)

/-
  A number without sign. A leading zero makes it octal, a
  letter after the zero binary or hexadecimal.
-/
def magnitude? (cs : List Char) : Option Whole :=
  match cs with
  | ['0'] => some (.ok 0)
  | '0' :: 'b' :: ds => basedWhole? 2 ds
  | '0' :: 'x' :: ds => basedWhole? 16 ds
  | '0' :: ds =>
      (digits? 8 ds).map (.ok ∘ Text.ofDigits 8)
  | c :: _ =>
      if c.isDigit then
        match digits? 10 cs with
        | some digits => some (decimalWhole digits)
        | none => sexagesimal? cs
      else none
  | [] => none

def integer? (s : String) : Option (Except ScalarFault Int) :=
  let (negative, cs) := cutSign s.toList
  (magnitude? cs).map (·.map (signed negative))

------------------------------------------------------------
-- Floats
------------------------------------------------------------

/- The exponent after the letter: a sign and digits. -/
def exponent? (cs : List Char) : Option Int :=
  match cs with
  | [] => some 0
  | letter :: sign :: ds =>
      if (letter = 'e' ∨ letter = 'E') ∧
          (sign = '+' ∨ sign = '-') ∧
          ds.all Char.isDigit then
        (number? 10 ds).map (signed (sign = '-'))
      else none
  | _ => none

/- A text before its first point and after it. -/
def cutPoint
    (cs : List Char) : Option (List Char × List Char) :=
  match cs.dropWhile (· ≠ '.') with
  | [] => none
  | _ :: after => some (cs.takeWhile (· ≠ '.'), after)

/- The number that digits before and after a point spell. -/
def ofParts
    (negative : Bool)
    (whole fraction : List Nat)
    (exponent : Int) : Binary64 :=
  .ofDecimal negative (Text.ofDigits 10 (whole ++ fraction))
    (exponent - fraction.length)

/-
  A float without sign: digits, a point, and digits with an
  exponent. The point is never missing.
-/
def decimal?
    (negative : Bool)
    (cs : List Char) : Option Binary64 := do
  let (whole, after) ← cutPoint cs
  let isMantissa (c : Char) := c.isDigit || c = '_'
  let fraction := after.takeWhile isMantissa
  let exponent ← exponent? (after.dropWhile isMantissa)
  let startsWell (part : List Char) :=
    part.head?.any Char.isDigit
  if !startsWell whole ∧
      !(whole.isEmpty ∧ startsWell fraction) then none
  return ofParts negative (← digits? 10 whole)
    (← digits? 10 fraction) exponent

/-
  A float in base sixty, from the last part to the first.
  Every step is rounded.
-/
def sumOfSixtieths
    (total : Binary64)
    (weight : Nat) : List Binary64 → Binary64
  | [] => total
  | part :: before =>
      sumOfSixtieths (total.plus (part.times weight))
        (60 * weight) before

/- A float in base sixty without sign. -/
def sexagesimalFloat?
    (negative : Bool)
    (cs : List Char) : Option Binary64 := do
  let (whole, fraction) ← cutPoint cs
  let (first, more) := Text.split ':' whole
  if more.isEmpty ∨ !first.head?.any Char.isDigit then none
  let fraction ← digits? 10 fraction
  let leading ← digits? 10 first
  let rest ← more.mapM sixtieths?
  let last := ofParts false [rest.getLast?.getD 0] fraction 0
  let earlier := rest.dropLast.reverse.map fun n =>
    ofParts false [n] [] 0
  let sum := sumOfSixtieths (.signedZero false) 1
    (last :: earlier ++ [ofParts false leading [] 0])
  return if negative then sum.negate else sum

def infinityWords : List String :=
  [".inf", ".Inf", ".INF"]

/- The words for what is no number. -/
def undefinedWords : List String :=
  [".nan", ".NaN", ".NAN"]

/- A float. Only one that starts with a digit has a sign. -/
def float? (s : String) : Option Binary64 :=
  let (negative, cs) := cutSign s.toList
  if s ∈ undefinedWords then some .undefined
  else if String.ofList cs ∈ infinityWords then
    some (.infinite negative)
  else if cs.head? = some '.' ∧ cs ≠ s.toList then none
  else
    match decimal? negative cs with
    | some x => some x
    | none => sexagesimalFloat? negative cs

------------------------------------------------------------
-- Scalars
------------------------------------------------------------

/- A day or a moment as a thing of its own kind. -/
def thingOf (moment : Moment) : OtherThing where
  kind :=
    if moment.clock.isNone then "datetime.date"
    else "datetime.datetime"
  truthy := true
  display := moment.display
  quoted := moment.quoted
  fault? _ := none
  display_ne_empty _ := by simp [Moment.display]

/- The value of a plain scalar that is not a number. -/
def otherValue (s : String) : Except Fault Document :=
  match timestamp? s with
  | some moment =>
      match moment.check with
      | .ok moment => .ok (.other (thingOf moment))
      | .error e => .error (.scalar (.moment e))
  | none => .ok (.text s)

/- The value of a plain scalar. -/
def plainValue (s : String) : Except Fault Document :=
  if s ∈ nullWords then .ok .null
  else if s ∈ wordsWithoutValue then .error (.noMeaning s)
  else
    match truthValue? s, float? s, integer? s with
    | some b, _, _ => .ok (.bool b)
    | none, some x, _ => .ok (.float x)
    | none, none, some (.ok n) => .ok (.int n)
    | none, none, some (.error e) => .error (.scalar e)
    | none, none, none => otherValue s

end Yaml

end PocketDart
