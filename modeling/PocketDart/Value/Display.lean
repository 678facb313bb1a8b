import PocketDart.Number.Shortest
import PocketDart.Text.Digit
import PocketDart.Text.Quoted
import PocketDart.Value.Basic

/-
  This file defines how a document value is shown inside a
  message: a text at the top as it is, a text inside another
  value in quotes. That a value cannot be shown is told
  apart from the text, which is defined for every value. The
  fault is asked for where it decides what comes of a run,
  which is for tags and credentials; names and the values of
  select fields that stand in messages are taken to be
  nested no deeper than can be shown.

  Key definitions include:
    * `Value.quoted`
    * `Value.display`
    * `ShowFault`
    * `Value.showFault?`

  Key theorems include:
    * `Value.display_text`
-/

------------------------------------------------------------
-- Shown Values
------------------------------------------------------------

namespace PocketDart

namespace Value

mutual

def quoted : Value → String
  | .null => "None"
  | .bool b => if b then "True" else "False"
  | .int n => toString n
  | .float x => x.render
  | .text s => Text.quoted s
  | .list items =>
      "[" ++ ", ".intercalate (quotedItems items) ++ "]"
  | .object entries =>
      "\x7b" ++ ", ".intercalate (quotedEntries entries) ++
        "\x7d"

def quotedItems : List Value → List String
  | [] => []
  | item :: rest => item.quoted :: quotedItems rest

def quotedEntries : List (String × Value) → List String
  | [] => []
  | (key, value) :: rest =>
      (Text.quoted key ++ ": " ++ value.quoted) ::
        quotedEntries rest

end

/- A value as messages show it. -/
def display : Value → String
  | .text s => s
  | value => value.quoted

------------------------------------------------------------
-- Faults of Showing
------------------------------------------------------------

end Value

/-
  Why a value is not shown: a number in it has too many
  digits, or its lists and objects are nested too deep.
-/
inductive ShowFault where
  | longNumber
  | tooDeep
  deriving DecidableEq, Repr

namespace ShowFault

/- A fault in words. -/
def message : ShowFault → String
  | .longNumber => Text.longResultMessage
  | .tooDeep =>
      "maximum recursion depth exceeded while getting the " ++
        "repr of an object"

/- The fault of an integer. -/
def ofInt? (n : Int) : Option ShowFault :=
  if n.natAbs < Binary64.tenTo Text.maxDigits then none
  else some .longNumber

/-
  The fault of a nest with so many levels left for what is
  inside; an empty nest needs none.
-/
def ofNest?
    (isEmpty : Bool)
    (inside : Nat → Option ShowFault) :
    (levels : Nat) → Option ShowFault
  | 0 => if isEmpty then none else some .tooDeep
  | levels + 1 => inside levels

end ShowFault

namespace Value

mutual

/-
  The first fault that is met in showing a value, with so
  many levels for what is nested in it.
-/
def showFault? : Value → (levels : Nat) → Option ShowFault
  | .int n, _ => ShowFault.ofInt? n
  | .list items, levels =>
      ShowFault.ofNest? items.isEmpty (itemsFault? items)
        levels
  | .object entries, levels =>
      ShowFault.ofNest? entries.isEmpty
        (entriesFault? entries) levels
  | _, _ => none

def itemsFault? :
    List Value → (levels : Nat) → Option ShowFault
  | [], _ => none
  | item :: rest, levels =>
      (item.showFault? levels).or (itemsFault? rest levels)

/- The same for the entries of an object. -/
def entriesFault? :
    List (String × Value) → (levels : Nat) →
      Option ShowFault
  | [], _ => none
  | (_, value) :: rest, levels =>
      (value.showFault? levels).or
        (entriesFault? rest levels)

end

/- A text is shown as it is. -/
@[simp]
theorem display_text (s : String) :
    (Value.text s).display = s := rfl

end Value

end PocketDart
