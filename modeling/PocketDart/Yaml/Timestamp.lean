import PocketDart.Value.Moment
import PocketDart.Yaml.Digit

/-
  This file defines the plain scalars that are written like
  a day or a moment: year, month and day, and a time behind
  a letter or blanks, perhaps with a zone.

  Key definitions include:
    * `Yaml.clock?`
    * `Yaml.timestamp?`
-/

------------------------------------------------------------
-- Parts
------------------------------------------------------------

namespace PocketDart

namespace Yaml

/-
  A text cut behind a number that has at least and at most
  so many digits.
-/
def cutNumber?
    (least most : Nat)
    (cs : List Char) : Option (Nat × List Char) := do
  let digits := (cs.take most).takeWhile Char.isDigit
  if digits.length < least then none
  return (← number? 10 digits, cs.drop digits.length)

/- A text cut behind a character that it starts with. -/
def cutMark?
    (mark : Char) : List Char → Option (List Char)
  | [] => none
  | c :: rest => if c = mark then some rest else none

/- What may stand before a time, and before its zone. -/
def isGap (c : Char) : Bool :=
  c = ' ' || c = '\t'

/- The microseconds that the digits after a point mean. -/
def microseconds (digits : List Char) : Nat :=
  (number? 10 ((digits.take 6).rightpad 6 '0')).getD 0

------------------------------------------------------------
-- Times
------------------------------------------------------------

def zoneMinutes? (cs : List Char) : Option Nat := do
  let (hours, rest) ← cutNumber? 1 2 cs
  match rest with
  | [] => return 60 * hours
  | _ =>
      let (minutes, rest) ←
        cutNumber? 2 2 (← cutMark? ':' rest)
      if rest.isEmpty then return 60 * hours + minutes
      else none

/- The zone at the end of a time. -/
def zone? (cs : List Char) : Option (Option Int) :=
  if cs.isEmpty then some none
  else
    match cs.dropWhile isGap with
    | ['Z'] => some (some 0)
    | '+' :: rest => do
        return some (signed false (← zoneMinutes? rest))
    | '-' :: rest => do
        return some (signed true (← zoneMinutes? rest))
    | _ => none

/- A part of a second, if there is a point, and the rest. -/
def cutFraction : List Char → Nat × List Char
  | '.' :: rest =>
      (microseconds (rest.takeWhile Char.isDigit),
        rest.dropWhile Char.isDigit)
  | cs => (0, cs)

/- A time of day. -/
def clock? (cs : List Char) : Option Clock := do
  let (hour, rest) ← cutNumber? 1 2 cs
  let (minute, rest) ← cutNumber? 2 2 (← cutMark? ':' rest)
  let (second, rest) ← cutNumber? 2 2 (← cutMark? ':' rest)
  let (microsecond, rest) := cutFraction rest
  return {
    hour, minute, second, microsecond
    ahead := ← zone? rest }

/- A text behind what separates a time from its day. -/
def cutGap? : List Char → Option (List Char)
  | [] => none
  | c :: rest =>
      if c = 'T' ∨ c = 't' then some rest
      else if isGap c then some (rest.dropWhile isGap)
      else none

------------------------------------------------------------
-- Timestamps
------------------------------------------------------------

/-
  A day, in which month and day have two digits each, or a
  moment, in which they may have one.
-/
def timestamp? (s : String) : Option Moment := do
  let (year, rest) ← cutNumber? 4 4 s.toList
  let (month, rest) ← cutNumber? 1 2 (← cutMark? '-' rest)
  let (day, rest) ← cutNumber? 1 2 (← cutMark? '-' rest)
  if rest.isEmpty then
    if s.length = "YYYY-MM-DD".length then
      return ⟨year, month, day, none⟩
    else none
  else
    return ⟨year, month, day,
      some (← clock? (← cutGap? rest))⟩

end Yaml

end PocketDart
