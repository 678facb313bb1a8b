import PocketDart.Text.Digit
import PocketDart.Text.Segments

/-
  This file defines which hosts may stand in brackets in the
  address of a server: the internet addresses of version 6,
  and those of a version yet to come.

  Key definitions include:
    * `Host.isVersion4`
    * `Host.isVersion6`
    * `Host.isFuture`
-/

------------------------------------------------------------
-- Version 4
------------------------------------------------------------

namespace PocketDart

namespace Host

/- A number from 0 to 255 without zeros before it. -/
def isOctet (cs : List Char) : Bool :=
  !cs.isEmpty && cs.all Char.isDigit && cs.length ≤ 3 &&
    (cs.length = 1 || cs.head? ≠ some '0') &&
    Text.ofDigits 10 (cs.filterMap Text.hexValue?) ≤ 255

/- Four numbers with dots between them. -/
def isVersion4 (cs : List Char) : Bool :=
  let octets := Text.pieces '.' cs
  octets.length = 4 && octets.all isOctet

------------------------------------------------------------
-- Version 6
------------------------------------------------------------

/- A group of one to four hexadecimal digits. -/
def isGroup (cs : List Char) : Bool :=
  !cs.isEmpty && cs.length ≤ 4 &&
    cs.all fun c => (Text.hexValue? c).isSome

/-
  The number of groups, if all are well formed. An address
  of version 4 at the end takes the place of two.
-/
def groupCount? : List (List Char) → Option Nat
  | [] => some 0
  | [last] =>
      if isGroup last then some 1
      else if isVersion4 last then some 2
      else none
  | group :: rest =>
      if isGroup group then (groupCount? rest).map (· + 1)
      else none

/- The groups of a text, which has none if it is empty. -/
def groups (cs : List Char) : List (List Char) :=
  if cs.isEmpty then [] else Text.pieces ':' cs

/- What stands before and after the first double colon. -/
def cutDoubleColon :
    List Char → Option (List Char × List Char)
  | [] => none
  | [_] => none
  | ':' :: ':' :: rest => some ([], rest)
  | c :: rest =>
      (cutDoubleColon rest).map fun (before, after) =>
        (c :: before, after)

/-
  Eight groups, or fewer where a double colon stands for
  those that are missing.
-/
def isGroupSequence (cs : List Char) : Bool :=
  match cutDoubleColon cs with
  | none => groupCount? (groups cs) = some 8
  | some (before, after) =>
      let before := groups before
      match groupCount? (groups after) with
      | some count =>
          before.all isGroup && before.length + count ≤ 7
      | none => false

/- An address, and a zone after a percent sign if need be. -/
def isVersion6 (cs : List Char) : Bool :=
  match Text.split '%' cs with
  | (address, []) => isGroupSequence address
  | (address, [zone]) =>
      !zone.isEmpty && isGroupSequence address
  | _ => false

------------------------------------------------------------
-- Versions to Come
------------------------------------------------------------

/- A version in hexadecimal digits, a dot, and some text. -/
def isFuture (cs : List Char) : Bool :=
  match Text.split '.' cs with
  | ('v' :: version, rest :: more) =>
      !version.isEmpty &&
        version.all (fun c => (Text.hexValue? c).isSome) &&
        !(Text.join ['.'] (rest :: more)).isEmpty
  | _ => false

end Host

end PocketDart
