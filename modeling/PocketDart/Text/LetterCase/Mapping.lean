import PocketDart.Text.LetterCase.Table

/-
  This file defines the full letter case mappings of a
  character and the two mappings of a first letter.

  Key definitions include:
    * `upper`
    * `lower`
    * `lowerAll`
    * `capitalize`
    * `uncapitalize`

  Key theorems include:
    * `upper_of_ascii`
    * `lower_of_ascii`
-/

------------------------------------------------------------
-- Full Mappings
------------------------------------------------------------

namespace PocketDart

namespace Text

/-
  Look a character up in a mapping: first among the
  expansions, then in the runs; else it maps to itself.
-/
def mapCase
    (expansions : List (Nat × List Nat))
    (runs : List CaseRun)
    (c : Char) : List Char :=
  match expansions.lookup c.toNat with
  | some codes => codes.map Char.ofNat
  | none =>
      match runs.findSome? (·.image? c.toNat) with
      | some code => [Char.ofNat code]
      | none => [c]

/- The full upper case of a character. -/
def upper (c : Char) : List Char :=
  if c.toNat < 0x80 then [c.toUpper]
  else mapCase upperExpansions upperRuns c

/-
  The full lower case of a character, taken by itself: a
  capital sigma gets its medial form.
-/
def lower (c : Char) : List Char :=
  if c.toNat < 0x80 then [c.toLower]
  else mapCase lowerExpansions lowerRuns c

/- Lower case character by character. -/
def lowerAll (cs : List Char) : List Char :=
  cs.flatMap lower

/- In ASCII both mappings are those of the core library. -/
theorem upper_of_ascii
    {c : Char}
    (h : c.toNat < 0x80) :
    upper c = [c.toUpper] := by
  simp [upper, h]

theorem lower_of_ascii
    {c : Char}
    (h : c.toNat < 0x80) :
    lower c = [c.toLower] := by
  simp [lower, h]

------------------------------------------------------------
-- First Letters
------------------------------------------------------------

/- Upper-case the first character and keep the rest. -/
def capitalize : List Char → List Char
  | [] => []
  | c :: rest => upper c ++ rest

/- Lower-case the first character and keep the rest. -/
def uncapitalize : List Char → List Char
  | [] => []
  | c :: rest => lower c ++ rest

end Text

end PocketDart
