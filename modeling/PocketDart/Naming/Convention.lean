import PocketDart.Text.LetterCase.Mapping
import PocketDart.Text.Segments
import PocketDart.Value.Misuse

/-
  This file defines how the names of collections and fields
  become names of members and types. A raw name is cut into
  segments at underscores, and only the first letters of the
  segments change.

  Key definitions include:
    * `Naming.memberChars`
    * `Naming.typeChars`
    * `memberName`
    * `typeName`
    * `Convention`
-/

------------------------------------------------------------
-- Segments
------------------------------------------------------------

namespace PocketDart

namespace Naming

/- Segments of a raw name lie between underscores. -/
def delimiter : Char := '_'

/-
  A member name starts with a lower-case letter, and every
  further segment with an upper-case one.
-/
def memberChars (raw : List Char) : List Char :=
  let (first, more) := Text.split delimiter raw
  Text.uncapitalize first ++ more.flatMap Text.capitalize

/- Raw names that spell the type of points in time. -/
def timeTypeNames : List String :=
  ["date_time", "datetime"]

/- The type name that such a raw name gets instead. -/
def timeTypeReplacement : String := "DateTimez"

def spellsTimeType (raw : List Char) : Bool :=
  timeTypeNames.any fun name =>
    Text.lowerAll raw == name.toList

/- Every segment of a type name starts with upper case. -/
def typeChars (raw : List Char) : List Char :=
  if spellsTimeType raw then timeTypeReplacement.toList
  else
    (Text.pieces delimiter raw).flatMap Text.capitalize

end Naming

------------------------------------------------------------
-- Names
------------------------------------------------------------

def memberName (raw : String) : String :=
  String.ofList (Naming.memberChars raw.toList)

def typeName (raw : String) : String :=
  String.ofList (Naming.typeChars raw.toList)

/- The type name of the values of a select field. -/
def enumTypeName (raw : String) : String :=
  typeName raw ++ "Enum"

------------------------------------------------------------
-- Conventions
------------------------------------------------------------

/- The two conventions for names. -/
inductive Convention where
  | camel
  | pascal
  deriving DecidableEq, Repr

namespace Convention

def ofWord? : String → Option Convention
  | "camel" => some .camel
  | "pascal" => some .pascal
  | _ => none

def apply : Convention → String → String
  | .camel, raw => memberName raw
  | .pascal, raw => typeName raw

/- What a value has to be able to do under a convention. -/
def ability : Convention → Ability
  | .camel => .split
  | .pascal => .lower

/- A value under a convention, which only a text can be. -/
def applyTo
    (convention : Convention)
    (value : Value) : Except Misuse String :=
  return convention.apply
    (← value.asText convention.ability)

end Convention

end PocketDart
