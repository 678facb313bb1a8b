import PocketDart.Text.StandIn

/-
  This file defines what depends on the machine that a run
  takes place on: how deep it goes in nested documents,
  values and directories before it gives up, and how it
  keeps half of a surrogate pair.

  Key definitions include:
    * `Machine`
    * `Machine.usual`
-/

------------------------------------------------------------
-- Machines
------------------------------------------------------------

namespace PocketDart

/-
  The levels of lists and objects in a JSON document, of the
  nodes in a YAML document, in the tag of a field that is
  shown and in a value of the configuration that is shown,
  the number of directories in a row that may be missing,
  and the character for half of a surrogate pair.
-/
structure Machine where
  documentLevels : Nat
  nodeLevels : Nat
  tagLevels : Nat
  valueLevels : Nat
  missingDirectories : Nat
  standIn : Nat → Char

/- A machine with a thousand levels for all that it calls. -/
def Machine.usual : Machine where
  documentLevels := 988
  nodeLevels := 490
  tagLevels := 983
  valueLevels := 990
  missingDirectories := 986
  standIn := Text.standIn

end PocketDart
