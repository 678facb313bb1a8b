import PocketDart.Log.Message

/-
  This file defines which messages are written out. Before
  the log is set up, only warnings and worse appear, without
  their origin.

  Key definitions include:
    * `Log.Verbosity`
    * `Log.Verbosity.threshold`
    * `Log.output`
-/

------------------------------------------------------------
-- Thresholds
------------------------------------------------------------

namespace PocketDart

namespace Log

/- What the user asked to see. -/
structure Verbosity where
  verbose : Bool := false
  quiet : Bool := false
  deriving DecidableEq, Repr

/- The least level that is written out. -/
def Verbosity.threshold (v : Verbosity) : Level :=
  if v.verbose then .debug
  else if v.quiet then .warning
  else .info

/- What is written out for a message. -/
def output
    (threshold : Option Level)
    (m : Message) : String :=
  match threshold with
  | some level =>
      if level.rank ≤ m.level.rank then m.formatted else ""
  | none =>
      if Level.warning.rank ≤ m.level.rank then
        m.text ++ "\n"
      else ""

end Log

end PocketDart
