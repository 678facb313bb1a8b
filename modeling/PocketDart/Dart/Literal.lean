/-
  This file defines string literals in single quotes. The
  quote, the backslash, the dollar sign that would start an
  interpolation and the line breaks are escaped.

  Key definitions include:
    * `Dart.escapeChar`
    * `Dart.literal`
-/

------------------------------------------------------------
-- Writing
------------------------------------------------------------

namespace PocketDart

namespace Dart

/- One character between the quotes. -/
def escapeChar (c : Char) : List Char :=
  if c = '\\' ∨ c = '\'' ∨ c = '$' then ['\\', c]
  else if c = '\n' then ['\\', 'n']
  else if c = '\r' then ['\\', 'r']
  else [c]

def literalChars (cs : List Char) : List Char :=
  '\'' :: (cs.flatMap escapeChar ++ ['\''])

/- The literal of a text. -/
def literal (s : String) : String :=
  String.ofList (literalChars s.toList)

end Dart

end PocketDart
