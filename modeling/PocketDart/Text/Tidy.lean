import PocketDart.Text.Blank
import PocketDart.Text.Segments

/-
  This file defines the clean form of a source text: no
  blanks at the ends of lines, at most one empty line in a
  row, none at the start or the end, and one line break at
  the end of the text.

  Key definitions include:
    * `Text.squeeze`
    * `Text.tidyChars`
    * `Text.tidy`
-/

------------------------------------------------------------
-- Lines
------------------------------------------------------------

namespace PocketDart

namespace Text

/-
  Keep one of several empty lines in a row, and none at the
  end. The flag says that an empty line is due before the
  next line that is not empty.
-/
def squeezeFrom (due : Bool) :
    List (List Char) → List (List Char)
  | [] => []
  | [] :: rest => squeezeFrom true rest
  | line :: rest =>
      if due then [] :: line :: squeezeFrom false rest
      else line :: squeezeFrom false rest

/- Squeeze the empty lines, dropping those at the start. -/
def squeeze (lines : List (List Char)) : List (List Char) :=
  squeezeFrom false (lines.dropWhile List.isEmpty)

------------------------------------------------------------
-- Texts
------------------------------------------------------------

/- The clean form of a text. -/
def tidyChars (cs : List Char) : List Char :=
  let lines := (pieces '\n' cs).map trimEnd
  join ['\n'] (squeeze lines) ++ ['\n']

/- The clean form of a text. -/
def tidy (s : String) : String :=
  String.ofList (tidyChars s.toList)

end Text

end PocketDart
