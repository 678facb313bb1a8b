import PocketDart.Number.Shortest
import PocketDart.Text.Quoted
import PocketDart.Value.Basic

/-
  This file defines the compact JSON text of a value.

  Key definitions include:
    * `Json.write`
-/

------------------------------------------------------------
-- Compact Texts
------------------------------------------------------------

namespace PocketDart

namespace Json

/- One character of a string. -/
def writeChar (c : Char) : List Char :=
  if c = '"' ∨ c = '\\' then ['\\', c]
  else if c = '\n' then ['\\', 'n']
  else if c.toNat < 0x20 then
    '\\' :: 'u' :: Text.hexadecimal 4 c.toNat
  else [c]

/- A string in double quotes. -/
def writeString (s : String) : String :=
  String.ofList
    ('"' :: s.toList.flatMap writeChar ++ ['"'])

/- A float; one too large for the format as it can be read. -/
def writeFloat : Binary64 → String
  | .infinite negative => if negative then "-1e999" else "1e999"
  | .undefined => "NaN"
  | x => x.render

mutual

def write : Value → String
  | .null => "null"
  | .bool b => if b then "true" else "false"
  | .int n => toString n
  | .float x => writeFloat x
  | .text s => writeString s
  | .list items =>
      "[" ++ ",".intercalate (writeItems items) ++ "]"
  | .object entries =>
      "\x7b" ++ ",".intercalate (writeEntries entries) ++
        "\x7d"

def writeItems : List Value → List String
  | [] => []
  | item :: rest => write item :: writeItems rest

/- The texts of the entries of an object. -/
def writeEntries : List (String × Value) → List String
  | [] => []
  | (key, value) :: rest =>
      (writeString key ++ ":" ++ write value) ::
        writeEntries rest

end

end Json

end PocketDart
