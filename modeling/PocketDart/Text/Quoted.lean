import PocketDart.Text.Printable

/-
  This file defines how a text is shown in quotes, with
  escapes for what could not be seen.

  Key definitions include:
    * `Text.hexadecimal`
    * `Text.quotedChar`
    * `Text.quoted`
-/

------------------------------------------------------------
-- Quoted Texts
------------------------------------------------------------

namespace PocketDart

namespace Text

/- Lower-case hexadecimal digits, at least `width`. -/
def hexadecimal
    (width n : Nat) : List Char :=
  let digits := Nat.toDigits 16 n
  List.replicate (width - digits.length) '0' ++ digits

/- One character between quotes. -/
def quotedChar
    (quote c : Char) : List Char :=
  if c = quote ∨ c = '\\' then ['\\', c]
  else if c = '\n' then ['\\', 'n']
  else if c = '\r' then ['\\', 'r']
  else if c = '\t' then ['\\', 't']
  else if isPrintable c then [c]
  else if c.toNat < 0x100 then
    '\\' :: 'x' :: hexadecimal 2 c.toNat
  else if c.toNat < 0x10000 then
    '\\' :: 'u' :: hexadecimal 4 c.toNat
  else '\\' :: 'U' :: hexadecimal 8 c.toNat

/-
  A text between single quotes, or between double quotes
  when it holds single ones and no double ones.
-/
def quoted (s : String) : String :=
  let cs := s.toList
  let quote :=
    if '\'' ∈ cs ∧ '"' ∉ cs then '"' else '\''
  String.ofList
    (quote :: cs.flatMap (quotedChar quote) ++ [quote])

end Text

end PocketDart
