/-
  This file defines the decimal digits of every script and
  the hexadecimal digits, with their values, and how many of
  them a number may have.

  Key definitions include:
    * `digitZeros`
    * `digitValue?`
    * `hexValue?`
    * `ofDigits`
    * `maxDigits`
-/

------------------------------------------------------------
-- Decimal Digits
------------------------------------------------------------

namespace PocketDart

namespace Text

/-
  The code points of the digit zero in every script of
  Unicode 14. The digits one to nine follow each zero.
-/
def digitZeros : List Nat :=
  [0x0030, 0x0660, 0x06F0, 0x07C0, 0x0966, 0x09E6, 0x0A66,
   0x0AE6, 0x0B66, 0x0BE6, 0x0C66, 0x0CE6, 0x0D66, 0x0DE6,
   0x0E50, 0x0ED0, 0x0F20, 0x1040, 0x1090, 0x17E0, 0x1810,
   0x1946, 0x19D0, 0x1A80, 0x1A90, 0x1B50, 0x1BB0, 0x1C40,
   0x1C50, 0xA620, 0xA8D0, 0xA900, 0xA9D0, 0xA9F0, 0xAA50,
   0xABF0, 0xFF10, 0x104A0, 0x10D30, 0x11066, 0x110F0,
   0x11136, 0x111D0, 0x112F0, 0x11450, 0x114D0, 0x11650,
   0x116C0, 0x11730, 0x118E0, 0x11950, 0x11C50, 0x11D50,
   0x11DA0, 0x16A60, 0x16AC0, 0x16B50, 0x1D7CE, 0x1D7D8,
   0x1D7E2, 0x1D7EC, 0x1D7F6, 0x1E140, 0x1E2F0, 0x1E950,
   0x1FBF0]

/- The value of a decimal digit of any script. -/
def digitValue? (c : Char) : Option Nat :=
  (digitZeros.find? fun start =>
    start ≤ c.toNat && c.toNat < start + 10).map
      fun start => c.toNat - start

/- The value of a hexadecimal digit. -/
def hexValue? (c : Char) : Option Nat :=
  if '0' ≤ c ∧ c ≤ '9' then some (c.toNat - '0'.toNat)
  else if 'a' ≤ c ∧ c ≤ 'f' then
    some (c.toNat - 'a'.toNat + 10)
  else if 'A' ≤ c ∧ c ≤ 'F' then
    some (c.toNat - 'A'.toNat + 10)
  else none

/- The number that a list of digit values spells. -/
def ofDigits
    (base : Nat)
    (digits : List Nat) : Nat :=
  digits.foldl (fun n d => base * n + d) 0

------------------------------------------------------------
-- Long Numbers
------------------------------------------------------------

/- The most digits that a whole number is read from. -/
def maxDigits : Nat := 4300

/- What is said against a number with more digits. -/
def longNumberMessage (digits : Nat) : String :=
  "Exceeds the limit (" ++ toString maxDigits ++
    " digits) for integer string conversion: value has " ++
    toString digits ++ " digits; use " ++
    "sys.set_int_max_str_digits() to increase the limit"

/- What is said against a number that would show more. -/
def longResultMessage : String :=
  "Exceeds the limit (" ++ toString maxDigits ++
    " digits) for integer string conversion; use " ++
    "sys.set_int_max_str_digits() to increase the limit"

end Text

end PocketDart
