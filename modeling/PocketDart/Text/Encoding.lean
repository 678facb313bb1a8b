import PocketDart.Text.Digit
import PocketDart.Text.Utf8

/-
  This file defines how the encoding of a document is told
  from its first bytes. A document starts with two
  characters of ASCII, so that zeros among the first four
  bytes show how wide the units are and which of their bytes
  comes first.

  Key definitions include:
    * `Encoding`
    * `Encoding.guess?`
    * `Encoding.decode?`
    * `Encoding.reread`
-/

------------------------------------------------------------
-- Encodings
------------------------------------------------------------

namespace PocketDart

/- Which byte of a unit comes first. -/
inductive ByteOrder where
  | highFirst
  | lowFirst
  deriving DecidableEq, Repr

/-
  The encodings of documents: bytes, with a mark in front or
  without one, and units of two or of four bytes.
-/
inductive Encoding where
  | plain
  | marked
  | pairs (order : ByteOrder)
  | quads (order : ByteOrder)
  deriving DecidableEq, Repr

namespace Encoding

/- The encoding of a document of four bytes or more. -/
def guess? (bytes : List UInt8) : Option Encoding :=
  match bytes with
  | a :: b :: c :: d :: _ =>
      if [a, b, c] = [0xEF, 0xBB, 0xBF] then some .marked
      else
        match a == 0, b == 0, c == 0, d == 0 with
        | false, false, false, false => some .plain
        | true, false, true, false => some (.pairs .highFirst)
        | false, true, false, true => some (.pairs .lowFirst)
        | true, true, true, false => some (.quads .highFirst)
        | false, true, true, true => some (.quads .lowFirst)
        | _, _, _, _ => none
  | _ => none

------------------------------------------------------------
-- Units
------------------------------------------------------------

/- The number that the bytes of a unit spell. -/
def unit
    (order : ByteOrder)
    (bytes : List UInt8) : Nat :=
  let bytes :=
    match order with
    | .highFirst => bytes
    | .lowFirst => bytes.reverse
  Text.ofDigits 256 (bytes.map UInt8.toNat)

/- Units of two bytes. -/
def pairs?
    (order : ByteOrder) :
    List UInt8 → Option (List Nat)
  | [] => some []
  | a :: b :: rest =>
      (pairs? order rest).map (unit order [a, b] :: ·)
  | _ => none

/- Units of four bytes. -/
def quads?
    (order : ByteOrder) :
    List UInt8 → Option (List Nat)
  | [] => some []
  | a :: b :: c :: d :: rest =>
      (quads? order rest).map (unit order [a, b, c, d] :: ·)
  | _ => none

------------------------------------------------------------
-- Characters of Units
------------------------------------------------------------

/- A unit that stands for the first half of a character. -/
def isHigh (unit : Nat) : Bool :=
  0xD800 ≤ unit && unit ≤ 0xDBFF

/- A unit that stands for the second half. -/
def isLow (unit : Nat) : Bool :=
  0xDC00 ≤ unit && unit ≤ 0xDFFF

def ofHalves (high low : Nat) : Char :=
  Char.ofNat
    (0x10000 + (high - 0xD800) * 0x400 + (low - 0xDC00))

/- The characters of units of two bytes. -/
def charsOfPairs? : List Nat → Option (List Char)
  | [] => some []
  | [unit] =>
      if isHigh unit || isLow unit then none
      else some [Char.ofNat unit]
  | unit :: next :: rest =>
      if isHigh unit && isLow next then
        (charsOfPairs? rest).map (ofHalves unit next :: ·)
      else if isHigh unit || isLow unit then none
      else
        (charsOfPairs? (next :: rest)).map
          (Char.ofNat unit :: ·)

/- The characters of units of four bytes. -/
def charsOfQuads? (units : List Nat) : Option (List Char) :=
  units.mapM fun unit =>
    if unit.isValidChar then some (Char.ofNat unit) else none

------------------------------------------------------------
-- Decoding
------------------------------------------------------------

/- The text of bytes in an encoding. -/
def decode?
    (encoding : Encoding)
    (bytes : List UInt8) : Option String :=
  match encoding with
  | .plain => (Utf8.decode bytes).toOption
  | .marked => (Utf8.decode (bytes.drop 3)).toOption
  | .pairs order => do
      let chars ← charsOfPairs? (← pairs? order bytes)
      return String.ofList chars
  | .quads order => do
      let chars ← charsOfQuads? (← quads? order bytes)
      return String.ofList chars

/- The mark that some put in front of a text. -/
def mark : String := "\uFEFF"

/-
  A text that came as bytes, read once more in the encoding
  that they seem to be in. Where there is none, the text
  stays as it is, apart from a mark that stands alone.
-/
def reread (s : String) : String :=
  let bytes := Utf8.encode s
  match (guess? bytes).bind fun encoding =>
      encoding.decode? bytes with
  | some text => text
  | none => if s = mark then "" else s

end Encoding

end PocketDart
