import PocketDart.Text.StandIn

/-
  This file defines how bytes are read as text in UTF-8 and
  text as bytes, and where and why that fails.

  Key definitions include:
    * `Utf8.Reason`
    * `Utf8.DecodeError`
    * `Utf8.decode`
    * `Utf8.encode`
    * `Utf8.EncodeError`
    * `Text.unifyBreaks`
-/

------------------------------------------------------------
-- Errors
------------------------------------------------------------

namespace PocketDart

namespace Utf8

/- Why bytes are no text. -/
inductive Reason where
  | invalidStart
  | invalidContinuation
  | unexpectedEnd
  deriving DecidableEq, Repr

/- A reason in words. -/
def Reason.text : Reason → String
  | .invalidStart => "invalid start byte"
  | .invalidContinuation => "invalid continuation byte"
  | .unexpectedEnd => "unexpected end of data"

/-
  The bytes that are no text: where they start, how many
  they are, and the first of them.
-/
structure DecodeError where
  start : Nat
  length : Nat
  first : UInt8
  reason : Reason
  deriving DecidableEq, Repr

/- A byte as two hexadecimal digits. -/
def hexByte (byte : UInt8) : String :=
  let digits := Nat.toDigits 16 byte.toNat
  String.ofList
    (List.replicate (2 - digits.length) '0' ++ digits)

def DecodeError.message (e : DecodeError) : String :=
  let place :=
    if e.length = 1 then
      "byte 0x" ++ hexByte e.first ++ " in position " ++
        toString e.start
    else
      "bytes in position " ++ toString e.start ++ "-" ++
        toString (e.start + e.length - 1)
  "'utf-8' codec can't decode " ++ place ++ ": " ++
    e.reason.text

------------------------------------------------------------
-- Sequences of Bytes
------------------------------------------------------------

/-
  What a first byte announces: how many bytes follow, its
  own bits, and the range of the byte after it. The ranges
  keep out long forms, surrogates and what is too large.
-/
structure Lead where
  following : Nat
  bits : Nat
  low : Nat
  high : Nat

/- The announcement of a first byte. -/
def lead? (byte : UInt8) : Option Lead :=
  let b := byte.toNat
  if b < 0x80 then some ⟨0, b, 0, 0⟩
  else if b < 0xC2 then none
  else if b < 0xE0 then some ⟨1, b - 0xC0, 0x80, 0xBF⟩
  else if b < 0xF0 then
    some ⟨2, b - 0xE0,
      if b = 0xE0 then 0xA0 else 0x80,
      if b = 0xED then 0x9F else 0xBF⟩
  else if b < 0xF5 then
    some ⟨3, b - 0xF0,
      if b = 0xF0 then 0x90 else 0x80,
      if b = 0xF4 then 0x8F else 0xBF⟩
  else none

/-
  Read the bytes that follow a first byte. The answer is the
  code point, or a reason with the number of good bytes.
-/
def readFollowing
    (count code low high : Nat)
    (good : Nat) :
    List UInt8 → Except (Reason × Nat) Nat
  | [] =>
      if count = 0 then .ok code
      else .error (.unexpectedEnd, good)
  | byte :: rest =>
      match count with
      | 0 => .ok code
      | count + 1 =>
          let b := byte.toNat
          if low ≤ b ∧ b ≤ high then
            readFollowing count (code * 0x40 + (b - 0x80))
              0x80 0xBF (good + 1) rest
          else .error (.invalidContinuation, good)

def decodeFrom
    (position skip : Nat)
    (seen : List Char) :
    List UInt8 → Except DecodeError (List Char)
  | [] => .ok seen.reverse
  | byte :: rest =>
      match skip with
      | skip + 1 =>
          decodeFrom (position + 1) skip seen rest
      | 0 =>
          match lead? byte with
          | none =>
              .error ⟨position, 1, byte, .invalidStart⟩
          | some lead =>
              match readFollowing lead.following lead.bits
                  lead.low lead.high 1 rest with
              | .ok code =>
                  decodeFrom (position + 1) lead.following
                    (Char.ofNat code :: seen) rest
              | .error (reason, good) =>
                  .error ⟨position, good, byte, reason⟩

/- Read bytes as text. -/
def decode
    (bytes : List UInt8) : Except DecodeError String :=
  (decodeFrom 0 0 [] bytes).map String.ofList

/- The bytes of a text. -/
def encode (s : String) : List UInt8 :=
  s.toUTF8.toList

------------------------------------------------------------
-- Halves of Pairs
------------------------------------------------------------

/-
  Halves of surrogate pairs that have no bytes: the first
  one, and the places of the first and the last.
-/
structure EncodeError where
  unit : Nat
  first : Nat
  last : Nat
  deriving DecidableEq, Repr

def EncodeError.message (e : EncodeError) : String :=
  let place :=
    if e.first = e.last then
      "character '\\u" ++
        String.ofList (Nat.toDigits 16 e.unit) ++
        "' in position " ++ toString e.first
    else
      "characters in position " ++ toString e.first ++ "-" ++
        toString e.last
  "'utf-8' codec can't encode " ++ place ++
    ": surrogates not allowed"

/-
  The error of a text from its first character of a kind on,
  as far as halves follow each other.
-/
def encodeError
    (surrogate? : Char → Option Nat)
    (isFaulty : Char → Bool)
    (s : String) : EncodeError :=
  let first := (s.toList.takeWhile (!isFaulty ·)).length
  let halves :=
    (s.toList.drop first).takeWhile (surrogate? · |>.isSome)
  { unit := (halves.head?.bind surrogate?).getD 0
    first
    last := first + (halves.length - 1) }

end Utf8

------------------------------------------------------------
-- Line Breaks
------------------------------------------------------------

namespace Text

/- Every kind of line break becomes a line feed. -/
def unifyBreaks : List Char → List Char
  | '\r' :: '\n' :: rest => '\n' :: unifyBreaks rest
  | '\r' :: rest => '\n' :: unifyBreaks rest
  | c :: rest => c :: unifyBreaks rest
  | [] => []

end Text

end PocketDart
