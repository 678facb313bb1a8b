import PocketDart.Text.Utf8

/-
  This file defines how text is read from bytes that arrive
  in blocks. The place of an error is counted from the start
  of its block, where the bytes of a character that was cut
  off by the block before come first.

  Key definitions include:
    * `Inflow`
    * `Inflow.takeBlock`
    * `Inflow.fill`
    * `Inflow.read`
-/

------------------------------------------------------------
-- Blocks
------------------------------------------------------------

namespace PocketDart

/-
  Text on its way: the bytes that are yet to come, those of
  a character that is cut off, the characters so far, and
  the size of the last block in bytes and in characters.
-/
structure Inflow where
  bytes : List UInt8
  held : List UInt8 := []
  chars : List Char := []
  blockBytes : Nat := 0
  blockChars : Nat := 0
  ended : Bool := false

namespace Inflow

/- The least number of bytes that are taken at a time. -/
def blockSize : Nat := 8192

/- The number of characters that are asked for at a time. -/
def requestSize : Nat := 4096

/-
  The text so far, with one kind of line break. A carriage
  return at the end waits for what comes after it.
-/
def text (inflow : Inflow) : List Char :=
  let waits :=
    !inflow.ended && inflow.chars.getLast? = some '\r'
  Text.unifyBreaks
    (if waits then inflow.chars.dropLast else inflow.chars)

/- The size of the block that should bring characters. -/
def nextSize
    (inflow : Inflow)
    (missing : Nat) : Nat :=
  max blockSize
    (missing * inflow.blockBytes / inflow.blockChars)

/- Add the characters of a block, and what it cuts off. -/
def receive
    (inflow : Inflow)
    (size : Nat)
    (arrived : String)
    (held : List UInt8) : Inflow :=
  let next : Inflow :=
    { inflow with
      bytes := inflow.bytes.drop size
      chars := inflow.chars ++ arrived.toList
      held }
  { next with
    blockBytes := min size inflow.bytes.length
    blockChars := next.text.length - inflow.text.length }

/-
  Whether bytes that are no text may become clear with those
  that follow: a character is cut off, or the last two bytes
  are the first of a surrogate.
-/
def isUnclear
    (error : Utf8.DecodeError)
    (data : List UInt8) : Bool :=
  match error.reason, data.drop error.start with
  | .unexpectedEnd, _ => true
  | _, [0xED, second] => 0xA0 ≤ second && second ≤ 0xBF
  | _, _ => false

/-
  Take a block. When nothing comes any more, everything has
  to be clear.
-/
def takeBlock
    (inflow : Inflow)
    (missing : Nat) : Except Utf8.DecodeError Inflow :=
  let size := inflow.nextSize missing
  let data := inflow.held ++ inflow.bytes.take size
  match Utf8.decode data with
  | .ok arrived =>
      .ok { inflow.receive size arrived [] with
        ended := inflow.bytes.isEmpty }
  | .error e =>
      if isUnclear e data ∧ !inflow.bytes.isEmpty then do
        let arrived ← Utf8.decode (data.take e.start)
        return inflow.receive size arrived
          (data.drop e.start)
      else .error e

------------------------------------------------------------
-- Requests
------------------------------------------------------------

/- Take blocks until so many characters are there. -/
def fill
    (wanted : Nat) :
    (fuel : Nat) → Inflow → Except Utf8.DecodeError Inflow
  | 0, inflow => .ok inflow
  | fuel + 1, inflow =>
      let count := inflow.text.length
      if inflow.ended || wanted ≤ count then .ok inflow
      else do
        fill wanted fuel (← inflow.takeBlock (wanted - count))

/-
  Ask for characters, again and again. The answer is the
  text, or what was there of it before bytes that are no
  text. Nobody looks at it before the second request.
-/
def readFrom
    (delivered : Nat) :
    (fuel : Nat) → Inflow →
      List Char × Option Utf8.DecodeError
  | 0, inflow => (inflow.text, none)
  | fuel + 1, inflow =>
      let wanted := delivered + requestSize
      match fill wanted (inflow.bytes.length + 2) inflow with
      | .error e =>
          if delivered < 2 * requestSize then ([], some e)
          else (inflow.text.take delivered, some e)
      | .ok next =>
          if next.ended then (next.text, none)
          else readFrom wanted fuel next

/- The text of bytes, as far as it can be read. -/
def read
    (bytes : List UInt8) :
    List Char × Option Utf8.DecodeError :=
  readFrom 0 (bytes.length + 2) { bytes }

end Inflow

end PocketDart
