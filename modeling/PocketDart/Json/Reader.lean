import PocketDart.Machine
import PocketDart.Text.Encoding
import PocketDart.Value.Basic

/-
  This file defines the reader of JSON documents. It reads
  integers apart from floats, keeps the order of keys, and
  says what was expected where a text goes wrong. Integers
  that are too long and values that are nested too deep for
  the machine are not read. Infinite numbers and what is no
  number have words of their own.

  Key definitions include:
    * `Json.Expectation`
    * `Json.SyntaxError`
    * `Json.Excess`
    * `Json.ReadError`
    * `Json.read`
-/

------------------------------------------------------------
-- Errors
------------------------------------------------------------

namespace PocketDart

namespace Json

/- What a faulty document lacks or holds in excess. -/
inductive Expectation where
  | value
  | key
  | colon
  | comma
  | endOfText
  | closingQuote
  | noControl
  | knownEscape
  | codeUnit
  | noByteOrderMark
  deriving DecidableEq, Repr

/- The first half of the message of an expectation. -/
def Expectation.text : Expectation → String
  | .value => "Expecting value"
  | .key =>
      "Expecting property name enclosed in double quotes"
  | .colon => "Expecting ':' delimiter"
  | .comma => "Expecting ',' delimiter"
  | .endOfText => "Extra data"
  | .closingQuote => "Unterminated string starting at"
  | .noControl => "Invalid control character at"
  | .knownEscape => "Invalid \\escape"
  | .codeUnit => "Invalid \\uXXXX escape"
  | .noByteOrderMark =>
      "Unexpected UTF-8 BOM (decode using utf-8-sig)"

/- What values are nested in. -/
inductive Nest where
  | list
  | object
  deriving DecidableEq, Repr

def Nest.word : Nest → String
  | .list => "array"
  | .object => "object"

def Nest.depthMessage (nest : Nest) : String :=
  "maximum recursion depth exceeded while decoding a JSON " ++
    nest.word ++ " from a unicode string"

/- What a document can have too much of. -/
inductive Excess where
  | digits (count : Nat)
  | depth (nest : Nest)
  deriving DecidableEq, Repr

/- An excess in words. -/
def Excess.message : Excess → String
  | .digits count => Text.longNumberMessage count
  | .depth nest => nest.depthMessage

/-
  Why there is no value: something else was expected at a
  place, counted in characters from zero, or there is too
  much of something.
-/
inductive Fault where
  | unmet (expected : Expectation) (offset : Nat)
  | beyond (excess : Excess)
  deriving DecidableEq, Repr

/- A place with its line and column, counted from one. -/
structure SyntaxError where
  expected : Expectation
  line : Nat
  column : Nat
  offset : Nat
  deriving DecidableEq, Repr

/- Count the lines up to a place. -/
def SyntaxError.locate
    (expected : Expectation)
    (offset : Nat)
    (cs : List Char) : SyntaxError :=
  let before := cs.take offset
  let lastLine := before.reverse.takeWhile (· ≠ '\n')
  { expected, offset
    line := before.count '\n' + 1
    column := lastLine.length + 1 }

def SyntaxError.message (e : SyntaxError) : String :=
  e.expected.text ++ ": line " ++ toString e.line ++
    " column " ++ toString e.column ++
    " (char " ++ toString e.offset ++ ")"

/- Why a text is not read as a document. -/
inductive ReadError where
  | malformed (error : SyntaxError)
  | beyond (excess : Excess)
  deriving DecidableEq, Repr

def ReadError.ofFault
    (cs : List Char) : Fault → ReadError
  | .unmet expected offset =>
      .malformed (.locate expected offset cs)
  | .beyond excess => .beyond excess

/- An error in words. -/
def ReadError.message : ReadError → String
  | .malformed error => error.message
  | .beyond excess => excess.message

------------------------------------------------------------
-- Places in a Text
------------------------------------------------------------

/- What is left of a text, and how much came before. -/
structure Cursor where
  offset : Nat
  rest : List Char

/- The white space of the format. -/
def isSpace (c : Char) : Bool :=
  c = ' ' || c = '\t' || c = '\n' || c = '\r'

namespace Cursor

/- Go on past some characters. -/
def advance
    (cursor : Cursor)
    (count : Nat) : Cursor :=
  ⟨cursor.offset + count, cursor.rest.drop count⟩

/- Go on past white space. -/
def skipSpace (cursor : Cursor) : Cursor :=
  cursor.advance (cursor.rest.takeWhile isSpace).length

/- A fault at this place. -/
def fail
    {α : Type}
    (cursor : Cursor)
    (expected : Expectation) : Except Fault α :=
  .error (.unmet expected cursor.offset)

end Cursor

------------------------------------------------------------
-- Strings
------------------------------------------------------------

/- The code unit that four hexadecimal digits spell. -/
def codeUnit? (digits : List Char) : Option Nat :=
  (digits.mapM Text.hexValue?).map (Text.ofDigits 16)

def ofCodeUnit
    (standIn : Nat → Char)
    (unit : Nat) : Char :=
  if Text.isSurrogate unit then standIn unit
  else Char.ofNat unit

def simpleEscape? : Char → Option Char
  | '"' => some '"'
  | '\\' => some '\\'
  | '/' => some '/'
  | 'b' => some '\x08'
  | 'f' => some '\x0c'
  | 'n' => some '\n'
  | 'r' => some '\r'
  | 't' => some '\t'
  | _ => none

/-
  The code unit of the escape that follows a high one, if
  there is an escape with at least one character after it.
-/
def lowUnit?
    (high : Nat) :
    List Char → Option (Option Nat)
  | '\\' :: 'u' :: a :: b :: c :: d :: _ :: _ =>
      if Encoding.isHigh high then
        some (codeUnit? [a, b, c, d])
      else none
  | _ => none

/-
  Read the rest of a string whose opening quote stands at
  `opened`. What was read so far is kept in reverse. So many
  characters are passed over first, since they were read
  together with the ones before them.
-/
def readString
    (standIn : Nat → Char)
    (opened offset : Nat)
    (seen : List Char) :
    Nat → List Char → Except Fault (String × Cursor)
  | passed + 1, _ :: rest =>
      readString standIn opened offset seen passed rest
  | 0, '"' :: rest =>
      .ok (String.ofList seen.reverse, ⟨offset + 1, rest⟩)
  | 0, '\\' :: 'u' :: a :: b :: c :: d :: next :: rest =>
      match codeUnit? [a, b, c, d] with
      | none => .error (.unmet .codeUnit (offset + 1))
      | some unit =>
          match lowUnit? unit (next :: rest) with
          | some none =>
              .error (.unmet .codeUnit (offset + 7))
          | some (some low) =>
              if Encoding.isLow low then
                readString standIn opened (offset + 12)
                  (Encoding.ofHalves unit low :: seen)
                  6 (next :: rest)
              else
                readString standIn opened (offset + 6)
                  (ofCodeUnit standIn unit :: seen)
                  0 (next :: rest)
          | none =>
              readString standIn opened (offset + 6)
                (ofCodeUnit standIn unit :: seen)
                0 (next :: rest)
  | 0, '\\' :: 'u' :: _ =>
      .error (.unmet .codeUnit (offset + 1))
  | 0, '\\' :: c :: rest =>
      match simpleEscape? c with
      | some escaped =>
          readString standIn opened (offset + 2)
            (escaped :: seen) 0 rest
      | none => .error (.unmet .knownEscape offset)
  | 0, ['\\'] => .error (.unmet .closingQuote opened)
  | 0, c :: rest =>
      if c.toNat ≤ 0x1F then
        .error (.unmet .noControl offset)
      else
        readString standIn opened (offset + 1) (c :: seen)
          0 rest
  | _, [] => .error (.unmet .closingQuote opened)

------------------------------------------------------------
-- Numbers
------------------------------------------------------------

/- Decimal digits of ASCII at the start of a text. -/
def leadingDigits (cs : List Char) : List Char :=
  cs.takeWhile Char.isDigit

/- The number that digits of ASCII spell. -/
def digitsToNat (digits : List Char) : Nat :=
  Text.ofDigits 10
    (digits.map fun c => c.toNat - '0'.toNat)

/-
  The digits before the point: a zero alone, or digits that
  do not begin with zero.
-/
def wholePart (cs : List Char) : List Char :=
  match cs with
  | '0' :: _ => ['0']
  | _ => leadingDigits cs

/- The digits after a point that at least one follows. -/
def fractionPart (cs : List Char) : List Char :=
  match cs with
  | '.' :: rest => leadingDigits rest
  | _ => []

/-
  An exponent: how many characters it takes, and its value.
  A letter that no digit follows is no exponent.
-/
def exponentPart (cs : List Char) : Option (Nat × Int) :=
  let digits (signLength : Nat) (rest : List Char) :=
    match leadingDigits rest with
    | [] => none
    | ds => some (1 + signLength + ds.length, digitsToNat ds)
  match cs with
  | 'e' :: '-' :: rest | 'E' :: '-' :: rest =>
      (digits 1 rest).map fun (n, e) => (n, -(e : Int))
  | 'e' :: '+' :: rest | 'E' :: '+' :: rest =>
      (digits 1 rest).map fun (n, e) => (n, (e : Int))
  | 'e' :: rest | 'E' :: rest =>
      (digits 0 rest).map fun (n, e) => (n, (e : Int))
  | _ => none

/-
  Read a number. A point or an exponent makes it a float.
-/
def readNumber
    (cursor : Cursor) :
    Except Fault (Value × Cursor) :=
  let negative := cursor.rest.head? = some '-'
  let start := if negative then cursor.advance 1 else cursor
  match wholePart start.rest with
  | [] => cursor.fail .value
  | whole =>
      let afterWhole := start.advance whole.length
      let fraction := fractionPart afterWhole.rest
      let afterFraction :=
        if fraction.isEmpty then afterWhole
        else afterWhole.advance (fraction.length + 1)
      match exponentPart afterFraction.rest with
      | some (length, exponent) =>
          let digits := digitsToNat (whole ++ fraction)
          let power := exponent - fraction.length
          .ok (.float (.ofDecimal negative digits power),
            afterFraction.advance length)
      | none =>
          if !fraction.isEmpty then
            let digits := digitsToNat (whole ++ fraction)
            .ok (.float (.ofDecimal negative digits
              (-fraction.length)), afterFraction)
          else if Text.maxDigits < whole.length then
            .error (.beyond (.digits whole.length))
          else
            let n : Int := digitsToNat whole
            .ok (.int (if negative then -n else n), afterWhole)

------------------------------------------------------------
-- Documents
------------------------------------------------------------

def words : List (String × Value) :=
  [("null", .null), ("true", .bool true),
   ("false", .bool false), ("NaN", .float .undefined),
   ("Infinity", .float (.infinite false)),
   ("-Infinity", .float (.infinite true))]

/- The value of a word at the start, and its length. -/
def word? (cs : List Char) : Option (Value × Nat) :=
  (words.find? fun entry =>
    entry.1.toList.isPrefixOf cs).map fun entry =>
      (entry.2, entry.1.length)

mutual

/-
  Read a value that starts here, with so many levels inside.
  Every step takes a character at least, so fuel of twice
  the length of the text is never used up.
-/
def readValue
    (standIn : Nat → Char)
    (fuel levels : Nat)
    (cursor : Cursor) :
    Except Fault (Value × Cursor) :=
  match fuel with
  | 0 => cursor.fail .value
  | fuel + 1 =>
      match cursor.rest with
      | '"' :: rest => do
          let (s, after) ←
            readString standIn cursor.offset
              (cursor.offset + 1) [] 0 rest
          return (.text s, after)
      | '\x7b' :: _ =>
          let inside := (cursor.advance 1).skipSpace
          match levels, inside.rest with
          | 0, _ => .error (.beyond (.depth .object))
          | _, '\x7d' :: _ =>
              return (.object [], inside.advance 1)
          | levels + 1, _ =>
              readMembers standIn fuel levels [] inside
      | '[' :: _ =>
          let inside := (cursor.advance 1).skipSpace
          match levels, inside.rest with
          | 0, _ => .error (.beyond (.depth .list))
          | _, ']' :: _ =>
              return (.list [], inside.advance 1)
          | levels + 1, _ =>
              readItems standIn fuel levels [] inside
      | cs =>
          match word? cs with
          | some (value, length) =>
              return (value, cursor.advance length)
          | none => readNumber cursor

/- Read the members of an object, from a key on. -/
def readMembers
    (standIn : Nat → Char)
    (fuel levels : Nat)
    (entries : Entries)
    (cursor : Cursor) :
    Except Fault (Value × Cursor) :=
  match fuel with
  | 0 => cursor.fail .value
  | fuel + 1 =>
      match cursor.rest with
      | '"' :: rest => do
          let (key, after) ←
            readString standIn cursor.offset
              (cursor.offset + 1) [] 0 rest
          let colon := after.skipSpace
          match colon.rest with
          | ':' :: _ => do
              let (value, after) ←
                readValue standIn fuel levels
                  (colon.advance 1).skipSpace
              let entries := Entries.insert key value entries
              let next := after.skipSpace
              match next.rest with
              | '\x7d' :: _ =>
                  return (.object entries, next.advance 1)
              | ',' :: _ =>
                  readMembers standIn fuel levels entries
                    (next.advance 1).skipSpace
              | _ => next.fail .comma
          | _ => colon.fail .colon
      | _ => cursor.fail .key

def readItems
    (standIn : Nat → Char)
    (fuel levels : Nat)
    (items : List Value)
    (cursor : Cursor) :
    Except Fault (Value × Cursor) :=
  match fuel with
  | 0 => cursor.fail .value
  | fuel + 1 => do
      let (item, after) ← readValue standIn fuel levels cursor
      let next := after.skipSpace
      match next.rest with
      | ']' :: _ =>
          return (.list (item :: items).reverse,
            next.advance 1)
      | ',' :: _ =>
          readItems standIn fuel levels (item :: items)
            (next.advance 1).skipSpace
      | _ => next.fail .comma

end

def readDocument
    (machine : Machine)
    (cs : List Char) : Except Fault Value := do
  if cs.head? = some '\ufeff' then
    throw (.unmet .noByteOrderMark 0)
  let start := Cursor.skipSpace ⟨0, cs⟩
  let (value, after) ←
    readValue machine.standIn (2 * cs.length + 2)
      machine.documentLevels start
  let last := after.skipSpace
  if last.rest.isEmpty then return value
  else last.fail .endOfText

/- Read a document, or say where it goes wrong. -/
def read
    (machine : Machine)
    (s : String) : Except ReadError Value :=
  (readDocument machine s.toList).mapError
    (.ofFault s.toList)

end Json

end PocketDart
