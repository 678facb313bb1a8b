import PocketDart.Text.Blank
import PocketDart.Text.Digit
import PocketDart.Value.Display

/-
  This file defines what goes wrong when a document value is
  used as what it is not, and the steps that can go wrong in
  this way.

  Key definitions include:
    * `Misuse`
    * `Misuse.message`
    * `Value.elements`
    * `Value.entries`
    * `Value.toNumber`
    * `Value.texts`
-/

------------------------------------------------------------
-- Misuses
------------------------------------------------------------

namespace PocketDart

/- What only values of some kinds can do. -/
inductive Ability where
  | get
  | lower
  | split
  | decode
  | startsWith
  deriving DecidableEq, Repr

/- The word that messages use for an ability. -/
def Ability.word : Ability → String
  | .get => "get"
  | .lower => "lower"
  | .split => "split"
  | .decode => "decode"
  | .startsWith => "startswith"

/- The ways to use a value as what it is not. -/
inductive Misuse where
  | lacks (kind : Value.Kind) (ability : Ability)
  | notSearchable (kind : Value.Kind)
  | notIterable (kind : Value.Kind)
  | notKey (kind : Value.Kind)
  | missingKey (key : String)
  | notPair (index : Nat)
  | pairLength (index length : Nat)
  | notText (index : Nat) (kind : Value.Kind)
  | notNumber (kind : Value.Kind)
  | malformedNumber (s : String)
  | longNumber (digits : Nat)
  | infiniteNumber
  | undefinedNumber
  | tooDeep
  | notPath (kind : Value.Kind)
  | notContent (kind : Value.Kind)
  | notMatchable (kind : Value.Kind)
  deriving DecidableEq, Repr

namespace Misuse

/- What a message shows of a text: no more than its start. -/
def excerpt (s : String) : String :=
  String.ofList (s.toList.take 200)

def message : Misuse → String
  | .lacks kind ability =>
      "'" ++ kind.word ++ "' object has no attribute '" ++
        ability.word ++ "'"
  | .notSearchable kind =>
      "argument of type '" ++ kind.word ++
        "' is not iterable"
  | .notIterable kind =>
      "'" ++ kind.word ++ "' object is not iterable"
  | .notKey kind =>
      "unhashable type: '" ++ kind.word ++ "'"
  | .missingKey key => Text.quoted key
  | .notPair index =>
      "cannot convert dictionary update sequence element #" ++
        toString index ++ " to a sequence"
  | .pairLength index length =>
      "dictionary update sequence element #" ++
        toString index ++ " has length " ++
        toString length ++ "; 2 is required"
  | .notText index kind =>
      "sequence item " ++ toString index ++
        ": expected str instance, " ++ kind.word ++ " found"
  | .notNumber kind =>
      "int() argument must be a string, a bytes-like " ++
        "object or a real number, not '" ++ kind.word ++ "'"
  | .malformedNumber s =>
      "invalid literal for int() with base 10: " ++
        excerpt (Text.quoted s)
  | .longNumber digits => Text.longNumberMessage digits
  | .infiniteNumber =>
      "cannot convert float infinity to integer"
  | .undefinedNumber => "cannot convert float NaN to integer"
  | .tooDeep => ShowFault.tooDeep.message
  | .notPath kind =>
      "expected str, bytes or os.PathLike object, not " ++
        kind.word
  | .notContent kind => "data must be str, not " ++ kind.word
  | .notMatchable kind =>
      "expected string or bytes-like object, got '" ++
        kind.word ++ "'"

/- The classes of misuse that callers tell apart. -/
inductive Class where
  | ability
  | key
  | kind
  | content
  | range
  | depth
  deriving DecidableEq, Repr

def toClass : Misuse → Class
  | .lacks _ _ => .ability
  | .missingKey _ => .key
  | .notSearchable _ | .notIterable _ | .notKey _ => .kind
  | .notPair _ | .notText _ _ | .notNumber _ => .kind
  | .notPath _ | .notContent _ | .notMatchable _ => .kind
  | .pairLength _ _ | .malformedNumber _ => .content
  | .longNumber _ | .undefinedNumber => .content
  | .infiniteNumber => .range
  | .tooDeep => .depth

def isHandled (misuse : Misuse) : Bool :=
  match misuse.toClass with
  | .ability | .key | .kind | .content => true
  | .range | .depth => false

end Misuse

------------------------------------------------------------
-- Parts of a Value
------------------------------------------------------------

namespace Value

/-
  What a value yields one after the other: the items of a
  list, the keys of an object, the characters of a text.
-/
def elements? : Value → Option (List Value)
  | .list items => some items
  | .object entries =>
      some (entries.map fun entry => .text entry.1)
  | .text s =>
      some (s.toList.map fun c => .text (String.singleton c))
  | _ => none

/- The elements of a value that has some. -/
def elements (value : Value) : Except Misuse (List Value) :=
  match value.elements? with
  | some items => .ok items
  | none => .error (.notIterable value.kind)

def entries : Value → Except Misuse Entries
  | .object entries => .ok entries
  | value => .error (.lacks value.kind .get)

def require
    (entries : Entries)
    (key : String) : Except Misuse Value :=
  match entries.lookup key with
  | some value => .ok value
  | none => .error (.missingKey key)

------------------------------------------------------------
-- Whole Numbers
------------------------------------------------------------

/-
  The digits of a written number, where single underscores
  may stand between digits.
-/
def readDigits : List Char → Option (List Nat)
  | [] => none
  | [c] => (Text.digitValue? c).map ([·])
  | c :: '_' :: rest => do
      let digit ← Text.digitValue? c
      return digit :: (← readDigits rest)
  | c :: rest => do
      let digit ← Text.digitValue? c
      return digit :: (← readDigits rest)

/- A text cut behind its sign, and whether that is minus. -/
def cutSign : List Char → Bool × List Char
  | '-' :: rest => (true, rest)
  | '+' :: rest => (false, rest)
  | cs => (false, cs)

/- A character between the sign and the end of a number. -/
def isNumeral (c : Char) : Bool :=
  c = '_' || (Text.digitValue? c).isSome

/-
  A written number with an optional sign, blanks around.
  That it is too long is noticed before what follows it.
-/
def readNumber (s : String) : Except Misuse Int :=
  let (negative, cs) :=
    cutSign <| Text.trimStartOf Text.isNumberBlank <|
      Text.trimEndOf Text.isNumberBlank s.toList
  match readDigits (cs.takeWhile isNumeral) with
  | none => .error (.malformedNumber s)
  | some digits =>
      if Text.maxDigits < digits.length then
        .error (.longNumber digits.length)
      else if cs.all isNumeral then
        let n : Int := Text.ofDigits 10 digits
        .ok (if negative then -n else n)
      else .error (.malformedNumber s)

/-
  The whole number that a value stands for. A float loses
  its fraction, and a text is read.
-/
def toNumber (value : Value) : Except Misuse Int :=
  match value with
  | .bool b => .ok (if b then 1 else 0)
  | .int n => .ok n
  | .float x =>
      match x.toInt? with
      | some n => .ok n
      | none =>
          .error <|
            if x = .undefined then .undefinedNumber
            else .infiniteNumber
  | .text s => readNumber s
  | _ => .error (.notNumber value.kind)

------------------------------------------------------------
-- Keys and Texts
------------------------------------------------------------

def asKey (value : Value) : Except Misuse Value :=
  if value.isKey then .ok value
  else .error (.notKey value.kind)

def asText
    (value : Value)
    (ability : Ability) : Except Misuse String :=
  match value with
  | .text s => .ok s
  | _ => .error (.lacks value.kind ability)

def asPath : Value → Except Misuse String
  | .text s => .ok s
  | value => .error (.notPath value.kind)

def asContent : Value → Except Misuse String
  | .text s => .ok s
  | value => .error (.notContent value.kind)

def asMatchable : Value → Except Misuse String
  | .text s => .ok s
  | value => .error (.notMatchable value.kind)

/- The texts of a list that holds nothing else. -/
def texts
    (values : List Value) : Except Misuse (List String) :=
  values.zipIdx.mapM fun (value, index) =>
    match value with
    | .text s => .ok s
    | _ => .error (.notText index value.kind)

end Value

end PocketDart
