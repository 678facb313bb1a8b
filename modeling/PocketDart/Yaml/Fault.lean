import PocketDart.Text.Digit
import PocketDart.Value.Moment

/-
  This file defines why a text is no YAML document, or why a
  document has no value.

  Key definitions include:
    * `Yaml.ScalarFault`
    * `Yaml.Fault`
-/

------------------------------------------------------------
-- Faults
------------------------------------------------------------

namespace PocketDart

namespace Yaml

/-
  Why a scalar cannot be used: the mark of its base is all
  there is of a number, it has too many digits, it should be
  that of a character and is too large, or there is no such
  moment.
-/
inductive ScalarFault where
  | noDigits (base : Nat)
  | tooLong (digits : Nat)
  | noCharacter (code : Nat)
  | moment (fault : MomentFault)
  deriving DecidableEq, Repr

/- Whether a number does not even fit a word of 32 bits. -/
def ScalarFault.isOverflow : ScalarFault → Bool
  | .noCharacter code => 0x80000000 ≤ code
  | _ => false

def ScalarFault.message : ScalarFault → String
  | .noDigits base =>
      "invalid literal for int() with base " ++
        toString base ++ ": ''"
  | .tooLong digits => Text.longNumberMessage digits
  | .noCharacter code =>
      if isOverflow (.noCharacter code) then
        "Python int too large to convert to C int"
      else "chr() arg not in range(0x110000)"
  | .moment fault => fault.message

/-
  Why a text is no document, or has no value. Its rest may be
  unreadable, and its nodes may be nested too deep, in the
  end as parts of a mapping or not.
-/
inductive Fault where
  | badCharacter
  | badEscape
  | unclosedQuote
  | keyWithoutColon
  | entryNotAllowed
  | keyNotAllowed
  | valueNotAllowed
  | unopenedBracket
  | badAlias
  | unknownAlias
  | unsupported
  | unexpectedToken
  | endOfText
  | unreadable
  | secondDocument
  | noMeaning (text : String)
  | notMergeable
  | collectionKey
  | tooDeep (inMapping : Bool)
  | scalar (fault : ScalarFault)
  deriving DecidableEq, Repr

/- A fault in words, without the place of it. -/
def Fault.message : Fault → String
  | .badCharacter =>
      "found character that cannot start any token"
  | .badEscape => "found unknown escape character"
  | .unclosedQuote => "found unexpected document separator"
  | .keyWithoutColon => "could not find expected ':'"
  | .entryNotAllowed =>
      "sequence entries are not allowed here"
  | .keyNotAllowed => "mapping keys are not allowed here"
  | .valueNotAllowed =>
      "mapping values are not allowed here"
  | .unopenedBracket => "found a bracket that is not open"
  | .badAlias =>
      "expected alphabetic or numeric character"
  | .unknownAlias => "found undefined alias"
  | .unsupported => "found a sign that is not supported"
  | .unexpectedToken => "found a token that is not expected"
  | .endOfText => "found unexpected end of stream"
  | .unreadable => "found bytes that are no text"
  | .secondDocument =>
      "expected a single document in the stream"
  | .noMeaning text =>
      "could not determine a constructor for " ++ text
  | .notMergeable =>
      "expected a mapping or list of mappings for merging"
  | .collectionKey => "found unhashable key"
  | .tooDeep false => "maximum recursion depth exceeded"
  | .tooDeep true =>
      "maximum recursion depth exceeded while calling a " ++
        "Python object"
  | .scalar fault => fault.message

end Yaml

end PocketDart
