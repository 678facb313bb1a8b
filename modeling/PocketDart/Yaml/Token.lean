import PocketDart.Yaml.Fault

/-
  This file defines the tokens of a YAML document: scalars,
  the signs between them, and the starts and ends of blocks
  that the indentation implies.

  Key definitions include:
    * `Yaml.Token`
-/

------------------------------------------------------------
-- Tokens
------------------------------------------------------------

namespace PocketDart

namespace Yaml

/- The tokens of a document. -/
inductive Token where
  | documentStart
  | documentEnd
  | blockSequenceStart
  | blockMappingStart
  | blockEnd
  | flowSequenceStart
  | flowSequenceEnd
  | flowMappingStart
  | flowMappingEnd
  | blockEntry
  | flowEntry
  | key
  | value
  /- A scalar; only a plain one can be other than a text. -/
  | scalar (text : String) (plain : Bool)
  /- A reference to another node. -/
  | alias
  /- The place where there are no more tokens for a fault. -/
  | broken (fault : Fault)
  deriving DecidableEq, Repr

------------------------------------------------------------
-- Characters
------------------------------------------------------------

/- The characters that end a line. -/
def isBreak (c : Char) : Bool :=
  c = '\n' || c = '\r' || c = '\x85' || c = '\u2028' ||
    c = '\u2029'

/- The characters that end a word. -/
def isBreakOrBlank (c : Char) : Bool :=
  isBreak c || c = ' ' || c = '\t'

/- Whether a word ends here, at the latest with the text. -/
def endsWord : List Char → Bool
  | [] => true
  | c :: _ => isBreakOrBlank c

/- The characters that may stand in a document. -/
def isAllowed (c : Char) : Bool :=
  c = '\t' || c = '\n' || c = '\r' || c = '\x85' ||
    (' ' ≤ c && c ≤ '~') ||
    ('\xa0' ≤ c && c ≤ '\ud7ff') ||
    ('\ue000' ≤ c && c ≤ '\ufffd') ||
    0x10000 ≤ c.toNat

/- The brackets and the comma of flow collections. -/
def isFlowSign (c : Char) : Bool :=
  c = ',' || c = '[' || c = ']' || c = '\x7b' || c = '\x7d'

/- The signs that no plain scalar starts with. -/
def isReservedStart (c : Char) : Bool :=
  c ∈ ['-', '?', ':', ',', '[', ']', '\x7b', '\x7d', '#',
    '&', '*', '!', '|', '>', '\'', '"', '%', '@', '\x60']

end Yaml

end PocketDart
