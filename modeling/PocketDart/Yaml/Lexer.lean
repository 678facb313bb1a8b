import PocketDart.Text.Inflow
import PocketDart.Text.StandIn
import PocketDart.Yaml.Token

/-
  This file defines how a YAML document is cut into tokens.
  A scalar is known to be a key only when its colon comes,
  so the tokens that open a mapping are put in afterwards.
  The text may be the start of one whose rest cannot be read.
  A fault takes the place of the first token that cannot be
  told without it.

  Key definitions include:
    * `Yaml.Lexer`
    * `Yaml.Lexer.step`
    * `Yaml.Lexer.settledCount`
    * `Yaml.tokens`
-/

------------------------------------------------------------
-- State
------------------------------------------------------------

namespace PocketDart

namespace Yaml

/- A place where a key may have begun. -/
structure KeyStart where
  tokenCount : Nat
  required : Bool
  index : Nat
  line : Nat
  column : Nat

/-
  What is left of the text and where that is, the flow
  collections and blocks that are open, the places where a
  key may have begun, by depth of flow collections, and the
  tokens so far. A text that goes on is as it is up to a
  fault. Escapes can spell half of a surrogate pair, which
  has a character to stand for it.
-/
structure Lexer where
  rest : List Char
  standIn : Nat → Char
  index : Nat := 0
  line : Nat := 0
  column : Nat := 0
  flowLevel : Nat := 0
  indent : Int := -1
  outerIndents : List Int := []
  keyAllowed : Bool := true
  keyStarts : List (Nat × KeyStart) := []
  tokens : List Token := []
  ending : Option Fault := none
  ended : Bool := false

namespace Lexer

/-
  So many characters can be looked at from here. Nothing is
  missing after the end of a text.
-/
def demand (l : Lexer) (count : Nat) : Except Fault Unit :=
  match l.ending with
  | some fault =>
      if (l.rest.take count).length < count then .error fault
      else .ok ()
  | none => .ok ()

/-
  The fault of a text that ends too early, or goes on where
  it cannot be read.
-/
def endFault (l : Lexer) : Fault :=
  l.ending.getD .endOfText

/- Whether a flow collection is open. -/
def inFlow (l : Lexer) : Bool :=
  l.flowLevel > 0

/- Go on past one character. -/
def advance (l : Lexer) : Lexer :=
  match l.rest with
  | [] => l
  | c :: rest =>
      let endsLine :=
        isBreak c && !(c = '\r' && rest.head? = some '\n')
      if endsLine then
        { l with
          rest, index := l.index + 1
          line := l.line + 1, column := 0 }
      else
        { l with
          rest, index := l.index + 1
          column :=
            if c = '\ufeff' then l.column else l.column + 1 }

/- Go on past several characters. -/
def advanceBy : Nat → Lexer → Lexer
  | 0, l => l
  | n + 1, l => advanceBy n l.advance

/- Go on past the characters of a class at the start. -/
def skipWhile
    (p : Char → Bool)
    (l : Lexer) : Lexer :=
  l.advanceBy (l.rest.takeWhile p).length

/- Add a token. -/
def push
    (l : Lexer)
    (token : Token) : Lexer :=
  { l with tokens := l.tokens ++ [token] }

/- Put a token in before some that are there. -/
def insertAt
    (l : Lexer)
    (position : Nat)
    (token : Token) : Lexer :=
  { l with
    tokens := l.tokens.take position ++ [token] ++
      l.tokens.drop position }

------------------------------------------------------------
-- Keys
------------------------------------------------------------

/- The place where a key of this depth may have begun. -/
def keyStart? (l : Lexer) : Option KeyStart :=
  l.keyStarts.lookup l.flowLevel

/- Forget that place. -/
def forgetKey (l : Lexer) : Lexer :=
  { l with
    keyStarts :=
      l.keyStarts.filter fun entry =>
        entry.1 ≠ l.flowLevel }

/- Give up on a key, unless there has to be one. -/
def dropKey (l : Lexer) : Except Fault Lexer :=
  match l.keyStart? with
  | some start =>
      if start.required then .error .keyWithoutColon
      else .ok l.forgetKey
  | none => .ok l

/-
  A key ends on its line and is not too long. Where a block
  mapping goes on, there has to be a key.
-/
def dropStaleKeys (l : Lexer) : Except Fault Lexer :=
  let isStale (start : KeyStart) :=
    start.line ≠ l.line || l.index - start.index > 1024
  if l.keyStarts.any fun entry =>
      isStale entry.2 && entry.2.required then
    .error .keyWithoutColon
  else
    .ok { l with
      keyStarts :=
        l.keyStarts.filter fun entry => !isStale entry.2 }

/- A key may begin here. -/
def saveKey (l : Lexer) : Except Fault Lexer := do
  if l.keyAllowed then
    let required := !l.inFlow && l.indent == l.column
    let l ← l.dropKey
    let start : KeyStart :=
      ⟨l.tokens.length, required, l.index, l.line, l.column⟩
    return { l with
      keyStarts := (l.flowLevel, start) :: l.keyStarts }
  else return l

------------------------------------------------------------
-- Blocks
------------------------------------------------------------

/-
  Close blocks as long as they are indented further than a
  column; the blocks around them are given.
-/
def closeFrom
    (column : Int) : List Int → Lexer → Lexer
  | [], l => l
  | outer :: more, l =>
      if l.indent > column then
        closeFrom column more
          ({ l with
            indent := outer
            outerIndents := more }.push .blockEnd)
      else l

/- Close the blocks that are indented further. -/
def closeBlocks (l : Lexer) (column : Int) : Lexer :=
  if l.inFlow then l
  else closeFrom column l.outerIndents l

/- Open a block, if it is indented further. -/
def openBlock
    (l : Lexer)
    (column : Nat)
    (position : Nat)
    (token : Token) : Lexer :=
  if l.indent < column then
    { l with
      indent := column
      outerIndents := l.indent :: l.outerIndents }.insertAt
        position token
  else l

------------------------------------------------------------
-- Signs
------------------------------------------------------------

def takeSign
    (l : Lexer)
    (length : Nat)
    (token : Token)
    (keyAllowed : Bool) : Lexer :=
  { (l.advanceBy length).push token with keyAllowed }

/- The start or the end of a document. -/
def takeDocumentSign
    (l : Lexer)
    (token : Token) : Except Fault Lexer := do
  let l ← (l.closeBlocks (-1)).dropKey
  return l.takeSign 3 token false

/- An opening bracket. -/
def takeOpening
    (l : Lexer)
    (token : Token) : Except Fault Lexer := do
  let l ← l.saveKey
  return { l with flowLevel := l.flowLevel + 1 }.takeSign
    1 token true

/- A closing bracket. -/
def takeClosing
    (l : Lexer)
    (token : Token) : Except Fault Lexer := do
  if !l.inFlow then throw .unopenedBracket
  let l ← l.dropKey
  return { l with flowLevel := l.flowLevel - 1 }.takeSign
    1 token false

/- A comma between the items of a flow collection. -/
def takeFlowEntry (l : Lexer) : Except Fault Lexer := do
  return (← l.dropKey).takeSign 1 .flowEntry true

/- A dash before an item of a block sequence. -/
def takeBlockEntry (l : Lexer) : Except Fault Lexer := do
  if !l.inFlow && !l.keyAllowed then throw .entryNotAllowed
  let l :=
    if l.inFlow then l
    else
      l.openBlock l.column l.tokens.length .blockSequenceStart
  return (← l.dropKey).takeSign 1 .blockEntry true

/- A question mark before a key. -/
def takeKey (l : Lexer) : Except Fault Lexer := do
  if !l.inFlow && !l.keyAllowed then throw .keyNotAllowed
  let l :=
    if l.inFlow then l
    else
      l.openBlock l.column l.tokens.length .blockMappingStart
  return (← l.dropKey).takeSign 1 .key (!l.inFlow)

/- A colon before a value. -/
def takeValue (l : Lexer) : Except Fault Lexer := do
  match l.keyStart? with
  | some start =>
      let l := l.forgetKey.insertAt start.tokenCount .key
      let l :=
        if l.inFlow then l
        else
          l.openBlock start.column start.tokenCount
            .blockMappingStart
      return l.takeSign 1 .value false
  | none =>
      if !l.inFlow && !l.keyAllowed then
        throw .valueNotAllowed
      let l :=
        if l.inFlow then l
        else
          l.openBlock l.column l.tokens.length
            .blockMappingStart
      return (← l.dropKey).takeSign 1 .value (!l.inFlow)

------------------------------------------------------------
-- Line Folding
------------------------------------------------------------

/- Whether a line is the start or the end of a document. -/
def atDocumentSign (l : Lexer) : Except Fault Bool := do
  l.demand 3
  match l.rest with
  | '-' :: '-' :: '-' :: rest | '.' :: '.' :: '.' :: rest =>
      l.demand 4
      return endsWord rest
  | _ => return false

/-
  A line break as it counts in a scalar: only the separators
  of lines and paragraphs are kept as they are.
-/
def breakText (c : Char) : Char :=
  if c = '\u2028' || c = '\u2029' then c else '\n'

/-
  What a line break followed by others amounts to: alone it
  is a blank, before others it is nothing.
-/
def folded
    (first : Char)
    (others : List Char) : List Char :=
  if breakText first ≠ '\n' then breakText first :: others
  else if others.isEmpty then [' ']
  else others

/- Go on past a line break, which may be of two characters. -/
def takeBreak (l : Lexer) : Except Fault Lexer := do
  let length :=
    match l.rest with
    | '\r' :: '\n' :: _ => 2
    | _ => 1
  l.demand (length + 1)
  return l.advanceBy length

/-
  The line breaks after a first one, with blanks between, and
  whether a sign of a document ends them.
-/
def takeBreaks
    (isBlank : Char → Bool) :
    (fuel : Nat) → Lexer →
      Except Fault (List Char × Bool × Lexer)
  | 0, l => .ok ([], false, l)
  | fuel + 1, l => do
      if ← l.atDocumentSign then return ([], true, l)
      let l := l.skipWhile isBlank
      l.demand 1
      match l.rest with
      | c :: _ =>
          if isBreak c then
            let (more, atSign, l) ←
              takeBreaks isBlank fuel (← l.takeBreak)
            return (breakText c :: more, atSign, l)
          else return ([], false, l)
      | [] => return ([], false, l)

------------------------------------------------------------
-- Plain Scalars
------------------------------------------------------------

/- The characters of a plain scalar up to a blank. -/
def plainWord (inFlow : Bool) : List Char → List Char
  | [] => []
  | c :: rest =>
      let colonEnds :=
        c = ':' && (endsWord rest ||
          (inFlow && rest.head?.any isFlowSign))
      if isBreakOrBlank c || colonEnds ||
          (inFlow && (isFlowSign c || c = '?')) then []
      else c :: plainWord inFlow rest

/- A word of a plain scalar, and the place after it. -/
def takePlainWord
    (l : Lexer) : Except Fault (List Char × Lexer) := do
  let word := plainWord l.inFlow l.rest
  let next := l.advanceBy word.length
  next.demand (if next.rest.head? = some ':' then 2 else 1)
  return (word, next)

/-
  The blanks and breaks inside a plain scalar, as they count
  in it; none when the scalar ends here.
-/
def takePlainSpace
    (l : Lexer) : Except Fault (List Char × Lexer) := do
  let blanks := l.rest.takeWhile (· = ' ')
  let l := l.advanceBy blanks.length
  l.demand 1
  match l.rest with
  | c :: _ =>
      if isBreak c then
        let l := { ← l.takeBreak with keyAllowed := true }
        let (others, atSign, l) ←
          takeBreaks (· = ' ') (l.rest.length + 1) l
        return (if atSign then [] else folded c others, l)
      else return (blanks, l)
  | [] => return (blanks, l)

/- The words of a plain scalar from here on. -/
def takePlainWords :
    (fuel : Nat) → (space : List Char) → Lexer →
      Except Fault (List Char × Lexer)
  | 0, _, l => .ok ([], l)
  | fuel + 1, space, l =>
      if l.rest.head? = some '#' then .ok ([], l) else do
        let (word, next) ← l.takePlainWord
        if word.isEmpty then return ([], l)
        let (after, l) ←
          takePlainSpace { next with keyAllowed := false }
        if after.isEmpty ||
            (!l.inFlow && l.column < l.indent + 1) then
          return (space ++ word, l)
        let (more, l) ← takePlainWords fuel after l
        return (space ++ word ++ more, l)

/- A plain scalar. -/
def takePlain (l : Lexer) : Except Fault Lexer := do
  let l ← l.saveKey
  let l := { l with keyAllowed := false }
  let (text, l) ← takePlainWords (l.rest.length + 1) [] l
  return l.push (.scalar (String.ofList text) true)

------------------------------------------------------------
-- Quoted Scalars
------------------------------------------------------------

def escape? : Char → Option Char
  | '0' => some '\x00'
  | 'a' => some '\x07'
  | 'b' => some '\x08'
  | 't' => some '\t'
  | '\t' => some '\t'
  | 'n' => some '\n'
  | 'v' => some '\x0b'
  | 'f' => some '\x0c'
  | 'r' => some '\r'
  | 'e' => some '\x1b'
  | ' ' => some ' '
  | '"' => some '"'
  | '\\' => some '\\'
  | '/' => some '/'
  | 'N' => some '\x85'
  | '_' => some '\xa0'
  | 'L' => some '\u2028'
  | 'P' => some '\u2029'
  | _ => none

/- The number of digits of an escape by number. -/
def escapeLength? : Char → Option Nat
  | 'x' => some 2
  | 'u' => some 4
  | 'U' => some 8
  | _ => none

def ofHexadecimal
    (standIn : Nat → Char)
    (digits : List Char) : Except Fault Char :=
  match digits.mapM Text.hexValue? with
  | none => .error .badEscape
  | some values =>
      let code := Text.ofDigits 16 values
      if Text.isSurrogate code then .ok (standIn code)
      else if code < 0x110000 then .ok (Char.ofNat code)
      else .error (.scalar (.noCharacter code))

/- The blanks or breaks between the words of a scalar. -/
def takeQuotedSpace
    (l : Lexer) : Except Fault (List Char × Lexer) := do
  let isSpace (c : Char) := c = ' ' || c = '\t'
  let blanks := l.rest.takeWhile isSpace
  let l := l.advanceBy blanks.length
  match l.rest with
  | [] => throw l.endFault
  | c :: _ =>
      if isBreak c then
        let (others, atSign, l) ←
          takeBreaks isSpace (l.rest.length + 1)
            (← l.takeBreak)
        if atSign then throw .unclosedQuote
        return (folded c others, l)
      else return (blanks, l)

def takeQuoted
    (double : Bool) :
    (fuel : Nat) → Lexer → Except Fault (List Char × Lexer)
  | 0, l => .error l.endFault
  | fuel + 1, l =>
      match l.rest with
      | [] => .error l.endFault
      | '\'' :: '\'' :: _ =>
          if double then do
            let (more, l) ← takeQuoted double fuel l.advance
            return ('\'' :: more, l)
          else do
            let (more, l) ←
              takeQuoted double fuel (l.advanceBy 2)
            return ('\'' :: more, l)
      | '\\' :: c :: rest =>
          if !double then do
            let (more, l) ← takeQuoted double fuel l.advance
            return ('\\' :: more, l)
          else if isBreak c then do
            let (others, atSign, l) ←
              takeBreaks (fun c => c = ' ' || c = '\t')
                (rest.length + 1) (← l.advance.takeBreak)
            if atSign then throw .unclosedQuote
            let (more, l) ← takeQuoted double fuel l
            return (others ++ more, l)
          else
            match escape? c, escapeLength? c with
            | some escaped, _ => do
                let (more, l) ←
                  takeQuoted double fuel (l.advanceBy 2)
                return (escaped :: more, l)
            | none, some length => do
                let digits := rest.take length
                if digits.length < length &&
                    digits.all (Text.hexValue? · |>.isSome) then
                  throw l.endFault
                let escaped ← ofHexadecimal l.standIn digits
                let (more, l) ←
                  takeQuoted double fuel
                    (l.advanceBy (2 + length))
                return (escaped :: more, l)
            | none, none => .error .badEscape
      | c :: _ =>
          if (double && c = '"') || (!double && c = '\'') then do
            l.demand 2
            return ([], l.advance)
          else if isBreakOrBlank c then do
            let (space, l) ← l.takeQuotedSpace
            let (more, l) ← takeQuoted double fuel l
            return (space ++ more, l)
          else do
            let (more, l) ← takeQuoted double fuel l.advance
            return (c :: more, l)

def takeQuotedScalar
    (l : Lexer)
    (double : Bool) : Except Fault Lexer := do
  let l ← l.saveKey
  let l := { l with keyAllowed := false }
  let (text, l) ←
    takeQuoted double (l.rest.length + 1) l.advance
  return l.push (.scalar (String.ofList text) false)

------------------------------------------------------------
-- Steps
------------------------------------------------------------

/- Go on past blanks, comments and line breaks. -/
def skipSpace : (fuel : Nat) → Lexer → Lexer
  | 0, l => l
  | fuel + 1, l =>
      let l := l.skipWhile (· = ' ')
      let l :=
        if l.rest.head? = some '#' then
          l.skipWhile fun c => !isBreak c
        else l
      match l.rest with
      | c :: _ =>
          if isBreak c then
            let l := l.advance
            skipSpace fuel
              (if l.inFlow then l
                else { l with keyAllowed := true })
          else l
      | [] => l

/- The characters of the name of a node. -/
def isAnchorChar (c : Char) : Bool :=
  c.isAlphanum || c = '-' || c = '_'

/- A reference to another node: an asterisk and its name. -/
def takeAlias (l : Lexer) : Except Fault Lexer := do
  let l ← l.saveKey
  let l := { l with keyAllowed := false }.advance
  let name := l.rest.takeWhile isAnchorChar
  let l := l.advanceBy name.length
  l.demand 1
  let isEnd (c : Char) :=
    c ∈ ['?', ':', ',', ']', '\x7d', '%', '@', '\x60']
  if name.isEmpty ||
      !(endsWord l.rest || l.rest.head?.any isEnd) then
    throw .badAlias
  return l.push .alias

/- Take the token that starts here. -/
def takeToken
    (l : Lexer)
    (c : Char)
    (rest : List Char) : Except Fault Lexer := do
  if l.column == 0 && (c = '-' || c = '.') then
    if ← l.atDocumentSign then
      return ← l.takeDocumentSign
        (if c = '-' then .documentStart else .documentEnd)
  if c = '%' && l.column == 0 then throw .unsupported
  match c with
  | '[' => l.takeOpening .flowSequenceStart
  | '\x7b' => l.takeOpening .flowMappingStart
  | ']' => l.takeClosing .flowSequenceEnd
  | '\x7d' => l.takeClosing .flowMappingEnd
  | ',' => l.takeFlowEntry
  | '\'' => l.takeQuotedScalar false
  | '"' => l.takeQuotedScalar true
  | '*' => l.takeAlias
  | '&' | '!' => throw .unsupported
  | _ =>
      if c = '-' && endsWord rest then l.takeBlockEntry
      else if c = '?' && (l.inFlow || endsWord rest) then
        l.takeKey
      else if c = ':' && (l.inFlow || endsWord rest) then
        l.takeValue
      else if !(isBreakOrBlank c || isReservedStart c) ||
          (!endsWord rest &&
            (c = '-' ||
              (!l.inFlow && (c = '?' || c = ':')))) then
        l.takePlain
      else throw .badCharacter

/- Close everything at the end of the text. -/
def finish (l : Lexer) : Except Fault Lexer := do
  let l ← (l.closeBlocks (-1)).dropKey
  return { l with ended := true }

/-
  Take one more token, or end with the text. Where a text
  goes on, the character after a token is looked at as well.
-/
def step (l : Lexer) : Except Fault Lexer := do
  let l := skipSpace (l.rest.length + 1) l
  l.demand 1
  let l ← l.dropStaleKeys
  let l := l.closeBlocks l.column
  match l.rest with
  | [] => l.finish
  | c :: rest =>
      l.demand 2
      let next ← l.takeToken c rest
      next.demand 1
      return next

/-
  The number of tokens that nothing can be put in before: a
  key may still begin at any of the others.
-/
def settledCount (l : Lexer) : Nat :=
  l.keyStarts.foldl
    (fun count entry => min count entry.2.tokenCount)
    l.tokens.length

/- Tokens up to a fault in one that comes next. -/
def breakOff
    (l : Lexer)
    (settled : Nat)
    (fault : Fault) : List Token :=
  l.tokens.take settled ++ [.broken fault]

/-
  Take tokens up to the end of the text, or to a fault. So
  many tokens were settled before the last one was taken.
-/
def run (fuel settled : Nat) (l : Lexer) : List Token :=
  match fuel with
  | 0 => l.breakOff settled .unexpectedToken
  | fuel + 1 =>
      if l.ended then l.tokens
      else
        match l.dropStaleKeys with
        | .error fault => l.breakOff settled fault
        | .ok l =>
            match l.step with
            | .error fault => l.breakOff l.settledCount fault
            | .ok next => run fuel l.settledCount next

end Lexer

------------------------------------------------------------
-- Documents
------------------------------------------------------------

def readableTokens
    (standIn : Nat → Char)
    (cs : List Char)
    (ending : Option Fault) : List Token :=
  let l : Lexer := { rest := cs, standIn, ending }
  let l := if cs.head? = some '\ufeff' then l.advance else l
  l.run (cs.length + 2) 0

/-
  The tokens of a text that is whole, or goes on up to a
  fault. Whether its characters may stand there is seen when
  they are asked for; the first two requests come at once.
-/
def tokens
    (standIn : Nat → Char)
    (cs : List Char)
    (ending : Option Fault) : List Token :=
  match cs.findIdx? fun c => !isAllowed c with
  | none => readableTokens standIn cs ending
  | some index =>
      let requests := index / Inflow.requestSize
      if requests < 2 then [.broken .badCharacter]
      else
        readableTokens standIn
          (cs.take (requests * Inflow.requestSize))
          (some .badCharacter)

end Yaml

end PocketDart
