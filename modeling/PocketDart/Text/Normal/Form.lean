import PocketDart.Text.Normal.Composed
import PocketDart.Text.Normal.Mark
import PocketDart.Text.Segments

/-
  This file defines the compatible form of a name: characters
  that stand for others are replaced, letters and marks are
  taken apart, marks are put in order, and what can be
  composed is composed. Names with one form are one name.

  Key definitions include:
    * `takeApart`
    * `orderMarks`
    * `compose`
    * `compatibleForm`
-/

------------------------------------------------------------
-- Tables
------------------------------------------------------------

namespace PocketDart

namespace Text

/- The code points of rows with what they stand for. -/
def spelled
    (parts : List Char → List (List Char))
    (rows : List SpellingRow) : List (Nat × List Char) :=
  rows.flatMap fun row =>
    (parts row.spellings.toList).mapIdx fun index part =>
      (row.first + index, part)

/- The characters that stand for others one by one. -/
def spellings : List (Nat × List Char) :=
  spelled (pieces ' ') spellingRows ++
    spelled (·.map fun c => [c]) letterRows

def compositions : List (Nat × List Char) :=
  spelled (pieces ' ') composedRows

/- What a character stands for. -/
def spell (c : Char) : List Char :=
  match letterRuns.findSome? (·.image? c.toNat) with
  | some code => [Char.ofNat code]
  | none => (spellings.lookup c.toNat).getD [c]

------------------------------------------------------------
-- Syllables
------------------------------------------------------------

/-
  Syllables of Hangul are numbered by their leading letter,
  their vowel, and their trailing letter if they have one.
-/
def leadingBase : Nat := 0x1100

/- The code point before the first vowel. -/
def vowelBase : Nat := 0x1161

/- The code point before the first trailing letter. -/
def trailingBase : Nat := 0x11A7

/- The first syllable. -/
def syllableBase : Nat := 0xAC00

/- The number of leading letters. -/
def leadingCount : Nat := 19

/- The number of vowels. -/
def vowelCount : Nat := 21

/- The number of trailing letters, with none as one. -/
def trailingCount : Nat := 28

/- The letters of a syllable. -/
def letters? (c : Char) : Option (List Char) :=
  let count := leadingCount * vowelCount * trailingCount
  if syllableBase ≤ c.toNat ∧
      c.toNat < syllableBase + count then
    let index := c.toNat - syllableBase
    let trailing := index % trailingCount
    let vowel := index / trailingCount % vowelCount
    let leading := index / trailingCount / vowelCount
    some <|
      [Char.ofNat (leadingBase + leading),
        Char.ofNat (vowelBase + vowel)] ++
      if trailing = 0 then []
      else [Char.ofNat (trailingBase + trailing)]
  else none

/- The number of a code point after a base, if below. -/
def numberAfter?
    (base count : Nat)
    (c : Char) : Option Nat :=
  if base ≤ c.toNat ∧ c.toNat < base + count then
    some (c.toNat - base)
  else none

/- The syllable of two letters, or of one and a letter. -/
def syllable? (first second : Char) : Option Char :=
  let ofLetters? := do
    let leading ← numberAfter? leadingBase leadingCount first
    let vowel ← numberAfter? vowelBase vowelCount second
    return Char.ofNat (syllableBase +
      (leading * vowelCount + vowel) * trailingCount)
  let ofSyllable? := do
    let index ←
      numberAfter? syllableBase
        (leadingCount * vowelCount * trailingCount) first
    let trailing ←
      numberAfter? trailingBase trailingCount second
    if index % trailingCount = 0 ∧ trailing ≠ 0 then
      some (Char.ofNat (first.toNat + trailing))
    else none
  ofLetters?.or ofSyllable?

------------------------------------------------------------
-- Taking Apart
------------------------------------------------------------

/- A character takes no more than three steps to compose. -/
def maxSteps : Nat := 3

def partsOf : (steps : Nat) → Char → List Char
  | 0, c => [c]
  | steps + 1, c =>
      match compositions.lookup c.toNat with
      | some (base :: marks) => partsOf steps base ++ marks
      | _ => [c]

/- What a character stands for, taken apart. -/
def takeApart (c : Char) : List Char :=
  (spell c).flatMap fun c =>
    (letters? c).getD (partsOf maxSteps c)

------------------------------------------------------------
-- Order of Marks
------------------------------------------------------------

/- Put a character in front, but after marks before it. -/
def placeMark (c : Char) : List Char → List Char
  | [] => [c]
  | d :: rest =>
      if markClass d ≠ 0 ∧ markClass d < markClass c then
        d :: placeMark c rest
      else c :: d :: rest

/- Put marks in the order of their classes. -/
def orderMarks (cs : List Char) : List Char :=
  cs.foldr placeMark []

------------------------------------------------------------
-- Composition
------------------------------------------------------------

def composite? (first second : Char) : Option Char :=
  match syllable? first second with
  | some c => some c
  | none =>
      (compositions.find? fun entry =>
        entry.2 == [first, second]).map fun entry =>
          Char.ofNat entry.1

/-
  Compose a character with what follows it. The marks in
  between, in reverse, are those that stay; a mark of the
  same class or a later one keeps others from the character.
-/
def composeFrom
    (base : Char)
    (between : List Char) : List Char → List Char
  | [] => base :: between.reverse
  | c :: rest =>
      let blocked :=
        match between with
        | [] => false
        | last :: _ => markClass c ≤ markClass last
      match blocked, composite? base c with
      | false, some composed =>
          composeFrom composed between rest
      | _, _ =>
          if markClass c = 0 then
            base :: between.reverse ++ composeFrom c [] rest
          else composeFrom base (c :: between) rest

def compose (cs : List Char) : List Char :=
  let marks := cs.takeWhile (markClass · ≠ 0)
  match cs.dropWhile (markClass · ≠ 0) with
  | [] => marks
  | base :: rest => marks ++ composeFrom base [] rest

/- The form that compatible names have in common. -/
def compatibleForm (s : String) : String :=
  if s.toList.all (·.toNat < 0x80) then s
  else
    String.ofList <| compose <| orderMarks <|
      s.toList.flatMap takeApart

end Text

end PocketDart
