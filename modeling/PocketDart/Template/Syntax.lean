import PocketDart.Template.Datum
import PocketDart.Text.Identifier
import PocketDart.Text.Utf8

/-
  This file defines templates and how they are read: text
  with places for values between double braces, where a
  value may go through filters.

  Key definitions include:
    * `Template.Term`
    * `Template.Node`
    * `Template.Part`
    * `Template.read`
-/

------------------------------------------------------------
-- Templates
------------------------------------------------------------

namespace PocketDart

namespace Template

/- What a name stands for in every template. -/
inductive Constant where
  | truth (holds : Bool)
  | nothing
  deriving DecidableEq, Repr

def Constant.value : Constant → Value
  | .truth holds => .bool holds
  | .nothing => .null

/- The constant with a name, which has two spellings. -/
def Constant.ofName? : String → Option Constant
  | "true" | "True" => some (.truth true)
  | "false" | "False" => some (.truth false)
  | "none" | "None" => some .nothing
  | _ => none

/- The values that a template refers to. -/
inductive Term where
  | constant (word : Constant)
  | variable (name : String)
  | attribute (term : Term) (key : String)
  | filtered (term : Term) (filter : String)
  /- A text if the condition is truthy, else nothing. -/
  | textIf (text : String) (condition : Term)
  deriving DecidableEq, Repr

/- The parts of a template. -/
inductive Node where
  | text (text : String)
  | output (term : Term)
  /- Parts that are there if the condition is truthy. -/
  | whenTrue (condition : Term) (body : List Node)
  /- Parts that are there once for every element. -/
  | each (item : String) (source : Term) (body : List Node)
  /- Parts that are there unless the element is the last. -/
  | unlessLast (body : List Node)

------------------------------------------------------------
-- Closing Braces
------------------------------------------------------------

/- A text cut at the first place where two braces close. -/
def cutClosing :
    List Char → Option (List Char × List Char)
  | '\x7d' :: '\x7d' :: rest => some ([], rest)
  | c :: rest =>
      (cutClosing rest).map fun (inside, after) =>
        (c :: inside, after)
  | [] => none

/- What follows the closing braces is shorter. -/
theorem length_of_cutClosing
    {cs inside after : List Char}
    (h : cutClosing cs = some (inside, after)) :
    after.length < cs.length := by
  induction cs using cutClosing.induct generalizing inside with
  | case1 rest =>
      simp only [cutClosing, Option.some.injEq,
        Prod.mk.injEq] at h
      rw [← h.2]
      simp only [List.length_cons]
      omega
  | case2 c rest hne ih =>
      rw [cutClosing.eq_2 _ _ hne] at h
      rcases Option.map_eq_some_iff.mp h with
        ⟨⟨i, a⟩, hCut, hEq⟩
      simp only [Prod.mk.injEq] at hEq
      have hLess := ih (hEq.2 ▸ hCut)
      simp only [List.length_cons]
      omega
  | case3 => simp [cutClosing] at h

------------------------------------------------------------
-- Places
------------------------------------------------------------

/- What the inside of the braces is made of. -/
inductive Token where
  | word (text : String)
  | mark (c : Char)
  deriving DecidableEq, Repr

/- The word read so far, in reverse, before further tokens. -/
def withWord
    (word : List Char)
    (tokens : List Token) : List Token :=
  if word.isEmpty then tokens
  else .word (String.ofList word.reverse) :: tokens

def tokensOf (word : List Char) : List Char → List Token
  | [] => withWord word []
  | c :: cs =>
      if Text.isIdentifierPart c then tokensOf (c :: word) cs
      else if Text.isBlank c then
        withWord word (tokensOf [] cs)
      else withWord word (.mark c :: tokensOf [] cs)

/- The inside of the braces, and whether they are closed. -/
structure Place where
  tokens : List Token
  closed : Bool

namespace Place

/- What comes next, in words. -/
def next (place : Place) : String :=
  match place.tokens with
  | .word text :: _ => text
  | .mark c :: _ => String.singleton c
  | [] => if place.closed then Flaw.closing else Flaw.ending

/- The flaw that something else should come next. -/
def lacks
    (place : Place)
    (wanted : String) : Flaw :=
  if place.tokens.isEmpty ∧ !place.closed then
    .unfinished wanted
  else .expected wanted place.next

end Place

/- The word that turns the truth of a value around. -/
def negation : String := "not"

def Term.ofName (name : String) : Term :=
  match Constant.ofName? name with
  | some word => .constant word
  | none => .variable name

/- A name, and what follows it. -/
def readName
    (place : Place) : Except Flaw (Term × List Token) :=
  match place.tokens with
  | [] =>
      .error <|
        if place.closed then .noExpression
        else .unexpected place.next
  | .word name :: rest =>
      if name = negation then
        .error (.unexpected { place with tokens := rest }.next)
      else .ok (.ofName name, rest)
  | .mark _ :: _ => .error (.unexpected place.next)

def readAttributes
    (term : Term) : List Token → Term × List Token
  | .mark '.' :: .word key :: rest =>
      readAttributes (.attribute term key) rest
  | tokens => (term, tokens)

/- The names of filters, up to the closing braces. -/
def readFilters
    (closed : Bool) : List Token → Except Flaw (List String)
  | .mark '|' :: .word name :: rest =>
      (readFilters closed rest).map (name :: ·)
  | .mark '|' :: rest =>
      .error (Place.lacks ⟨rest, closed⟩ "name")
  | tokens =>
      if tokens.isEmpty ∧ closed then .ok []
      else .error (Place.lacks ⟨tokens, closed⟩ Flaw.closing)

------------------------------------------------------------
-- Reading
------------------------------------------------------------

/- A part as it is written, where filters are names. -/
inductive Part where
  | text (text : String)
  | place (term : Term) (filters : List String)
  deriving DecidableEq, Repr

/- Read what is between the braces. -/
def readPlace (place : Place) : Except Flaw Part := do
  let (term, rest) ← readName place
  let (term, rest) := readAttributes term rest
  return .place term (← readFilters place.closed rest)

/- Text so far, in reverse, before further parts. -/
def withText
    (seen : List Char)
    (parts : List Part) : List Part :=
  if seen.isEmpty then parts
  else .text (String.ofList seen.reverse) :: parts

def readParts
    (seen : List Char)
    (cs : List Char) : Except Flaw (List Part) :=
  match cs with
  | '\x7b' :: '\x7b' :: rest =>
      match h : cutClosing rest with
      | some (inside, after) => do
          have := length_of_cutClosing h
          let part ← readPlace ⟨tokensOf [] inside, true⟩
          let parts ← readParts [] after
          return withText seen (part :: parts)
      | none => do
          let part ← readPlace ⟨tokensOf [] rest, false⟩
          return withText seen [part]
  | c :: rest => readParts (c :: seen) rest
  | [] => .ok (withText seen [])
  termination_by cs.length
  decreasing_by all_goals simp only [List.length_cons]; omega

def checkFilter
    (filters : Filters Thing Fault)
    (name : String) : Except Reason Unit :=
  match filters name with
  | some _ => .ok ()
  | none => .error (.unknownFilter name)

/-
  The node of a part. The filter that is applied last is
  looked up first.
-/
def Part.node
    (filters : Filters Thing Fault) :
    Part → Except Reason Node
  | .text s => .ok (.text s)
  | .place term names => do
      let _ ← names.reverse.mapM (checkFilter filters)
      return .output (names.foldl .filtered term)

/- Read a template. Flaws come before unknown filters. -/
def read
    (filters : Filters Thing Fault)
    (text : String) : Except Reason (List Node) := do
  let parts ←
    (readParts [] (Text.unifyBreaks text.toList)).mapError
      .malformed
  parts.mapM (Part.node filters)

end Template

end PocketDart
