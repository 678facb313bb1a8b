/-
  This file defines which texts are Dart identifiers and
  what is wrong with one that is not.

  Key definitions include:
    * `Dart.reservedWords`
    * `Dart.hasIdentifierShape`
    * `Dart.NameProblem`
    * `Dart.nameProblem?`

  Key theorems include:
    * `Dart.nameProblem?_eq_none_iff`
-/

------------------------------------------------------------
-- Words with a Meaning
------------------------------------------------------------

namespace PocketDart

namespace Dart

/- Words that are never identifiers. -/
def reservedWords : List String :=
  ["assert", "break", "case", "catch", "class", "const",
   "continue", "default", "do", "else", "enum", "extends",
   "false", "final", "finally", "for", "Function", "if",
   "in", "is", "new", "null", "rethrow", "return", "super",
   "switch", "this", "throw", "true", "try", "var", "void",
   "while", "with"]

/- Members that every model class has already. -/
def modelMembers : List String :=
  ["fromModel", "toMap", "hashCode", "runtimeType",
   "toString", "noSuchMethod"]

/- Types that the body of a model class refers to. -/
def builtInTypes : List String :=
  ["String", "DateTime", "Map", "num", "bool", "dynamic",
   "Object"]

def enumMembers : List String :=
  ["values", "index", "hashCode", "runtimeType"]

------------------------------------------------------------
-- Shape
------------------------------------------------------------

/- A character that an identifier may begin with. -/
def isNameStart (c : Char) : Bool :=
  c.isAlpha || c = '_' || c = '$'

/- A character that an identifier may go on with. -/
def isNamePart (c : Char) : Bool :=
  isNameStart c || c.isDigit

/- Name parts up to the end or to one last line break. -/
def isNameBody : List Char → Bool
  | [] => true
  | ['\n'] => true
  | c :: rest => isNamePart c && isNameBody rest

def hasIdentifierShape (name : String) : Bool :=
  match name.toList with
  | [] => false
  | c :: rest => isNameStart c && isNameBody rest

------------------------------------------------------------
-- Problems
------------------------------------------------------------

/- What can be wrong with a name. -/
inductive NameProblem where
  | empty
  | reserved (name : String)
  | malformed (name : String)
  deriving DecidableEq, Repr

def NameProblem.message : NameProblem → String
  | .empty => "name is empty"
  | .reserved name =>
      "'" ++ name ++ "' is a Dart reserved word"
  | .malformed name =>
      "'" ++ name ++ "' is not a valid Dart identifier"

def nameProblem? (name : String) : Option NameProblem :=
  if name = "" then some .empty
  else if name ∈ reservedWords then some (.reserved name)
  else if hasIdentifierShape name then none
  else some (.malformed name)

/- A name that can be declared. -/
def isIdentifier (name : String) : Bool :=
  hasIdentifierShape name && name ∉ reservedWords

/- The names without a problem are the identifiers. -/
theorem nameProblem?_eq_none_iff (name : String) :
    nameProblem? name = none ↔ isIdentifier name = true := by
  unfold nameProblem? isIdentifier
  by_cases hEmpty : name = ""
  · subst hEmpty
    decide
  · by_cases hWord : name ∈ reservedWords
    · simp [hEmpty, hWord]
    · simp [hEmpty, hWord]

end Dart

end PocketDart
