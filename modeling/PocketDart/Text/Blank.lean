/-
  This file defines the blank characters, and what is left
  of a text when they are cut from its ends.

  Key definitions include:
    * `isBlank`
    * `isNumberBlank`
    * `trimStart`
    * `trimEnd`
    * `trim`

  Key theorems include:
    * `getLast?_trimEndOf`
-/

------------------------------------------------------------
-- Blank Characters
------------------------------------------------------------

namespace PocketDart

namespace Text

/-
  The blank characters as closed ranges of code points: the
  control characters that separate words, lines or records,
  the spaces of every width, and the line and paragraph
  separators.
-/
def blankRanges : List (Nat × Nat) :=
  [(0x09, 0x0D), (0x1C, 0x20), (0x85, 0x85), (0xA0, 0xA0),
   (0x1680, 0x1680), (0x2000, 0x200A), (0x2028, 0x2029),
   (0x202F, 0x202F), (0x205F, 0x205F), (0x3000, 0x3000)]

/- A character is blank when one of the ranges holds it. -/
def isBlank (c : Char) : Bool :=
  blankRanges.any fun range =>
    range.1 ≤ c.toNat && c.toNat ≤ range.2

------------------------------------------------------------
-- Trimming
------------------------------------------------------------

/- Cut leading characters of a class. -/
def trimStartOf
    (p : Char → Bool)
    (cs : List Char) : List Char :=
  cs.dropWhile p

/- Cut trailing characters of a class. -/
def trimEndOf
    (p : Char → Bool) : List Char → List Char
  | [] => []
  | c :: rest =>
      match trimEndOf p rest with
      | [] => if p c then [] else [c]
      | kept => c :: kept

/-
  The blanks that may stand around a written number: all but
  the four separators of information.
-/
def isNumberBlank (c : Char) : Bool :=
  isBlank c && !(0x1C ≤ c.toNat && c.toNat ≤ 0x1F)

/- Cut leading blanks. -/
def trimStart (cs : List Char) : List Char :=
  trimStartOf isBlank cs

/- Cut trailing blanks. -/
def trimEnd (cs : List Char) : List Char :=
  trimEndOf isBlank cs

/- Cut blanks from both ends. -/
def trim (cs : List Char) : List Char :=
  trimStart (trimEnd cs)

/-
  What trailing trimming leaves does not end in a character
  of the class.
-/
theorem getLast?_trimEndOf
    (p : Char → Bool)
    (cs : List Char) :
    ∀ c, (trimEndOf p cs).getLast? = some c →
      p c = false := by
  induction cs with
  | nil =>
      intro c h
      simp [trimEndOf] at h
  | cons d rest ih =>
      intro c h
      unfold trimEndOf at h
      split at h
      · by_cases hd : p d = true
        · simp [hd] at h
        · simp only [hd] at h
          simp at h
          subst h
          simpa using hd
      · rename_i kept hkept
        cases hk : trimEndOf p rest with
        | nil => exact absurd hk (by simpa using hkept)
        | cons e more =>
            rw [hk] at h
            apply ih
            rw [hk]
            simpa [List.getLast?_cons] using h

end Text

end PocketDart
