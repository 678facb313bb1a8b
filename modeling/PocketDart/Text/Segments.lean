/-
  This file defines how a text is cut at a separator and
  put together again.

  Key definitions include:
    * `split`
    * `pieces`
    * `join`

  Key theorems include:
    * `split_of_notMem`
    * `join_pieces`
    * `notMem_of_mem_pieces`
-/

------------------------------------------------------------
-- Cutting at a Separator
------------------------------------------------------------

namespace PocketDart

namespace Text

/-
  The piece before the first separator, and the pieces
  between and after the separators. Empty pieces are kept.
-/
def split
    (sep : Char) :
    List Char → List Char × List (List Char)
  | [] => ([], [])
  | c :: rest =>
      let (first, more) := split sep rest
      if c = sep then ([], first :: more)
      else (c :: first, more)

/- All pieces in one list, which is never empty. -/
def pieces
    (sep : Char)
    (cs : List Char) : List (List Char) :=
  (split sep cs).1 :: (split sep cs).2

/- Put pieces together with a separator between them. -/
def join (sep : List Char) : List (List Char) → List Char
  | [] => []
  | [piece] => piece
  | piece :: more => piece ++ sep ++ join sep more

/- A text without the separator is one piece. -/
theorem split_of_notMem
    {sep : Char}
    {cs : List Char}
    (h : sep ∉ cs) :
    split sep cs = (cs, []) := by
  induction cs with
  | nil => rfl
  | cons c rest ih =>
      rw [List.mem_cons, not_or] at h
      simp [split, ih h.2, Ne.symm h.1]

/- Cutting and joining at one separator loses nothing. -/
theorem join_pieces
    (sep : Char)
    (cs : List Char) :
    join [sep] (pieces sep cs) = cs := by
  induction cs with
  | nil => rfl
  | cons c rest ih =>
      simp only [pieces, split] at ih ⊢
      by_cases h : c = sep
      · subst h
        simpa [join] using ih
      · cases hm : (split sep rest).2 with
        | nil =>
            rw [hm] at ih
            simp only [join] at ih
            simp [h, join, ih]
        | cons piece more =>
            rw [hm] at ih
            simp only [join] at ih
            simp [h, join]
            simpa using ih

/- No piece holds the separator. -/
theorem notMem_of_mem_pieces
    (sep : Char)
    (cs : List Char) :
    ∀ piece ∈ pieces sep cs, sep ∉ piece := by
  induction cs with
  | nil => simp [pieces, split]
  | cons c rest ih =>
      simp only [pieces, split] at ih ⊢
      by_cases h : c = sep
      · subst h
        simpa using ih
      · intro piece hPiece
        simp only [if_neg h] at hPiece
        rcases List.mem_cons.mp hPiece with rfl | hMore
        · have hFirst := ih _ List.mem_cons_self
          simp [hFirst, Ne.symm h]
        · exact ih _ (List.mem_cons_of_mem _ hMore)

end Text

end PocketDart
