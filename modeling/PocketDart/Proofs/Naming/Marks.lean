import PocketDart.Naming.Convention
import PocketDart.Proofs.Text.Letters

/-
  This file proves what tells names apart that are made in
  different ways. Names from raw names hold no underscore,
  type names do not start with a lower-case letter, and
  member names start with a capital only where the raw name
  starts with an underscore.

  Key theorems include:
    * `Naming.underscore_notMem_memberName`
    * `Naming.underscore_notMem_typeName`
    * `Naming.isLower_head?_typeName`
    * `Naming.isUpper_head?_memberName`
-/

------------------------------------------------------------
-- Underscores
------------------------------------------------------------

namespace PocketDart

namespace Naming

/- An underscore has no case. -/
theorem delimiter_isPlain :
    Text.isLetterLike delimiter = false := by
  decide

theorem delimiter_notMem_changed
    {first : Char}
    {changed rest : List Char}
    (hChanged : ∀ c ∈ changed,
      c = first ∨ Text.isLetterLike c)
    (hPiece : delimiter ∉ first :: rest) :
    delimiter ∉ changed ++ rest := by
  rw [List.mem_cons, not_or] at hPiece
  intro hMem
  rcases List.mem_append.mp hMem with hFirst | hRest
  · rcases hChanged _ hFirst with hSame | hLetter
    · exact hPiece.1 hSame
    · rw [delimiter_isPlain] at hLetter
      cases hLetter
  · exact hPiece.2 hRest

theorem delimiter_notMem_capitalize
    {piece : List Char}
    (hPiece : delimiter ∉ piece) :
    delimiter ∉ Text.capitalize piece := by
  cases piece with
  | nil => exact hPiece
  | cons first rest =>
      exact delimiter_notMem_changed
        (fun _ => Text.mem_upper) hPiece

/- Small letters bring no underscore into a piece. -/
theorem delimiter_notMem_uncapitalize
    {piece : List Char}
    (hPiece : delimiter ∉ piece) :
    delimiter ∉ Text.uncapitalize piece := by
  cases piece with
  | nil => exact hPiece
  | cons first rest =>
      exact delimiter_notMem_changed
        (fun _ => Text.mem_lower) hPiece

theorem delimiter_notMem_flatMap
    {pieces : List (List Char)}
    (hPieces : ∀ piece ∈ pieces, delimiter ∉ piece) :
    delimiter ∉ pieces.flatMap Text.capitalize := by
  intro hMem
  rcases List.mem_flatMap.mp hMem with ⟨piece, hPiece, hMem⟩
  exact delimiter_notMem_capitalize (hPieces piece hPiece)
    hMem

theorem underscore_notMem_memberName (raw : String) :
    delimiter ∉ (memberName raw).toList := by
  have hPieces :=
    Text.notMem_of_mem_pieces delimiter raw.toList
  rw [memberName, String.toList_ofList, memberChars,
    List.mem_append, not_or]
  exact ⟨delimiter_notMem_uncapitalize
      (hPieces _ List.mem_cons_self),
    delimiter_notMem_flatMap fun piece hPiece =>
      hPieces piece (List.mem_cons_of_mem _ hPiece)⟩

theorem underscore_notMem_typeName (raw : String) :
    delimiter ∉ (typeName raw).toList := by
  rw [typeName, String.toList_ofList, typeChars]
  split
  · decide
  · exact delimiter_notMem_flatMap
      (Text.notMem_of_mem_pieces delimiter raw.toList)

------------------------------------------------------------
-- First Letters
------------------------------------------------------------

theorem isLower_head?_flatMap
    {pieces : List (List Char)}
    {c : Char}
    (hHead : (pieces.flatMap Text.capitalize).head? =
      some c) :
    c.isLower = false := by
  induction pieces with
  | nil => cases hHead
  | cons piece more ih =>
      cases piece with
      | nil => exact ih hHead
      | cons first rest =>
          rcases List.exists_cons_of_ne_nil
              (Text.upper_ne_nil first) with
            ⟨d, ds, hUpper⟩
          have hEq : d = c := by
            simpa [Text.capitalize, hUpper] using hHead
          subst hEq
          have hMem : d ∈ Text.upper first := by
            simp [hUpper]
          exact Text.isLower_of_mem_upper hMem

/- A type name starts with no lower-case letter. -/
theorem isLower_head?_typeName
    {raw : String}
    {c : Char}
    (hHead : (typeName raw).toList.head? = some c) :
    c.isLower = false := by
  rw [typeName, String.toList_ofList, typeChars] at hHead
  split at hHead
  · have hFirst : 'D' = c := Option.some.inj hHead
    subst hFirst
    decide
  · exact isLower_head?_flatMap hHead

theorem exists_first_of_head?_memberName
    {raw : String}
    {c : Char}
    (hMark : raw.toList.head? ≠ some delimiter)
    (hHead : (memberName raw).toList.head? = some c) :
    ∃ first rest,
      raw.toList = first :: rest ∧ c ∈ Text.lower first := by
  rw [memberName, String.toList_ofList, memberChars] at hHead
  cases hRaw : raw.toList with
  | nil =>
      rw [hRaw] at hHead
      cases hHead
  | cons first rest =>
      rw [hRaw] at hMark hHead
      have hFirst : first ≠ delimiter := by simpa using hMark
      rcases List.exists_cons_of_ne_nil
          (Text.lower_ne_nil first) with
        ⟨d, ds, hLower⟩
      have hEq : d = c := by
        simpa [Text.split, hFirst, Text.uncapitalize,
          hLower] using hHead
      exact ⟨first, rest, rfl, by simp [hLower, hEq]⟩

theorem isUpper_head?_memberName
    {raw : String}
    {c : Char}
    (hMark : raw.toList.head? ≠ some delimiter)
    (hHead : (memberName raw).toList.head? = some c) :
    c.isUpper = false := by
  rcases exists_first_of_head?_memberName hMark hHead with
    ⟨first, rest, _, hMem⟩
  exact Text.isUpper_of_mem_lower hMem

end Naming

end PocketDart
