import PocketDart.Proofs.Dart.Legal
import PocketDart.Proofs.Dart.Literal
import PocketDart.Proofs.Text.Tidy

/-
  This file proves what a reader of a source can rely on in
  the names and the literals that stand in it. A name that
  passes the check holds no punctuation, so that it ends
  where punctuation comes, and a literal ends with its quote.
  In both, line breaks do not follow blanks.

  Key definitions include:
    * `Dart.IsWord`

  Key theorems include:
    * `Dart.parts_of_nameProblem?`
    * `Dart.isWord_of_nameProblem?`
    * `Dart.IsWord.eq_of_append`
    * `Dart.literal_append_injective`
-/

------------------------------------------------------------
-- Words
------------------------------------------------------------

namespace PocketDart

namespace Dart

/- Name parts, with firm line breaks among them. -/
structure IsWord (name : String) : Prop where
  parts : ∀ c ∈ name.toList, isNamePart c ∨ c = '\n'
  steady : Text.Steady name.toList

theorem toNat_of_isNamePart
    {c : Char}
    (hPart : isNamePart c) :
    0x24 ≤ c.toNat ∧ c.toNat ≤ 0x7A := by
  have hAlpha : c.isAlpha = (c.isUpper || c.isLower) := rfl
  have hUpper : c.isUpper =
      decide (65 ≤ c.toNat ∧ c.toNat ≤ 90) := rfl
  have hLower : c.isLower =
      decide (97 ≤ c.toNat ∧ c.toNat ≤ 122) := by
    rw [Bool.decide_and]
    rfl
  have hDigit : c.isDigit =
      decide (48 ≤ c.toNat ∧ c.toNat ≤ 57) := by
    rw [Bool.decide_and]
    rfl
  simp only [isNamePart, isNameStart, hAlpha, hUpper,
    hLower, hDigit, Bool.or_eq_true,
    decide_eq_true_eq] at hPart
  rcases hPart with (((h | h) | rfl) | rfl) | h
  · omega
  · omega
  · decide
  · decide
  · omega

theorem isBlank_of_isNamePart
    {c : Char}
    (hPart : isNamePart c) :
    Text.isBlank c = false := by
  rcases toNat_of_isNamePart hPart with ⟨hFrom, hTo⟩
  have hApart : ∀ range ∈ Text.blankRanges,
      range.2 < 0x24 ∨ 0x7A < range.1 := by
    decide
  rw [Text.isBlank, List.any_eq_false]
  intro range hRange
  simp only [Bool.and_eq_true, decide_eq_true_eq, not_and]
  rcases hApart range hRange with hBefore | hAfter
  · omega
  · omega

theorem break_notMem_of_parts
    {cs : List Char}
    (hParts : ∀ c ∈ cs, isNamePart c) :
    '\n' ∉ cs :=
  fun hMem => absurd (hParts _ hMem) (by decide)

theorem isWord_of_parts
    {name : String}
    (hParts : ∀ c ∈ name.toList, isNamePart c) :
    IsWord name :=
  ⟨fun c hMem => Or.inl (hParts c hMem),
    Text.steady_of_notMem (break_notMem_of_parts hParts)⟩

theorem isWord_text
    {cs : List Char}
    (hParts : cs.all isNamePart = true) :
    IsWord (.ofList cs) := by
  apply isWord_of_parts
  rw [String.toList_ofList]
  exact List.all_eq_true.mp hParts

/-
  A name that passes the check consists of name parts, but
  for a line break that may come last.
-/
theorem parts_of_nameProblem?
    {name : String}
    (hChecked : nameProblem? name = none) :
    ∃ first init,
      (∀ c ∈ first :: init, isNamePart c) ∧
        (name.toList = first :: init ∨
          name.toList = first :: init ++ ['\n']) := by
  have hIdentifier :=
    (nameProblem?_eq_none_iff name).mp hChecked
  rw [isIdentifier, Bool.and_eq_true,
    hasIdentifierShape] at hIdentifier
  rcases hIdentifier with ⟨hShape, _⟩
  cases hName : name.toList with
  | nil =>
      rw [hName] at hShape
      cases hShape
  | cons first rest =>
      rw [hName] at hShape
      rcases Bool.and_eq_true_iff.mp hShape with
        ⟨hFirst, hBody⟩
      have hPart : isNamePart first := by
        simp [isNamePart, hFirst]
      rcases (isNameBody_iff rest).mp hBody with
        hParts | ⟨init, rfl, hInit⟩
      · exact ⟨first, rest,
          List.forall_mem_cons.mpr ⟨hPart, hParts⟩,
          Or.inl rfl⟩
      · exact ⟨first, init,
          List.forall_mem_cons.mpr ⟨hPart, hInit⟩,
          Or.inr rfl⟩

theorem isWord_of_nameProblem?
    {name : String}
    (hChecked : nameProblem? name = none) :
    IsWord name := by
  rcases parts_of_nameProblem? hChecked with
    ⟨first, init, hParts, hName | hName⟩
  · exact isWord_of_parts (by rwa [hName])
  · constructor
    · intro c hMem
      rw [hName, List.mem_append] at hMem
      exact hMem.imp (hParts c) List.mem_singleton.mp
    · rw [hName]
      apply (Text.steady_of_notMem
        (break_notMem_of_parts hParts)).append_break
      refine ⟨_, List.getLast?_eq_getLast_of_ne_nil
        (List.cons_ne_nil first init), ?_⟩
      exact isBlank_of_isNamePart
        (hParts _ (List.getLast_mem _))

namespace IsWord

theorem append
    {name ending : String}
    (hName : IsWord name)
    (hEnding : IsWord ending) :
    IsWord (name ++ ending) := by
  constructor
  · intro c hMem
    rw [String.toList_append, List.mem_append] at hMem
    rcases hMem with hMem | hMem
    · exact hName.parts c hMem
    · exact hEnding.parts c hMem
  · rw [String.toList_append]
    exact hName.steady.append hEnding.steady

theorem notMem
    {name : String}
    (hWord : IsWord name)
    {c : Char}
    (hPart : isNamePart c = false)
    (hBreak : c ≠ '\n') :
    c ∉ name.toList := by
  intro hMem
  rcases hWord.parts c hMem with hIs | hIs
  · rw [hPart] at hIs
    cases hIs
  · exact hBreak hIs

end IsWord

/-
  A text that begins with a word tells the word, when what
  follows the word begins with a character that is none of
  its parts.
-/
theorem IsWord.eq_of_append
    {name other : String}
    (hName : IsWord name)
    (hOther : IsWord other)
    {c : Char}
    {more after after' : List Char}
    (hMark : isNamePart c = false ∧ c ≠ '\n')
    (hEq :
      name.toList ++
          ((String.ofList (c :: more)).toList ++ after) =
        other.toList ++
          ((String.ofList (c :: more)).toList ++ after')) :
    name = other ∧ after = after' := by
  have hHead :
      (String.ofList (c :: more)).toList.head? = some c := by
    rw [String.toList_ofList]
    rfl
  rcases Text.eq_of_append_stop hHead
      (hName.notMem hMark.1 hMark.2)
      (hOther.notMem hMark.1 hMark.2) hEq with
    ⟨hSame, hAfter⟩
  exact ⟨String.ext hSame, hAfter⟩

------------------------------------------------------------
-- Literals
------------------------------------------------------------

/- Line breaks are written with a backslash. -/
theorem break_notMem_literal (s : String) :
    '\n' ∉ (literal s).toList := by
  rw [literal, String.toList_ofList, literalChars]
  intro hMem
  rw [List.mem_cons, List.mem_append] at hMem
  rcases hMem with hMem | hMem | hMem
  · cases hMem
  · exact (denotes_escaped s.toList).notMem_lineBreaks _
      hMem (by decide)
  · simp at hMem

/- A text that begins with a literal tells what it means. -/
theorem literal_append_injective
    {s t : String}
    {after after' : List Char}
    (hEq : (literal s).toList ++ after =
      (literal t).toList ++ after') :
    s = t ∧ after = after' := by
  simp only [literal, String.toList_ofList, literalChars,
    List.cons_append, List.append_assoc, List.cons.injEq,
    true_and, List.nil_append] at hEq
  have hRead := congrArg readBody? hEq
  rw [readBody?_literalBody, readBody?_literalBody] at hRead
  rcases Prod.mk.inj (Option.some.inj hRead) with
    ⟨hText, hAfter⟩
  exact ⟨String.ext hText, hAfter⟩

end Dart

end PocketDart
