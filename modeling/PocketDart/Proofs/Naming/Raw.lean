import PocketDart.Proofs.Dart.Word
import PocketDart.Proofs.Naming.Ends

/-
  This file proves what a raw name can hold when the class
  that is named for it passes the check. Characters without
  letter case stay in a type name, so the raw name has none
  but name parts and at most one line break, which does not
  come first.

  Key definitions include:
    * `Text.IsCaseless`

  Key theorems include:
    * `Naming.mem_typeName_of_isCaseless`
    * `Naming.count_break_typeName`
    * `Naming.notMem_of_checked`
    * `Naming.steady_of_checked`
    * `Naming.ends_of_checked`
-/

------------------------------------------------------------
-- Caseless Characters
------------------------------------------------------------

namespace PocketDart

namespace Text

/- A character that is its own upper and lower case. -/
def IsCaseless (c : Char) : Prop :=
  upper c = [c] ∧ lower c = [c]

instance (c : Char) : Decidable (IsCaseless c) := by
  unfold IsCaseless
  infer_instance

theorem blankRanges_caseless :
    blankRanges.all fun range =>
      (List.range (range.2 + 1 - range.1)).all fun offset =>
        decide (IsCaseless
          (Char.ofNat (range.1 + offset))) := by
  decide +kernel

theorem isCaseless_of_isBlank
    {c : Char}
    (hBlank : isBlank c) :
    IsCaseless c := by
  rcases List.any_eq_true.mp hBlank with
    ⟨range, hRange, hIn⟩
  rw [Bool.and_eq_true, decide_eq_true_eq,
    decide_eq_true_eq] at hIn
  have hOffsets := List.all_eq_true.mp blankRanges_caseless
    range hRange
  have hMem : c.toNat - range.1 ∈
      List.range (range.2 + 1 - range.1) := by
    rw [List.mem_range]
    omega
  have hCaseless := of_decide_eq_true
    (List.all_eq_true.mp hOffsets _ hMem)
  rwa [Nat.add_sub_cancel' hIn.1,
    Char.ofNat_toNat] at hCaseless

theorem mem_capitalize_of_isCaseless
    {c : Char}
    (hCaseless : IsCaseless c)
    {piece : List Char}
    (hMem : c ∈ piece) :
    c ∈ capitalize piece := by
  cases piece with
  | nil => cases hMem
  | cons first rest =>
      rw [capitalize, List.mem_append]
      rcases List.mem_cons.mp hMem with rfl | hRest
      · left
        rw [hCaseless.1]
        exact List.mem_singleton_self c
      · exact Or.inr hRest

/- Capitals neither add nor remove line breaks. -/
theorem count_break_capitalize (piece : List Char) :
    (capitalize piece).count '\n' = piece.count '\n' := by
  cases piece with
  | nil => rfl
  | cons first rest =>
      rw [capitalize, List.count_append]
      by_cases hBreak : first = '\n'
      · subst hBreak
        rw [(upper_eq_self Naming.break_isPlain).1,
          ← List.count_append, List.singleton_append]
      · have hNone : '\n' ∉ upper first := by
          intro hMem
          rcases mem_upper hMem with hSame | hLetter
          · exact hBreak hSame.symm
          · rw [Naming.break_isPlain] at hLetter
            cases hLetter
        rw [List.count_eq_zero_of_not_mem hNone,
          List.count_cons_of_ne hBreak, Nat.zero_add]

end Text

------------------------------------------------------------
-- Type Names
------------------------------------------------------------

namespace Naming

theorem timeTypeNames_parts :
    timeTypeNames.all fun name =>
      name.toList.all Dart.isNamePart := by
  decide

/-
  What has no case stays in the type name, unless the raw
  name is one of those that are replaced.
-/
theorem mem_typeName_of_isCaseless
    {raw : String}
    {c : Char}
    (hCaseless : Text.IsCaseless c)
    (hMem : c ∈ raw.toList) :
    c ∈ (typeName raw).toList ∨ Dart.isNamePart c := by
  rw [typeName, String.toList_ofList, typeChars]
  split
  · next hTime =>
      right
      rcases List.any_eq_true.mp hTime with
        ⟨name, hName, hEq⟩
      have hParts := List.all_eq_true.mp
        timeTypeNames_parts name hName
      apply List.all_eq_true.mp hParts
      rw [← beq_iff_eq.mp hEq, Text.lowerAll,
        List.mem_flatMap]
      refine ⟨c, hMem, ?_⟩
      rw [hCaseless.2]
      exact List.mem_singleton_self c
  · by_cases hDelimiter : c = delimiter
    · subst hDelimiter
      exact Or.inr (by decide)
    · left
      have hKept : c ∈ (Text.pieces delimiter
          raw.toList).flatten := by
        rw [Text.flatten_pieces, List.mem_filter]
        simp [hMem, hDelimiter]
      rcases List.mem_flatten.mp hKept with
        ⟨piece, hPiece, hIn⟩
      exact List.mem_flatMap.mpr ⟨piece, hPiece,
        Text.mem_capitalize_of_isCaseless hCaseless hIn⟩

theorem count_break_typeName (raw : String) :
    (typeName raw).toList.count '\n' =
      raw.toList.count '\n' := by
  rw [typeName, String.toList_ofList, typeChars]
  split
  · next hTime =>
      rw [List.count_eq_zero_of_not_mem
        (break_notMem_of_spellsTimeType hTime)]
      decide
  · have hPieces : ∀ pieces : List (List Char),
        (pieces.flatMap Text.capitalize).count '\n' =
          pieces.flatten.count '\n' := by
      intro pieces
      simp only [List.count_flatMap, List.count_flatten,
        Function.comp_def, Text.count_break_capitalize]
    rw [hPieces, Text.flatten_pieces,
      List.count_filter (by decide)]

theorem head?_typeName_of_break
    {raw : String}
    (hHead : raw.toList.head? = some '\n') :
    (typeName raw).toList.head? = some '\n' := by
  cases hRaw : raw.toList with
  | nil =>
      rw [hRaw] at hHead
      cases hHead
  | cons first rest =>
      rw [hRaw] at hHead
      rcases Option.some.inj hHead with rfl
      have hTime : spellsTimeType raw.toList = false := by
        apply Bool.eq_false_iff.mpr
        intro hTime
        apply break_notMem_of_spellsTimeType hTime
        rw [hRaw]
        exact List.mem_cons_self
      have hApart : '\n' ≠ delimiter := by decide
      rw [typeName, String.toList_ofList, typeChars, hTime,
        hRaw]
      simp [Text.pieces, Text.split, hApart,
        Text.capitalize,
        (Text.upper_eq_self break_isPlain).1]

------------------------------------------------------------
-- Checked Classes
------------------------------------------------------------

section

variable {raw suffix : String}

theorem isNamePart_of_checked
    (hChecked :
      Dart.nameProblem? (typeName raw ++ suffix) = none)
    {c : Char}
    (hCaseless : Text.IsCaseless c)
    (hMem : c ∈ raw.toList) :
    Dart.isNamePart c ∨ c = '\n' := by
  rcases mem_typeName_of_isCaseless hCaseless hMem with
    hType | hPart
  · apply (Dart.isWord_of_nameProblem? hChecked).parts
    rw [String.toList_append]
    exact List.mem_append_left _ hType
  · exact Or.inl hPart

/-
  So a character that is neither, and has no case, is not in
  the raw name.
-/
theorem notMem_of_checked
    (hChecked :
      Dart.nameProblem? (typeName raw ++ suffix) = none)
    {c : Char}
    (hCaseless : Text.IsCaseless c)
    (hPart : Dart.isNamePart c = false)
    (hBreak : c ≠ '\n') :
    c ∉ raw.toList := by
  intro hMem
  rcases isNamePart_of_checked hChecked hCaseless hMem with
    hIs | hIs
  · rw [hPart] at hIs
    cases hIs
  · exact hBreak hIs

theorem slash_notMem_of_checked
    (hChecked :
      Dart.nameProblem? (typeName raw ++ suffix) = none) :
    '/' ∉ raw.toList :=
  notMem_of_checked hChecked (by decide) (by decide)
    (by decide)

/-
  In the raw name of such a class a line break comes once,
  and not at first.
-/
theorem break_of_checked
    (hChecked :
      Dart.nameProblem? (typeName raw ++ suffix) = none) :
    raw.toList.count '\n' ≤ 1 ∧
      raw.toList.head? ≠ some '\n' := by
  rcases Dart.parts_of_nameProblem? hChecked with
    ⟨first, init, hParts, hName⟩
  have hNone := Dart.break_notMem_of_parts hParts
  rw [String.toList_append] at hName
  constructor
  · have hCount :
        (typeName raw).toList.count '\n' ≤
          ((typeName raw).toList ++
            suffix.toList).count '\n' := by
      rw [List.count_append]
      exact Nat.le_add_right _ _
    rw [count_break_typeName] at hCount
    apply Nat.le_trans hCount
    rcases hName with hName | hName
    · rw [hName, List.count_eq_zero_of_not_mem hNone]
      exact Nat.zero_le 1
    · rw [hName, List.count_append,
        List.count_eq_zero_of_not_mem hNone]
      decide
  · intro hHead
    have hFirst : ((typeName raw).toList ++
        suffix.toList).head? = some '\n' := by
      rw [List.head?_append, head?_typeName_of_break hHead]
      rfl
    apply hNone
    rcases hName with hName | hName
    · rw [hName] at hFirst
      exact List.mem_of_mem_head? hFirst
    · rw [hName] at hFirst
      have hSame : first = '\n' := by simpa using hFirst
      rw [hSame]
      exact List.mem_cons_self

theorem eq_break_of_checked
    (hChecked :
      Dart.nameProblem? (typeName raw ++ suffix) = none)
    {c : Char}
    (hBlank : Text.isBlank c)
    (hMem : c ∈ raw.toList) :
    c = '\n' := by
  have hCaseless := Text.isCaseless_of_isBlank hBlank
  rcases isNamePart_of_checked hChecked hCaseless hMem with
    hPart | hBreak
  · rw [Dart.isBlank_of_isNamePart hPart] at hBlank
    cases hBlank
  · exact hBreak

theorem steady_of_checked
    (hChecked :
      Dart.nameProblem? (typeName raw ++ suffix) = none) :
    Text.Steady raw.toList := by
  rcases break_of_checked hChecked with ⟨hOnce, hHead⟩
  intro before after hSplit
  cases hLast : before.getLast? with
  | none =>
      rw [List.getLast?_eq_none_iff] at hLast
      rw [hSplit, hLast] at hHead
      exact absurd rfl hHead
  | some c =>
      refine ⟨c, hLast, Bool.eq_false_iff.mpr ?_⟩
      intro hBlank
      have hBefore := List.mem_of_getLast? hLast
      have hMem : c ∈ raw.toList := by
        rw [hSplit]
        exact List.mem_append_left _ hBefore
      rcases eq_break_of_checked hChecked hBlank hMem with
        rfl
      -- A break before the break would be a second one.
      rw [hSplit, List.count_append,
        List.count_cons_self] at hOnce
      have hPositive := List.count_pos_iff.mpr hBefore
      omega

theorem ends_of_checked
    (hChecked :
      Dart.nameProblem? (typeName raw ++ suffix) = none)
    (hSome : raw ≠ "") :
    Text.EndsFirm raw.toList ∨
      ∃ init, raw.toList = init ++ ['\n'] ∧
        Text.Steady init ∧ Text.EndsFirm init := by
  have hChars : raw.toList ≠ [] := by simpa using hSome
  have hLast := List.getLast?_eq_getLast_of_ne_nil hChars
  cases hBlank : Text.isBlank (raw.toList.getLast hChars) with
  | false => exact Or.inl ⟨_, hLast, hBlank⟩
  | true =>
      right
      have hBreak := eq_break_of_checked hChecked hBlank
        (List.getLast_mem hChars)
      have hSplit : raw.toList =
          raw.toList.dropLast ++ ['\n'] := by
        rw [← hBreak]
        exact (List.dropLast_append_getLast hChars).symm
      have hSteady := steady_of_checked hChecked
      refine ⟨_, hSplit, ?_, hSteady _ _ hSplit⟩
      intro before after hInit
      apply hSteady before (after ++ ['\n'])
      rw [hSplit, hInit, List.append_assoc,
        List.cons_append]

end

end Naming

end PocketDart
