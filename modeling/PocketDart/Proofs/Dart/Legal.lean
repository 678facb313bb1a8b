import PocketDart.Dart.Identifier

/-
  This file proves which names that pass the check are legal
  identifiers. The check lets one line break through at the
  end of a name, and nothing else that Dart refuses.

  Key definitions include:
    * `Dart.IsLegal`

  Key theorems include:
    * `Dart.exists_head?_of_nameProblem?`
    * `Dart.isNameBody_iff`
    * `Dart.isLegal_iff_of_nameProblem?`
    * `Dart.IsLegal.append`
    * `Dart.isLegal_underscore`
-/

------------------------------------------------------------
-- Legal Identifiers
------------------------------------------------------------

namespace PocketDart

namespace Dart

/-
  A legal identifier: from the first to the last character
  letters and digits of ASCII, underscores and dollar signs,
  no digit in front, and none of the reserved words.
-/
def IsLegal (name : String) : Prop :=
  (∃ first rest, name.toList = first :: rest ∧
    isNameStart first ∧ ∀ c ∈ rest, isNamePart c) ∧
  name ∉ reservedWords

theorem IsLegal.isNamePart_of_mem
    {name : String}
    (hLegal : IsLegal name)
    {c : Char}
    (hMem : c ∈ name.toList) :
    isNamePart c := by
  rcases hLegal with ⟨⟨first, rest, hName, hFirst, hRest⟩, _⟩
  rw [hName] at hMem
  rcases List.mem_cons.mp hMem with rfl | hMem
  · simp [isNamePart, hFirst]
  · exact hRest c hMem

theorem IsLegal.break_notMem
    {name : String}
    (hLegal : IsLegal name) :
    '\n' ∉ name.toList := by
  intro hMem
  have hPart := hLegal.isNamePart_of_mem hMem
  exact absurd hPart (by decide)

theorem exists_head?_of_nameProblem?
    {name : String}
    (hChecked : nameProblem? name = none) :
    ∃ c, name.toList.head? = some c ∧ isNameStart c := by
  have hShape := (nameProblem?_eq_none_iff name).mp hChecked
  rw [isIdentifier, Bool.and_eq_true,
    hasIdentifierShape] at hShape
  cases hName : name.toList with
  | nil =>
      rw [hName] at hShape
      cases hShape.1
  | cons c rest =>
      rw [hName] at hShape
      exact ⟨c, rfl, (Bool.and_eq_true_iff.mp hShape.1).1⟩

theorem isUpper_of_isNameStart
    {c : Char}
    (hStart : isNameStart c)
    (hSmall : c.isLower = false)
    (hUnderscore : c ≠ '_')
    (hDollar : c ≠ '$') :
    c.isUpper := by
  have hAlpha : c.isAlpha = (c.isUpper || c.isLower) := rfl
  simpa [isNameStart, hAlpha, hSmall, hUnderscore,
    hDollar] using hStart

/- A checked body is one of name parts, or has a break last. -/
theorem isNameBody_iff (cs : List Char) :
    isNameBody cs ↔
      (∀ c ∈ cs, isNamePart c) ∨
        ∃ init, cs = init ++ ['\n'] ∧
          ∀ c ∈ init, isNamePart c := by
  fun_induction isNameBody cs with
  | case1 => simp
  | case2 => exact iff_of_true rfl (Or.inr ⟨[], rfl, by simp⟩)
  | case3 c rest hNotBreak ih =>
      rw [Bool.and_eq_true, ih]
      constructor
      · rintro ⟨hPart, hRest | ⟨init, rfl, hInit⟩⟩
        · exact Or.inl (List.forall_mem_cons.mpr
            ⟨hPart, hRest⟩)
        · exact Or.inr ⟨c :: init, rfl,
            List.forall_mem_cons.mpr ⟨hPart, hInit⟩⟩
      · rintro (hAll | ⟨init, hInit, hParts⟩)
        · rcases List.forall_mem_cons.mp hAll with
            ⟨hPart, hRest⟩
          exact ⟨hPart, Or.inl hRest⟩
        · cases init with
          | nil =>
              have hOnly : c = '\n' ∧ rest = [] := by
                simpa using hInit
              exact absurd hOnly.2 (hNotBreak hOnly.1)
          | cons first init =>
              have hSplit : c = first ∧
                  rest = init ++ ['\n'] := by
                simpa using hInit
              rcases hSplit with ⟨rfl, rfl⟩
              rcases List.forall_mem_cons.mp hParts with
                ⟨hPart, hRest⟩
              exact ⟨hPart, Or.inr ⟨init, rfl, hRest⟩⟩

/-
  A name that passes the check is legal exactly when it
  does not end in a line break.
-/
theorem isLegal_iff_of_nameProblem?
    {name : String}
    (hChecked : nameProblem? name = none) :
    IsLegal name ↔ name.toList.getLast? ≠ some '\n' := by
  have hIdentifier :=
    (nameProblem?_eq_none_iff name).mp hChecked
  simp only [isIdentifier, hasIdentifierShape,
    Bool.and_eq_true, decide_eq_true_eq] at hIdentifier
  rcases hIdentifier with ⟨hShape, hWord⟩
  constructor
  · intro hLegal hLast
    exact hLegal.break_notMem (List.mem_of_getLast? hLast)
  · intro hLast
    cases hName : name.toList with
    | nil =>
        rw [hName] at hShape
        cases hShape
    | cons first rest =>
        rw [hName] at hShape hLast
        rcases Bool.and_eq_true_iff.mp hShape with
          ⟨hFirst, hBody⟩
        rcases (isNameBody_iff rest).mp hBody with
          hParts | ⟨init, rfl, _⟩
        · exact ⟨⟨first, rest, hName, hFirst, hParts⟩,
            hWord⟩
        · rw [← List.cons_append] at hLast
          exact absurd List.getLast?_concat hLast

------------------------------------------------------------
-- Longer Names
------------------------------------------------------------

theorem IsLegal.append
    {name ending : String}
    (hLegal : IsLegal name)
    (hEnding : ending.toList.all isNamePart)
    (hWord : ∀ word ∈ reservedWords,
      ¬ ending.toList <:+ word.toList) :
    IsLegal (name ++ ending) := by
  rcases hLegal with ⟨⟨first, rest, hName, hFirst, hRest⟩, _⟩
  refine ⟨⟨first, rest ++ ending.toList, ?_, hFirst, ?_⟩,
    ?_⟩
  · rw [String.toList_append, hName, List.cons_append]
  · intro c hMem
    rcases List.mem_append.mp hMem with hMem | hMem
    · exact hRest c hMem
    · exact List.all_eq_true.mp hEnding c hMem
  · intro hReserved
    apply hWord _ hReserved
    rw [String.toList_append]
    exact List.suffix_append _ _

/- No reserved word begins with an underscore. -/
theorem isLegal_underscore
    {name : String}
    (hParts : ∀ c ∈ name.toList, isNamePart c) :
    IsLegal ("_" ++ name) := by
  refine ⟨⟨'_', name.toList, ?_, by decide, hParts⟩, ?_⟩
  · rw [String.toList_append]
    rfl
  · intro hReserved
    have hNone : ∀ word ∈ reservedWords,
        word.toList.head? ≠ some '_' := by
      decide
    apply hNone _ hReserved
    rw [String.toList_append]
    rfl

end Dart

end PocketDart
