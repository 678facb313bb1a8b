import PocketDart.Naming.Convention
import PocketDart.Proofs.Text.Letters

/-
  This file proves how names end that are made from raw
  names. A line break at the end of a raw name is still at
  the end of its member and of its type, whatever
  underscores follow it, and none comes from elsewhere.

  Key definitions include:
    * `Naming.EndsInBreak`

  Key theorems include:
    * `Text.flatten_pieces`
    * `Naming.getLast?_memberName_iff`
    * `Naming.getLast?_typeName_iff`
-/

------------------------------------------------------------
-- Pieces
------------------------------------------------------------

namespace PocketDart

/- The pieces hold all but the separators, in order. -/
theorem Text.flatten_pieces
    (sep : Char)
    (cs : List Char) :
    (Text.pieces sep cs).flatten =
      cs.filter (· ≠ sep) := by
  induction cs with
  | nil => rfl
  | cons c rest ih =>
      simp only [Text.pieces, Text.split] at ih ⊢
      by_cases hSep : c = sep
      · simpa [hSep] using ih
      · simpa [hSep] using ih

------------------------------------------------------------
-- Ends of Names
------------------------------------------------------------

namespace Naming

/- A raw name that ends in a line break but for underscores. -/
def EndsInBreak (raw : String) : Prop :=
  (raw.toList.filter (· ≠ delimiter)).getLast? = some '\n'

instance (raw : String) : Decidable (EndsInBreak raw) := by
  unfold EndsInBreak
  infer_instance

/- A line break has no case. -/
theorem break_isPlain : Text.isLetterLike '\n' = false := by
  decide

theorem sameEnd_memberChars (raw : List Char) :
    Text.SameEnd (memberChars raw)
      (raw.filter (· ≠ delimiter)) := by
  rw [← Text.flatten_pieces]
  exact (Text.sameEnd_uncapitalize _).append
    (Text.sameEnd_flatMap_capitalize _)

theorem sameEnd_typeChars
    {raw : List Char}
    (hTime : spellsTimeType raw = false) :
    Text.SameEnd (typeChars raw)
      (raw.filter (· ≠ delimiter)) := by
  rw [← Text.flatten_pieces, typeChars, hTime]
  exact Text.sameEnd_flatMap_capitalize _

/-
  A character without a case stands in no name for points in
  time, if it stands in none of their spellings.
-/
theorem notMem_of_spellsTimeType
    {c : Char}
    (hSelf : Text.lower c = [c])
    (hNone : ∀ name ∈ timeTypeNames, c ∉ name.toList)
    {raw : List Char}
    (hTime : spellsTimeType raw = true) :
    c ∉ raw := by
  intro hMem
  rcases List.any_eq_true.mp hTime with ⟨name, hName, hEq⟩
  have hLower : c ∈ Text.lowerAll raw := by
    rw [Text.lowerAll, List.mem_flatMap]
    exact ⟨c, hMem, by simp [hSelf]⟩
  rw [beq_iff_eq.mp hEq] at hLower
  exact hNone name hName hLower

/- The names for points in time hold no line break. -/
theorem break_notMem_of_spellsTimeType
    {raw : List Char}
    (hTime : spellsTimeType raw = true) :
    '\n' ∉ raw :=
  notMem_of_spellsTimeType (Text.upper_eq_self break_isPlain).2
    (by decide) hTime

theorem getLast?_memberName_iff (raw : String) :
    (memberName raw).toList.getLast? = some '\n' ↔
      EndsInBreak raw := by
  rw [memberName, String.toList_ofList]
  exact (sameEnd_memberChars raw.toList).2 '\n'
    break_isPlain

theorem getLast?_typeName_iff (raw : String) :
    (typeName raw).toList.getLast? = some '\n' ↔
      EndsInBreak raw := by
  rw [typeName, String.toList_ofList]
  cases hTime : spellsTimeType raw.toList with
  | false =>
      exact (sameEnd_typeChars hTime).2 '\n' break_isPlain
  | true =>
      have hReplaced : typeChars raw.toList =
          timeTypeReplacement.toList := by
        simp [typeChars, hTime]
      rw [hReplaced]
      constructor
      · intro hLast
        exact absurd hLast (by decide)
      · intro hBreak
        have hMem := List.mem_of_getLast? hBreak
        exact absurd (List.mem_filter.mp hMem).1
          (break_notMem_of_spellsTimeType hTime)

end Naming

end PocketDart
