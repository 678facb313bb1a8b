import PocketDart.Proofs.Naming.Ends
import PocketDart.Proofs.Naming.Marks
import PocketDart.Proofs.Text.Ascii

/-
  This file proves that names made from raw names of ASCII
  clash only where the raw names are alike: where nothing
  but underscores and letter case tells them apart. The name
  that replaces the type of points in time is left aside.

  Key definitions include:
    * `Naming.bareForm`

  Key theorems include:
    * `Text.lowerAll_capitalize`
    * `Naming.lowerAll_memberName`
    * `Naming.lowerAll_typeName`
    * `clashing_names_are_alike`
-/

------------------------------------------------------------
-- Letter Case
------------------------------------------------------------

namespace PocketDart

namespace Text

theorem ascii_lowers :
    ∀ code < 0x80,
      let c := Char.ofNat code
      (c.toUpper.toNat < 0x80 ∧
        c.toUpper.toLower = c.toLower) ∧
      c.toLower.toNat < 0x80 ∧
        c.toLower.toLower = c.toLower := by
  decide +kernel

/- The lower case of a capital is that of its letter. -/
theorem lowerAll_upper
    {c : Char}
    (hAscii : c.toNat < 0x80) :
    lowerAll (upper c) = lower c := by
  have hLowers := ascii_lowers c.toNat hAscii
  rw [Char.ofNat_toNat] at hLowers
  rcases hLowers with ⟨⟨hUpper, hSame⟩, _⟩
  rw [upper_of_ascii hAscii, lower_of_ascii hAscii,
    lowerAll, List.flatMap_singleton,
    lower_of_ascii hUpper, hSame]

/- Lower case stays as it is. -/
theorem lowerAll_lower
    {c : Char}
    (hAscii : c.toNat < 0x80) :
    lowerAll (lower c) = lower c := by
  have hLowers := ascii_lowers c.toNat hAscii
  rw [Char.ofNat_toNat] at hLowers
  rcases hLowers with ⟨_, hLower, hSame⟩
  rw [lower_of_ascii hAscii, lowerAll,
    List.flatMap_singleton, lower_of_ascii hLower, hSame]

/- Text by text, lower case is put together. -/
@[simp]
theorem lowerAll_append (xs ys : List Char) :
    lowerAll (xs ++ ys) = lowerAll xs ++ lowerAll ys :=
  List.flatMap_append

/- A changed first letter does not change the lower case. -/
theorem lowerAll_capitalize
    {cs : List Char}
    (hAscii : IsAscii cs) :
    lowerAll (capitalize cs) = lowerAll cs := by
  cases cs with
  | nil => rfl
  | cons first rest =>
      have hFirst := hAscii first List.mem_cons_self
      rw [capitalize, lowerAll_append,
        lowerAll_upper hFirst]
      rfl

theorem lowerAll_uncapitalize
    {cs : List Char}
    (hAscii : IsAscii cs) :
    lowerAll (uncapitalize cs) = lowerAll cs := by
  cases cs with
  | nil => rfl
  | cons first rest =>
      have hFirst := hAscii first List.mem_cons_self
      rw [uncapitalize, lowerAll_append,
        lowerAll_lower hFirst]
      rfl

/- The same for pieces that are put together. -/
theorem lowerAll_flatMap_capitalize
    {pieces : List (List Char)}
    (hAscii : ∀ piece ∈ pieces, IsAscii piece) :
    lowerAll (pieces.flatMap capitalize) =
      lowerAll pieces.flatten := by
  induction pieces with
  | nil => rfl
  | cons piece more ih =>
      rw [List.forall_mem_cons] at hAscii
      rw [List.flatMap_cons, List.flatten_cons,
        lowerAll_append, lowerAll_append,
        lowerAll_capitalize hAscii.1, ih hAscii.2]

theorem isAscii_of_mem_pieces
    (sep : Char)
    {cs : List Char}
    (hAscii : IsAscii cs) :
    ∀ piece ∈ pieces sep cs, IsAscii piece := by
  intro piece hPiece c hMem
  have hFlat : c ∈ (pieces sep cs).flatten :=
    List.mem_flatten.mpr ⟨piece, hPiece, hMem⟩
  rw [flatten_pieces] at hFlat
  exact hAscii c (List.mem_filter.mp hFlat).1

end Text

------------------------------------------------------------
-- Names
------------------------------------------------------------

namespace Naming

/- A raw name but for its underscores and letter case. -/
def bareForm (raw : String) : List Char :=
  Text.lowerAll (raw.toList.filter (· ≠ delimiter))

theorem lowerAll_memberName
    {raw : String}
    (hAscii : Text.IsAscii raw.toList) :
    Text.lowerAll (memberName raw).toList =
      bareForm raw := by
  have hPieces :=
    Text.isAscii_of_mem_pieces delimiter hAscii
  rw [Text.pieces, List.forall_mem_cons] at hPieces
  rw [memberName, String.toList_ofList, memberChars,
    Text.lowerAll_append,
    Text.lowerAll_uncapitalize hPieces.1,
    Text.lowerAll_flatMap_capitalize hPieces.2,
    ← Text.lowerAll_append, bareForm,
    ← Text.flatten_pieces]
  rfl

theorem lowerAll_typeName
    {raw : String}
    (hAscii : Text.IsAscii raw.toList)
    (hTime : spellsTimeType raw.toList = false) :
    Text.lowerAll (typeName raw).toList = bareForm raw := by
  rw [typeName, String.toList_ofList, typeChars, hTime,
    if_neg Bool.false_ne_true,
    Text.lowerAll_flatMap_capitalize
      (Text.isAscii_of_mem_pieces _ hAscii),
    Text.flatten_pieces, bareForm]

end Naming

/-
  Members with one name, constants with one name, and a
  member with the name of a constant come from raw names
  that are alike. No name holds an underscore.
-/
theorem clashing_names_are_alike :
    (∀ a b : String,
      Text.IsAscii a.toList → Text.IsAscii b.toList →
      (memberName a = memberName b →
        Naming.bareForm a = Naming.bareForm b) ∧
      (Naming.spellsTimeType b.toList = false →
        (memberName a = typeName b →
          Naming.bareForm a = Naming.bareForm b) ∧
        (Naming.spellsTimeType a.toList = false →
          typeName a = typeName b →
            Naming.bareForm a = Naming.bareForm b))) ∧
    ∀ raw : String,
      Naming.delimiter ∉ (memberName raw).toList ∧
        Naming.delimiter ∉ (typeName raw).toList := by
  refine ⟨fun a b hA hB => ?_, fun raw =>
    ⟨Naming.underscore_notMem_memberName raw,
      Naming.underscore_notMem_typeName raw⟩⟩
  have hMemberA := Naming.lowerAll_memberName hA
  refine ⟨fun hEq => ?_, fun hTimeB =>
    ⟨fun hEq => ?_, fun hTimeA hEq => ?_⟩⟩
  · rw [← hMemberA, hEq, Naming.lowerAll_memberName hB]
  · rw [← hMemberA, hEq,
      Naming.lowerAll_typeName hB hTimeB]
  · rw [← Naming.lowerAll_typeName hA hTimeA, hEq,
      Naming.lowerAll_typeName hB hTimeB]

/- Three spellings that clash, and their common letters. -/
theorem first_names_are_alike :
    memberName "first_name" = memberName "First__name" ∧
      Naming.bareForm "first_name" =
        Naming.bareForm "First__name" ∧
      typeName "first_name" = memberName "_firstName" ∧
      Naming.bareForm "_firstName" =
        Naming.bareForm "first_name" := by
  have hMembers :
      memberName "first_name" = memberName "First__name" := by
    decide
  have hMixed :
      memberName "_firstName" = typeName "first_name" := by
    decide
  refine ⟨hMembers, ?_, hMixed.symm, ?_⟩
  · exact (clashing_names_are_alike.1 "first_name"
      "First__name" (by decide) (by decide)).1 hMembers
  · exact ((clashing_names_are_alike.1 "_firstName"
      "first_name" (by decide) (by decide)).2
        (by decide)).1 hMixed

end PocketDart
