import PocketDart.Proofs.Naming.Marks

/-
  This file proves which raw names get the name of the type
  of points in time as their type name. Names that spell the
  type are replaced, but only where the underscores are as
  usual: with an empty segment more, the capitals alone put
  the name together again.

  Key definitions include:
    * `Naming.segments`
    * `Naming.timeSegments`

  Key theorems include:
    * `Text.eq_of_upper_eq`
    * `Text.pieces_lowerAll`
    * `Naming.flatMap_capitalize_eq_time_iff`
    * `Naming.spellsTimeType_of_segments`
    * `typeName_eq_dateTime_iff`
-/

------------------------------------------------------------
-- Capitals of ASCII
------------------------------------------------------------

namespace PocketDart

namespace Text

def isNoTimeCapital (c : Char) : Bool :=
  c ≠ 'D' && c ≠ 'T'

theorem upperRuns_noTimeCapital :
    upperRuns.all (CaseRun.mapsInto isNoTimeCapital) := by
  decide +kernel

theorem upperExpansions_long :
    upperExpansions.all fun entry => 1 < entry.2.length := by
  decide +kernel

theorem ascii_upper_cases :
    ∀ code < 0x80,
      let c := Char.ofNat code
      c = c.toUpper ∨ c = c.toUpper.toLower := by
  decide +kernel

theorem isNoTimeCapital_of_beyond
    {c : Char}
    (hBeyond : 0x80 ≤ c.toNat) :
    isNoTimeCapital c := by
  have hApart : ∀ d : Char, d.toNat < 0x80 → c ≠ d := by
    rintro d hAscii rfl
    omega
  simp [isNoTimeCapital, hApart 'D' (by decide),
    hApart 'T' (by decide)]

/-
  Only the letters `d` and `t` and their capitals have these
  capitals as upper case.
-/
theorem eq_of_upper_eq
    {c d : Char}
    (hCapital : isNoTimeCapital d = false)
    (hUpper : upper c = [d]) :
    c = d ∨ c = d.toLower := by
  by_cases hAscii : c.toNat < 0x80
  · rw [upper_of_ascii hAscii, List.singleton_inj] at hUpper
    subst hUpper
    have hCases := ascii_upper_cases c.toNat hAscii
    rwa [Char.ofNat_toNat] at hCases
  · rw [upper, if_neg hAscii, mapCase] at hUpper
    exfalso
    split at hUpper
    · next codes hCodes =>
        have hLong := List.all_eq_true.mp upperExpansions_long
          (c.toNat, codes) (Lookup.mem_of_lookup hCodes)
        have hOne := congrArg List.length hUpper
        rw [List.length_map, List.length_singleton] at hOne
        simp [hOne] at hLong
    · have hNone : isNoTimeCapital d := by
        split at hUpper
        · next code hCode =>
            rcases List.exists_of_findSome?_eq_some hCode with
              ⟨run, hRun, hImage⟩
            rw [← List.singleton_inj.mp hUpper]
            exact allowed_of_image?
              (fun c => isNoTimeCapital_of_beyond)
              (List.all_eq_true.mp upperRuns_noTimeCapital
                run hRun) hImage
        · rw [← List.singleton_inj.mp hUpper]
          exact isNoTimeCapital_of_beyond
            (Nat.not_lt.mp hAscii)
      rw [hCapital] at hNone
      cases hNone

------------------------------------------------------------
-- Lower Case of Pieces
------------------------------------------------------------

/- What stands before the separators is in the first piece. -/
theorem split_append_of_notMem
    {sep : Char}
    {cs : List Char}
    (hNone : sep ∉ cs)
    (rest : List Char) :
    split sep (cs ++ rest) =
      (cs ++ (split sep rest).1, (split sep rest).2) := by
  induction cs with
  | nil => rfl
  | cons c more ih =>
      rw [List.mem_cons, not_or] at hNone
      simp [split, ih hNone.2, Ne.symm hNone.1]

/- Lower case is put into the pieces of a text. -/
theorem split_lowerAll
    {sep : Char}
    (hPlain : isLetterLike sep = false)
    (cs : List Char) :
    split sep (lowerAll cs) =
      (lowerAll (split sep cs).1,
        (split sep cs).2.map lowerAll) := by
  induction cs with
  | nil => rfl
  | cons c rest ih =>
      have hCons : lowerAll (c :: rest) =
          lower c ++ lowerAll rest := rfl
      rw [hCons]
      by_cases hSep : c = sep
      · subst hSep
        rw [(upper_eq_self hPlain).2, List.singleton_append]
        simp only [split, ih, if_pos]
        rfl
      · have hNone : sep ∉ lower c := by
          intro hMem
          rcases mem_lower hMem with hSame | hLetter
          · exact hSep hSame.symm
          · rw [hPlain] at hLetter
            cases hLetter
        rw [split_append_of_notMem hNone, ih]
        simp [split, hSep, lowerAll]

theorem pieces_lowerAll
    {sep : Char}
    (hPlain : isLetterLike sep = false)
    (cs : List Char) :
    pieces sep (lowerAll cs) =
      (pieces sep cs).map lowerAll := by
  rw [pieces, split_lowerAll hPlain]
  rfl

end Text

namespace Naming

------------------------------------------------------------
-- Segments
------------------------------------------------------------

/- The segments of a raw name, but for those that are empty. -/
def segments (raw : List Char) : List (List Char) :=
  (Text.pieces delimiter raw).filter (· ≠ [])

/-
  The segments of the names whose capitals, put together,
  are the type of points in time.
-/
def timeSegments : List (List (List Char)) :=
  [["dateTime"], ["DateTime"],
    ["date", "time"], ["date", "Time"],
    ["Date", "time"], ["Date", "Time"]].map
      (·.map String.toList)

/- Empty segments add nothing to a type name. -/
theorem flatMap_capitalize_segments (raw : List Char) :
    (segments raw).flatMap Text.capitalize =
      (Text.pieces delimiter raw).flatMap
        Text.capitalize := by
  rw [segments]
  induction Text.pieces delimiter raw with
  | nil => rfl
  | cons piece more ih =>
      cases piece with
      | nil => simpa [Text.capitalize] using ih
      | cons first rest => simpa using ih

section

variable {first d : Char}
variable {front more : List Char}
variable {pieces : List (List Char)}

/- The capital of a letter ends before a small letter. -/
theorem upper_eq_of_append
    {c : Char}
    (hSmall : c.isLower)
    (hEq : Text.upper first ++ front = d :: c :: more) :
    Text.upper first = [d] ∧ front = c :: more := by
  rcases List.exists_cons_of_ne_nil
      (Text.upper_ne_nil first) with
    ⟨e, es, hUpper⟩
  rw [hUpper, List.cons_append, List.cons.injEq] at hEq
  rcases hEq with ⟨rfl, hEq⟩
  cases es with
  | nil => exact ⟨hUpper, hEq⟩
  | cons f fs =>
      rcases List.cons.inj hEq with ⟨rfl, _⟩
      have hMem : f ∈ Text.upper first := by simp [hUpper]
      rw [Text.isLower_of_mem_upper hMem] at hSmall
      cases hSmall

/- Pieces that are not empty begin with no small letter. -/
theorem exists_capital_of_pieces
    (hFull : ∀ piece ∈ pieces, piece ≠ [])
    (hSome : pieces ≠ []) :
    ∃ c rest,
      pieces.flatMap Text.capitalize = c :: rest ∧
        c.isLower = false := by
  rcases List.exists_cons_of_ne_nil hSome with
    ⟨piece, others, rfl⟩
  rcases List.exists_cons_of_ne_nil
      (hFull piece List.mem_cons_self) with
    ⟨first, rest, rfl⟩
  rcases List.exists_cons_of_ne_nil
      (Text.upper_ne_nil first) with
    ⟨c, cs, hUpper⟩
  have hPieces :
      ((first :: rest) :: others).flatMap Text.capitalize =
        c :: (cs ++ rest ++
          others.flatMap Text.capitalize) := by
    simp [Text.capitalize, hUpper]
  exact ⟨c, _, hPieces,
    isLower_head?_flatMap (congrArg List.head? hPieces)⟩

theorem eq_of_append_small
    {small : List Char}
    (hFull : ∀ piece ∈ pieces, piece ≠ [])
    (hSmall : ∀ c ∈ small, c.isLower)
    (hEq :
      front ++ pieces.flatMap Text.capitalize = small) :
    front = small ∧ pieces = [] := by
  by_cases hSome : pieces = []
  · subst hSome
    exact ⟨by simpa using hEq, rfl⟩
  · rcases exists_capital_of_pieces hFull hSome with
      ⟨c, rest, hPieces, hCapital⟩
    have hMem : c ∈ small := by
      rw [← hEq, hPieces]
      simp
    rw [hSmall c hMem] at hCapital
    cases hCapital

theorem eq_of_append_capital
    (hFull : ∀ piece ∈ pieces, piece ≠ [])
    (small : List Char)
    (hSmall : ∀ c ∈ small, c.isLower)
    (hMore : ∀ c ∈ more, c.isLower)
    (hEq : front ++ pieces.flatMap Text.capitalize =
      small ++ d :: more) :
    (front = small ++ d :: more ∧ pieces = []) ∨
      (front = small ∧
        pieces.flatMap Text.capitalize = d :: more) := by
  by_cases hSome : pieces = []
  · subst hSome
    exact Or.inl ⟨by simpa using hEq, rfl⟩
  · right
    rcases exists_capital_of_pieces hFull hSome with
      ⟨c, rest, hPieces, hCapital⟩
    rw [hPieces] at hEq ⊢
    have hApart : c ∉ small ++ more := by
      intro hMem
      rcases List.mem_append.mp hMem with hMem | hMem
      · rw [hSmall c hMem] at hCapital
        cases hCapital
      · rw [hMore c hMem] at hCapital
        cases hCapital
    rw [List.mem_append, not_or] at hApart
    rcases List.append_eq_append_iff.mp hEq with
      ⟨middle, rfl, hRest⟩ | ⟨middle, rfl, hRest⟩
    · cases middle with
      | nil => exact ⟨by simp, hRest⟩
      | cons e es =>
          rcases List.cons.inj hRest with ⟨rfl, _⟩
          exact absurd (by simp) hApart.1
    · cases middle with
      | nil => exact ⟨by simp, hRest.symm⟩
      | cons e es =>
          rcases List.cons.inj hRest with ⟨rfl, rfl⟩
          exact absurd (by simp) hApart.2

theorem exists_first_piece
    {c : Char}
    (hFull : ∀ piece ∈ pieces, piece ≠ [])
    (hSmall : c.isLower)
    (hEq : pieces.flatMap Text.capitalize =
      d :: c :: more) :
    ∃ first front others,
      pieces = (first :: front) :: others ∧
        Text.upper first = [d] ∧
        front ++ others.flatMap Text.capitalize =
          c :: more := by
  cases pieces with
  | nil => cases hEq
  | cons piece others =>
      rcases List.exists_cons_of_ne_nil
          (hFull piece List.mem_cons_self) with
        ⟨first, front, rfl⟩
      rw [List.flatMap_cons, Text.capitalize,
        List.append_assoc] at hEq
      exact ⟨first, front, others, rfl,
        upper_eq_of_append hSmall hEq⟩

end

/-
  Capitalized pieces put the type of points in time together
  exactly when they are one or two segments of it.
-/
theorem flatMap_capitalize_eq_time_iff
    {pieces : List (List Char)}
    (hFull : ∀ piece ∈ pieces, piece ≠ []) :
    pieces.flatMap Text.capitalize = "DateTime".toList ↔
      pieces ∈ timeSegments := by
  constructor
  · intro hEq
    rcases exists_first_piece (c := 'a') hFull (by decide)
        hEq with
      ⟨first, front, others, rfl, hFirst, hRest⟩
    rw [List.forall_mem_cons] at hFull
    have hDate := Text.eq_of_upper_eq (by decide) hFirst
    have hSmall : ∀ c ∈ ['i', 'm', 'e'], c.isLower := by
      simp
    rcases eq_of_append_capital hFull.2 ['a', 't', 'e']
        (by simp) hSmall hRest with
      ⟨rfl, rfl⟩ | ⟨rfl, hLast⟩
    · rcases hDate with rfl | rfl
      · decide
      · decide
    · rcases exists_first_piece (c := 'i') hFull.2
          (by decide) hLast with
        ⟨second, front, others, rfl, hSecond, hEnd⟩
      rw [List.forall_mem_cons] at hFull
      have hTime := Text.eq_of_upper_eq (by decide) hSecond
      rcases eq_of_append_small hFull.2.2 hSmall hEnd with
        ⟨rfl, rfl⟩
      rcases hDate with rfl | rfl
      · rcases hTime with rfl | rfl
        · decide
        · decide
      · rcases hTime with rfl | rfl
        · decide
        · decide
  · intro hPieces
    have hAll : ∀ pieces ∈ timeSegments,
        pieces.flatMap Text.capitalize =
          "DateTime".toList := by
      decide
    exact hAll pieces hPieces

------------------------------------------------------------
-- Replaced Names
------------------------------------------------------------

/- Names that are replaced have no empty segment. -/
theorem spellsTimeType_of_empty
    {raw : List Char}
    (hEmpty : [] ∈ Text.pieces delimiter raw) :
    spellsTimeType raw = false := by
  rw [Bool.eq_false_iff]
  intro hTime
  rcases List.any_eq_true.mp hTime with ⟨name, hName, hEq⟩
  have hPieces :
      [] ∈ Text.pieces delimiter (Text.lowerAll raw) := by
    rw [Text.pieces_lowerAll delimiter_isPlain]
    exact List.mem_map_of_mem (f := Text.lowerAll) hEmpty
  rw [beq_iff_eq.mp hEq] at hPieces
  have hNone : ∀ name ∈ timeTypeNames,
      [] ∉ Text.pieces delimiter name.toList := by
    decide
  exact hNone name hName hPieces

theorem spellsTimeType_of_segments
    {raw : List Char}
    (hFull : [] ∉ Text.pieces delimiter raw)
    (hTime : segments raw ∈ timeSegments) :
    spellsTimeType raw = true := by
  have hPieces : segments raw = Text.pieces delimiter raw := by
    rw [segments, List.filter_eq_self]
    intro piece hMem
    rw [decide_eq_true_iff]
    rintro rfl
    exact hFull hMem
  have hAll : ∀ pieces ∈ timeSegments,
      spellsTimeType (Text.join [delimiter] pieces) := by
    decide
  have hSpells := hAll _ hTime
  rwa [hPieces, Text.join_pieces] at hSpells

end Naming

/-
  A raw name gets the type of points in time for its type
  name exactly when it has an empty segment, and the others
  are segments of that type.
-/
theorem typeName_eq_dateTime_iff (raw : String) :
    typeName raw = "DateTime" ↔
      [] ∈ Text.pieces Naming.delimiter raw.toList ∧
        Naming.segments raw.toList ∈ Naming.timeSegments := by
  have hFull : ∀ piece ∈ Naming.segments raw.toList,
      piece ≠ [] := by
    intro piece hMem
    simpa using (List.mem_filter.mp hMem).2
  have hTime := Naming.flatMap_capitalize_eq_time_iff hFull
  rw [Naming.flatMap_capitalize_segments] at hTime
  rw [← String.toList_inj, typeName, String.toList_ofList,
    Naming.typeChars]
  by_cases hEmpty :
      [] ∈ Text.pieces Naming.delimiter raw.toList
  · rw [Naming.spellsTimeType_of_empty hEmpty, ← hTime]
    simp [hEmpty]
  · simp only [hEmpty, false_and, iff_false]
    intro hEq
    split at hEq
    · exact absurd hEq (by decide)
    · next hSpells =>
        exact hSpells (Naming.spellsTimeType_of_segments
          hEmpty (hTime.mp hEq))

/- A doubled underscore keeps a name from being replaced. -/
theorem typeName_doubled_underscore :
    typeName "date__time" = "DateTime" := by
  decide

end PocketDart
