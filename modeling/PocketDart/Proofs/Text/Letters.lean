import Mathlib.Data.List.Basic
import PocketDart.Proofs.Lookup
import PocketDart.Text.LetterCase.Mapping

/-
  This file proves what a change of letter case can do to a
  text. Letters become letters, possibly several and beyond
  ASCII; a character of ASCII that is no letter neither
  appears nor disappears, and upper case holds no lower-case
  letter of ASCII and lower case no capital.

  Key definitions include:
    * `Text.isLetterLike`
    * `Text.isCapitalLike`
    * `Text.isSmallLike`
    * `Text.SameEnd`

  Key theorems include:
    * `Text.isLower_of_mem_upper`
    * `Text.isUpper_of_mem_lower`
    * `Text.mem_upper`
    * `Text.mem_lower`
    * `Text.sameEnd_flatMap_capitalize`
-/

------------------------------------------------------------
-- Letters
------------------------------------------------------------

namespace PocketDart

namespace Text

/- A letter of ASCII or any character beyond it. -/
def isLetterLike (c : Char) : Bool :=
  c.isAlpha || decide (0x80 ≤ c.toNat)

/- A capital of ASCII or any character beyond it. -/
def isCapitalLike (c : Char) : Bool :=
  c.isUpper || decide (0x80 ≤ c.toNat)

/- A small letter of ASCII or any character beyond it. -/
def isSmallLike (c : Char) : Bool :=
  c.isLower || decide (0x80 ≤ c.toNat)

theorem isLetterLike_of_isCapitalLike
    {c : Char}
    (hCapital : isCapitalLike c) :
    isLetterLike c := by
  have hAlpha : c.isAlpha = (c.isUpper || c.isLower) := rfl
  rw [isCapitalLike, Bool.or_eq_true] at hCapital
  rw [isLetterLike, hAlpha, Bool.or_assoc, Bool.or_eq_true]
  rcases hCapital with hUpper | hBeyond
  · exact Or.inl hUpper
  · exact Or.inr (by rw [hBeyond, Bool.or_true])

theorem isLower_of_isCapitalLike
    {c : Char}
    (hCapital : isCapitalLike c) :
    c.isLower = false := by
  have hUpper : c.isUpper =
      decide (65 ≤ c.toNat ∧ c.toNat ≤ 90) := rfl
  have hLower : c.isLower =
      decide (97 ≤ c.toNat ∧ c.toNat ≤ 122) := by
    rw [Bool.decide_and]
    rfl
  rw [isCapitalLike, hUpper, Bool.or_eq_true,
    decide_eq_true_eq, decide_eq_true_eq] at hCapital
  rw [hLower, decide_eq_false_iff_not]
  omega

/- A small letter is no capital of ASCII. -/
theorem isUpper_of_isSmallLike
    {c : Char}
    (hSmall : isSmallLike c) :
    c.isUpper = false := by
  have hUpper : c.isUpper =
      decide (65 ≤ c.toNat ∧ c.toNat ≤ 90) := rfl
  have hLower : c.isLower =
      decide (97 ≤ c.toNat ∧ c.toNat ≤ 122) := by
    rw [Bool.decide_and]
    rfl
  rw [isSmallLike, hLower, Bool.or_eq_true,
    decide_eq_true_eq, decide_eq_true_eq] at hSmall
  rw [hUpper, decide_eq_false_iff_not]
  omega

theorem toNat_ofNat
    {code : Nat}
    (hCode : code.isValidChar) :
    (Char.ofNat code).toNat = code := by
  have hChar : Char.ofNat code = Char.ofNatAux code hCode :=
    dif_pos hCode
  rw [hChar]
  rfl

/-
  The images of a run lie beyond ASCII, or there is one
  image that is allowed.
-/
def CaseRun.mapsInto
    (allowed : Char → Bool)
    (run : CaseRun) : Bool :=
  (decide (0x80 ≤ run.first + run.shift) &&
    (decide (run.last + run.shift < 0xD800) ||
      decide (0xDFFF < run.first + run.shift) &&
        decide (run.last + run.shift < 0x110000))) ||
  (run.first == run.last &&
    allowed (Char.ofNat (run.first + run.shift).toNat))

def expandsInto
    (allowed : Char → Bool)
    (expansions : List (Nat × List Nat)) : Bool :=
  expansions.all fun entry =>
    !entry.2.isEmpty && entry.2.all fun code =>
      allowed (Char.ofNat code)

/- Upper case is capital, and lower case has letters only. -/
theorem upperExpansions_capitals :
    expandsInto isCapitalLike upperExpansions := by
  decide +kernel

theorem lowerExpansions_letters :
    expandsInto isLetterLike lowerExpansions := by
  decide +kernel

theorem lowerExpansions_smalls :
    expandsInto isSmallLike lowerExpansions := by
  decide +kernel

theorem upperRuns_capitals :
    upperRuns.all (CaseRun.mapsInto isCapitalLike) := by
  decide +kernel

theorem lowerRuns_letters :
    lowerRuns.all (CaseRun.mapsInto isLetterLike) := by
  decide +kernel

theorem lowerRuns_smalls :
    lowerRuns.all (CaseRun.mapsInto isSmallLike) := by
  decide +kernel

section

variable {allowed : Char → Bool}

theorem allowed_of_image?
    (hBeyond : ∀ c, 0x80 ≤ c.toNat → allowed c)
    {run : CaseRun}
    (hRun : run.mapsInto allowed)
    {code image : Nat}
    (hImage : run.image? code = some image) :
    allowed (Char.ofNat image) := by
  unfold CaseRun.image? at hImage
  split at hImage
  · next hIn =>
      rcases hIn with ⟨hFirst, hLast, _⟩
      have hShift : (code + run.shift).toNat = image := by
        simpa using hImage
      simp only [CaseRun.mapsInto, Bool.or_eq_true,
        Bool.and_eq_true, decide_eq_true_eq,
        beq_iff_eq] at hRun
      rcases hRun with ⟨hLow, hValid⟩ | ⟨hOne, hAllowed⟩
      · have hChar : image.isValidChar := by
          unfold Nat.isValidChar
          omega
        apply hBeyond
        rw [toNat_ofNat hChar]
        omega
      · have hCode : code = run.first := by omega
        subst hCode
        rwa [hShift] at hAllowed
  · cases hImage

theorem of_lookup_expansions
    {expansions : List (Nat × List Nat)}
    (hExpansions : expandsInto allowed expansions)
    {code : Nat}
    {codes : List Nat}
    (hCodes : expansions.lookup code = some codes) :
    codes ≠ [] ∧ ∀ image ∈ codes,
      allowed (Char.ofNat image) := by
  have hEntry := Lookup.mem_of_lookup hCodes
  simpa using List.all_eq_true.mp hExpansions _ hEntry

theorem mem_mapCase
    (hBeyond : ∀ c, 0x80 ≤ c.toNat → allowed c)
    {expansions : List (Nat × List Nat)}
    {runs : List CaseRun}
    (hExpansions : expandsInto allowed expansions)
    (hRuns : runs.all (CaseRun.mapsInto allowed))
    {c d : Char}
    (hMem : d ∈ mapCase expansions runs c) :
    d = c ∨ allowed d := by
  unfold mapCase at hMem
  split at hMem
  · next codes hCodes =>
      rcases List.mem_map.mp hMem with ⟨code, hCode, rfl⟩
      exact Or.inr
        ((of_lookup_expansions hExpansions hCodes).2 code
          hCode)
  · split at hMem
    · next code hCode =>
        rcases List.exists_of_findSome?_eq_some hCode with
          ⟨run, hRun, hImage⟩
        rw [List.mem_singleton] at hMem
        subst hMem
        exact Or.inr (allowed_of_image? hBeyond
          (List.all_eq_true.mp hRuns run hRun) hImage)
    · exact Or.inl (List.mem_singleton.mp hMem)

/- Nothing is mapped to nothing. -/
theorem mapCase_ne_nil
    {expansions : List (Nat × List Nat)}
    (hExpansions : expandsInto allowed expansions)
    (runs : List CaseRun)
    (c : Char) :
    mapCase expansions runs c ≠ [] := by
  unfold mapCase
  split
  · next codes hCodes =>
      have hSome :=
        (of_lookup_expansions hExpansions hCodes).1
      simpa using hSome
  · split
    · simp
    · simp

end

------------------------------------------------------------
-- Case Mappings
------------------------------------------------------------

/- In ASCII letters stay letters, and all else stays. -/
theorem ascii_cases :
    ∀ code < 0x80,
      let c := Char.ofNat code
      if c.isAlpha then c.toUpper.isUpper ∧ c.toLower.isAlpha
      else c.toUpper = c ∧ c.toLower = c := by
  decide +kernel

/- The same for a character instead of its code. -/
theorem ascii_cases_of_lt
    {c : Char}
    (hAscii : c.toNat < 0x80) :
    if c.isAlpha then c.toUpper.isUpper ∧ c.toLower.isAlpha
    else c.toUpper = c ∧ c.toLower = c := by
  have hCode := ascii_cases c.toNat hAscii
  rwa [Char.ofNat_toNat] at hCode

theorem ascii_smalls :
    ∀ code < 0x80,
      (Char.ofNat code).toLower.isUpper = false := by
  decide +kernel

theorem capital_of_mem_upper
    {c d : Char}
    (hMem : d ∈ upper c) :
    (d = c ∧ c.isLower = false) ∨ isCapitalLike d := by
  unfold upper at hMem
  split at hMem
  · next hAscii =>
      have hCases := ascii_cases_of_lt hAscii
      rw [List.mem_singleton] at hMem
      subst hMem
      split at hCases
      · exact Or.inr (by simp [isCapitalLike, hCases.1])
      · next hLetter =>
          have hLower : c.isLower = false :=
            (Bool.or_eq_false_iff.mp
              (Bool.eq_false_iff.mpr hLetter)).2
          exact Or.inl ⟨hCases.1, hLower⟩
  · next hBeyond =>
      have hCapital : isCapitalLike c := by
        simp [isCapitalLike, Nat.not_lt.mp hBeyond]
      rcases mem_mapCase
          (fun c hBeyond => by simp [isCapitalLike, hBeyond])
          upperExpansions_capitals upperRuns_capitals
          hMem with rfl | hAllowed
      · exact Or.inr hCapital
      · exact Or.inr hAllowed

/- Upper case holds no lower-case letter of ASCII. -/
theorem isLower_of_mem_upper
    {c d : Char}
    (hMem : d ∈ upper c) :
    d.isLower = false := by
  rcases capital_of_mem_upper hMem with
    ⟨rfl, hLower⟩ | hCapital
  · exact hLower
  · exact isLower_of_isCapitalLike hCapital

/- Upper case consists of letters, or of what was there. -/
theorem mem_upper
    {c d : Char}
    (hMem : d ∈ upper c) :
    d = c ∨ isLetterLike d := by
  rcases capital_of_mem_upper hMem with
    ⟨hSame, _⟩ | hCapital
  · exact Or.inl hSame
  · exact Or.inr (isLetterLike_of_isCapitalLike hCapital)

/- Lower case consists of letters, or of what was there. -/
theorem mem_lower
    {c d : Char}
    (hMem : d ∈ lower c) :
    d = c ∨ isLetterLike d := by
  unfold lower at hMem
  split at hMem
  · next hAscii =>
      have hCases := ascii_cases_of_lt hAscii
      rw [List.mem_singleton] at hMem
      subst hMem
      split at hCases
      · exact Or.inr (by simp [isLetterLike, hCases.2])
      · exact Or.inl hCases.2
  · exact mem_mapCase
      (fun c hBeyond => by simp [isLetterLike, hBeyond])
      lowerExpansions_letters lowerRuns_letters hMem

/- Lower case holds no capital of ASCII. -/
theorem isUpper_of_mem_lower
    {c d : Char}
    (hMem : d ∈ lower c) :
    d.isUpper = false := by
  unfold lower at hMem
  split at hMem
  · next hAscii =>
      rw [List.mem_singleton] at hMem
      subst hMem
      have hSmall := ascii_smalls c.toNat hAscii
      rwa [Char.ofNat_toNat] at hSmall
  · next hBeyond =>
      have hSmall : isSmallLike c := by
        simp [isSmallLike, Nat.not_lt.mp hBeyond]
      rcases mem_mapCase
          (fun c hBeyond => by simp [isSmallLike, hBeyond])
          lowerExpansions_smalls lowerRuns_smalls
          hMem with rfl | hAllowed
      · exact isUpper_of_isSmallLike hSmall
      · exact isUpper_of_isSmallLike hAllowed

@[simp]
theorem upper_ne_nil (c : Char) : upper c ≠ [] := by
  unfold upper
  split
  · simp
  · exact mapCase_ne_nil upperExpansions_capitals _ c

@[simp]
theorem lower_ne_nil (c : Char) : lower c ≠ [] := by
  unfold lower
  split
  · simp
  · exact mapCase_ne_nil lowerExpansions_letters _ c

theorem upper_eq_self
    {c : Char}
    (hPlain : isLetterLike c = false) :
    upper c = [c] ∧ lower c = [c] := by
  simp only [isLetterLike, Bool.or_eq_false_iff,
    decide_eq_false_iff_not, Nat.not_le] at hPlain
  have hCases := ascii_cases_of_lt hPlain.2
  rw [hPlain.1] at hCases
  rcases hCases with ⟨hUpper, hLower⟩
  rw [upper_of_ascii hPlain.2, lower_of_ascii hPlain.2,
    hUpper, hLower]
  exact ⟨rfl, rfl⟩

------------------------------------------------------------
-- Ends of Texts
------------------------------------------------------------

/-
  Texts that are both empty or both not, and that end in
  the same character if it is none that has a case.
-/
def SameEnd (xs ys : List Char) : Prop :=
  (xs = [] ↔ ys = []) ∧
    ∀ c, isLetterLike c = false →
      (xs.getLast? = some c ↔ ys.getLast? = some c)

namespace SameEnd

@[refl]
theorem refl (xs : List Char) : SameEnd xs xs :=
  ⟨Iff.rfl, fun _ _ => Iff.rfl⟩

theorem append
    {xs ys xs' ys' : List Char}
    (hFirst : SameEnd xs ys)
    (hLater : SameEnd xs' ys') :
    SameEnd (xs ++ xs') (ys ++ ys') := by
  constructor
  · rw [List.append_eq_nil_iff, List.append_eq_nil_iff,
      hFirst.1, hLater.1]
  · intro c hPlain
    by_cases hNil : ys' = []
    · have hNil' : xs' = [] := hLater.1.mpr hNil
      rw [hNil, hNil', List.append_nil, List.append_nil]
      exact hFirst.2 c hPlain
    · have hNil' : xs' ≠ [] := fun h =>
        hNil (hLater.1.mp h)
      rw [List.getLast?_append_of_ne_nil _ hNil,
        List.getLast?_append_of_ne_nil _ hNil']
      exact hLater.2 c hPlain

end SameEnd

theorem sameEnd_mapFirst
    {change : Char → List Char}
    (hSome : ∀ c, change c ≠ [])
    (hMem : ∀ c d, d ∈ change c → d = c ∨ isLetterLike d)
    (hPlain : ∀ c, isLetterLike c = false →
      change c = [c])
    (first : Char)
    (rest : List Char) :
    SameEnd (change first ++ rest) (first :: rest) := by
  have hFirst : SameEnd (change first) [first] := by
    refine ⟨by simp [hSome], ?_⟩
    intro c hLetter
    constructor
    · intro hLast
      rcases hMem first c (List.mem_of_getLast? hLast) with
        hEq | hLike
      · simp [hEq]
      · rw [hLetter] at hLike
        cases hLike
    · intro hLast
      have hEq : first = c := by simpa using hLast
      rw [hEq, hPlain c hLetter]
      rfl
  exact hFirst.append (SameEnd.refl rest)

theorem sameEnd_capitalize (cs : List Char) :
    SameEnd (capitalize cs) cs := by
  cases cs with
  | nil => exact SameEnd.refl []
  | cons first rest =>
      exact sameEnd_mapFirst upper_ne_nil
        (fun _ _ => mem_upper)
        (fun _ hPlain => (upper_eq_self hPlain).1) first rest

theorem sameEnd_uncapitalize (cs : List Char) :
    SameEnd (uncapitalize cs) cs := by
  cases cs with
  | nil => exact SameEnd.refl []
  | cons first rest =>
      exact sameEnd_mapFirst lower_ne_nil
        (fun _ _ => mem_lower)
        (fun _ hPlain => (upper_eq_self hPlain).2) first rest

theorem sameEnd_flatMap_capitalize
    (pieces : List (List Char)) :
    SameEnd (pieces.flatMap capitalize) pieces.flatten := by
  induction pieces with
  | nil => exact SameEnd.refl []
  | cons piece more ih =>
      rw [List.flatMap_cons, List.flatten_cons]
      exact (sameEnd_capitalize piece).append ih

end Text

end PocketDart
