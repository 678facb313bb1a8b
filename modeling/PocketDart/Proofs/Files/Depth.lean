import Mathlib.Data.List.DropRight
import PocketDart.Proofs.Files.Component
import PocketDart.Proofs.Files.Growth
import PocketDart.Proofs.Text.Delimited

/-
  This file proves when making directories goes too deep:
  exactly when the last directories on the way lack a way
  themselves, as many in a row as may be missing. Nothing is
  made then. Any other failure is one of the system, unless
  the path cannot be given to it.

  Key definitions include:
    * `FileError.IsFault`
    * `FileTree.TooDeep`
    * `nestedDirectory`

  Key theorems include:
    * `FileTree.ensurePath_tooDeep_iff`
    * `FileTree.makeDirectories_tooDeep_iff`
    * `FileTree.makeDirectories_of_tooDeep`
    * `FileTree.makeDirectories_isFault_iff`
    * `FileTree.tooDeep_nestedDirectory`
-/

------------------------------------------------------------
-- Faults
------------------------------------------------------------

namespace PocketDart

/- Whether an error is one of the system. -/
def FileError.IsFault (error : FileError) : Prop :=
  ∃ fault text, error = .system fault text

namespace FileTree

variable {tree : FileTree}
variable {path : Path}
variable {error : FileError}

theorem not_isFault_pathError
    (tree : FileTree)
    (path : Path) :
    ¬ (tree.pathError path).IsFault := by
  unfold pathError
  split
  · rintro ⟨_, _, ⟨⟩⟩
  · rintro ⟨_, _, ⟨⟩⟩

/- A path is looked for if it can be given to the system. -/
theorem locate_eq_error
    (hLocate : tree.locate path = .error error) :
    error.IsFault ∧ tree.admits path = true ∨
      error = tree.pathError path ∧
        ¬ tree.admits path = true := by
  unfold locate at hLocate
  by_cases hAdmits : tree.admits path = true
  · left
    rw [if_pos hAdmits] at hLocate
    rcases Fallible.mapError_eq_error.mp hLocate with
      ⟨fault, _, rfl⟩
    exact ⟨⟨fault, _, rfl⟩, hAdmits⟩
  · right
    rw [if_neg hAdmits] at hLocate
    exact ⟨(Except.error.inj hLocate).symm, hAdmits⟩

/- Then it has no place for a fault of the system only. -/
theorem isFault_of_locate_iff
    (hLocate : tree.locate path = .error error) :
    error.IsFault ↔ tree.admits path = true := by
  rcases locate_eq_error hLocate with
    ⟨hFault, hAdmits⟩ | ⟨rfl, hAdmits⟩
  · exact iff_of_true hFault hAdmits
  · exact iff_of_false (not_isFault_pathError tree path)
      hAdmits

theorem settle_eq_some
    (hSettle :
      (tree.settle (tree.ensureDirectory path)).2 =
        some error) :
    tree.ensureDirectory path = .error error := by
  cases hEnsure : tree.ensureDirectory path with
  | ok made =>
      rw [hEnsure] at hSettle
      cases hSettle
  | error cause =>
      rw [hEnsure] at hSettle
      rw [Option.some.inj hSettle]

/- A directory that can be given to the system is made. -/
theorem isFault_of_ensureDirectory_iff
    (hEnsure : tree.ensureDirectory path = .error error) :
    error.IsFault ↔ tree.admits path = true := by
  rcases ensureDirectory_eq_error hEnsure with
    hLocate | ⟨⟨place, hLocate⟩, text, rfl⟩
  · exact isFault_of_locate_iff hLocate
  · exact iff_of_true ⟨_, _, rfl⟩
      (locate_eq_ok_iff.mp hLocate).1

theorem pathError_ne_tooDeep
    (tree : FileTree)
    (path : Path) :
    tree.pathError path ≠ .tooDeep := by
  unfold pathError
  split
  · nofun
  · nofun

theorem settle_ne_tooDeep
    (tree : FileTree)
    (path : Path) :
    (tree.settle (tree.ensureDirectory path)).2 ≠
      some .tooDeep := by
  intro hSettle
  rcases ensureDirectory_eq_error (settle_eq_some hSettle)
    with hLocate | ⟨_, _, hExists⟩
  · rcases locate_eq_error hLocate with
      ⟨⟨_, _, hFault⟩, _⟩ | ⟨hPath, _⟩
    · cases hFault
    · exact pathError_ne_tooDeep tree path hPath.symm
  · cases hExists

------------------------------------------------------------
-- Levels
------------------------------------------------------------

/-
  Levels run out when a way is missing at each of them: by
  induction on the levels, over one and the same tree.
-/
theorem ensurePath_tooDeep_iff
    (absolute : Bool)
    (tree : FileTree)
    (levels : Nat)
    (reversed : List String) :
    (ensurePath absolute tree levels reversed).2 =
        some .tooDeep ↔
      ∀ count < levels,
        count < reversed.length ∧
          tree.LacksWay
            ⟨absolute, (reversed.drop count).reverse⟩ := by
  induction levels generalizing reversed with
  | zero => simp [ensurePath]
  | succ levels ih =>
      rw [Nat.forall_lt_succ_left]
      cases reversed with
      | nil =>
          rw [ensurePath_nil]
          exact iff_of_false (settle_ne_tooDeep tree _)
            fun hAll => absurd hAll.1.1 (Nat.lt_irrefl 0)
      | cons name before =>
          simp only [List.length_cons, Nat.succ_lt_succ_iff,
            List.drop_succ_cons, List.drop_zero,
            Nat.succ_pos, true_and, ← ih]
          rcases ensurePath_cons_cases absolute tree levels
              name before with
            ⟨hHas, hResult⟩ | ⟨hLacks, _, hResult⟩ |
            ⟨_, hNone, hResult⟩
          · rw [hResult]
            exact iff_of_false (settle_ne_tooDeep tree _)
              fun hAll => hHas hAll.1
          · rw [hResult]
            exact (and_iff_right hLacks).symm
          · rw [hResult, hNone]
            refine iff_of_false (settle_ne_tooDeep _ _) ?_
            rintro ⟨_, ⟨⟩⟩

/- When levels run out, nothing was made. -/
theorem ensurePath_of_tooDeep
    (absolute : Bool)
    (tree : FileTree)
    (levels : Nat)
    (reversed : List String)
    (hDeep :
      (ensurePath absolute tree levels reversed).2 =
        some .tooDeep) :
    (ensurePath absolute tree levels reversed).1 = tree := by
  induction levels generalizing reversed with
  | zero => rw [ensurePath]
  | succ levels ih =>
      cases reversed with
      | nil =>
          rw [ensurePath_nil] at hDeep
          exact absurd hDeep (settle_ne_tooDeep tree _)
      | cons name before =>
          rcases ensurePath_cons_cases absolute tree levels
              name before with
            ⟨_, hResult⟩ | ⟨_, _, hResult⟩ | ⟨_, _, hResult⟩
          · rw [hResult] at hDeep
            exact absurd hDeep (settle_ne_tooDeep tree _)
          · rw [hResult] at hDeep ⊢
            exact ih before hDeep
          · rw [hResult] at hDeep
            exact absurd hDeep (settle_ne_tooDeep _ _)

/- The way to a path can be given to the system with it. -/
theorem admits_before
    {absolute : Bool}
    {name : String}
    {before : List String}
    (hAdmits : tree.admits
      ⟨absolute, (name :: before).reverse⟩ = true) :
    tree.admits ⟨absolute, before.reverse⟩ = true := by
  rw [admits, List.reverse_cons, List.all_append] at hAdmits
  exact (Bool.and_eq_true_iff.mp hAdmits).1

theorem ensurePath_isFault_iff
    (absolute : Bool)
    (tree : FileTree)
    (levels : Nat)
    (reversed : List String)
    (hError :
      (ensurePath absolute tree levels reversed).2 =
        some error)
    (hDeep : error ≠ .tooDeep) :
    error.IsFault ↔
      tree.admits ⟨absolute, reversed.reverse⟩ = true := by
  induction levels generalizing reversed with
  | zero =>
      rw [ensurePath] at hError
      exact absurd (Option.some.inj hError).symm hDeep
  | succ levels ih =>
      cases reversed with
      | nil =>
          rw [ensurePath_nil] at hError
          exact isFault_of_ensureDirectory_iff
            (settle_eq_some hError)
      | cons name before =>
          have hFirst := (ensurePath_grows absolute tree levels
            before).1
          rcases ensurePath_cons_cases absolute tree levels
              name before with
            ⟨_, hResult⟩ | ⟨hLacks, _, hResult⟩ |
            ⟨_, _, hResult⟩
          · rw [hResult] at hError
            exact isFault_of_ensureDirectory_iff
              (settle_eq_some hError)
          · rw [hResult] at hError
            have hAdmits := (lacksWay_iff.mp hLacks).1
            exact iff_of_true
              ((ih before hError).mpr (admits_before hAdmits))
              hAdmits
          · rw [hResult] at hError
            rw [← admits_congr hFirst.surrogate]
            exact isFault_of_ensureDirectory_iff
              (settle_eq_some hError)

end FileTree

------------------------------------------------------------
-- Making Directories
------------------------------------------------------------

/- A path without its last names. -/
def Path.above
    (path : Path)
    (count : Nat) : Path :=
  { path with parts := path.parts.rdrop count }

namespace FileTree

/-
  A path of which so many directories are missing, one
  right above the other.
-/
def TooDeep
    (levels : Nat)
    (tree : FileTree)
    (path : Path) : Prop :=
  ∀ count < levels,
    count < path.parts.length ∧
      tree.LacksWay (path.above count)

variable {levels : Nat}
variable {tree : FileTree}
variable {path : Path}

/- A path of no more names than may be missing is not. -/
theorem not_tooDeep_of_length_le
    (hSome : 0 < levels)
    (hLength : path.parts.length ≤ levels) :
    ¬ tree.TooDeep levels path := by
  intro hDeep
  have hPositive := (hDeep 0 hSome).1
  -- Of the highest directory only the first name is left.
  have hLacks := (hDeep (path.parts.length - 1)
    (by omega)).2
  rw [lacksWay_iff, Path.above] at hLacks
  have hOne : (path.parts.rdrop
      (path.parts.length - 1)).length = 1 := by
    rw [List.rdrop, List.length_take]
    omega
  rcases List.length_eq_one_iff.mp hOne with ⟨name, hName⟩
  rw [hName] at hLacks
  exact follow_singleton_ne_noEntry name hLacks.2.2

/- When making directories goes too deep. -/
theorem makeDirectories_tooDeep_iff :
    (tree.makeDirectories levels path).2 = some .tooDeep ↔
      tree.TooDeep levels path := by
  rw [makeDirectories, ensurePath_tooDeep_iff]
  simp only [List.length_reverse, TooDeep, Path.above,
    List.rdrop_eq_reverse_drop_reverse]

/- Nothing is made on a way that is too deep. -/
theorem makeDirectories_of_tooDeep
    (hDeep : tree.TooDeep levels path) :
    tree.makeDirectories levels path =
      (tree, some .tooDeep) := by
  have hError := makeDirectories_tooDeep_iff.mpr hDeep
  exact Prod.ext (ensurePath_of_tooDeep _ _ _ _ hError) hError

/- Else only what cannot be given to the system counts. -/
theorem makeDirectories_isFault_iff
    {error : FileError}
    (hError :
      (tree.makeDirectories levels path).2 = some error) :
    error.IsFault ↔
      ¬ tree.TooDeep levels path ∧
        tree.admits path = true := by
  by_cases hDeep : tree.TooDeep levels path
  · rw [makeDirectories_of_tooDeep hDeep] at hError
    rcases Option.some.inj hError with rfl
    refine iff_of_false ?_ fun hBoth => hBoth.1 hDeep
    rintro ⟨_, _, ⟨⟩⟩
  · have hOther : error ≠ .tooDeep := by
      rintro rfl
      exact hDeep (makeDirectories_tooDeep_iff.mp hError)
    have hFault := ensurePath_isFault_iff path.absolute tree
      levels path.parts.reverse hError hOther
    rw [List.reverse_reverse] at hFault
    exact hFault.trans (and_iff_right hDeep).symm

theorem makeDirectories_ne_none
    (hAdmits : tree.admits path = false) :
    (tree.makeDirectories levels path).2 ≠ none := by
  intro hNone
  have hGrows := makeDirectories_grows levels tree path
  rcases hGrows.2 hNone with ⟨place, hLeads⟩
  have hAfter := (locate_eq_ok_iff.mp hLeads.located).1
  rw [admits_congr hGrows.1.surrogate, hAdmits] at hAfter
  cases hAfter

end FileTree

------------------------------------------------------------
-- Nested Directories
------------------------------------------------------------

/- A path of directories, one in the other. -/
def nestedDirectory (levels : Nat) : String :=
  String.ofList (List.replicate levels ['a', '/']).flatten

/- Its pieces are its names, and an empty one at the end. -/
theorem pieces_nested (levels : Nat) :
    Text.pieces '/'
        (List.replicate levels ['a', '/']).flatten =
      List.replicate levels ['a'] ++ [[]] := by
  induction levels with
  | zero => rfl
  | succ levels ih =>
      have hStep := Text.pieces_append
        (show '/' ∉ ['a'] by decide)
        (List.replicate levels ['a', '/']).flatten
      rw [ih] at hStep
      exact hStep

/- It starts with the name of a directory. -/
theorem head?_nestedDirectory
    {levels : Nat}
    (hSome : 0 < levels) :
    (nestedDirectory levels).toList.head? = some 'a' := by
  rw [nestedDirectory, String.toList_ofList]
  cases levels with
  | zero => cases hSome
  | succ levels =>
      rw [List.replicate_succ, List.flatten_cons]
      rfl

/- Its names. -/
theorem ofString_nestedDirectory
    {levels : Nat}
    (hSome : 0 < levels) :
    Path.ofString (nestedDirectory levels) =
      ⟨false, List.replicate levels "a"⟩ := by
  have hHead := head?_nestedDirectory hSome
  rw [nestedDirectory, String.toList_ofList] at hHead
  simp [Path.ofString, nestedDirectory, pieces_nested, hHead]

/- How long it is in bytes. -/
theorem utf8ByteSize_intercalate_replicate (levels : Nat) :
    ("/".intercalate
        (List.replicate (levels + 1) "a")).utf8ByteSize =
      2 * levels + 1 := by
  induction levels with
  | zero => rfl
  | succ levels ih =>
      rw [List.replicate_succ, List.replicate_succ,
        String.intercalate_cons_cons,
        ← List.replicate_succ, String.utf8ByteSize_append,
        String.utf8ByteSize_append, ih]
      simp only [show "a".utf8ByteSize = 1 from rfl,
        show "/".utf8ByteSize = 1 from rfl]
      omega

namespace FileTree

variable {tree : FileTree}

/- Two names below a directory that is missing lack a way. -/
theorem lacksWay_replicate
    (hBytes : tree.hasPathBytes 'a' = true)
    (hNone : tree.node? (tree.start ++ ["a"]) = none)
    {levels : Nat}
    (hShort : 2 * levels + 3 ≤ maxPathLength) :
    tree.LacksWay
      ⟨false, List.replicate (levels + 2) "a"⟩ := by
  rw [lacksWay_iff]
  refine ⟨?_, ?_, ?_⟩
  · simp [admits, hBytes]
  · have hRender :
        Path.render
            ⟨false, List.replicate (levels + 2) "a"⟩ =
          "/".intercalate
            (List.replicate (levels + 1 + 1) "a") := by
      simp [Path.render, List.replicate_succ]
    rw [hRender, utf8ByteSize_intercalate_replicate]
    omega
  · have hEnter : enter tree.start "a" =
        .ok (tree.start ++ ["a"]) := rfl
    exact follow_of_missing (List.cons_ne_nil _ _) hEnter
      hNone

/-
  Nested directories are too deep when the first of them is
  missing and there are more of them than may be.
-/
theorem tooDeep_nestedDirectory
    (hBytes : tree.hasPathBytes 'a' = true)
    (hNone : tree.node? (tree.start ++ ["a"]) = none)
    {missing levels : Nat}
    (hMany : missing < levels)
    (hShort : 2 * levels ≤ maxPathLength) :
    tree.TooDeep missing
      (.ofString (nestedDirectory levels)) := by
  intro count hCount
  rw [ofString_nestedDirectory (by omega), Path.above,
    List.length_replicate, List.rdrop,
    List.length_replicate, List.take_replicate,
    Nat.min_eq_left (Nat.sub_le levels count)]
  refine ⟨hCount.trans hMany, ?_⟩
  have hLeft : levels - count = levels - count - 2 + 2 := by
    omega
  rw [hLeft]
  exact lacksWay_replicate hBytes hNone (by omega)

end FileTree

end PocketDart
