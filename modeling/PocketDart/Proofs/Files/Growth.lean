import PocketDart.Files.Tree
import PocketDart.Proofs.Fallible

/-
  This file proves that making directories does nothing to a
  tree but add directories where nothing was. A path that
  leads somewhere still leads there as long as directories
  are kept, so a directory that was made is found again.

  Key definitions include:
    * `FileTree.LeadsTo`
    * `FileTree.Keeps`
    * `FileTree.Grows`
    * `FileTree.LacksWay`

  Key theorems include:
    * `FileTree.Keeps.locate`
    * `FileTree.ensureDirectory_grows`
    * `FileTree.ensurePath_cons_cases`
    * `FileTree.ensurePath_grows`
    * `FileTree.makeDirectories_grows`
-/

------------------------------------------------------------
-- Following Names
------------------------------------------------------------

namespace PocketDart

namespace FileTree

variable {tree before middle after : FileTree}
variable {location place next : Location}
variable {path : Path}

theorem ne_root_of_node?
    (hNone : tree.node? location = none) :
    location ≠ [] := by
  rintro rfl
  cases hNone

/- All names but the last lead to directories. -/
theorem follow_cons_eq_ok_iff
    {name : String}
    {rest : List String}
    (hRest : rest ≠ []) :
    tree.follow location (name :: rest) = .ok place ↔
      ∃ next, enter location name = .ok next ∧
        tree.node? next = some .directory ∧
        tree.follow next rest = .ok place := by
  rcases List.exists_cons_of_ne_nil hRest with
    ⟨second, more, rfl⟩
  rw [follow, Fallible.bind_eq_ok]
  · refine exists_congr fun next => and_congr_right fun _ => ?_
    rcases hNode : tree.node? next with _ | _ | bytes
    · simp
    · simp
    · simp
  · exact List.cons_ne_nil second more

theorem follow_singleton_ne_noEntry (name : String) :
    tree.follow location [name] ≠ .error .noEntry := by
  rw [follow, enter]
  split
  · nofun
  · split
    · nofun
    · nofun

theorem follow_cons
    {name : String}
    {rest : List String}
    (hRest : rest ≠ [])
    (hEnter : enter location name = .ok next)
    (hNode : tree.node? next = some .directory) :
    tree.follow location (name :: rest) =
      tree.follow next rest := by
  rcases List.exists_cons_of_ne_nil hRest with
    ⟨second, more, rfl⟩
  rw [follow, hEnter]
  · simp only [Fallible.ok_bind, hNode]
  · exact List.cons_ne_nil second more

theorem follow_of_missing
    {name : String}
    {rest : List String}
    (hRest : rest ≠ [])
    (hEnter : enter location name = .ok next)
    (hNode : tree.node? next = none) :
    tree.follow location (name :: rest) =
      .error .noEntry := by
  rcases List.exists_cons_of_ne_nil hRest with
    ⟨second, more, rfl⟩
  rw [follow, hEnter]
  · simp only [Fallible.ok_bind, hNode]
  · exact List.cons_ne_nil second more

theorem follow_concat
    {names : List String}
    (hFollow : tree.follow location names = .ok place)
    (hNode : tree.node? place = some .directory)
    (name : String) :
    tree.follow location (names ++ [name]) =
      enter place name := by
  induction names generalizing location with
  | nil =>
      rcases Except.ok.inj hFollow with rfl
      rfl
  | cons first rest ih =>
      have hMore : rest ++ [name] ≠ [] := by simp
      rw [List.cons_append]
      by_cases hRest : rest = []
      · subst hRest
        exact follow_cons hMore hFollow hNode
      · rcases (follow_cons_eq_ok_iff hRest).mp hFollow with
          ⟨second, hFirst, hSecond, hPlace⟩
        rw [follow_cons hMore hFirst hSecond, ih hPlace]

------------------------------------------------------------
-- Places of Paths
------------------------------------------------------------

/- The directory where a path starts. -/
def origin
    (tree : FileTree)
    (path : Path) : Location :=
  if path.absolute then [] else tree.start

theorem locate_eq_ok_iff :
    tree.locate path = .ok place ↔
      tree.admits path = true ∧
        path.render.utf8ByteSize ≤ maxPathLength ∧
        tree.follow (tree.origin path) path.parts =
          .ok place := by
  unfold locate origin
  by_cases hAdmits : tree.admits path = true
  · rw [if_pos hAdmits, Fallible.mapError_eq_ok]
    by_cases hShort : path.render.utf8ByteSize ≤ maxPathLength
    · simp [hAdmits, hShort, Nat.not_lt.mpr hShort]
    · simp [hAdmits, hShort, Nat.lt_of_not_le hShort]
  · simp [hAdmits]

theorem admits_congr
    (hSurrogate : after.surrogate? = before.surrogate?)
    (path : Path) :
    after.admits path = before.admits path := by
  unfold admits hasPathBytes
  rw [hSurrogate]

/- A path that leads to a directory. -/
structure LeadsTo
    (tree : FileTree)
    (path : Path)
    (place : Location) : Prop where
  located : tree.locate path = .ok place
  isDirectory : tree.node? place = some .directory

theorem LeadsTo.enter_eq
    {name : String}
    (hLeads : tree.LeadsTo path place)
    (hLocate :
      tree.locate { path with parts := path.parts ++ [name] } =
        .ok location) :
    enter place name = .ok location := by
  have hPlace := (locate_eq_ok_iff.mp hLeads.located).2.2
  rw [← follow_concat hPlace hLeads.isDirectory]
  exact (locate_eq_ok_iff.mp hLocate).2.2

theorem exists_leadsTo_of_isDirectory
    (hTest : tree.isDirectory path = true) :
    ∃ place, tree.LeadsTo path place := by
  unfold FileTree.isDirectory at hTest
  cases hLocate : tree.locate path with
  | error cause =>
      rw [hLocate] at hTest
      cases hTest
  | ok place =>
      rw [hLocate] at hTest
      exact ⟨place, hLocate, of_decide_eq_true hTest⟩

------------------------------------------------------------
-- Kept Directories
------------------------------------------------------------

/- All directories of a tree are left in a later one. -/
structure Keeps (before after : FileTree) : Prop where
  start : after.start = before.start
  surrogate : after.surrogate? = before.surrogate?
  directories :
    ∀ location, before.node? location = some .directory →
      after.node? location = some .directory

namespace Keeps

@[refl]
theorem refl (tree : FileTree) : tree.Keeps tree :=
  ⟨rfl, rfl, fun _ hNode => hNode⟩

/- What is kept twice is kept. -/
theorem trans
    (hFirst : before.Keeps middle)
    (hSecond : middle.Keeps after) :
    before.Keeps after :=
  ⟨hSecond.start.trans hFirst.start,
    hSecond.surrogate.trans hFirst.surrogate,
    fun location hNode => hSecond.directories _
      (hFirst.directories location hNode)⟩

theorem set
    (hNode : tree.node? location ≠ some .directory)
    (node : FileNode) :
    tree.Keeps (tree.set location node) := by
  refine ⟨rfl, rfl, fun other hOther => ?_⟩
  have hApart : other ≠ location := by
    rintro rfl
    exact hNode hOther
  rwa [node?_set_ne tree hApart]

/- Names still lead where they led. -/
theorem follow
    (hKeeps : before.Keeps after)
    {names : List String}
    (hFollow : before.follow location names = .ok place) :
    after.follow location names = .ok place := by
  induction names generalizing location with
  | nil => exact hFollow
  | cons name rest ih =>
      by_cases hRest : rest = []
      · subst hRest
        exact hFollow
      · rw [follow_cons_eq_ok_iff hRest] at hFollow ⊢
        rcases hFollow with ⟨next, hEnter, hNode, hMore⟩
        exact ⟨next, hEnter, hKeeps.directories _ hNode,
          ih hMore⟩

theorem locate
    (hKeeps : before.Keeps after)
    (hLocate : before.locate path = .ok place) :
    after.locate path = .ok place := by
  rw [locate_eq_ok_iff] at hLocate ⊢
  rw [admits_congr hKeeps.surrogate]
  refine ⟨hLocate.1, hLocate.2.1, ?_⟩
  have hOrigin : after.origin path = before.origin path := by
    rw [origin, origin, hKeeps.start]
  rw [hOrigin]
  exact hKeeps.follow hLocate.2.2

theorem leadsTo
    (hKeeps : before.Keeps after)
    (hLeads : before.LeadsTo path place) :
    after.LeadsTo path place :=
  ⟨hKeeps.locate hLeads.located,
    hKeeps.directories _ hLeads.isDirectory⟩

end Keeps

------------------------------------------------------------
-- New Directories
------------------------------------------------------------

/- Nothing is changed but that there are new directories. -/
structure Grows (before after : FileTree) : Prop where
  start : after.start = before.start
  surrogate : after.surrogate? = before.surrogate?
  nodes :
    ∀ location,
      after.node? location = before.node? location ∨
        before.node? location = none ∧
          after.node? location = some .directory

namespace Grows

/- Nothing at all may be new. -/
@[refl]
theorem refl (tree : FileTree) : tree.Grows tree :=
  ⟨rfl, rfl, fun _ => Or.inl rfl⟩

/- New directories may come one after the other. -/
theorem trans
    (hFirst : before.Grows middle)
    (hSecond : middle.Grows after) :
    before.Grows after := by
  refine ⟨hSecond.start.trans hFirst.start,
    hSecond.surrogate.trans hFirst.surrogate,
    fun location => ?_⟩
  rcases hSecond.nodes location with hSame | ⟨hNone, hNew⟩
  · rw [hSame]
    exact hFirst.nodes location
  · rcases hFirst.nodes location with hSame | ⟨_, hOld⟩
    · rw [hSame] at hNone
      exact Or.inr ⟨hNone, hNew⟩
    · rw [hNone] at hOld
      cases hOld

theorem set
    (hNone : tree.node? location = none) :
    tree.Grows (tree.set location .directory) := by
  have hRoot : location ≠ [] :=
    ne_root_of_node? hNone
  refine ⟨rfl, rfl, fun other => ?_⟩
  by_cases hOther : other = location
  · subst hOther
    exact Or.inr ⟨hNone, node?_set_self tree hRoot _⟩
  · exact Or.inl (node?_set_ne tree hOther _)

/- No directory is lost by new ones. -/
theorem keeps (hGrows : before.Grows after) :
    before.Keeps after := by
  refine ⟨hGrows.start, hGrows.surrogate,
    fun location hNode => ?_⟩
  rcases hGrows.nodes location with hSame | ⟨hNone, _⟩
  · rw [hSame, hNode]
  · rw [hNone] at hNode
    cases hNode

/- The files are those that were there. -/
theorem file_iff
    (hGrows : before.Grows after)
    (bytes : List UInt8) :
    after.node? location = some (.file bytes) ↔
      before.node? location = some (.file bytes) := by
  rcases hGrows.nodes location with hSame | ⟨hNone, hNew⟩
  · rw [hSame]
  · simp [hNone, hNew]

end Grows

/- A directory that is made is a new one. -/
theorem makeDirectory_grows
    (hMake : tree.makeDirectory path = .ok after) :
    tree.Grows after ∧
      ∃ place, after.LeadsTo path place := by
  rcases Fallible.bind_eq_ok.mp hMake with
    ⟨place, hLocate, hSet⟩
  cases hNode : tree.node? place with
  | some node =>
      rw [hNode] at hSet
      cases hSet
  | none =>
      rw [hNode] at hSet
      rcases Except.ok.inj hSet with rfl
      have hGrows := Grows.set hNode
      have hRoot : place ≠ [] :=
        ne_root_of_node? hNode
      exact ⟨hGrows, place, hGrows.keeps.locate hLocate,
        node?_set_self tree hRoot _⟩

/- A directory that is there or made is led to. -/
theorem ensureDirectory_grows
    (hEnsure : tree.ensureDirectory path = .ok after) :
    tree.Grows after ∧
      ∃ place, after.LeadsTo path place := by
  unfold ensureDirectory at hEnsure
  cases hMake : tree.makeDirectory path with
  | ok made =>
      rw [hMake] at hEnsure
      rcases Except.ok.inj hEnsure with rfl
      exact makeDirectory_grows hMake
  | error cause =>
      rw [hMake] at hEnsure
      cases hTest : tree.isDirectory path with
      | false => simp [hTest] at hEnsure
      | true =>
          rw [hTest] at hEnsure
          rcases Except.ok.inj hEnsure with rfl
          exact ⟨.refl tree,
            exists_leadsTo_of_isDirectory hTest⟩

theorem settle_grows
    (tree : FileTree)
    (path : Path) :
    let result := tree.settle (tree.ensureDirectory path)
    tree.Grows result.1 ∧
      (result.2 = none →
        ∃ place, result.1.LeadsTo path place) := by
  cases hEnsure : tree.ensureDirectory path with
  | error cause => exact ⟨.refl tree, nofun⟩
  | ok made =>
      exact ⟨(ensureDirectory_grows hEnsure).1,
        fun _ => (ensureDirectory_grows hEnsure).2⟩

------------------------------------------------------------
-- Directories on the Way
------------------------------------------------------------

/- A path on whose way a directory is missing. -/
def LacksWay
    (tree : FileTree)
    (path : Path) : Prop :=
  ∃ text, tree.locate path = .error (.system .noEntry text)

/- When a directory is missing on the way. -/
theorem lacksWay_iff :
    tree.LacksWay path ↔
      tree.admits path = true ∧
        path.render.utf8ByteSize ≤ maxPathLength ∧
        tree.follow (tree.origin path) path.parts =
          .error .noEntry := by
  unfold LacksWay locate origin
  by_cases hAdmits : tree.admits path = true
  · rw [if_pos hAdmits]
    by_cases hShort : path.render.utf8ByteSize ≤ maxPathLength
    · rw [if_neg (Nat.not_lt.mpr hShort)]
      cases tree.follow
          (if path.absolute then [] else tree.start)
          path.parts with
      | ok place => simp [Fallible.mapError_eq_error]
      | error fault =>
          simp [Fallible.mapError_eq_error, hAdmits, hShort]
    · simp [Fallible.mapError_eq_error, hShort,
        Nat.lt_of_not_le hShort]
  · refine iff_of_false ?_ fun hLacks => hAdmits hLacks.1
    rw [if_neg hAdmits, pathError]
    split
    · rintro ⟨_, ⟨⟩⟩
    · rintro ⟨_, ⟨⟩⟩

/-
  A directory cannot be had because its path has no place or
  because something else is there.
-/
theorem ensureDirectory_eq_error
    {cause : FileError}
    (hEnsure : tree.ensureDirectory path = .error cause) :
    tree.locate path = .error cause ∨
      (∃ place, tree.locate path = .ok place) ∧
        ∃ text, cause = .system .exists text := by
  unfold ensureDirectory makeDirectory at hEnsure
  cases hLocate : tree.locate path with
  | error fault =>
      left
      simp only [hLocate, FileTree.isDirectory]
        at hEnsure
      simpa using hEnsure
  | ok place =>
      right
      rw [hLocate] at hEnsure
      cases hNode : tree.node? place with
      | none => simp [hNode] at hEnsure
      | some node =>
          simp only [Fallible.ok_bind, hNode] at hEnsure
          split at hEnsure
          · cases hEnsure
          · exact ⟨⟨place, rfl⟩, _,
              (Except.error.inj hEnsure).symm⟩

theorem ensureDirectory_noEntry_iff :
    (∃ text, tree.ensureDirectory path =
        .error (.system .noEntry text)) ↔
      tree.LacksWay path := by
  constructor
  · rintro ⟨text, hEnsure⟩
    rcases ensureDirectory_eq_error hEnsure with
      hLocate | ⟨_, _, hExists⟩
    · exact ⟨text, hLocate⟩
    · cases hExists
  · rintro ⟨text, hLocate⟩
    refine ⟨text, ?_⟩
    simp [ensureDirectory, makeDirectory,
      FileTree.isDirectory, hLocate]

/- The first of all directories has no way to it. -/
theorem ensurePath_nil
    (absolute : Bool)
    (tree : FileTree)
    (levels : Nat) :
    ensurePath absolute tree (levels + 1) [] =
      tree.settle (tree.ensureDirectory ⟨absolute, []⟩) := by
  rw [ensurePath]
  exact Nat.succ_ne_zero levels

/-
  The other directories: one that lacks a way waits for the
  directory before it, and fails as that does.
-/
theorem ensurePath_cons_cases
    (absolute : Bool)
    (tree : FileTree)
    (levels : Nat)
    (name : String)
    (before : List String) :
    let path : Path := ⟨absolute, (name :: before).reverse⟩
    let first := ensurePath absolute tree levels before
    let result :=
      ensurePath absolute tree (levels + 1) (name :: before)
    (¬ tree.LacksWay path ∧
      result = tree.settle (tree.ensureDirectory path)) ∨
    (tree.LacksWay path ∧ first.2 ≠ none ∧
      result = first) ∨
    (tree.LacksWay path ∧ first.2 = none ∧
      result =
        first.1.settle (first.1.ensureDirectory path)) := by
  intro path first result
  have hResult : result =
      ensurePath absolute tree (levels + 1)
        (name :: before) := rfl
  rw [ensurePath] at hResult
  split at hResult
  · next text hEnsure =>
      have hLacks := ensureDirectory_noEntry_iff.mp
        ⟨text, hEnsure⟩
      right
      rcases hFirst : first with ⟨middle, _ | cause⟩
      · rw [show ensurePath absolute tree levels before =
          (middle, none) from hFirst] at hResult
        exact Or.inr ⟨hLacks, rfl, hResult⟩
      · rw [show ensurePath absolute tree levels before =
          (middle, some cause) from hFirst] at hResult
        exact Or.inl ⟨hLacks, nofun, hResult⟩
  · next hOther =>
      refine Or.inl ⟨fun hLacks => ?_, hResult⟩
      rcases ensureDirectory_noEntry_iff.mpr hLacks with
        ⟨text, hEnsure⟩
      exact hOther text hEnsure

/-
  A directory with those on the way to it: by induction on
  the levels that may be missing.
-/
theorem ensurePath_grows
    (absolute : Bool)
    (tree : FileTree)
    (levels : Nat)
    (reversed : List String) :
    let result := ensurePath absolute tree levels reversed
    tree.Grows result.1 ∧
      (result.2 = none →
        ∃ place,
          result.1.LeadsTo ⟨absolute, reversed.reverse⟩
            place) := by
  induction levels generalizing reversed with
  | zero =>
      rw [ensurePath]
      exact ⟨.refl tree, nofun⟩
  | succ levels ih =>
      cases reversed with
      | nil =>
          rw [ensurePath_nil]
          exact settle_grows tree _
      | cons name before =>
          have hFirst := ih before
          rcases ensurePath_cons_cases absolute tree levels
              name before with
            ⟨_, hResult⟩ | ⟨_, hFails, hResult⟩ |
            ⟨_, _, hResult⟩
          · rw [hResult]
            exact settle_grows tree _
          · rw [hResult]
            exact ⟨hFirst.1, fun hNone =>
              absurd hNone hFails⟩
          · rw [hResult]
            have hLast := settle_grows
              (ensurePath absolute tree levels before).1
              ⟨absolute, (name :: before).reverse⟩
            exact ⟨hFirst.1.trans hLast.1, hLast.2⟩

/-
  Making directories adds directories and nothing else, and
  when it does not fail, the path leads to a directory.
-/
theorem makeDirectories_grows
    (levels : Nat)
    (tree : FileTree)
    (path : Path) :
    tree.Grows (makeDirectories levels tree path).1 ∧
      ((makeDirectories levels tree path).2 = none →
        ∃ place,
          (makeDirectories levels tree path).1.LeadsTo path
            place) := by
  have hMade := ensurePath_grows path.absolute tree levels
    path.parts.reverse
  rwa [List.reverse_reverse] at hMade

end FileTree

end PocketDart
