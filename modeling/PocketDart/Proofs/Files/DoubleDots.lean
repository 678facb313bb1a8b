import PocketDart.Proofs.Files.Growth

/-
  This file proves that a path that leads somewhere leads to
  the same place once its double dots are resolved by the
  letter. The converse does not hold: the letter forgets the
  names that are taken back, whether they are there or not.

  Key definitions include:
    * `FileTree.IsReached`

  Key theorems include:
    * `Path.collapseParts_sublist`
    * `FileTree.follow_collapseParts`
    * `FileTree.locate_collapse`
-/

------------------------------------------------------------
-- Names That Are Left
------------------------------------------------------------

namespace PocketDart

namespace Path

/- Names are dropped, and no others come in. -/
theorem collapseParts_sublist
    (absolute : Bool)
    (kept rest : List String) :
    (collapseParts absolute kept rest).Sublist
      (kept.reverse ++ rest) := by
  fun_induction collapseParts absolute kept rest with
  | case1 kept => simp
  | case2 rest hAbsolute ih =>
      exact ih.trans (List.sublist_cons_self ".." rest)
  | case3 rest hRelative ih => exact ih
  | case4 rest before ih => simpa using ih
  | case5 rest name before hName ih =>
      apply ih.trans
      rw [List.reverse_cons, List.append_assoc]
      apply List.Sublist.append_left
      exact List.sublist_append_right [name, ".."] rest
  | case6 kept name rest hName ih => simpa using ih

/- So a path can be given to the system as before. -/
theorem admits_collapse
    {tree : FileTree}
    {path : Path}
    (hAdmits : tree.admits path = true) :
    tree.admits path.collapse = true := by
  rw [FileTree.admits, List.all_eq_true] at hAdmits ⊢
  intro part hPart
  apply hAdmits part
  exact (collapseParts_sublist path.absolute []
    path.parts).subset hPart

/- How long names with slashes between them are. -/
theorem utf8ByteSize_intercalate_cons
    (name : String)
    (rest : List String) :
    ("/".intercalate (name :: rest)).utf8ByteSize =
      name.utf8ByteSize +
        if rest = [] then 0
        else 1 + ("/".intercalate rest).utf8ByteSize := by
  cases rest with
  | nil => simp
  | cons second more =>
      have hSlash : "/".utf8ByteSize = 1 := rfl
      rw [String.intercalate_cons_cons,
        String.utf8ByteSize_append,
        String.utf8ByteSize_append, hSlash,
        if_neg (List.cons_ne_nil second more)]
      omega

theorem utf8ByteSize_intercalate_le
    {fewer names : List String}
    (hFewer : fewer.Sublist names) :
    ("/".intercalate fewer).utf8ByteSize ≤
      ("/".intercalate names).utf8ByteSize := by
  induction hFewer with
  | slnil => exact Nat.le_refl _
  | @cons fewer names name hRest ih =>
      rw [utf8ByteSize_intercalate_cons]
      by_cases hNames : names = []
      · subst hNames
        rw [List.sublist_nil.mp hRest]
        simp
      · rw [if_neg hNames]
        omega
  | @cons_cons fewer names name hRest ih =>
      rw [utf8ByteSize_intercalate_cons,
        utf8ByteSize_intercalate_cons]
      by_cases hFew : fewer = []
      · rw [if_pos hFew]
        omega
      · have hNames : names ≠ [] := by
          rintro rfl
          exact hFew (List.sublist_nil.mp hRest)
        rw [if_neg hFew, if_neg hNames]
        omega

theorem utf8ByteSize_collapse_le
    (path : Path) :
    path.collapse.render.utf8ByteSize ≤
      max 1 path.render.utf8ByteSize := by
  have hSublist : path.collapse.parts.Sublist path.parts :=
    collapseParts_sublist path.absolute [] path.parts
  have hLength := utf8ByteSize_intercalate_le hSublist
  have hAbsolute : path.collapse.absolute = path.absolute :=
    rfl
  unfold render
  rw [hAbsolute]
  split
  · rw [String.utf8ByteSize_append,
      String.utf8ByteSize_append]
    omega
  · by_cases hNone : path.collapse.parts = []
    · rw [hNone]
      exact Nat.le_max_left 1 _
    · have hSome : path.parts ≠ [] := by
        intro hParts
        rw [hParts] at hSublist
        exact hNone (List.sublist_nil.mp hSublist)
      simp only [List.isEmpty_iff, hNone, hSome, if_false]
      exact Nat.le_trans hLength (Nat.le_max_right 1 _)

end Path

------------------------------------------------------------
-- Places
------------------------------------------------------------

namespace FileTree

variable {tree : FileTree}
variable {origin here place : Location}

theorem exists_next_of_follow
    {name : String}
    {rest : List String}
    (hFollow :
      tree.follow here (name :: rest) = .ok place) :
    ∃ next, enter here name = .ok next ∧
      (rest ≠ [] → tree.node? next = some .directory) ∧
      tree.follow next rest = .ok place := by
  by_cases hRest : rest = []
  · subst hRest
    exact ⟨place, hFollow, fun hNone => absurd rfl hNone,
      rfl⟩
  · rcases (follow_cons_eq_ok_iff hRest).mp hFollow with
      ⟨next, hEnter, hNode, hMore⟩
    exact ⟨next, hEnter, fun _ => hNode, hMore⟩

theorem exists_before_of_follow
    {name : String}
    {names : List String}
    (hFollow :
      tree.follow here (names ++ [name]) = .ok place) :
    ∃ there, tree.follow here names = .ok there ∧
      (names ≠ [] → tree.node? there = some .directory) ∧
      enter there name = .ok place := by
  induction names generalizing here with
  | nil =>
      exact ⟨here, rfl, fun hNone => absurd rfl hNone,
        hFollow⟩
  | cons first rest ih =>
      rcases exists_next_of_follow hFollow with
        ⟨next, hFirst, hNext, hMore⟩
      have hNode := hNext (by simp)
      rcases ih hMore with ⟨there, hThere, hRest, hEnter⟩
      by_cases hNone : rest = []
      · subst hNone
        rcases Except.ok.inj hThere with rfl
        exact ⟨next, hFirst, fun _ => hNode, hEnter⟩
      · exact ⟨there,
          (follow_cons hNone hFirst hNode).trans hThere,
          fun _ => hRest hNone, hEnter⟩

/-
  The names that are kept lead to where the path has come,
  which is a directory if the path goes on from there.
-/
structure IsReached
    (tree : FileTree)
    (origin here : Location)
    (kept rest : List String) : Prop where
  follow : tree.follow origin kept.reverse = .ok here
  isDirectory :
    rest ≠ [] → kept ≠ [] →
      tree.node? here = some .directory

theorem IsReached.push
    {next : Location}
    {kept rest : List String}
    {name : String}
    (hReached :
      tree.IsReached origin here kept (name :: rest))
    (hEnter : enter here name = .ok next)
    (hNode :
      rest ≠ [] → tree.node? next = some .directory) :
    tree.IsReached origin next (name :: kept) rest := by
  refine ⟨?_, fun hRest _ => hNode hRest⟩
  rw [List.reverse_cons]
  by_cases hKept : kept = []
  · subst hKept
    rcases Except.ok.inj hReached.follow with rfl
    exact hEnter
  · rw [follow_concat hReached.follow
      (hReached.isDirectory (List.cons_ne_nil _ _) hKept)]
    exact hEnter

theorem IsReached.pop
    {kept rest : List String}
    {name : String}
    (hName : name ≠ "..")
    (hReached :
      tree.IsReached origin here (name :: kept)
        (".." :: rest)) :
    tree.IsReached origin here.dropLast kept rest := by
  have hFollow := hReached.follow
  rw [List.reverse_cons] at hFollow
  rcases exists_before_of_follow hFollow with
    ⟨there, hThere, hNode, hEnter⟩
  have hHere : here = there ++ [name] := by
    rw [enter, if_neg hName] at hEnter
    split at hEnter
    · cases hEnter
    · exact (Except.ok.inj hEnter).symm
  rw [hHere, List.dropLast_concat]
  refine ⟨hThere, fun _ hKept => hNode ?_⟩
  exact fun hNone => hKept (List.reverse_eq_nil_iff.mp hNone)

/-
  Resolving the double dots does not change the place. The
  names that are kept lead to where the path has come, at
  each step.
-/
theorem follow_collapseParts
    {absolute : Bool}
    (hAbsolute : absolute = true → origin = [])
    {kept rest : List String}
    (hReached : tree.IsReached origin here kept rest)
    (hFollow : tree.follow here rest = .ok place) :
    tree.follow origin
        (Path.collapseParts absolute kept rest) =
      .ok place := by
  fun_induction Path.collapseParts absolute kept rest
    generalizing here with
  | case1 kept =>
      rw [hReached.follow]
      exact hFollow
  | case2 rest hTop ih =>
      rcases exists_next_of_follow hFollow with
        ⟨next, hEnter, -, hMore⟩
      rcases Except.ok.inj hReached.follow with rfl
      rcases Except.ok.inj hEnter with rfl
      apply ih ⟨?_, fun _ hNone => absurd rfl hNone⟩ hMore
      rw [hAbsolute hTop]
      rfl
  | case3 rest hRelative ih =>
      rcases exists_next_of_follow hFollow with
        ⟨next, hEnter, hNode, hMore⟩
      exact ih (hReached.push hEnter hNode) hMore
  | case4 rest before ih =>
      rcases exists_next_of_follow hFollow with
        ⟨next, hEnter, hNode, hMore⟩
      exact ih (hReached.push hEnter hNode) hMore
  | case5 rest name before hName ih =>
      rcases exists_next_of_follow hFollow with
        ⟨next, hEnter, -, hMore⟩
      rcases Except.ok.inj hEnter with rfl
      exact ih (hReached.pop hName) hMore
  | case6 kept name rest hName ih =>
      rcases exists_next_of_follow hFollow with
        ⟨next, hEnter, hNode, hMore⟩
      exact ih (hReached.push hEnter hNode) hMore

/- A path with a place has it without the dots as well. -/
theorem locate_collapse
    {path : Path}
    (hLocate : tree.locate path = .ok place) :
    tree.locate path.collapse = .ok place := by
  rw [locate_eq_ok_iff] at hLocate ⊢
  rcases hLocate with ⟨hAdmits, hShort, hFollow⟩
  refine ⟨Path.admits_collapse hAdmits, ?_, ?_⟩
  · apply Nat.le_trans (Path.utf8ByteSize_collapse_le path)
    exact Nat.max_le.mpr ⟨by decide, hShort⟩
  · have hStart : tree.IsReached (tree.origin path)
        (tree.origin path) [] path.parts :=
      ⟨rfl, fun _ hNone => absurd rfl hNone⟩
    apply follow_collapseParts ?_ hStart hFollow
    intro hAbsolute
    rw [FileTree.origin, if_pos hAbsolute]

end FileTree

end PocketDart
