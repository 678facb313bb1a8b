import PocketDart.Files.Tree
import PocketDart.Proofs.Naming.Ends

/-
  This file proves that some names stay below a directory: a
  name without slashes that is not made of dots leads from a
  directory to one place right under it.

  Key definitions include:
    * `Path.IsComponent`

  Key theorems include:
    * `Path.IsComponent.join_ofString`
    * `Path.IsComponent.eq_of_enter`
    * `FileTree.admits_ofString`
-/

------------------------------------------------------------
-- Components
------------------------------------------------------------

namespace PocketDart

namespace Path

/- A name of something right under a directory. -/
structure IsComponent (name : String) : Prop where
  notEmpty : name ≠ ""
  notDot : name ≠ "."
  notDots : name ≠ ".."
  noSlash : '/' ∉ name.toList
  noZero : '\x00' ∉ name.toList

namespace IsComponent

variable {name : String}

/- As a path it has no names but itself. -/
theorem ofString_eq (hName : IsComponent name) :
    Path.ofString name = ⟨false, [name]⟩ := by
  have hHead : name.toList.head? ≠ some '/' := fun hHead =>
    hName.noSlash (List.mem_of_mem_head? hHead)
  simp [Path.ofString, Text.pieces,
    Text.split_of_notMem hName.noSlash, hHead,
    hName.notEmpty, hName.notDot]

/- Below a directory it is the last name of the path. -/
theorem join_ofString
    (hName : IsComponent name)
    (directory : Path) :
    directory.join (Path.ofString name) =
      { directory with
        parts := directory.parts ++ [name] } := by
  rw [hName.ofString_eq]
  rfl

/- From a directory it leads to a place right under it. -/
theorem eq_of_enter
    {place next : Location}
    (hName : IsComponent name)
    (hEnter : FileTree.enter place name = .ok next) :
    next = place ++ [name] := by
  rw [FileTree.enter, if_neg hName.notDots] at hEnter
  split at hEnter
  · cases hEnter
  · exact (Except.ok.inj hEnter).symm

end IsComponent

theorem mem_of_mem_parts
    {s part : String}
    (hPart : part ∈ (Path.ofString s).parts)
    {c : Char}
    (hMem : c ∈ part.toList) :
    c ∈ s.toList := by
  rw [Path.ofString] at hPart
  rcases List.mem_map.mp (List.mem_of_mem_filter hPart) with
    ⟨piece, hPiece, rfl⟩
  rw [String.toList_ofList] at hMem
  have hFlat : c ∈ (Text.pieces '/' s.toList).flatten :=
    List.mem_flatten.mpr ⟨piece, hPiece, hMem⟩
  rw [Text.flatten_pieces] at hFlat
  exact List.mem_of_mem_filter hFlat

end Path

/- A text of characters with bytes is a path that has some. -/
theorem FileTree.admits_ofString
    {tree : FileTree}
    {s : String}
    (hBytes : ∀ c ∈ s.toList,
      c ≠ '\x00' ∧ tree.hasPathBytes c = true) :
    tree.admits (Path.ofString s) = true := by
  simp only [admits, List.all_eq_true, Bool.and_eq_true,
    decide_eq_true_eq]
  exact fun part hPart c hMem =>
    hBytes c (Path.mem_of_mem_parts hPart hMem)

/- So is such a path below another. -/
theorem FileTree.admits_join
    {tree : FileTree}
    {directory path : Path}
    (hDirectory : tree.admits directory = true)
    (hPath : tree.admits path = true) :
    tree.admits (directory.join path) = true := by
  unfold Path.join
  split
  · exact hPath
  · rw [admits] at hDirectory hPath ⊢
    rw [List.all_append, hDirectory, hPath]
    rfl

end PocketDart
