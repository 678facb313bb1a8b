import PocketDart.Proofs.Files.Depth
import PocketDart.Proofs.Files.Writing

/-
  This file proves why writing models fails. Mostly the
  system is against it, which is told with the directory or
  the file in question. Otherwise writing is stranded: too
  many directories are missing, the path of the directory or
  of a model cannot be given to the system, or the source of
  a model has no bytes.

  Key definitions include:
    * `FileTree.Takes`
    * `FileTree.StrandsIn`
    * `FileTree.Strands`

  Key theorems include:
    * `FileTree.isFault_of_writeFile_iff`
    * `writeModels_unusable_iff`
    * `FileTree.strands_iff_tooDeep`
-/

------------------------------------------------------------
-- Written Texts
------------------------------------------------------------

namespace PocketDart

namespace FileTree

variable {tree after : FileTree}
variable {path : Path}
variable {text : String}
variable {error : FileError}

/-
  A text can be written to a path as far as the system
  allows: the path can be given to it, and if a file is
  opened for the text, the text has bytes.
-/
structure Takes
    (tree : FileTree)
    (path : Path)
    (text : String) : Prop where
  admits : tree.admits path = true
  encodes :
    ∀ place, tree.locate path = .ok place →
      tree.node? place ≠ some .directory →
        tree.encodes text = true

theorem takes_of_writeFile
    (hWrite : tree.writeFile path text = .ok after) :
    tree.Takes path text := by
  rcases exists_locate_of_writeFile hWrite with
    ⟨place, hLocate, _, hBytes, _⟩
  exact ⟨(locate_eq_ok_iff.mp hLocate).1, fun _ _ _ => hBytes⟩

/- What can be written fails for a fault of the system. -/
theorem isFault_of_writeFile_iff
    (hWrite : tree.writeFile path text = .error error) :
    error.IsFault ↔ tree.Takes path text := by
  unfold writeFile at hWrite
  cases hLocate : tree.locate path with
  | error cause =>
      rw [hLocate] at hWrite
      rcases Except.error.inj hWrite with rfl
      rw [isFault_of_locate_iff hLocate]
      constructor
      · exact fun hAdmits => ⟨hAdmits, by simp [hLocate]⟩
      · exact fun hTakes => hTakes.admits
  | ok place =>
      have hAdmits := (locate_eq_ok_iff.mp hLocate).1
      simp only [hLocate, Fallible.ok_bind] at hWrite
      split at hWrite
      · next hNode =>
          refine iff_of_true ?_ ⟨hAdmits, ?_⟩
          · exact ⟨_, _, (Except.error.inj hWrite).symm⟩
          · intro other hOther hFree
            rw [hLocate] at hOther
            rcases Except.ok.inj hOther with rfl
            exact absurd hNode hFree
      · next hFree =>
          split at hWrite
          · cases hWrite
          · next hBytes =>
              refine iff_of_false ?_ fun hTakes =>
                hBytes (hTakes.encodes place hLocate hFree)
              rintro ⟨_, _, rfl⟩
              cases hWrite

------------------------------------------------------------
-- Stranded Models
------------------------------------------------------------

/-
  Models are stranded in a directory if the first of them
  cannot be written, or the others cannot once it is.
-/
def StrandsIn
    (directory : Path)
    (tree : FileTree) : List GeneratedModel → Prop
  | [] => False
  | model :: rest =>
      ¬ tree.Takes (model.path directory) model.source ∨
        ∃ next,
          tree.writeFile (model.path directory)
              model.source = .ok next ∧
            next.StrandsIn directory rest

/-
  Models are stranded if the directory cannot be asked for,
  or if they are stranded in the directory once it is made.
-/
def Strands
    (levels : Nat)
    (tree : FileTree)
    (directory : Path)
    (models : List GeneratedModel) : Prop :=
  tree.TooDeep levels directory ∨
    tree.admits directory = false ∨
    (tree.makeDirectories levels directory).2 = none ∧
      (tree.makeDirectories levels directory).1.StrandsIn
        directory models

end FileTree

------------------------------------------------------------
-- Errors
------------------------------------------------------------

namespace WriteError

variable {place : FileError → WriteError}
variable {error : FileError}

theorem of_fault
    (hFault : error.IsFault)
    (place : FileError → WriteError) :
    of place error = place error := by
  rcases hFault with ⟨fault, text, rfl⟩
  rfl

theorem of_eq_unusable
    (hFault : ¬ error.IsFault)
    (place : FileError → WriteError) :
    of place error = .unusable error := by
  cases error with
  | system fault path => exact absurd ⟨_, _, rfl⟩ hFault
  | _ => rfl

theorem exists_of_eq_unusable_iff
    (hPlace : ∀ error other, place error ≠ .unusable other) :
    (∃ other, of place error = .unusable other) ↔
      ¬ error.IsFault := by
  constructor
  · rintro ⟨other, hOther⟩ hFault
    rw [of_fault hFault] at hOther
    exact hPlace error other hOther
  · exact fun hFault => ⟨error, of_eq_unusable hFault place⟩

end WriteError

namespace FileTree

theorem admits_ofString_of_plain
    {tree : FileTree}
    {s : String}
    (hPlain : ∀ c, tree.surrogate? c = none)
    (hZero : '\x00' ∉ s.toList) :
    tree.admits (.ofString s) = true := by
  apply admits_ofString
  intro c hMem
  refine ⟨fun hEq => hZero (hEq ▸ hMem), ?_⟩
  rw [hasPathBytes, hPlain]
  rfl

theorem not_strandsIn_of_plain
    {tree : FileTree}
    {directory : Path}
    {models : List GeneratedModel}
    (hPlain : ∀ c, tree.surrogate? c = none)
    (hNames : ∀ model ∈ models,
      '\x00' ∉ model.fileName.toList)
    (hAdmits : tree.admits directory = true) :
    ¬ tree.StrandsIn directory models := by
  induction models generalizing tree with
  | nil => exact id
  | cons model rest ih =>
      rcases List.forall_mem_cons.mp hNames with
        ⟨hName, hRest⟩
      rintro (hTakes | ⟨next, hWrite, hLater⟩)
      · refine hTakes ⟨admits_join hAdmits
          (admits_ofString_of_plain hPlain hName), ?_⟩
        intro _ _ _
        simp [encodes, hPlain]
      · rcases exists_locate_of_writeFile hWrite with
          ⟨place, _, _, _, rfl⟩
        have hNext : ∀ c, (tree.set place (.file
            (Utf8.encode model.source))).surrogate? c =
              none := hPlain
        exact ih hNext hRest hAdmits hLater

end FileTree

variable {levels : Nat}
variable {tree : FileTree}
variable {directory : String}
variable {models : List GeneratedModel}

theorem writeInto_unusable_iff
    {path : Path} :
    (∃ error, (writeInto path tree models).result =
        .error (.unusable error)) ↔
      tree.StrandsIn path models := by
  induction models generalizing tree with
  | nil =>
      refine iff_of_false ?_ id
      rintro ⟨_, ⟨⟩⟩
  | cons model rest ih =>
      rw [writeInto_cons, FileTree.StrandsIn]
      cases hWrite : tree.writeFile (model.path path)
          model.source with
      | error error =>
          simp only [Except.error.injEq, reduceCtorEq,
            false_and, exists_false, or_false]
          rw [WriteError.exists_of_eq_unusable_iff
              fun _ _ => WriteError.noConfusion,
            FileTree.isFault_of_writeFile_iff hWrite]
      | ok next =>
          have hTakes := FileTree.takes_of_writeFile hWrite
          simp only [hTakes, not_true_eq_false, false_or,
            Except.ok.injEq, exists_eq_left', ← ih,
            Written.after, Fallible.map_eq_error]

/- Writing models fails elsewhere for the system only. -/
theorem writeModels_unusable_iff :
    (∃ error, (writeModels levels tree directory
        models).result = .error (.unusable error)) ↔
      tree.Strands levels (.ofString directory) models := by
  unfold writeModels FileTree.Strands
  dsimp only
  rcases hMade : tree.makeDirectories levels
      (Path.ofString directory) with ⟨base, _ | error⟩
  · have hRoom : ¬ tree.TooDeep levels
        (.ofString directory) := by
      intro hDeep
      rw [FileTree.makeDirectories_of_tooDeep hDeep] at hMade
      cases hMade
    have hAdmits : tree.admits (.ofString directory) =
        true := by
      by_contra hNone
      exact FileTree.makeDirectories_ne_none
        (Bool.eq_false_iff.mpr hNone)
        (congrArg Prod.snd hMade)
    simp only [hRoom, hAdmits, Bool.true_eq_false, false_or,
      true_and]
    exact writeInto_unusable_iff
  · have hFault := FileTree.makeDirectories_isFault_iff
      (congrArg Prod.snd hMade)
    simp only [Except.error.injEq, reduceCtorEq, false_and,
      or_false]
    rw [WriteError.exists_of_eq_unusable_iff
        fun _ _ => WriteError.noConfusion, hFault,
      not_and_or, not_not, Bool.not_eq_true]

/-
  Where no character stands for a surrogate and the names
  are without the character zero, models are stranded only
  because too many directories are missing.
-/
theorem FileTree.strands_iff_tooDeep
    (hPlain : ∀ c, tree.surrogate? c = none)
    (hDirectory : '\x00' ∉ directory.toList)
    (hNames : ∀ model ∈ models,
      '\x00' ∉ model.fileName.toList) :
    tree.Strands levels (.ofString directory) models ↔
      tree.TooDeep levels (.ofString directory) := by
  have hAdmits := admits_ofString_of_plain hPlain hDirectory
  have hGrows := makeDirectories_grows levels tree
    (.ofString directory)
  have hRest : ¬ (tree.makeDirectories levels
      (.ofString directory)).1.StrandsIn (.ofString directory)
        models := by
    apply not_strandsIn_of_plain _ hNames
    · rwa [admits_congr hGrows.1.surrogate]
    · rwa [hGrows.1.surrogate]
  rw [Strands, hAdmits]
  simp [hRest]

end PocketDart
