import PocketDart.Proofs.Files.Writing
import PocketDart.Proofs.Generation.Models

/-
  This file proves that models are written next to each
  other: whatever the directory is, their paths are distinct
  and lead right under it, and no other place of the tree is
  touched once the directory is there.

  Key definitions include:
    * `WritesOnlyUnder`

  Key theorems include:
    * `writesOnlyUnder_of_components`
    * `modelFiles_apart_in_directory`
-/

------------------------------------------------------------
-- Paths of Models
------------------------------------------------------------

namespace PocketDart

/-
  Writing models into a directory goes to distinct paths, a
  name longer than that of the directory, and touches no
  other places.
-/
structure WritesOnlyUnder
    (levels : Nat)
    (tree : FileTree)
    (directory : String)
    (models : List GeneratedModel) : Prop where
  paths :
    ∀ model ∈ models,
      model.path (.ofString directory) =
        { Path.ofString directory with
          parts := (Path.ofString directory).parts ++
            [model.fileName] }
  pathsDistinct :
    (models.map (·.path (.ofString directory))).Nodup
  places :
    ∀ location,
      (writeModels levels tree directory models).tree.node?
          location ≠
        (tree.makeDirectories levels
          (.ofString directory)).1.node? location →
      ∃ place,
        (tree.makeDirectories levels
          (.ofString directory)).1.LeadsTo
            (.ofString directory) place ∧
          ∃ model ∈ models,
            location = place ++ [model.fileName]

section

variable {models : List GeneratedModel}
variable (levels : Nat) (tree : FileTree)
variable (directory : String)

theorem nodup_paths
    (hNames : ∀ model ∈ models,
      Path.IsComponent model.fileName)
    (hDistinct :
      (models.map GeneratedModel.fileName).Nodup)
    (path : Path) :
    (models.map (·.path path)).Nodup := by
  refine List.Nodup.map_on ?_ (List.Nodup.of_map _ hDistinct)
  intro model hModel other hOther hSame
  apply List.inj_on_of_nodup_map hDistinct hModel hOther
  rw [GeneratedModel.path, GeneratedModel.path,
    (hNames model hModel).join_ofString,
    (hNames other hOther).join_ofString, Path.mk.injEq,
    List.append_cancel_left_eq,
    List.singleton_inj] at hSame
  exact hSame.2

/- Files with distinct components for names are apart. -/
theorem writesOnlyUnder_of_components
    (hNames : ∀ model ∈ models,
      Path.IsComponent model.fileName)
    (hDistinct :
      (models.map GeneratedModel.fileName).Nodup) :
    WritesOnlyUnder levels tree directory models where
  paths model hModel := (hNames model hModel).join_ofString _
  pathsDistinct := nodup_paths hNames hDistinct _
  places location hChanged := by
    have hTakes := tree.takesComponents_of_components
      (.ofString directory) hNames
    rcases writeModels_cases levels tree directory hTakes with
      ⟨_, _, hTree, _⟩ |
      ⟨_, place, done, rest, hLeads, rfl, hGoes⟩
    · rw [hTree] at hChanged
      exact absurd rfl hChanged
    · refine ⟨place, hLeads, ?_⟩
      by_contra hNone
      apply hChanged
      have hOthers : ∀ model ∈ done ++ rest,
          location ≠ place ++ [model.fileName] :=
        fun model hModel hSame => hNone ⟨model, hModel, hSame⟩
      have hReached :
          ((tree.makeDirectories levels (.ofString
              directory)).1.withModels place done).node?
                location =
            (tree.makeDirectories levels
              (.ofString directory)).1.node? location :=
        FileTree.node?_withModels_of_notMem
          fun model hModel =>
            hOthers model (List.mem_append_left _ hModel)
      cases rest with
      | nil =>
          rw [show (writeModels levels tree directory
            (done ++ [])).tree = _ from hGoes.ends.1]
          exact hReached
      | cons model more =>
          rcases hGoes.ends with ⟨cause, _, hTree, _⟩
          rw [show (writeModels levels tree directory
            (done ++ model :: more)).tree = _ from hTree]
          have hModel : model ∈ done ++ model :: more := by
            simp
          rw [GeneratedModel.path,
            FileTree.node?_afterFailure_of_ne
              (hGoes.keeps.leadsTo hLeads)
              (hNames model hModel) (hOthers model hModel)]
          exact hReached

end

/-
  The models of a report go to files of their own, each a
  single component, right under any output directory.
-/
theorem modelFiles_apart_in_directory
    {settings : Settings}
    (hExtension : settings.ExtendsNames)
    {collections : List Collection}
    (hNames : ∀ collection ∈ collections,
      collection.name = .text collection.nameText) :
    ∃ report,
      (generate settings collections).result = .ok report ∧
      (report.modelList.map GeneratedModel.fileName).Nodup ∧
      (∀ model ∈ report.modelList,
        Path.IsComponent model.fileName) ∧
      ∀ levels tree directory,
        WritesOnlyUnder levels tree directory
          report.modelList := by
  rcases exists_lists_of_generate settings hNames with
    ⟨report, hReport, hLists⟩
  have hComponents := hLists.components hExtension
  refine ⟨report, hReport, hLists.filesDistinct, hComponents,
    fun levels tree directory => ?_⟩
  exact writesOnlyUnder_of_components levels tree directory
    hComponents hLists.filesDistinct

/- Two collections under the settings for Dart. -/
theorem dartFiles_apart_in_directory :
    let posts : Collection :=
      { name := .text "posts", fields := [], id := .null
        kind := .text "base", system := false }
    let tags : Collection :=
      { posts with name := .text "tags" }
    ∃ report,
      (generate {} [posts, tags]).result = .ok report ∧
      (report.modelList.map GeneratedModel.fileName).Nodup ∧
      (∀ model ∈ report.modelList,
        Path.IsComponent model.fileName) ∧
      ∀ levels tree directory,
        WritesOnlyUnder levels tree directory
          report.modelList := by
  intro posts tags
  refine modelFiles_apart_in_directory
    ⟨by decide, by decide⟩ ?_
  intro collection hCollection
  simp only [List.mem_cons, List.not_mem_nil,
    or_false] at hCollection
  rcases hCollection with rfl | rfl <;> rfl

end PocketDart
