import Mathlib.Data.List.Nodup
import PocketDart.Files.ModelFiles
import PocketDart.Proofs.Files.Component
import PocketDart.Proofs.Files.Growth

/-
  This file proves what writing models does to a tree: the
  files of the models that come before the first failure are
  written in full, right under the directory, and nothing
  else is changed.

  Key definitions include:
    * `FileTree.withModels`
    * `GeneratedModel.path`
    * `Written.EndsAfter`
    * `Written.GoesTo`
    * `FileTree.TakesComponents`
    * `FileTree.HoldsModels`

  Key theorems include:
    * `FileTree.node?_withModels_eq_file_iff`
    * `FileTree.writeFile_eq_ok`
    * `exists_goesTo_of_writeInto`
    * `writeModels_cases`
    * `holdsModels_of_writeModels`
-/

------------------------------------------------------------
-- Files of Models
------------------------------------------------------------

namespace PocketDart

namespace FileTree

variable {tree after : FileTree}
variable {directory : Path}
variable {location place : Location}
variable {models : List GeneratedModel}
variable {model : GeneratedModel}

def withModel
    (tree : FileTree)
    (place : Location)
    (model : GeneratedModel) : FileTree :=
  tree.set (place ++ [model.fileName])
    (.file (Utf8.encode model.source))

/- A tree with the files of models. -/
def withModels
    (tree : FileTree)
    (place : Location)
    (models : List GeneratedModel) : FileTree :=
  models.foldl (fun tree model => tree.withModel place model)
    tree

@[simp]
theorem node?_withModel_self
    (tree : FileTree)
    (place : Location)
    (model : GeneratedModel) :
    (tree.withModel place model).node?
        (place ++ [model.fileName]) =
      some (.file (Utf8.encode model.source)) :=
  node?_set_self tree (by simp) _

/- Other places hold what they held. -/
theorem node?_withModels_of_notMem
    (hOther : ∀ model ∈ models,
      location ≠ place ++ [model.fileName]) :
    (tree.withModels place models).node? location =
      tree.node? location := by
  induction models generalizing tree with
  | nil => rfl
  | cons model rest ih =>
      rw [List.forall_mem_cons] at hOther
      rw [withModels, List.foldl_cons]
      exact (ih hOther.2).trans (node?_set_ne tree hOther.1 _)

theorem node?_withModels_of_mem
    (hDistinct : (models.map GeneratedModel.fileName).Nodup)
    (hModel : model ∈ models) :
    (tree.withModels place models).node?
        (place ++ [model.fileName]) =
      some (.file (Utf8.encode model.source)) := by
  induction models generalizing tree with
  | nil => cases hModel
  | cons first rest ih =>
      rw [List.map_cons, List.nodup_cons] at hDistinct
      rw [withModels, List.foldl_cons]
      rcases List.mem_cons.mp hModel with rfl | hRest
      · -- The other models have other names.
        refine Eq.trans (node?_withModels_of_notMem ?_)
          (node?_withModel_self tree place model)
        intro other hOther hSame
        apply hDistinct.1
        rw [List.append_cancel_left_eq,
          List.singleton_inj] at hSame
        rw [hSame]
        exact List.mem_map_of_mem hOther
      · exact ih hDistinct.2 hRest

/- The files of a tree with the files of models. -/
theorem node?_withModels_eq_file_iff
    (hDistinct : (models.map GeneratedModel.fileName).Nodup)
    {bytes : List UInt8} :
    (tree.withModels place models).node? location =
        some (.file bytes) ↔
      (∃ model ∈ models,
        location = place ++ [model.fileName] ∧
          bytes = Utf8.encode model.source) ∨
        (∀ model ∈ models,
          location ≠ place ++ [model.fileName]) ∧
          tree.node? location = some (.file bytes) := by
  by_cases hModel : ∃ model ∈ models,
      location = place ++ [model.fileName]
  · rcases hModel with ⟨model, hMem, rfl⟩
    rw [node?_withModels_of_mem hDistinct hMem]
    constructor
    · intro hBytes
      rw [Option.some.injEq, FileNode.file.injEq] at hBytes
      exact Or.inl ⟨model, hMem, rfl, hBytes.symm⟩
    · rintro (⟨other, hOther, hSame, rfl⟩ | ⟨hNone, _⟩)
      · rw [List.append_cancel_left_eq,
          List.singleton_inj] at hSame
        rw [List.inj_on_of_nodup_map hDistinct hMem hOther
          hSame]
      · exact absurd rfl (hNone model hMem)
  · have hNone : ∀ model ∈ models,
        location ≠ place ++ [model.fileName] :=
      fun model hMem hSame => hModel ⟨model, hMem, hSame⟩
    rw [node?_withModels_of_notMem hNone]
    constructor
    · exact fun hNode => Or.inr ⟨hNone, hNode⟩
    · rintro (⟨model, hMem, hSame, _⟩ | ⟨_, hNode⟩)
      · exact absurd hSame (hNone model hMem)
      · exact hNode

------------------------------------------------------------
-- Writing One File
------------------------------------------------------------

theorem locate_join_component
    {name : String}
    (hLeads : tree.LeadsTo directory place)
    (hName : Path.IsComponent name)
    (hLocate :
      tree.locate (directory.join (Path.ofString name)) =
        .ok location) :
    location = place ++ [name] := by
  rw [hName.join_ofString] at hLocate
  exact hName.eq_of_enter (hLeads.enter_eq hLocate)

theorem exists_locate_of_writeFile
    {path : Path}
    {text : String}
    (hWrite : tree.writeFile path text = .ok after) :
    ∃ location,
      tree.locate path = .ok location ∧
        tree.node? location ≠ some .directory ∧
        tree.encodes text = true ∧
        after = tree.set location
          (.file (Utf8.encode text)) := by
  rcases Fallible.bind_eq_ok.mp hWrite with
    ⟨location, hLocate, hSet⟩
  refine ⟨location, hLocate, ?_⟩
  split at hSet
  · cases hSet
  · next hFree =>
      split at hSet
      · next hBytes =>
          exact ⟨hFree, hBytes, (Except.ok.inj hSet).symm⟩
      · cases hSet

theorem writeFile_eq_ok
    {name text : String}
    (hLeads : tree.LeadsTo directory place)
    (hName : Path.IsComponent name)
    (hWrite :
      tree.writeFile (directory.join (Path.ofString name))
        text = .ok after) :
    tree.locate (directory.join (Path.ofString name)) =
        .ok (place ++ [name]) ∧
      tree.node? (place ++ [name]) ≠ some .directory ∧
      after = tree.set (place ++ [name])
        (.file (Utf8.encode text)) := by
  rcases exists_locate_of_writeFile hWrite with
    ⟨location, hLocate, hFree, _, hSet⟩
  rcases locate_join_component hLeads hName hLocate with rfl
  exact ⟨hLocate, hFree, hSet⟩

end FileTree

namespace FileTree

/- A file that is not written may only be lost itself. -/
theorem node?_afterFailure_of_ne
    {tree : FileTree}
    {directory : Path}
    {place location : Location}
    {name : String}
    (hLeads : tree.LeadsTo directory place)
    (hName : Path.IsComponent name)
    (hOther : location ≠ place ++ [name])
    (error : FileError) :
    (tree.afterFailure (directory.join (Path.ofString name))
        error).node? location =
      tree.node? location := by
  cases error with
  | textNotEncoded cause =>
      unfold afterFailure
      cases hLocate : tree.locate
          (directory.join (Path.ofString name)) with
      | error fault => rfl
      | ok spot =>
          rcases locate_join_component hLeads hName hLocate
            with rfl
          exact node?_set_ne tree hOther _
  | _ => rfl

end FileTree

------------------------------------------------------------
-- Writing Models
------------------------------------------------------------

/- Where the file of a model is written. -/
def GeneratedModel.path
    (model : GeneratedModel)
    (directory : Path) : Path :=
  directory.join (Path.ofString model.fileName)

/- What is written after a first file. -/
def Written.after
    (written : Written)
    (path : Path) : Written :=
  { result := written.result.map (path :: ·)
    tree := written.tree
    messages := writtenMessage path :: written.messages }

/-
  How writing ends when some models are written, which led
  to a tree, and others are left: with their paths when none
  is left, and else with the error about the first of those.
-/
def Written.EndsAfter
    (written : Written)
    (reached : FileTree)
    (directory : Path)
    (done : List GeneratedModel) :
    List GeneratedModel → Prop
  | [] =>
      written.tree = reached ∧
        written.result = .ok (done.map (·.path directory))
  | model :: _ =>
      ∃ cause,
        reached.writeFile (model.path directory)
            model.source = .error cause ∧
          written.tree = reached.afterFailure
            (model.path directory) cause ∧
          written.result = .error
            (.of (.notWritten (model.path directory)) cause)

theorem writeInto_cons
    (directory : Path)
    (tree : FileTree)
    (model : GeneratedModel)
    (rest : List GeneratedModel) :
    writeInto directory tree (model :: rest) =
      match tree.writeFile (model.path directory)
          model.source with
      | .error cause =>
          ⟨.error (.of (.notWritten (model.path directory))
            cause), tree.afterFailure (model.path directory)
            cause, []⟩
      | .ok next =>
          (writeInto directory next rest).after
            (model.path directory) := rfl

theorem Written.EndsAfter.cons
    {written : Written}
    {reached : FileTree}
    {directory : Path}
    {done rest : List GeneratedModel}
    (hEnds : written.EndsAfter reached directory done rest)
    (model : GeneratedModel) :
    (written.after (model.path directory)).EndsAfter
      reached directory (model :: done) rest := by
  cases rest with
  | nil =>
      rcases hEnds with ⟨hTree, hResult⟩
      refine ⟨hTree, ?_⟩
      simp only [after, hResult, Except.map, List.map_cons]
  | cons next more =>
      rcases hEnds with ⟨cause, hWrite, hTree, hResult⟩
      refine ⟨cause, hWrite, hTree, ?_⟩
      simp only [after, hResult, Except.map]

/-
  Writing into a directory goes to a point in the list of
  models: those before it are in their files, right under
  the directory, and those after it are left.
-/
structure Written.GoesTo
    (written : Written)
    (tree : FileTree)
    (directory : Path)
    (place : Location)
    (done rest : List GeneratedModel) : Prop where
  keeps : tree.Keeps (tree.withModels place done)
  located :
    ∀ model ∈ done,
      (tree.withModels place done).locate
          (model.path directory) =
        .ok (place ++ [model.fileName])
  ends :
    written.EndsAfter (tree.withModels place done) directory
      done rest

/-
  Only models with components for names are written, as long
  as no directory is lost.
-/
def FileTree.TakesComponents
    (tree : FileTree)
    (directory : Path)
    (models : List GeneratedModel) : Prop :=
  ∀ later place,
    tree.Keeps later →
    later.LeadsTo directory place →
    ∀ model ∈ models,
      ∀ next,
        later.writeFile (model.path directory)
            model.source = .ok next →
          Path.IsComponent model.fileName

theorem FileTree.takesComponents_of_components
    (tree : FileTree)
    (directory : Path)
    {models : List GeneratedModel}
    (hNames : ∀ model ∈ models,
      Path.IsComponent model.fileName) :
    tree.TakesComponents directory models :=
  fun _ _ _ _ model hModel _ _ => hNames model hModel

theorem FileTree.Keeps.takesComponents
    {before after : FileTree}
    (hKeeps : before.Keeps after)
    {directory : Path}
    {models : List GeneratedModel}
    (hTakes : before.TakesComponents directory models) :
    after.TakesComponents directory models :=
  fun later place hLater => hTakes later place
    (hKeeps.trans hLater)

/-
  Writing goes on to the first failure: by induction on the
  models, while the path leads to the same directory.
-/
theorem exists_goesTo_of_writeInto
    {directory : Path}
    {place : Location}
    {tree : FileTree}
    (hLeads : tree.LeadsTo directory place)
    {models : List GeneratedModel}
    (hTakes : tree.TakesComponents directory models) :
    ∃ done rest,
      models = done ++ rest ∧
        (writeInto directory tree models).GoesTo tree
          directory place done rest := by
  induction models generalizing tree with
  | nil =>
      exact ⟨[], [], rfl, .refl tree, nofun, rfl, rfl⟩
  | cons model more ih =>
      cases hWrite : tree.writeFile (model.path directory)
          model.source with
      | error cause =>
          rw [writeInto_cons, hWrite]
          exact ⟨[], model :: more, rfl, .refl tree, nofun,
            cause, hWrite, rfl, rfl⟩
      | ok next =>
          have hName := hTakes tree place (.refl tree) hLeads
            model List.mem_cons_self next hWrite
          rcases FileTree.writeFile_eq_ok hLeads hName hWrite
            with ⟨hLocate, hFree, rfl⟩
          have hKeeps := FileTree.Keeps.set hFree
            (.file (Utf8.encode model.source))
          have hMore : (tree.withModel place
              model).TakesComponents directory more :=
            fun later spot hLater hSpot other hOther =>
              hTakes later spot (hKeeps.trans hLater) hSpot
                other (List.mem_cons_of_mem model hOther)
          rcases ih (hKeeps.leadsTo hLeads) hMore with
            ⟨done, rest, rfl, hGoes⟩
          rw [writeInto_cons, hWrite]
          have hAll := hKeeps.trans hGoes.keeps
          refine ⟨model :: done, rest, rfl, hAll, ?_,
            hGoes.ends.cons model⟩
          exact List.forall_mem_cons.mpr
            ⟨hAll.locate hLocate, hGoes.located⟩

/-
  What writing models comes to: either the directory cannot
  be made, or the path leads to it and models are written up
  to the first failure.
-/
theorem writeModels_cases
    (levels : Nat)
    (tree : FileTree)
    (directory : String)
    {models : List GeneratedModel}
    (hTakes :
      tree.TakesComponents (.ofString directory) models) :
    let path := Path.ofString directory
    let made := tree.makeDirectories levels path
    let written := writeModels levels tree directory models
    (∃ cause, made.2 = some cause ∧
      written.tree = made.1 ∧
      written.result =
        .error (.of (.noDirectory path) cause)) ∨
    (made.2 = none ∧
      ∃ place done rest,
        made.1.LeadsTo path place ∧
          models = done ++ rest ∧
          written.GoesTo made.1 path place done rest) := by
  intro path made written
  have hGrows := tree.makeDirectories_grows levels path
  rcases hMade : tree.makeDirectories levels path with
    ⟨base, _ | cause⟩
  · right
    rw [hMade] at hGrows
    rcases hGrows.2 rfl with ⟨place, hLeads⟩
    have hWritten : written = writeInto path base models := by
      simp only [written, writeModels]
      rw [← show path = Path.ofString directory from rfl,
        hMade]
    have hBase := hGrows.1.keeps.takesComponents hTakes
    rcases exists_goesTo_of_writeInto hLeads hBase with
      ⟨done, rest, hModels, hGoes⟩
    rw [show made = (base, none) from hMade, hWritten]
    exact ⟨rfl, place, done, rest, hLeads, hModels, hGoes⟩
  · left
    have hWritten : written =
        ⟨.error (.of (.noDirectory path) cause), base,
          []⟩ := by
      simp only [written, writeModels]
      rw [← show path = Path.ofString directory from rfl,
        hMade]
    rw [show made = (base, some cause) from hMade, hWritten]
    exact ⟨cause, rfl, rfl, rfl⟩

/-
  The files of a later tree are those of an earlier one, but
  for one file right under a place for each of some models.
-/
def FileTree.HoldsModels
    (before : FileTree)
    (place : Location)
    (written : GeneratedModel → Prop)
    (after : FileTree) : Prop :=
  ∀ location bytes,
    after.node? location = some (.file bytes) ↔
      (∃ model, written model ∧
        location = place ++ [model.fileName] ∧
          bytes = Utf8.encode model.source) ∨
        (∀ model, written model →
          location ≠ place ++ [model.fileName]) ∧
          before.node? location = some (.file bytes)

theorem FileTree.holdsModels_withModels
    (levels : Nat)
    (tree : FileTree)
    (directory : Path)
    (place : Location)
    {done : List GeneratedModel}
    (hDistinct :
      (done.map GeneratedModel.fileName).Nodup) :
    tree.HoldsModels place (· ∈ done)
      ((tree.makeDirectories levels directory).1.withModels
        place done) := by
  intro location bytes
  rw [FileTree.node?_withModels_eq_file_iff hDistinct,
    (tree.makeDirectories_grows levels directory).1.file_iff]

/- When writing does not fail, all models are in files. -/
theorem holdsModels_of_writeModels
    {levels : Nat}
    {tree : FileTree}
    {directory : String}
    {models : List GeneratedModel}
    (hNames : ∀ model ∈ models,
      Path.IsComponent model.fileName)
    (hDistinct :
      (models.map GeneratedModel.fileName).Nodup)
    {paths : List Path}
    (hResult :
      (writeModels levels tree directory models).result =
        .ok paths) :
    ∃ place,
      (writeModels levels tree directory models).tree.LeadsTo
          (.ofString directory) place ∧
        tree.HoldsModels place (· ∈ models)
          (writeModels levels tree directory models).tree := by
  have hTakes := tree.takesComponents_of_components
    (.ofString directory) hNames
  rcases writeModels_cases levels tree directory hTakes with
    ⟨_, _, _, hError⟩ |
    ⟨_, place, done, rest, hLeads, hModels, hGoes⟩
  · rw [hError] at hResult
    cases hResult
  · cases rest with
    | cons model more =>
        rcases hGoes.ends with ⟨cause, _, _, hError⟩
        rw [hError] at hResult
        cases hResult
    | nil =>
        rw [List.append_nil] at hModels
        subst hModels
        have hTree : (writeModels levels tree directory
            models).tree = _ := hGoes.ends.1
        rw [hTree]
        exact ⟨place, hGoes.keeps.leadsTo hLeads,
          tree.holdsModels_withModels levels _ place
            hDistinct⟩

end PocketDart
