import PocketDart.Machine
import PocketDart.Proofs.Files.Failure

/-
  This file proves that writing models leaves the first of
  them in files and nothing else: all of them when it does
  not fail, those before the one it fails at, and none when
  the directory cannot be made. Only a source without bytes
  costs the file that was opened for it. Names of single
  dots and double dots are no exception: they only ever lead
  to a directory, which is not written over.

  Key definitions include:
    * `FileTree.Reaches`
    * `Path.IsSingle`
    * `FileTree.WritesExactly`

  Key theorems include:
    * `FileTree.LeadsTo.reaches`
    * `FileTree.isComponent_of_writeFile`
    * `writeModels_writes_first_models`
-/

------------------------------------------------------------
-- Reached Places
------------------------------------------------------------

namespace PocketDart

namespace FileTree

variable {tree before after : FileTree}
variable {directory : Path}
variable {location place : Location}

/- A place that is a directory, as are all those above it. -/
def Reaches
    (tree : FileTree)
    (location : Location) : Prop :=
  ∀ count,
    tree.node? (location.take count) = some .directory

namespace Reaches

@[simp]
theorem root (tree : FileTree) : tree.Reaches [] := by
  intro count
  rw [List.take_nil]
  rfl

/- The place itself is a directory. -/
theorem isDirectory (hReaches : tree.Reaches location) :
    tree.node? location = some .directory := by
  have hAll := hReaches location.length
  rwa [List.take_length] at hAll

/- The place above is reached as well. -/
theorem dropLast (hReaches : tree.Reaches location) :
    tree.Reaches location.dropLast := by
  intro count
  rw [List.dropLast_eq_take, List.take_take]
  exact hReaches _

theorem concat
    (hReaches : tree.Reaches location)
    {name : String}
    (hNode :
      tree.node? (location ++ [name]) = some .directory) :
    tree.Reaches (location ++ [name]) := by
  intro count
  rcases Nat.lt_or_ge location.length count with hAll | hSome
  · rwa [List.take_of_length_le]
    rw [List.length_append, List.length_singleton]
    exact hAll
  · rw [List.take_append_of_le_length hSome]
    exact hReaches count

theorem enter
    (hReaches : tree.Reaches location)
    {name : String}
    (hEnter : FileTree.enter location name = .ok place)
    (hNode : tree.node? place = some .directory) :
    tree.Reaches place := by
  unfold FileTree.enter at hEnter
  split at hEnter
  · rcases Except.ok.inj hEnter with rfl
    exact hReaches.dropLast
  · split at hEnter
    · cases hEnter
    · rcases Except.ok.inj hEnter with rfl
      exact hReaches.concat hNode

theorem follow
    (hReaches : tree.Reaches location)
    {names : List String}
    (hFollow : tree.follow location names = .ok place)
    (hNode : tree.node? place = some .directory) :
    tree.Reaches place := by
  induction names generalizing location with
  | nil =>
      rcases Except.ok.inj hFollow with rfl
      exact hReaches
  | cons name rest ih =>
      by_cases hRest : rest = []
      · subst hRest
        exact hReaches.enter hFollow hNode
      · rcases (follow_cons_eq_ok_iff hRest).mp hFollow with
          ⟨next, hEnter, hNext, hMore⟩
        exact ih (hReaches.enter hEnter hNext) hMore

end Reaches

/- What is reached stays so while directories are kept. -/
theorem Keeps.reaches
    (hKeeps : before.Keeps after)
    (hReaches : before.Reaches location) :
    after.Reaches location :=
  fun count => hKeeps.directories _ (hReaches count)

theorem LeadsTo.reaches
    (hLeads : tree.LeadsTo directory place)
    (hStart : tree.Reaches tree.start) :
    tree.Reaches place := by
  have hOrigin : tree.Reaches (tree.origin directory) := by
    unfold origin
    split
    · exact .root tree
    · exact hStart
  have hFollow := (locate_eq_ok_iff.mp hLeads.located).2.2
  exact hOrigin.follow hFollow hLeads.isDirectory

end FileTree

------------------------------------------------------------
-- Single Names
------------------------------------------------------------

/-
  A single name of a path, which may be made of dots or not
  be there at all.
-/
structure Path.IsSingle (name : String) : Prop where
  noSlash : '/' ∉ name.toList
  noZero : '\x00' ∉ name.toList

namespace FileTree

variable {tree after : FileTree}
variable {directory : Path}
variable {place : Location}

theorem writeFile_ne_ok
    (hLeads : tree.LeadsTo directory place)
    (text : String) :
    tree.writeFile directory text ≠ .ok after := by
  intro hWrite
  rcases exists_locate_of_writeFile hWrite with
    ⟨location, hLocate, hFree, _, _⟩
  rw [hLeads.located] at hLocate
  rcases Except.ok.inj hLocate with rfl
  exact hFree hLeads.isDirectory

theorem LeadsTo.join_dots
    (hLeads : tree.LeadsTo directory place)
    (hReaches : tree.Reaches place)
    {location : Location}
    (hLocate :
      tree.locate (directory.join (Path.ofString "..")) =
        .ok location) :
    tree.LeadsTo (directory.join (Path.ofString ".."))
      location := by
  have hEnter : FileTree.enter place ".." = .ok location :=
    hLeads.enter_eq hLocate
  rcases Except.ok.inj hEnter with rfl
  exact ⟨hLocate, hReaches.dropLast.isDirectory⟩

theorem isComponent_of_writeFile
    {name text : String}
    (hLeads : tree.LeadsTo directory place)
    (hReaches : tree.Reaches place)
    (hName : Path.IsSingle name)
    (hWrite :
      tree.writeFile (directory.join (Path.ofString name))
        text = .ok after) :
    Path.IsComponent name := by
  -- Without a name, the path is that of the directory.
  have hSame (hNone : Path.ofString name = ⟨false, []⟩) :
      False := by
    rw [hNone, Path.join, if_neg Bool.false_ne_true,
      List.append_nil] at hWrite
    exact writeFile_ne_ok hLeads text hWrite
  refine ⟨?_, ?_, ?_, hName.noSlash, hName.noZero⟩
  · rintro rfl
    exact hSame (by decide)
  · rintro rfl
    exact hSame (by decide)
  · rintro rfl
    rcases exists_locate_of_writeFile hWrite with
      ⟨location, hLocate, _⟩
    exact writeFile_ne_ok
      (hLeads.join_dots hReaches hLocate) text hWrite

theorem takesComponents_of_single
    (hStart : tree.Reaches tree.start)
    (directory : Path)
    {models : List GeneratedModel}
    (hNames : ∀ model ∈ models,
      Path.IsSingle model.fileName) :
    tree.TakesComponents directory models := by
  intro later place hKeeps hLeads model hModel next hWrite
  have hLater : later.Reaches later.start := by
    rw [hKeeps.start]
    exact hKeeps.reaches hStart
  exact isComponent_of_writeFile hLeads
    (hLeads.reaches hLater) (hNames model hModel) hWrite

------------------------------------------------------------
-- Files of the First Models
------------------------------------------------------------

/-
  Nothing comes of writing but the files of models, which
  are right under the directory and are found by their paths
  with the sources in them.
-/
structure WritesExactly
    (before : FileTree)
    (directory : Path)
    (models : List GeneratedModel)
    (after : FileTree) : Prop where
  files :
    ∃ place,
      after.LeadsTo directory place ∧
        before.HoldsModels place (· ∈ models) after
  sources :
    ∀ model ∈ models,
      after.readFile (model.path directory) =
        .ok (Utf8.encode model.source)

end FileTree

theorem FileTree.afterFailure_of_fault
    {tree : FileTree}
    {path : Path}
    {error : FileError}
    (hFault : error.IsFault) :
    tree.afterFailure path error = tree := by
  rcases hFault with ⟨fault, text, rfl⟩
  rfl

/-
  Where writing goes to, nothing else comes of it until the
  first model that is not written.
-/
theorem Written.GoesTo.writesExactly
    {levels : Nat}
    {tree : FileTree}
    {directory : Path}
    {place : Location}
    {written : Written}
    {done rest : List GeneratedModel}
    (hLeads :
      (tree.makeDirectories levels directory).1.LeadsTo
        directory place)
    (hGoes :
      written.GoesTo (tree.makeDirectories levels directory).1
        directory place done rest)
    (hDistinct :
      (done.map GeneratedModel.fileName).Nodup) :
    tree.WritesExactly directory done
      ((tree.makeDirectories levels directory).1.withModels
        place done) where
  files := ⟨place, hGoes.keeps.leadsTo hLeads,
    tree.holdsModels_withModels levels directory place
      hDistinct⟩
  sources model hModel := by
    have hNode :
        ((tree.makeDirectories levels
            directory).1.withModels place done).node?
          (place ++ [model.fileName]) =
            some (.file (Utf8.encode model.source)) :=
      FileTree.node?_withModels_of_mem hDistinct hModel
    simp only [FileTree.readFile,
      hGoes.located model hModel, Fallible.ok_bind, hNode]

/-
  Writing models leaves the first of them in files, and the
  other files as they were: all models when their paths are
  returned, those before the model that is not written, and
  no models when the directory is not made. When the error
  is not one of the system, the first models are written all
  the same, and what becomes of the next file is known. The
  place where relative paths start is taken to be below
  directories.
-/
theorem writeModels_writes_first_models
    (levels : Nat)
    {tree : FileTree}
    (hStart : tree.Reaches tree.start)
    (directory : String)
    {models : List GeneratedModel}
    (hNames : ∀ model ∈ models,
      Path.IsSingle model.fileName)
    (hDistinct :
      (models.map GeneratedModel.fileName).Nodup) :
    let path := Path.ofString directory
    let made := tree.makeDirectories levels path
    let written := writeModels levels tree directory models
    match written.result with
    | .ok paths =>
        made.2 = none ∧
          paths = models.map (·.path path) ∧
          tree.WritesExactly path models written.tree
    | .error (.notWritten failed cause) =>
        made.2 = none ∧
          ∃ done model rest,
            models = done ++ model :: rest ∧
              failed = model.path path ∧
              written.tree.writeFile failed model.source =
                .error cause ∧
              tree.WritesExactly path done written.tree
    | .error (.noDirectory failed cause) =>
        made.2 = some cause ∧
          failed = path ∧
          ∀ location bytes,
            written.tree.node? location =
                some (.file bytes) ↔
              tree.node? location =
                some (.file bytes)
    | .error (.unusable cause) =>
        (made.2 = some cause ∧
          ∀ location bytes,
            written.tree.node? location =
                some (.file bytes) ↔
              tree.node? location =
                some (.file bytes)) ∨
        (made.2 = none ∧
          ∃ done model rest reached,
            models = done ++ model :: rest ∧
              reached.writeFile (model.path path)
                  model.source = .error cause ∧
              tree.WritesExactly path done reached ∧
              written.tree = reached.afterFailure
                (model.path path) cause) := by
  intro path made written
  have hTakes :=
    FileTree.takesComponents_of_single hStart path hNames
  rcases writeModels_cases levels tree directory hTakes with
    ⟨cause, hMade, hTree, hResult⟩ |
    ⟨hMade, place, done, rest, hLeads, rfl, hGoes⟩
  · have hFiles (location : Location) (bytes : List UInt8) :
        written.tree.node? location = some (.file bytes) ↔
          tree.node? location = some (.file bytes) := by
      rw [show written.tree = made.1 from hTree]
      exact (tree.makeDirectories_grows levels path).1.file_iff
        bytes
    by_cases hFault : cause.IsFault
    · rw [WriteError.of_fault hFault] at hResult
      rw [show written.result = _ from hResult]
      exact ⟨hMade, rfl, hFiles⟩
    · rw [WriteError.of_eq_unusable hFault] at hResult
      rw [show written.result = _ from hResult]
      exact Or.inl ⟨hMade, hFiles⟩
  · rw [List.map_append] at hDistinct
    have hExactly := hGoes.writesExactly hLeads
      (List.Nodup.of_append_left hDistinct)
    cases rest with
    | nil =>
        rcases hGoes.ends with ⟨hTree, hResult⟩
        rw [show written.result = _ from hResult,
          show written.tree = _ from hTree]
        rw [List.append_nil]
        exact ⟨hMade, rfl, hExactly⟩
    | cons model more =>
        rcases hGoes.ends with ⟨cause, hWrite, hTree, hResult⟩
        by_cases hFault : cause.IsFault
        · rw [WriteError.of_fault hFault] at hResult
          rw [FileTree.afterFailure_of_fault hFault] at hTree
          rw [show written.result = _ from hResult,
            show written.tree = _ from hTree]
          exact ⟨hMade, done, model, more, rfl, rfl, hWrite,
            hExactly⟩
        · rw [WriteError.of_eq_unusable hFault] at hResult
          rw [show written.result = _ from hResult]
          exact Or.inr ⟨hMade, done, model, more, _, rfl,
            hWrite, hExactly, hTree⟩

/- A directory in the way of the second of three models. -/
theorem draft_written_before_directory :
    let tree : FileTree :=
      { nodes :=
          [(["lib"], .directory),
            (["lib", "posts.dart"], .directory),
            (["lib", "tags.dart"], .file [])] }
    let draft : GeneratedModel := ⟨"drafts", "// D", ".dart"⟩
    let post : GeneratedModel := ⟨"posts", "// P", ".dart"⟩
    let tag : GeneratedModel := ⟨"tags", "// T", ".dart"⟩
    let models := [draft, post, tag]
    let written :=
      writeModels Machine.usual.missingDirectories tree "lib"
        models
    tree.Reaches tree.start ∧
      (∀ model ∈ models, Path.IsSingle model.fileName) ∧
      (models.map GeneratedModel.fileName).Nodup ∧
      written.result = .error
        (.notWritten ⟨false, ["lib", "posts.dart"]⟩
          (.system .isDirectory "lib/posts.dart")) ∧
      tree.WritesExactly ⟨false, ["lib"]⟩ [draft]
        written.tree := by
  intro tree draft post tag models written
  have hStart : tree.Reaches tree.start := .root tree
  have hNames : ∀ model ∈ models,
      Path.IsSingle model.fileName := by
    intro model hModel
    simp only [models, List.mem_cons, List.not_mem_nil,
      or_false] at hModel
    rcases hModel with rfl | rfl | rfl <;>
      exact ⟨by decide, by decide⟩
  have hDistinct :
      (models.map GeneratedModel.fileName).Nodup := by decide
  have hResult : written.result = .error
      (.notWritten ⟨false, ["lib", "posts.dart"]⟩
        (.system .isDirectory "lib/posts.dart")) := by
    decide +kernel
  have hFirst := writeModels_writes_first_models
    Machine.usual.missingDirectories hStart "lib" hNames
    hDistinct
  dsimp only at hFirst
  rw [show (writeModels Machine.usual.missingDirectories tree
    "lib" models).result = _ from hResult] at hFirst
  rcases hFirst with
    ⟨_, done, model, rest, hModels, hFailed, _, hExactly⟩
  refine ⟨hStart, hNames, hDistinct, hResult, ?_⟩
  -- Only the second model has the path that is told.
  rcases done with _ | ⟨first, _ | ⟨second, last⟩⟩
  · rcases List.cons_eq_cons.mp hModels with ⟨rfl, _⟩
    exact absurd hFailed (by decide +kernel)
  · rcases List.cons_eq_cons.mp hModels with ⟨rfl, _⟩
    exact hExactly
  · have hLast : [tag] = last ++ model :: rest :=
      (List.cons.inj (List.cons.inj hModels).2).2
    have hTag : model ∈ [tag] := by simp [hLast]
    rcases List.mem_singleton.mp hTag with rfl
    exact absurd hFailed (by decide +kernel)

end PocketDart
