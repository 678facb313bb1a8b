import PocketDart.Proofs.CommandLine.Effects
import PocketDart.Proofs.CommandLine.Legible
import PocketDart.Proofs.Model.Acceptance
import PocketDart.Proofs.Text.Ascii

/-
  This file proves what a run gets its collections from when
  it is given a file with them: they are the ones of the
  document in the file. Without them the run ends early.

  Key definitions include:
    * `Halt.ofSchemaFile`
    * `PostsFile.tree`

  Key theorems include:
    * `Arguments.read_schemaFile_output`
    * `loadCollections_eq_of_document`
    * `Run.run_fileCollections`
    * `Run.run_collections`
-/

------------------------------------------------------------
-- Command Lines
------------------------------------------------------------

namespace PocketDart

open Stateful (run_bind_of_ok run_bind_of_error run_get_bind)
open Stateful (run_modify_bind)

namespace Word

theorem read_plain
    {word : String}
    (hHead : word.toList.head? ≠ some '-') :
    Word.read word = .ok .plain := by
  rw [Word.read, if_pos hHead]

theorem ne_divider
    {word : String}
    (hHead : word.toList.head? ≠ some '-') :
    word ≠ "--" := by
  rintro rfl
  exact hHead rfl

theorem read_schemaFile :
    Word.read "--schema-file" =
      .ok (.given .schemaFile true none) := rfl

end Word

namespace Arguments

/- A command line with a schema file. -/
theorem read_schemaFile
    {file : String}
    (hFile : file.toList.head? ≠ some '-') :
    Arguments.read ["--schema-file", file] =
      .ok { schemaFile := some file } := by
  have hWords : Word.readAll ["--schema-file", file] =
      .ok [("--schema-file", .given .schemaFile true none),
        (file, .plain)] := by
    simp [Word.readAll, Word.read_schemaFile,
      Word.read_plain hFile, Word.ne_divider hFile, pure,
      Except.pure]
  rw [Arguments.read, hWords]
  simp [Except.mapError, collect, Cluster.ofWord, complete,
    Switch.takesValue, give, set, Switch.rival?, pure,
    Except.pure]

/- A command line with a schema file and a directory. -/
theorem read_schemaFile_output
    {file directory : String}
    (hFile : file.toList.head? ≠ some '-')
    (hDirectory : directory.toList.head? ≠ some '-') :
    Arguments.read
        ["--schema-file", file, "--output", directory] =
      .ok { schemaFile := some file
            output := some directory } := by
  have hOutput : Word.read "--output" =
      .ok (.given .output true none) := rfl
  have hWords : Word.readAll
      ["--schema-file", file, "--output", directory] =
        .ok [("--schema-file", .given .schemaFile true none),
          (file, .plain),
          ("--output", .given .output true none),
          (directory, .plain)] := by
    simp [Word.readAll, Word.read_schemaFile, hOutput,
      Word.read_plain hFile, Word.read_plain hDirectory,
      Word.ne_divider hFile, Word.ne_divider hDirectory,
      pure, Except.pure]
  rw [Arguments.read, hWords]
  simp [Except.mapError, collect, Cluster.ofWord, complete,
    Switch.takesValue, give, set, Switch.rival?, pure,
    Except.pure]

end Arguments

------------------------------------------------------------
-- Documents
------------------------------------------------------------

section

variable {machine : Machine}
variable {tree : FileTree}
variable {path : String}
variable {document : Value}

/-
  What is loaded from a file is what is read from its
  document, or the fault of the document.
-/
theorem loadCollections_eq_of_document
    (hDocument :
      readDocument machine tree (.ofString path) =
        .ok document) :
    (loadCollections machine tree path).result =
      (readCollections machine.tagLevels document).mapError
        (.ofFault (.ofString path)) := by
  have hExists : tree.exists? (.ofString path) = .ok true := by
    rcases Fallible.bind_eq_ok.mp hDocument with
      ⟨bytes, hBytes, _⟩
    exact FileTree.exists?_of_readFile
      (Fallible.mapError_eq_ok.mp hBytes)
  have hSchema : readSchemaFile machine tree
      (.ofString path) =
        (readCollections machine.tagLevels
          document).mapError (.ofFault (.ofString path)) := by
    rw [readSchemaFile, hDocument]
    rfl
  simp only [loadCollections, hExists, hSchema]

theorem loadCollections_of_document
    {collections : List Collection}
    (hDocument :
      readDocument machine tree (.ofString path) =
        .ok document)
    (hCollections :
      readCollections machine.tagLevels document =
        .ok collections) :
    (loadCollections machine tree path).result =
      .ok collections := by
  rw [loadCollections_eq_of_document hDocument,
    hCollections]
  rfl

end

/- How a run ends when no collections can be loaded. -/
def Halt.ofSchemaFile (error : SchemaFileError) : Halt :=
  if error.isHandled then .failure error.message
  else .crash (.schemaFile error)

namespace Run

/- Without its file there is no configuration. -/
theorem run_configurationIfAny
    (surroundings : Surroundings)
    {arguments : Arguments}
    {state : RunState}
    {configuration : String}
    (hConfiguration :
      arguments.configuration = some configuration)
    (hNone :
      state.tree.exists? (.ofString configuration) =
        .ok false) :
    (configurationIfAny surroundings arguments).run state =
      .ok none state := by
  unfold configurationIfAny
  rw [hConfiguration]
  dsimp only
  rw [run_get_bind, hNone]
  rfl

theorem run_fileCollections
    (machine : Machine)
    (file : String)
    (includeSystem : Bool)
    (state : RunState) :
    ∃ fetched,
      (fileCollections machine file includeSystem).run
          state =
        match (loadCollections machine state.tree
          file).result with
        | .ok collections =>
            .ok (collections.filter fun collection =>
              includeSystem || !collection.system) fetched
        | .error error =>
            .error (Halt.ofSchemaFile error) fetched := by
  unfold fileCollections
  rw [line, display, run_modify_bind, run_get_bind]
  rcases gives_logged
    (loadCollections machine state.tree file)
    (state.display _) with ⟨next, hLogged, _⟩
  refine ⟨next, (run_bind_of_ok hLogged).trans ?_⟩
  cases (loadCollections machine state.tree file).result with
  | ok collections => rfl
  | error error =>
      dsimp only
      rw [Halt.ofSchemaFile]
      split
      · rfl
      · rfl

theorem run_collections
    {surroundings : Surroundings}
    {arguments : Arguments}
    {state loaded : RunState}
    {configuration : Option Configuration}
    {file : String}
    (hConfigured :
      (configurationIfAny surroundings arguments).run state =
        .ok configuration loaded)
    (hFile : arguments.schemaFile = some file)
    (hSome : file ≠ "") :
    ∃ fetched,
      (Run.collections surroundings arguments).run state =
        match (loadCollections surroundings.machine state.tree
          file).result with
        | .ok collections =>
            .ok (configuration,
              collections.filter fun collection =>
                wantsSystem arguments configuration ||
                  !collection.system) fetched
        | .error error =>
            .error (Halt.ofSchemaFile error) fetched := by
  rcases run_fileCollections surroundings.machine file
    (wantsSystem arguments configuration) loaded with
    ⟨fetched, hRun⟩
  rw [(keepsFiles_configurationIfAny _ _).tree_eq
    hConfigured] at hRun
  refine ⟨fetched, ?_⟩
  have hGiven : (some file).filter (· ≠ "") = some file := by
    simp [hSome]
  unfold Run.collections
  rw [hFile, hGiven]
  dsimp only
  rw [run_bind_of_ok hConfigured]
  cases hLoaded : (loadCollections surroundings.machine
      state.tree file).result with
  | ok collections =>
      rw [hLoaded] at hRun
      rw [run_bind_of_ok hRun]
      rfl
  | error error =>
      rw [hLoaded] at hRun
      rw [run_bind_of_error hRun]

theorem exists_run_collections
    {surroundings : Surroundings}
    {arguments : Arguments}
    {state loaded : RunState}
    {configuration : Option Configuration}
    {file : String}
    {collections : List Collection}
    (hConfigured :
      (configurationIfAny surroundings arguments).run state =
        .ok configuration loaded)
    (hFile : arguments.schemaFile = some file)
    (hSome : file ≠ "")
    (hLoaded :
      (loadCollections surroundings.machine state.tree
        file).result = .ok collections) :
    ∃ fetched,
      (Run.collections surroundings arguments).run state =
        .ok (configuration,
          collections.filter fun collection =>
            wantsSystem arguments configuration ||
              !collection.system) fetched := by
  rcases run_collections hConfigured hFile hSome with
    ⟨fetched, hRun⟩
  rw [hLoaded] at hRun
  exact ⟨fetched, hRun⟩

end Run

------------------------------------------------------------
-- A File of One Collection
------------------------------------------------------------

namespace PostsFile

def document : String :=
  "[\x7b\"name\":\"posts\"\x7d]"

/- A tree with the document and nothing else. -/
def tree : FileTree :=
  { nodes :=
      [(["s.json"], .file (Utf8.encode document))] }

def posts : Collection :=
  { name := .text "posts", fields := [], id := .null
    kind := .text "base", system := false }

theorem posts_isText :
    ∀ collection ∈ [posts],
      collection.name = .text collection.nameText := by
  intro collection hCollection
  rcases List.mem_singleton.mp hCollection with rfl
  rfl

theorem readDocument_tree :
    readDocument .usual tree (.ofString "s.json") =
      .ok (.list [.object [("name", .text "posts")]]) := by
  have hBytes : tree.readFile (.ofString "s.json") =
      .ok (Utf8.encode document) := rfl
  have hText : Utf8.decode (Utf8.encode document) =
      .ok document := by
    have hAscii : Text.IsAscii document.toList := by
      decide
    simpa using Utf8.decode_encode_ascii hAscii
  have hDocument : Json.read .usual (String.ofList
      (Text.unifyBreaks document.toList)) =
        .ok (.list [.object [("name", .text "posts")]]) := by
    simp only [Json.read, String.toList_ofList, document,
      String.reduceToList]
    rfl
  simp [readDocument, hBytes, hText, hDocument,
    Except.mapError]

theorem loadCollections_tree :
    (loadCollections .usual tree "s.json").result =
      .ok [posts] :=
  loadCollections_of_document readDocument_tree rfl

theorem exists_run
    (session : Session)
    (directory : String) :
    ∃ fetched,
      (Run.collections (.usual [] .notFound)
          { schemaFile := some "s.json"
            output := some directory }).run
          { tree := tree, session := session } =
        .ok (none, [posts]) fetched := by
  let arguments : Arguments :=
    { schemaFile := some "s.json", output := some directory }
  let state : RunState := { tree := tree, session := session }
  have hNone :
      tree.exists? (.ofString defaultConfigurationPath) =
        .ok false := rfl
  have hConfiguration : arguments.configuration =
      some defaultConfigurationPath := rfl
  have hFile : arguments.schemaFile = some "s.json" := rfl
  have hLoaded : (loadCollections .usual state.tree
      "s.json").result = .ok [posts] := loadCollections_tree
  exact Run.exists_run_collections
    (Run.run_configurationIfAny (.usual [] .notFound)
      hConfiguration hNone) hFile (by decide) hLoaded

end PostsFile

end PocketDart
