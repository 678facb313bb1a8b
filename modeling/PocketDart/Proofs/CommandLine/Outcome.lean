import PocketDart.Proofs.CommandLine.SchemaFile
import PocketDart.Proofs.CommandLine.Summary
import PocketDart.Proofs.Files.Failure

/-
  This file proves what a run that has its collections comes
  to: which files there are at the end and what the exit
  code is. The code tells of failed collections and failed
  writing and of nothing else, but for one case: a run ends
  without a code when its models are stranded.

  Key definitions include:
    * `CommandResult.TellsFailures`
    * `CommandResult.TellsWriting`
    * `CommandResult.Accounts`

  Key theorems include:
    * `Run.run_writeAll`
    * `Run.run_generation_of_report`
    * `tellsWriting_of_run`
    * `command_accounts_for_collections`
-/

------------------------------------------------------------
-- Writing and Showing
------------------------------------------------------------

namespace PocketDart

open Stateful (run_bind_of_ok run_bind_of_error run_get_bind)
open Stateful (run_modify_bind)

def Halt.ofWriting : WriteError → Halt
  | .unusable error => .crash (.writing (.unusable error))
  | error => .failure error.message

def settingsOf
    (configuration : Option Configuration) : Settings :=
  (configuration.map Configuration.settings).getD {}

namespace Run

variable {surroundings : Surroundings}
variable {arguments : Arguments}
variable {configuration : Option Configuration}
variable {collections : List Collection}
variable {report : GenerationReport}
variable {state fetched : RunState}
variable {written : Written}

theorem run_writeTo
    {machine : Machine}
    {directory : String}
    {models : List GeneratedModel}
    (hWritten :
      writeModels machine.missingDirectories state.tree
        directory models = written) :
    ∃ next,
      (writeTo machine directory models).run state =
          (match written.result with
          | .ok paths => .ok paths next
          | .error cause =>
              .error (Halt.ofWriting cause) next) ∧
        next.tree = written.tree := by
  unfold writeTo
  rw [run_get_bind, hWritten]
  dsimp only
  rw [run_modify_bind, log, run_modify_bind]
  refine ⟨{ state with
      tree := written.tree
      messages := state.messages ++ written.messages },
    ?_, rfl⟩
  rcases written.result with ⟨_ | _ | _⟩ | paths
  all_goals rfl

def afterWriting
    (surroundings : Surroundings)
    (arguments : Arguments)
    (configuration : Option Configuration)
    (report : GenerationReport)
    (paths : List Path) : Run Nat := do
  if !paths.isEmpty && wantsFormat arguments configuration then
    formatIn surroundings
      (outputDirectory arguments configuration)
  summary report paths
  if report.success then line "[green]✓ Done[/green]"
  return exitCode report

theorem exists_afterWriting
    (surroundings : Surroundings)
    (hWritten :
      writeModels surroundings.machine.missingDirectories
        state.tree (outputDirectory arguments configuration)
        report.modelList = written) :
    ∃ next,
      (writeAll surroundings arguments configuration
            report).run state =
          (match written.result with
          | .ok paths =>
              (afterWriting surroundings arguments
                configuration report paths).run next
          | .error cause =>
              .error (Halt.ofWriting cause) next) ∧
        next.tree = written.tree := by
  unfold writeAll
  dsimp only
  rw [line, display, run_modify_bind]
  have hShown : ∀ shown, writeModels
      surroundings.machine.missingDirectories
      (state.display shown).tree
      (outputDirectory arguments configuration)
      report.modelList = written := fun _ => hWritten
  rcases run_writeTo (hShown _) with ⟨next, hWrite, hTree⟩
  refine ⟨next, ?_, hTree⟩
  cases hResult : written.result with
  | error cause =>
      rw [hResult] at hWrite
      rw [run_bind_of_error hWrite]
  | ok paths =>
      rw [hResult] at hWrite
      rw [run_bind_of_ok hWrite]
      rfl

theorem gives_afterWriting
    (surroundings : Surroundings)
    (arguments : Arguments)
    (configuration : Option Configuration)
    (hTexts : report.IsOverTexts)
    (paths : List Path) :
    (afterWriting surroundings arguments configuration
      report paths).Gives (exitCode report) := by
  have hEnd : Gives (do
      summary report paths
      if report.success then line "[green]✓ Done[/green]"
      return exitCode report) (exitCode report) := by
    refine (gives_summary hTexts paths).bind ?_
    split
    · exact (gives_display _).bind (gives_pure _)
    · exact gives_pure _
  unfold afterWriting
  dsimp only
  split
  · exact (gives_formatIn _ _).bind hEnd
  · exact hEnd

/-
  A run that writes: the files are those that are written,
  and only a failure to write keeps back the exit code.
-/
theorem run_writeAll
    (surroundings : Surroundings)
    (hTexts : report.IsOverTexts)
    (hWritten :
      writeModels surroundings.machine.missingDirectories
        state.tree (outputDirectory arguments configuration)
        report.modelList = written) :
    ∃ after,
      (writeAll surroundings arguments configuration
            report).run state =
          (match written.result with
          | .ok _ => .ok (exitCode report) after
          | .error cause =>
              .error (Halt.ofWriting cause) after) ∧
        after.tree = written.tree := by
  rcases exists_afterWriting surroundings hWritten with
    ⟨next, hAll, hTree⟩
  rw [hAll]
  cases written.result with
  | error cause => exact ⟨next, rfl, hTree⟩
  | ok paths =>
      exact (gives_afterWriting surroundings arguments
        configuration hTexts paths).exists_run hTree

/- A directory that is asked for is where models go. -/
theorem outputDirectory_of_output
    {directory : String}
    (hOutput : arguments.output = some directory)
    (hSome : directory ≠ "")
    (configuration : Option Configuration) :
    outputDirectory arguments configuration = directory := by
  have hGiven : (some directory).filter (· ≠ "") =
      some directory := by
    simp [hSome]
  rw [outputDirectory, hOutput, hGiven]

theorem run_generation_of_nil
    (hFetched :
      (Run.collections surroundings arguments).run state =
        .ok (configuration, []) fetched) :
    ∃ after,
      (generation surroundings arguments).run state =
          .ok 0 after ∧
        after.tree = state.tree := by
  have hTree := (keepsFiles_collections _ _).tree_eq hFetched
  unfold generation
  rw [run_bind_of_ok hFetched]
  dsimp only
  rw [if_pos List.isEmpty_nil]
  refine Gives.exists_run ?_ hTree
  refine Gives.bind (gives_display _) ?_
  exact gives_pure 0

theorem run_generation_of_ne_nil
    (hFetched :
      (Run.collections surroundings arguments).run state =
        .ok (configuration, collections) fetched)
    (hSome : collections ≠ []) :
    ∃ next,
      (generation surroundings arguments).run state =
          (match (generate (settingsOf configuration)
              collections).result with
          | .error cause => .error (.crash (.misuse cause)) next
          | .ok report =>
              (if arguments.standardOutput then showAll report
                else writeAll surroundings arguments
                  configuration report).run next) ∧
        next.tree = state.tree := by
  have hTree := (keepsFiles_collections _ _).tree_eq hFetched
  unfold generation
  rw [run_bind_of_ok hFetched]
  dsimp only
  rw [if_neg (by simpa using hSome)]
  unfold models
  dsimp only
  rw [line, display, run_modify_bind]
  rcases gives_logged (generate (settingsOf configuration)
    collections) (fetched.display _) with
    ⟨next, hLogged, hKept⟩
  refine ⟨next, (run_bind_of_ok hLogged).trans ?_,
    hKept.trans hTree⟩
  cases (generate (settingsOf configuration)
    collections).result with
  | error cause => rfl
  | ok report => rfl

theorem run_generation_of_report
    (hFetched :
      (Run.collections surroundings arguments).run state =
        .ok (configuration, collections) fetched)
    (hSome : collections ≠ [])
    (hReport :
      (generate (settingsOf configuration)
        collections).result = .ok report) :
    ∃ next,
      (generation surroundings arguments).run state =
          (if arguments.standardOutput then showAll report
            else writeAll surroundings arguments
              configuration report).run next ∧
        next.tree = state.tree := by
  rcases run_generation_of_ne_nil hFetched hSome with
    ⟨next, hRun, hTree⟩
  rw [hReport] at hRun
  exact ⟨next, hRun, hTree⟩

end Run

------------------------------------------------------------
-- Commands
------------------------------------------------------------

/- The exit of a run that ends early. -/
def Halt.exit : Halt → Except Crash Nat
  | .failure _ => .ok 1
  | .interruption => .ok 130
  | .crash cause => .error cause

section

variable {surroundings : Surroundings}
variable {words : List String}
variable {arguments : Arguments}
variable {state after : RunState}

theorem runCommand_of_ok
    (hRead : Arguments.read words = .ok arguments)
    {code : Nat}
    (hRun :
      (Run.generation surroundings arguments).run state =
        .ok code after) :
    (runCommand surroundings words state).exit = .ok code ∧
      (runCommand surroundings words state).state.tree =
        after.tree := by
  simp only [runCommand, hRead, hRun]
  exact ⟨rfl, rfl⟩

theorem runCommand_of_error
    (hRead : Arguments.read words = .ok arguments)
    {halt : Halt}
    (hRun :
      (Run.generation surroundings arguments).run state =
        .error halt after) :
    (runCommand surroundings words state).exit = halt.exit ∧
      (runCommand surroundings words state).state.tree =
        after.tree := by
  simp only [runCommand, hRead, hRun]
  cases halt with
  | failure message => exact ⟨rfl, rfl⟩
  | interruption => exact ⟨rfl, rfl⟩
  | crash cause => exact ⟨rfl, rfl⟩

end

/-
  A command exits with the code for failed collections: zero
  when every collection has its model.
-/
structure CommandResult.TellsFailures
    (settings : Settings)
    (collections : List Collection)
    (result : CommandResult) : Prop where
  code : result.exit = .ok 0 ∨ result.exit = .ok 1
  success :
    result.exit = .ok 0 ↔ AllEmit settings collections

theorem CommandResult.tellsFailures_of_exitCode
    {settings : Settings}
    {collections : List Collection}
    {report : GenerationReport}
    {result : CommandResult}
    (hLists : report.Lists settings collections)
    (hExit : result.exit = .ok (Run.exitCode report)) :
    result.TellsFailures settings collections := by
  rw [Run.exitCode] at hExit
  by_cases hSuccess : report.success = true
  · rw [if_pos hSuccess] at hExit
    exact ⟨Or.inl hExit,
      iff_of_true hExit (hLists.success.mp hSuccess)⟩
  · rw [if_neg hSuccess] at hExit
    refine ⟨Or.inr hExit, iff_of_false ?_ ?_⟩
    · rw [hExit]
      nofun
    · exact fun hAll => hSuccess (hLists.success.mpr hAll)

/-
  A command that writes: the files and the code when writing
  succeeds, and the exit when it fails.
-/
structure CommandResult.TellsWriting
    (settings : Settings)
    (collections : List Collection)
    (directory : String)
    (tree : FileTree)
    (strands : Prop)
    (written : Written)
    (result : CommandResult) : Prop where
  files :
    ∀ paths, written.result = .ok paths →
      ∃ place,
        result.state.tree.LeadsTo (.ofString directory)
            place ∧
          tree.HoldsModels place
            (IsOnlyModel settings collections)
            result.state.tree
  success :
    ∀ paths, written.result = .ok paths →
      result.TellsFailures settings collections
  failure :
    ∀ cause, written.result = .error cause → ¬ strands →
      result.exit = .ok 1
  crash :
    strands →
      ∃ cause, written.result = .error (.unusable cause) ∧
        result.exit = .error (.writing (.unusable cause))

/-
  What a command with its collections comes to, where so
  many directories may be missing.
-/
structure CommandResult.Accounts
    (levels : Nat)
    (settings : Settings)
    (collections : List Collection)
    (standardOutput : Bool)
    (directory : String)
    (tree : FileTree)
    (result : CommandResult) : Prop where
  nothing :
    collections = [] →
      result.exit = .ok 0 ∧ result.state.tree = tree
  shown :
    collections ≠ [] → standardOutput = true →
      result.state.tree = tree ∧
        result.TellsFailures settings collections
  written :
    collections ≠ [] → standardOutput = false →
      ∃ report,
        (generate settings collections).result =
            .ok report ∧
          result.TellsWriting settings collections directory
            tree
            (tree.Strands levels (.ofString directory)
              report.modelList)
            (writeModels levels tree directory
              report.modelList)

section

variable {surroundings : Surroundings}
variable {words : List String}
variable {arguments : Arguments}
variable {configuration : Option Configuration}
variable {collections : List Collection}
variable {report : GenerationReport}
variable {state fetched : RunState}

theorem tellsWriting_of_run
    (hRead : Arguments.read words = .ok arguments)
    (hExtension : (settingsOf configuration).ExtendsNames)
    (hLists : report.Lists (settingsOf configuration)
      collections)
    (hTree : fetched.tree = state.tree)
    (hRun :
      (Run.generation surroundings arguments).run state =
        (Run.writeAll surroundings arguments configuration
          report).run fetched) :
    (runCommand surroundings words state).TellsWriting
      (settingsOf configuration) collections
      (Run.outputDirectory arguments configuration)
      state.tree
      (state.tree.Strands
        surroundings.machine.missingDirectories
        (.ofString (Run.outputDirectory arguments
          configuration)) report.modelList)
      (writeModels surroundings.machine.missingDirectories
        state.tree
        (Run.outputDirectory arguments configuration)
        report.modelList) := by
  have hWritten := congrArg
    (writeModels surroundings.machine.missingDirectories ·
      (Run.outputDirectory arguments configuration)
      report.modelList) hTree
  rcases Run.run_writeAll surroundings hLists.texts
    hWritten with ⟨after, hAll, hAfter⟩
  rw [hAll] at hRun
  have hNames := hLists.components hExtension
  refine
    { files := fun paths hResult => ?_
      success := fun paths hResult => ?_
      failure := fun cause hResult hRoom => ?_
      crash := fun hStrands => ?_ }
  · rw [hResult] at hRun
    rw [(runCommand_of_ok hRead hRun).2, hAfter,
      ← funext fun model => propext (hLists.models model)]
    exact holdsModels_of_writeModels hNames
      hLists.filesDistinct hResult
  · rw [hResult] at hRun
    exact CommandResult.tellsFailures_of_exitCode hLists
      (runCommand_of_ok hRead hRun).1
  · have hStrands := mt writeModels_unusable_iff.mp hRoom
    rw [hResult] at hRun
    rw [(runCommand_of_error hRead hRun).1]
    cases cause with
    | noDirectory path error => rfl
    | notWritten path error => rfl
    | unusable error => exact absurd ⟨error, hResult⟩ hStrands
  · rcases writeModels_unusable_iff.mpr hStrands with
      ⟨cause, hResult⟩
    rw [hResult] at hRun
    exact ⟨cause, hResult,
      (runCommand_of_error hRead hRun).1⟩

end

/-
  A command that has its collections, all with texts for
  names, accounts for them: it exits with zero when each has
  its model, and the files at the end are those at the start
  and those of the models. Without an exit code it ends only
  where its models are stranded.
-/
theorem command_accounts_for_collections
    {surroundings : Surroundings}
    {words : List String}
    {arguments : Arguments}
    {configuration : Option Configuration}
    {collections : List Collection}
    {state fetched : RunState}
    (hRead : Arguments.read words = .ok arguments)
    (hFetched :
      (Run.collections surroundings arguments).run state =
        .ok (configuration, collections) fetched)
    (hNames : ∀ collection ∈ collections,
      collection.name = .text collection.nameText)
    (hExtension :
      (settingsOf configuration).ExtendsNames) :
    (runCommand surroundings words state).Accounts
      surroundings.machine.missingDirectories
      (settingsOf configuration) collections
      arguments.standardOutput
      (Run.outputDirectory arguments configuration)
      state.tree := by
  rcases exists_lists_of_generate
      (settingsOf configuration) hNames with
    ⟨report, hReport, hLists⟩
  refine
    { nothing := fun hNone => ?_
      shown := fun hSome hShow => ?_
      written := fun hSome hWrite => ⟨report, hReport, ?_⟩ }
  · subst hNone
    rcases Run.run_generation_of_nil hFetched with
      ⟨after, hRun, hTree⟩
    have hEnd := runCommand_of_ok hRead hRun
    exact ⟨hEnd.1, hEnd.2.trans hTree⟩
  · rcases Run.run_generation_of_report hFetched hSome
      hReport with ⟨next, hRun, hTree⟩
    rw [if_pos hShow] at hRun
    rcases Run.gives_showAll hLists.texts next with
      ⟨after, hShown, hKept⟩
    have hEnd := runCommand_of_ok hRead (hRun.trans hShown)
    exact ⟨hEnd.2.trans (hKept.trans hTree),
      CommandResult.tellsFailures_of_exitCode hLists
        hEnd.1⟩
  · rcases Run.run_generation_of_report hFetched hSome
      hReport with ⟨next, hRun, hTree⟩
    rw [if_neg (by simp [hWrite])] at hRun
    exact tellsWriting_of_run hRead hExtension hLists hTree
      hRun

/- A command that writes the model of one collection. -/
theorem posts_command_accounts :
    let state : RunState :=
      { tree := PostsFile.tree
        session := { replies := [], silence := "" } }
    (runCommand (.usual [] .notFound)
        ["--schema-file", "s.json", "--output", "out"]
        state).Accounts Machine.usual.missingDirectories {}
      [PostsFile.posts] false "out" PostsFile.tree := by
  intro state
  rcases PostsFile.exists_run
    { replies := [], silence := "" } "out" with
    ⟨fetched, hFetched⟩
  exact command_accounts_for_collections
    (Arguments.read_schemaFile_output (by decide)
      (by decide)) hFetched PostsFile.posts_isText
    ⟨by decide, by decide⟩

/-
  Into a directory below more than a thousand others that
  are missing nothing is written, and there is no code.
-/
theorem nested_command_has_no_code :
    let words :=
      ["--schema-file", "s.json", "--output",
        nestedDirectory 1100]
    let state : RunState :=
      { tree := PostsFile.tree
        session := { replies := [], silence := "" } }
    ∃ report cause,
      (generate {} [PostsFile.posts]).result =
          .ok report ∧
        (writeModels Machine.usual.missingDirectories
          PostsFile.tree (nestedDirectory 1100)
          report.modelList).result = .error cause ∧
        (runCommand (.usual [] .notFound) words
          state).exit ≠ .ok 1 := by
  intro words state
  let arguments : Arguments :=
    { schemaFile := some "s.json"
      output := some (nestedDirectory 1100) }
  have hHead := head?_nestedDirectory
    (show 0 < 1100 by decide)
  have hSome : nestedDirectory 1100 ≠ "" := by
    intro hEmpty
    rw [hEmpty] at hHead
    cases hHead
  have hRead : Arguments.read words = .ok arguments :=
    Arguments.read_schemaFile_output (by decide)
      (by simp [hHead])
  have hOutput : Run.outputDirectory arguments none =
      nestedDirectory 1100 :=
    Run.outputDirectory_of_output rfl hSome none
  have hDeep : PostsFile.tree.TooDeep
      Machine.usual.missingDirectories
      (.ofString (nestedDirectory 1100)) :=
    FileTree.tooDeep_nestedDirectory rfl rfl (by decide)
      (by decide)
  rcases exists_lists_of_generate (settingsOf none)
    PostsFile.posts_isText with ⟨report, hReport, hLists⟩
  rcases PostsFile.exists_run
    { replies := [], silence := "" } (nestedDirectory 1100)
    with ⟨fetched, hFetched⟩
  rcases Run.run_generation_of_report hFetched (by simp)
    hReport with ⟨next, hRun, hTree⟩
  have hTells := tellsWriting_of_run hRead
    ⟨by decide, by decide⟩ hLists hTree hRun
  rw [hOutput] at hTells
  rcases hTells.crash (Or.inl hDeep) with
    ⟨cause, hCause, hExit⟩
  refine ⟨report, .unusable cause, hReport, hCause, ?_⟩
  rw [hExit]
  nofun

end PocketDart
