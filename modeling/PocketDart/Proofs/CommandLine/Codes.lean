import PocketDart.Proofs.CommandLine.Endings

/-
  This file proves when a command that reads its collections
  from a file exits with zero or one. It does for contents
  of the files whose errors are handled, if no name that is
  left is a list or an object, and if the models are not
  stranded.

  Key definitions include:
    * `IsZeroOrOne`
    * `RunState.ReachesCode`

  Key theorems include:
    * `Run.exitOf_writeAll_iff`
    * `Run.exitOf_generation_iff`
    * `command_exits_with_code_iff`
-/

------------------------------------------------------------
-- Exits
------------------------------------------------------------

namespace PocketDart

open Stateful (run_bind_of_error)

/- An exit that tells of success or failure. -/
def IsZeroOrOne (exit : Except Crash Nat) : Prop :=
  exit = .ok 0 ∨ exit = .ok 1

def Run.exitOf
    (action : Run Nat)
    (state : RunState) : Except Crash Nat :=
  match action.run state with
  | .ok code _ => .ok code
  | .error halt _ => halt.exit

theorem Halt.isZeroOrOne_exit_iff (halt : Halt) :
    IsZeroOrOne halt.exit ↔ halt.IsFailure := by
  cases halt with
  | failure message =>
      exact iff_of_true (Or.inr rfl) ⟨message, rfl⟩
  | interruption =>
      refine iff_of_false (not_or.mpr ⟨nofun, nofun⟩) ?_
      rintro ⟨_, ⟨⟩⟩
  | crash cause =>
      refine iff_of_false (not_or.mpr ⟨nofun, nofun⟩) ?_
      rintro ⟨_, ⟨⟩⟩

namespace Run

variable {surroundings : Surroundings}
variable {arguments : Arguments}
variable {configuration : Option Configuration}
variable {collections : List Collection}
variable {report : GenerationReport}
variable {state fetched : RunState}

theorem isZeroOrOne_exitCode (report : GenerationReport) :
    IsZeroOrOne (.ok (exitCode report)) := by
  unfold exitCode
  split
  · exact Or.inl rfl
  · exact Or.inr rfl

theorem exitOf_congr
    {action other : Run Nat}
    {next : RunState}
    (hRun : action.run state = other.run next) :
    action.exitOf state = other.exitOf next := by
  rw [exitOf, hRun]
  rfl

theorem Ends.isZeroOrOne
    {action : Run Nat}
    (hEnds : action.Ends (· = exitCode report)
      Halt.IsUnshowable)
    (hShown : ∀ kind,
      action.exitOf state ≠ .error (.notShowable kind)) :
    IsZeroOrOne (action.exitOf state) := by
  have hEnd := hEnds state
  unfold exitOf at hShown ⊢
  cases hRun : action.run state with
  | ok code after =>
      rw [hRun] at hEnd
      dsimp only at hEnd ⊢
      rw [hEnd]
      exact isZeroOrOne_exitCode report
  | error halt after =>
      rw [hRun] at hEnd hShown
      rcases hEnd with ⟨kind, rfl⟩
      exact absurd rfl (hShown kind)

/- Writing keeps a code back where models are stranded. -/
theorem exitOf_writeAll_iff
    (hShown : ∀ kind,
      (writeAll surroundings arguments configuration
        report).exitOf state ≠ .error (.notShowable kind)) :
    IsZeroOrOne
        ((writeAll surroundings arguments configuration
          report).exitOf state) ↔
      ¬ state.tree.Strands
        surroundings.machine.missingDirectories
        (.ofString (outputDirectory arguments
          configuration)) report.modelList := by
  rcases exists_afterWriting surroundings
      (rfl : writeModels
        surroundings.machine.missingDirectories state.tree
        (outputDirectory arguments configuration)
        report.modelList = _) with
    ⟨next, hRun, _⟩
  rw [← writeModels_unusable_iff]
  cases hResult : (writeModels
      surroundings.machine.missingDirectories state.tree
      (outputDirectory arguments configuration)
      report.modelList).result with
  | ok paths =>
      rw [hResult] at hRun
      rw [exitOf_congr hRun] at hShown ⊢
      refine iff_of_true ?_ nofun
      exact (ends_afterWriting surroundings arguments
        configuration report paths).isZeroOrOne hShown
  | error cause =>
      rw [hResult] at hRun
      rw [exitOf, hRun, Halt.isZeroOrOne_exit_iff]
      cases cause with
      | noDirectory path error =>
          exact iff_of_true ⟨_, rfl⟩ nofun
      | notWritten path error =>
          exact iff_of_true ⟨_, rfl⟩ nofun
      | unusable error =>
          refine iff_of_false ?_ (not_not_intro ⟨_, rfl⟩)
          rintro ⟨_, ⟨⟩⟩

/-
  With its collections a run has such an exit exactly if
  their names can be looked up and there is room for the
  models.
-/
theorem exitOf_generation_iff
    (hFetched :
      (Run.collections surroundings arguments).run state =
        .ok (configuration, collections) fetched)
    (hShown : ∀ kind,
      (generation surroundings arguments).exitOf state ≠
        .error (.notShowable kind)) :
    IsZeroOrOne
        ((generation surroundings arguments).exitOf state) ↔
      (∀ collection ∈ collections, collection.name.isKey) ∧
        ∀ report,
          (generate (settingsOf configuration)
              collections).result = .ok report →
            collections ≠ [] →
              arguments.standardOutput = false →
                ¬ state.tree.Strands
                  surroundings.machine.missingDirectories
                  (.ofString (outputDirectory arguments
                    configuration)) report.modelList := by
  by_cases hSome : collections = []
  · subst hSome
    rcases run_generation_of_nil hFetched with
      ⟨after, hRun, _⟩
    rw [exitOf, hRun]
    exact iff_of_true (Or.inl rfl)
      ⟨nofun, fun _ _ hNone => absurd rfl hNone⟩
  rcases run_generation_of_ne_nil hFetched hSome with
    ⟨next, hRun, hTree⟩
  have hKeys := Progress.steps_eq_ok_iff
    (settingsOf configuration) .start collections
  cases hResult : (generate (settingsOf configuration)
      collections).result with
  | error cause =>
      rw [hResult] at hRun
      refine iff_of_false ?_ ?_
      · rw [exitOf, hRun, Halt.isZeroOrOne_exit_iff]
        rintro ⟨_, ⟨⟩⟩
      · rintro ⟨hNames, _⟩
        rcases hKeys.mpr hNames with ⟨final, hSteps⟩
        have hReport := generate_eq_ok_iff.mpr
          ⟨final, hSteps, rfl⟩
        rw [hResult] at hReport
        cases hReport
  | ok report =>
      rcases generate_eq_ok_iff.mp hResult with
        ⟨final, hSteps, _⟩
      have hNames := hKeys.mp ⟨final, hSteps⟩
      rw [hResult] at hRun
      dsimp only at hRun
      rw [exitOf_congr hRun] at hShown ⊢
      cases hShow : arguments.standardOutput with
      | true =>
          rw [hShow] at hShown
          rw [if_pos rfl] at hShown ⊢
          refine iff_of_true ?_ ⟨hNames, nofun⟩
          exact (ends_showAll report).isZeroOrOne hShown
      | false =>
          rw [hShow] at hShown
          rw [if_neg Bool.false_ne_true] at hShown ⊢
          rw [exitOf_writeAll_iff hShown, hTree]
          refine ⟨fun hRoom => ⟨hNames, ?_⟩,
            fun hBoth => hBoth.2 report rfl hSome rfl⟩
          rintro _ ⟨⟩ _ _
          exact hRoom

end Run

------------------------------------------------------------
-- Files
------------------------------------------------------------

/-
  The files of a run lead to zero or one: the errors of the
  configuration and of the schema file are handled, names
  of collections can be looked up, and where models are
  written they are not stranded.
-/
structure RunState.ReachesCode
    (state : RunState)
    (surroundings : Surroundings)
    (arguments : Arguments)
    (path file : String) : Prop where
  configuration :
    state.tree.ReadsConfigurationIfAny
      surroundings.IsLegible path
  schema :
    ∀ configuration loaded,
      (Run.configurationIfAny surroundings arguments).run
          state = .ok configuration loaded →
        state.tree.HasLegible
          (IsLegibleSchema surroundings.machine)
          (.ofString file)
  names :
    ∀ configuration collections fetched,
      (Run.collections surroundings arguments).run state =
          .ok (configuration, collections) fetched →
        ∀ collection ∈ collections, collection.name.isKey
  room :
    ∀ configuration collections fetched,
      (Run.collections surroundings arguments).run state =
          .ok (configuration, collections) fetched →
        ∀ report,
          (generate (settingsOf configuration)
              collections).result = .ok report →
            collections ≠ [] →
              arguments.standardOutput = false →
                ¬ state.tree.Strands
                  surroundings.machine.missingDirectories
                  (.ofString (Run.outputDirectory arguments
                    configuration)) report.modelList

section

variable {surroundings : Surroundings}
variable {words : List String}
variable {arguments : Arguments}
variable {configuration : Option Configuration}
variable {collections : List Collection}
variable {path file : String}
variable {state loaded fetched : RunState}
variable {halt : Halt}

theorem RunState.reachesCode_iff_of_error
    (hFetched :
      (Run.collections surroundings arguments).run state =
        .error halt fetched) :
    state.ReachesCode surroundings arguments path file ↔
      state.tree.ReadsConfigurationIfAny
          surroundings.IsLegible path ∧
        ∀ configuration loaded,
          (Run.configurationIfAny surroundings
              arguments).run state =
              .ok configuration loaded →
            state.tree.HasLegible
              (IsLegibleSchema surroundings.machine)
              (.ofString file) := by
  constructor
  · exact fun hCode => ⟨hCode.configuration, hCode.schema⟩
  · rintro ⟨hConfiguration, hSchema⟩
    refine
      { configuration := hConfiguration
        schema := hSchema
        names := fun _ _ _ hRun => ?_
        room := fun _ _ _ hRun => ?_ }
    · rw [hFetched] at hRun
      cases hRun
    · rw [hFetched] at hRun
      cases hRun

theorem RunState.reachesCode_iff_of_ok
    (hConfiguration : state.tree.ReadsConfigurationIfAny
      surroundings.IsLegible path)
    (hSchema : state.tree.HasLegible
      (IsLegibleSchema surroundings.machine)
      (.ofString file))
    (hFetched :
      (Run.collections surroundings arguments).run state =
        .ok (configuration, collections) fetched) :
    state.ReachesCode surroundings arguments path file ↔
      (∀ collection ∈ collections, collection.name.isKey) ∧
        ∀ report,
          (generate (settingsOf configuration)
              collections).result = .ok report →
            collections ≠ [] →
              arguments.standardOutput = false →
                ¬ state.tree.Strands
                  surroundings.machine.missingDirectories
                  (.ofString (Run.outputDirectory arguments
                    configuration)) report.modelList := by
  constructor
  · exact fun hCode => ⟨hCode.names _ _ _ hFetched,
      hCode.room _ _ _ hFetched⟩
  · rintro ⟨hNames, hRoom⟩
    refine
      { configuration := hConfiguration
        schema := fun _ _ _ => hSchema
        names := fun _ _ _ hRun => ?_
        room := fun _ _ _ hRun => ?_ }
    · rw [hFetched] at hRun
      cases hRun
      exact hNames
    · rw [hFetched] at hRun
      cases hRun
      exact hRoom

theorem exit_runCommand
    (hRead : Arguments.read words = .ok arguments)
    (surroundings : Surroundings)
    (state : RunState) :
    (runCommand surroundings words state).exit =
      (Run.generation surroundings arguments).exitOf
        state := by
  unfold Run.exitOf
  cases hRun :
      (Run.generation surroundings arguments).run state with
  | ok code after => exact (runCommand_of_ok hRead hRun).1
  | error halt after =>
      exact (runCommand_of_error hRead hRun).1

theorem Run.exitOf_generation_of_error
    (hFetched :
      (Run.collections surroundings arguments).run state =
        .error halt fetched) :
    (Run.generation surroundings arguments).exitOf state =
      halt.exit := by
  unfold exitOf generation
  rw [run_bind_of_error hFetched]

theorem Run.run_collections_of_error
    (hConfigured :
      (Run.configurationIfAny surroundings arguments).run
        state = .error halt loaded)
    (hFile : arguments.schemaFile = some file)
    (hSome : file ≠ "") :
    (Run.collections surroundings arguments).run state =
      .error halt loaded := by
  have hGiven : (some file).filter (· ≠ "") = some file := by
    simp [hSome]
  unfold Run.collections
  rw [hFile, hGiven]
  dsimp only
  rw [run_bind_of_error hConfigured]

theorem Run.configuration_of_run_collections
    (hConfigured :
      (Run.configurationIfAny surroundings arguments).run
        state = .ok configuration loaded)
    (hFile : arguments.schemaFile = some file)
    (hSome : file ≠ "")
    {other : Option Configuration}
    (hFetched :
      (Run.collections surroundings arguments).run state =
        .ok (other, collections) fetched) :
    other = configuration := by
  rcases run_collections hConfigured hFile hSome with
    ⟨after, hRun⟩
  rw [hFetched] at hRun
  split at hRun
  · cases hRun
    rfl
  · cases hRun

end

theorem exit_ne_notShowable
    {surroundings : Surroundings}
    {words : List String}
    {arguments : Arguments}
    {configuration : Option Configuration}
    {collections : List Collection}
    {state fetched : RunState}
    (hRead : Arguments.read words = .ok arguments)
    (hFetched :
      (Run.collections surroundings arguments).run state =
        .ok (configuration, collections) fetched)
    (hNames : ∀ collection ∈ collections,
      collection.name = .text collection.nameText)
    (kind : Value.Kind) :
    (runCommand surroundings words state).exit ≠
      .error (.notShowable kind) := by
  by_cases hSome : collections = []
  · subst hSome
    rcases Run.run_generation_of_nil hFetched with
      ⟨after, hRun, _⟩
    rw [(runCommand_of_ok hRead hRun).1]
    nofun
  rcases exists_lists_of_generate
      (settingsOf configuration) hNames with
    ⟨report, hReport, hLists⟩
  rcases Run.run_generation_of_report hFetched hSome
    hReport with ⟨next, hRun, _⟩
  split at hRun
  · rcases Run.gives_showAll hLists.texts next with
      ⟨after, hShown, _⟩
    rw [(runCommand_of_ok hRead (hRun.trans hShown)).1]
    nofun
  · rcases Run.run_writeAll surroundings hLists.texts
      (rfl : writeModels
        surroundings.machine.missingDirectories next.tree
        (Run.outputDirectory arguments configuration)
        report.modelList = _) with ⟨after, hAll, _⟩
    rw [hAll] at hRun
    cases hResult : (writeModels
        surroundings.machine.missingDirectories next.tree
        (Run.outputDirectory arguments configuration)
        report.modelList).result with
    | ok paths =>
        rw [hResult] at hRun
        rw [(runCommand_of_ok hRead hRun).1]
        nofun
    | error cause =>
        rw [hResult] at hRun
        rw [(runCommand_of_error hRead hRun).1]
        cases cause with
        | _ => nofun

/-
  A command that reads its collections from a file exits
  with zero or one exactly if the files lead there. This is
  for any bytes in the schema file and the configuration, or
  no such files; only names that cannot be shown are left
  out.
-/
theorem command_exits_with_code_iff
    {surroundings : Surroundings}
    {words : List String}
    {arguments : Arguments}
    {path file : String}
    {state : RunState}
    (hRead : Arguments.read words = .ok arguments)
    (hPath : arguments.configuration = some path)
    (hFile : arguments.schemaFile = some file)
    (hSome : file ≠ "")
    (hShown : ∀ kind,
      (runCommand surroundings words state).exit ≠
        .error (.notShowable kind)) :
    IsZeroOrOne (runCommand surroundings words state).exit ↔
      state.ReachesCode surroundings arguments path file := by
  rw [exit_runCommand hRead] at hShown ⊢
  have hReads := Run.configurationIfAny_crashesUnless
    surroundings hPath state
  cases hConfigured : (Run.configurationIfAny surroundings
      arguments).run state with
  | error halt loaded =>
      have hFetched := Run.run_collections_of_error
        hConfigured hFile hSome
      rw [Run.exitOf_generation_of_error hFetched,
        Halt.isZeroOrOne_exit_iff,
        hReads.isFailure_iff hConfigured,
        RunState.reachesCode_iff_of_error hFetched]
      refine (and_iff_left fun _ _ hRun => ?_).symm
      rw [hConfigured] at hRun
      cases hRun
  | ok configuration loaded =>
      have hSchema := Run.collections_crashesUnless
        hConfigured hFile hSome
      cases hFetched : (Run.collections surroundings
          arguments).run state with
      | error halt fetched =>
          rw [Run.exitOf_generation_of_error hFetched,
            Halt.isZeroOrOne_exit_iff,
            hSchema.isFailure_iff hFetched,
            RunState.reachesCode_iff_of_error hFetched]
          constructor
          · exact fun hLegible =>
              ⟨hReads.of_ok hConfigured,
                fun _ _ _ => hLegible⟩
          · exact fun hBoth => hBoth.2 _ _ hConfigured
      | ok result fetched =>
          rcases result with ⟨other, collections⟩
          rcases Run.configuration_of_run_collections
            hConfigured hFile hSome hFetched with rfl
          rw [Run.exitOf_generation_iff hFetched hShown,
            RunState.reachesCode_iff_of_ok
              (hReads.of_ok hConfigured)
              (hSchema.of_ok hFetched) hFetched]

/- The command that writes one model has such an exit. -/
theorem posts_command_exits_with_code :
    let state : RunState :=
      { tree := PostsFile.tree
        session := { replies := [], silence := "" } }
    IsZeroOrOne
      (runCommand (.usual [] .notFound)
        ["--schema-file", "s.json", "--output", "out"]
        state).exit := by
  intro state
  let surroundings : Surroundings := .usual [] .notFound
  let arguments : Arguments :=
    { schemaFile := some "s.json", output := some "out" }
  have hRead : Arguments.read
      ["--schema-file", "s.json", "--output", "out"] =
        .ok arguments :=
    Arguments.read_schemaFile_output (by decide) (by decide)
  have hPath : arguments.configuration =
      some defaultConfigurationPath := rfl
  have hNone : state.tree.exists?
      (.ofString defaultConfigurationPath) =
        .ok false := rfl
  rcases PostsFile.exists_run
    { replies := [], silence := "" } "out" with
    ⟨fetched, hFetched⟩
  have hReads : state.tree.ReadsConfigurationIfAny
      surroundings.IsLegible defaultConfigurationPath := by
    refine ⟨⟨_, hNone⟩, fun hThere => ?_⟩
    rw [hNone] at hThere
    cases hThere
  have hSchema : state.tree.HasLegible
      (IsLegibleSchema surroundings.machine)
      (.ofString "s.json") :=
    (loadCollections_isHandled_iff .usual PostsFile.tree
      "s.json").mp <| by
        rw [PostsFile.loadCollections_tree]
        exact Fallible.failsOnly_ok _
  refine (command_exits_with_code_iff hRead hPath rfl
    (by decide) (exit_ne_notShowable hRead hFetched
      PostsFile.posts_isText)).mpr ?_
  rw [RunState.reachesCode_iff_of_ok hReads hSchema
    hFetched]
  refine ⟨by decide, fun report hReport _ _ => ?_⟩
  have hNames : ∀ model ∈ report.modelList,
      '\x00' ∉ model.fileName.toList := by
    intro model hModel
    rcases exists_emit_of_mem_modelList hReport model hModel
      with ⟨source, hEmit⟩
    exact Collection.zero_notMem_fileName (by decide) hEmit
  exact (FileTree.strands_iff_tooDeep (fun _ => rfl)
    (by decide) hNames).not.mpr
      (FileTree.not_tooDeep_of_length_le (by decide)
        (by decide))

/- A file with a byte that is no text ends in a crash. -/
theorem byte_command_has_no_code :
    let state : RunState :=
      { tree := { nodes := [(["s.json"], .file [0xFF])] }
        session := { replies := [], silence := "" } }
    ¬ IsZeroOrOne
      (runCommand (.usual [] .notFound)
        ["--schema-file", "s.json"] state).exit := by
  intro state
  let surroundings : Surroundings := .usual [] .notFound
  let arguments : Arguments :=
    { schemaFile := some "s.json" }
  have hRead : Arguments.read
      ["--schema-file", "s.json"] = .ok arguments :=
    Arguments.read_schemaFile (by decide)
  have hNone : state.tree.exists?
      (.ofString defaultConfigurationPath) =
        .ok false := rfl
  have hConfigured :
      (Run.configurationIfAny surroundings
        arguments).run state = .ok none state :=
    Run.run_configurationIfAny surroundings rfl hNone
  have hSchema : ¬ state.tree.HasLegible
      (IsLegibleSchema surroundings.machine)
      (.ofString "s.json") := by
    intro hHas
    rcases (hHas.legible [0xFF] rfl).isText with
      ⟨text, hText⟩
    have hBroken : (Utf8.decode [0xFF]).isOk = false := rfl
    rw [hText] at hBroken
    cases hBroken
  have hCrash := Run.collections_crashesUnless hConfigured
    (rfl : arguments.schemaFile = some "s.json") (by decide)
  rw [exit_runCommand hRead]
  cases hFetched : (Run.collections surroundings
      arguments).run state with
  | ok result fetched =>
      exact absurd (hCrash.of_ok hFetched) hSchema
  | error halt fetched =>
      rw [Run.exitOf_generation_of_error hFetched,
        Halt.isZeroOrOne_exit_iff,
        hCrash.isFailure_iff hFetched]
      exact hSchema

end PocketDart
