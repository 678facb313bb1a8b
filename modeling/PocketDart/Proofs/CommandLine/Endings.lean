import PocketDart.Proofs.CommandLine.Outcome
import PocketDart.Proofs.Generation.Interruption

/-
  This file proves in which ways the parts of a run can end.
  Reading ends with a failure for the errors that it allows
  for, and with a crash for the others. Showing the results
  ends with an exit code, unless the console cannot show a
  name.

  Key definitions include:
    * `Run.Ends`
    * `Run.CrashesUnless`
    * `Halt.ofConfiguration`
    * `ConfigurationError.rejection`

  Key theorems include:
    * `Run.Ends.bind`
    * `Run.run_configuration`
    * `Run.configurationIfAny_crashesUnless`
    * `Run.collections_crashesUnless`
    * `Run.ends_showAll`
    * `Run.ends_afterWriting`
-/

------------------------------------------------------------
-- Ways to End
------------------------------------------------------------

namespace PocketDart

open Stateful (run_bind_of_ok run_bind_of_error run_get_bind)

namespace Run

variable {A B : Type}
variable {first : Run A}
variable {second : A → Run B}
variable {results : B → Prop}
variable {halts : Halt → Prop}

/-
  An action that gives some results only, and that ends
  early in some ways only.
-/
def Ends
    (action : Run A)
    (results : A → Prop)
    (halts : Halt → Prop) : Prop :=
  ∀ state,
    match action.run state with
    | .ok result _ => results result
    | .error halt _ => halts halt

theorem ends_of_gives
    {action : Run A}
    (result : A)
    (hGives : action.Gives result)
    {results : A → Prop}
    (hResult : results result)
    (halts : Halt → Prop) :
    action.Ends results halts := by
  intro state
  rcases hGives state with ⟨after, hRun, _⟩
  rw [hRun]
  exact hResult

theorem ends_pure
    {result : A}
    {results : A → Prop}
    (hResult : results result)
    (halts : Halt → Prop) :
    (pure result : Run A).Ends results halts :=
  ends_of_gives result (gives_pure result) hResult halts

theorem Ends.bind
    (hFirst : first.Ends (fun _ => True) halts)
    (hSecond : ∀ result, (second result).Ends results halts) :
    (first >>= second).Ends results halts := by
  intro state
  have hHalt := hFirst state
  cases hRun : first.run state with
  | ok result next =>
      rw [run_bind_of_ok hRun]
      exact hSecond result next
  | error halt next =>
      rw [hRun] at hHalt
      rw [run_bind_of_error hRun]
      exact hHalt

theorem ends_mapM
    {action : A → Run B}
    (hItem : ∀ item,
      (action item).Ends (fun _ => True) halts)
    (items : List A) :
    (items.mapM action).Ends (fun _ => True) halts := by
  induction items with
  | nil => exact ends_pure trivial _
  | cons item rest ih =>
      rw [List.mapM_cons]
      refine (hItem item).bind fun result => ?_
      refine ih.bind fun results => ?_
      exact ends_pure trivial _

end Run

------------------------------------------------------------
-- Reading
------------------------------------------------------------

/- An end with a message to the user. -/
def Halt.IsFailure (halt : Halt) : Prop :=
  ∃ message, halt = .failure message

/- How a run ends without its configuration. -/
def Halt.ofConfiguration
    (error : ConfigurationError) : Halt :=
  if error.isHandled then
    .failure "Invalid or missing configuration"
  else .crash (.configuration error)

/- What is shown when an error is handled. -/
def ConfigurationError.rejection
    (error : ConfigurationError) : List Shown :=
  [.line ("[red]✗ Error loading configuration:[/red] " ++
      error.message),
   .panel "Configuration" configurationHelp]

theorem Halt.isFailure_ite
    {handled : Bool}
    {message : String}
    {cause : Crash} :
    (if handled then Halt.failure message
      else .crash cause).IsFailure ↔ handled := by
  cases handled with
  | true => exact iff_of_true ⟨message, rfl⟩ rfl
  | false =>
      refine iff_of_false ?_ Bool.false_ne_true
      rintro ⟨_, ⟨⟩⟩

namespace Surroundings

def configurationAt
    (surroundings : Surroundings)
    (tree : FileTree)
    (path : String) :
    Except ConfigurationError Configuration :=
  findConfiguration surroundings.reader
    surroundings.machine.valueLevels tree
    surroundings.environment path

/- Bytes in which one can look for a configuration. -/
def IsLegible
    (surroundings : Surroundings)
    (bytes : List UInt8) : Prop :=
  IsLegibleConfiguration surroundings.reader
    surroundings.machine.valueLevels
    surroundings.environment bytes

theorem result_loadConfiguration
    (surroundings : Surroundings)
    (tree : FileTree)
    (path : String) :
    (loadConfiguration surroundings.reader
      surroundings.machine.valueLevels tree
      surroundings.environment path).result =
        surroundings.configurationAt tree path := by
  unfold loadConfiguration configurationAt
  dsimp only
  split
  · rfl
  · rfl

end Surroundings

namespace Run

variable {surroundings : Surroundings}
variable {arguments : Arguments}
variable {state loaded : RunState}

/-
  An action that gives a result only if a condition holds,
  and that otherwise ends with a failure exactly if it does.
-/
def CrashesUnless
    (condition : Prop)
    (action : Run A)
    (state : RunState) : Prop :=
  match action.run state with
  | .ok _ _ => condition
  | .error halt _ => halt.IsFailure ↔ condition

theorem CrashesUnless.of_ok
    {condition : Prop}
    {action : Run A}
    (hAction : action.CrashesUnless condition state)
    {result : A}
    (hRun : action.run state = .ok result loaded) :
    condition := by
  rwa [CrashesUnless, hRun] at hAction

theorem CrashesUnless.isFailure_iff
    {condition : Prop}
    {action : Run A}
    (hAction : action.CrashesUnless condition state)
    {halt : Halt}
    (hRun : action.run state = .error halt loaded) :
    halt.IsFailure ↔ condition := by
  rwa [CrashesUnless, hRun] at hAction

/-
  The configuration, or how the run ends without it. What is
  handled is shown first.
-/
theorem run_configuration
    (surroundings : Surroundings)
    (arguments : Arguments)
    (state : RunState) :
    ∃ after,
      ((configuration surroundings arguments).run state =
        match surroundings.configurationAt state.tree
            arguments.configurationPath with
        | .ok configuration => .ok configuration after
        | .error error =>
            .error (Halt.ofConfiguration error) after) ∧
      ∀ error,
        surroundings.configurationAt state.tree
            arguments.configurationPath = .error error →
        error.isHandled = true →
          after.shown = state.shown ++ error.rejection := by
  unfold configuration
  rw [run_get_bind]
  have hLogged :
      (logged (loadConfiguration surroundings.reader
        surroundings.machine.valueLevels state.tree
        surroundings.environment
        arguments.configurationPath)).run state =
        .ok _ { state with
          messages := state.messages ++ _ } := rfl
  rw [Surroundings.result_loadConfiguration] at hLogged
  rw [run_bind_of_ok hLogged]
  cases surroundings.configurationAt state.tree
      arguments.configurationPath with
  | ok configuration => exact ⟨_, rfl, nofun⟩
  | error error =>
      dsimp only
      rw [Halt.ofConfiguration]
      cases hHandled : error.isHandled with
      | true =>
          refine ⟨_, rfl, ?_⟩
          rintro _ ⟨⟩ _
          exact List.append_assoc state.shown _ _
      | false =>
          refine ⟨_, rfl, ?_⟩
          rintro _ ⟨⟩ hTrue
          rw [hHandled] at hTrue
          cases hTrue

/- An error that is not handled ends it with a crash. -/
theorem configuration_crashesUnless
    (surroundings : Surroundings)
    (arguments : Arguments)
    (state : RunState) :
    CrashesUnless
      (state.tree.HasLegible surroundings.IsLegible
        (PocketDart.configurationPath
          arguments.configurationPath))
      (configuration surroundings arguments) state := by
  rcases run_configuration surroundings arguments state with
    ⟨after, hRun, -⟩
  have hHandled :
      Fallible.FailsOnly (·.isHandled)
          (surroundings.configurationAt state.tree
            arguments.configurationPath) ↔
        state.tree.HasLegible surroundings.IsLegible
          (PocketDart.configurationPath
            arguments.configurationPath) :=
    findConfiguration_isHandled_iff
  unfold CrashesUnless
  rw [hRun]
  cases hFound : surroundings.configurationAt state.tree
      arguments.configurationPath with
  | ok found =>
      rw [hFound] at hHandled
      exact hHandled.mp (Fallible.failsOnly_ok found)
  | error error =>
      rw [hFound, Fallible.failsOnly_error] at hHandled
      exact Halt.isFailure_ite.trans hHandled

/- The same where the configuration may be missing. -/
theorem configurationIfAny_crashesUnless
    (surroundings : Surroundings)
    {path : String}
    (hPath : arguments.configuration = some path)
    (state : RunState) :
    CrashesUnless
      (state.tree.ReadsConfigurationIfAny
        surroundings.IsLegible path)
      (configurationIfAny surroundings arguments)
      state := by
  have hReads := configuration_crashesUnless surroundings
    arguments state
  rw [Arguments.configurationPath, hPath,
    Option.getD_some] at hReads
  unfold CrashesUnless configurationIfAny
  rw [hPath]
  dsimp only
  rw [run_get_bind]
  cases hExists : state.tree.exists? (.ofString path) with
  | error error =>
      refine iff_of_false ?_ ?_
      · rintro ⟨_, ⟨⟩⟩
      · rintro ⟨⟨found, hFound⟩, _⟩
        rw [hExists] at hFound
        cases hFound
  | ok found =>
      have hCondition :
          state.tree.ReadsConfigurationIfAny
              surroundings.IsLegible path ↔
            (found = true →
              state.tree.HasLegible surroundings.IsLegible
                (PocketDart.configurationPath path)) := by
        constructor
        · rintro ⟨_, hThere⟩ rfl
          exact hThere hExists
        · intro hThere
          refine ⟨⟨found, hExists⟩, fun hFound => ?_⟩
          rw [hExists] at hFound
          exact hThere (Except.ok.inj hFound)
      cases found with
      | false => exact hCondition.mpr nofun
      | true =>
          dsimp only
          cases hRun : (configuration surroundings
              arguments).run state with
          | ok result after =>
              rw [run_bind_of_ok hRun]
              exact hCondition.mpr fun _ => hReads.of_ok hRun
          | error halt after =>
              rw [run_bind_of_error hRun]
              refine (hReads.isFailure_iff hRun).trans ?_
              exact ⟨fun hThere => hCondition.mpr fun _ =>
                  hThere,
                fun hThere => hCondition.mp hThere rfl⟩

theorem collections_crashesUnless
    {found : Option Configuration}
    (hConfigured :
      (configurationIfAny surroundings arguments).run state =
        .ok found loaded)
    {file : String}
    (hFile : arguments.schemaFile = some file)
    (hSome : file ≠ "") :
    CrashesUnless
      (state.tree.HasLegible
        (IsLegibleSchema surroundings.machine)
        (.ofString file))
      (Run.collections surroundings arguments) state := by
  rcases run_collections hConfigured hFile hSome with
    ⟨fetched, hRun⟩
  have hHandled := loadCollections_isHandled_iff
    surroundings.machine state.tree file
  unfold CrashesUnless
  rw [hRun]
  cases hLoaded : (loadCollections surroundings.machine
      state.tree file).result with
  | ok collections =>
      rw [hLoaded] at hHandled
      exact hHandled.mp (Fallible.failsOnly_ok collections)
  | error error =>
      rw [hLoaded, Fallible.failsOnly_error] at hHandled
      exact Halt.isFailure_ite.trans hHandled

end Run

------------------------------------------------------------
-- Summary
------------------------------------------------------------

/- An end at a name that the console cannot show. -/
def Halt.IsUnshowable (halt : Halt) : Prop :=
  ∃ kind, halt = .crash (.notShowable kind)

namespace Run

variable {surroundings : Surroundings}
variable {arguments : Arguments}
variable {configuration : Option Configuration}
variable {report : GenerationReport}
variable {state : RunState}

/- A name is shown, or it cannot be. -/
theorem ends_nameCell (name : Value) :
    (nameCell name).Ends (fun _ => True)
      Halt.IsUnshowable := by
  intro state
  cases name with
  | text s => exact trivial
  | null => exact trivial
  | _ => exact ⟨_, rfl⟩

/- The table is made, or a name in it cannot be shown. -/
theorem ends_summaryTable
    (report : GenerationReport)
    (written : List Path) :
    (summaryTable report written).Ends (fun _ => True)
      Halt.IsUnshowable := by
  unfold summaryTable
  refine (ends_mapM (fun entry => ?_) _).bind fun _ => ?_
  · exact (ends_nameCell _).bind fun _ =>
      ends_pure trivial _
  · refine (ends_mapM (fun entry => ?_) _).bind fun _ => ?_
    · exact (ends_nameCell _).bind fun _ =>
        ends_pure trivial _
    · exact ends_pure trivial _

theorem ends_summary
    (report : GenerationReport)
    (written : List Path) :
    (summary report written).Ends (fun _ => True)
      Halt.IsUnshowable := by
  unfold summary
  refine (ends_summaryTable _ _).bind fun table => ?_
  refine ends_of_gives () ?_ trivial _
  refine (gives_display _).bind ?_
  refine (gives_display _).bind ?_
  exact (gives_bullets _ _ _).bind (gives_bullets _ _ _)

theorem ends_showAll (report : GenerationReport) :
    (showAll report).Ends (· = exitCode report)
      Halt.IsUnshowable := by
  unfold showAll
  refine Ends.bind ?_ fun _ => ?_
  · refine ends_of_gives PUnit.unit ?_ trivial _
    exact gives_forIn fun _ _ => gives_display _
  · refine Ends.bind (ends_summary _ _) fun _ => ?_
    exact ends_pure rfl Halt.IsUnshowable

theorem ends_afterWriting
    (surroundings : Surroundings)
    (arguments : Arguments)
    (configuration : Option Configuration)
    (report : GenerationReport)
    (paths : List Path) :
    (afterWriting surroundings arguments configuration
      report paths).Ends (· = exitCode report)
        Halt.IsUnshowable := by
  have hEnd : Ends (do
      summary report paths
      if report.success then line "[green]✓ Done[/green]"
      return exitCode report) (· = exitCode report)
        Halt.IsUnshowable := by
    refine Ends.bind (ends_summary _ _) fun _ => ?_
    refine ends_of_gives (exitCode report) ?_ ?_ _
    · split
      · exact (gives_display _).bind (gives_pure _)
      · exact gives_pure _
    · rfl
  unfold afterWriting
  dsimp only
  split
  · refine Ends.bind ?_ fun _ => hEnd
    exact ends_of_gives () (gives_formatIn _ _) trivial _
  · exact hEnd

end Run

end PocketDart
