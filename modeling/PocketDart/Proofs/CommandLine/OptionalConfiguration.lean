import PocketDart.Proofs.CommandLine.Endings
import PocketDart.Proofs.CommandLine.SchemaFile
import PocketDart.Proofs.Files.DoubleDots

/-
  This file proves when a run on a schema file leaves out its
  configuration. Whether it is there is looked up at the path
  as it is given, but it is read from the path with its
  double dots resolved by the letter. The two agree wherever
  the path leads to a place, but not beyond that.

  Key definitions include:
    * `FileTree.ResolvesAlike`
    * `Run.Uses`
    * `Run.LeavesOutOnlyMissing`

  Key theorems include:
    * `FileTree.exists?_collapse`
    * `findConfiguration_notFound_iff`
    * `optional_configuration_left_out_iff`
-/

------------------------------------------------------------
-- Double Dots
------------------------------------------------------------

namespace PocketDart

open Fallible
open Stateful (run_bind_of_ok run_bind_of_error run_get_bind)

namespace FileTree

variable {tree : FileTree}
variable {path : Path}

/-
  A path that is found as it is without its double dots. One
  that leads to a place always is; one that leads nowhere is
  if there is nothing without the double dots either.
-/
def ResolvesAlike
    (tree : FileTree)
    (path : Path) : Prop :=
  match tree.locate path with
  | .ok _ => True
  | .error (.system .nameTooLong _) =>
      ∃ error, tree.exists? path.collapse = .error error
  | .error _ => tree.exists? path.collapse = .ok false

/- What is at a place is found without double dots too. -/
theorem exists?_collapse
    {place : Location}
    (hLocate : tree.locate path = .ok place) :
    tree.exists? path.collapse = tree.exists? path := by
  rw [exists?, exists?, hLocate, locate_collapse hLocate]

end FileTree

------------------------------------------------------------
-- Configurations
------------------------------------------------------------

def ConfigurationError.IsOfPlace :
    ConfigurationError → Prop
  | .notFound _ => True
  | .unreachable _ => True
  | _ => False

section

variable {reader : DocumentReader}
variable {levels : Nat}
variable {tree : FileTree}
variable {environment : Environment}
variable {path : String}

theorem failsOnly_readConfigurationFile :
    FailsOnly (fun error => ¬ error.IsOfPlace)
      (readConfigurationFile reader levels tree environment
        path) := by
  unfold readConfigurationFile
  simp only [failsOnly_bind, failsOnly_mapError]
  refine ⟨failsOnly_of_forall (fun _ => id) _, ?_⟩
  intro bytes _
  refine ⟨failsOnly_of_forall (fun fault => ?_) _,
    fun document _ => failsOnly_of_forall (fun _ => id) _⟩
  cases fault with
  | _ => exact id

theorem findConfiguration_notFound_iff :
    findConfiguration reader levels tree environment path =
        .error (.notFound path) ↔
      tree.exists? (configurationPath path) = .ok false := by
  unfold findConfiguration
  cases tree.exists? (configurationPath path) with
  | error error => exact iff_of_false nofun nofun
  | ok found =>
      cases found with
      | false => exact iff_of_true rfl rfl
      | true =>
          refine iff_of_false (fun hFault => ?_) nofun
          exact failsOnly_readConfigurationFile _ hFault
            trivial

theorem findConfiguration_ne_unreachable
    (hThere :
      tree.exists? (configurationPath path) = .ok true)
    (error : FileError) :
    findConfiguration reader levels tree environment path ≠
      .error (.unreachable error) := by
  unfold findConfiguration
  rw [hThere]
  exact fun hFault =>
    failsOnly_readConfigurationFile _ hFault trivial

end

namespace Run

variable {surroundings : Surroundings}
variable {arguments : Arguments}
variable {state : RunState}
variable {path : String}

/-
  The end of a run that uses what was found for its
  configuration, or tells what is wrong with it. An error
  that is handled is shown on the console.
-/
def Uses
    (before : RunState)
    (found : Except ConfigurationError Configuration)
    (result :
      EStateM.Result Halt RunState (Option Configuration)) :
    Prop :=
  match found with
  | .ok configuration =>
      ∃ after, result = .ok (some configuration) after
  | .error error =>
      ∃ after,
        result = .error (Halt.ofConfiguration error) after ∧
          (error.isHandled = true →
            after.shown = before.shown ++ error.rejection)

/-
  The configuration is left out when its file is missing, and
  only then. A file that is there is read, and what is wrong
  with it ends the run.
-/
structure LeavesOutOnlyMissing
    (surroundings : Surroundings)
    (arguments : Arguments)
    (state : RunState)
    (path : String) : Prop where
  leavesOut :
    (∃ after,
        (configurationIfAny surroundings arguments).run
          state = .ok none after) ↔
      surroundings.configurationAt state.tree path =
        .error (.notFound path)
  reads :
    state.tree.exists? (configurationPath path) =
        .ok true →
      Uses state
        (surroundings.configurationAt state.tree path)
        ((configurationIfAny surroundings arguments).run
          state)

/- A file at the path as it is given is read. -/
theorem uses_of_exists
    (surroundings : Surroundings)
    (hPath : arguments.configuration = some path)
    (hThere :
      state.tree.exists? (.ofString path) = .ok true) :
    Uses state
      (surroundings.configurationAt state.tree path)
      ((configurationIfAny surroundings arguments).run
        state) := by
  have hArguments : arguments.configurationPath = path := by
    rw [Arguments.configurationPath, hPath]
    rfl
  unfold configurationIfAny
  rw [hPath]
  dsimp only
  rw [run_get_bind, hThere]
  dsimp only
  rcases run_configuration surroundings arguments state with
    ⟨after, hRun, hShown⟩
  rw [hArguments] at hRun hShown
  unfold Uses
  cases hFound :
      surroundings.configurationAt state.tree path with
  | ok configuration =>
      rw [hFound] at hRun
      exact ⟨after, run_bind_of_ok hRun⟩
  | error error =>
      rw [hFound] at hRun
      exact ⟨after, run_bind_of_error hRun,
        hShown error hFound⟩

theorem run_configurationIfAny_of_error
    (surroundings : Surroundings)
    {error : FileError}
    (hPath : arguments.configuration = some path)
    (hError :
      state.tree.exists? (.ofString path) = .error error) :
    (configurationIfAny surroundings arguments).run state =
      .error (.crash (.configuration (.unreachable error)))
        state := by
  unfold configurationIfAny
  rw [hPath]
  dsimp only
  rw [run_get_bind, hError]
  rfl

/- A file that is found both ways is read. -/
theorem LeavesOutOnlyMissing.of_exists
    (hPath : arguments.configuration = some path)
    (hThere :
      state.tree.exists? (.ofString path) = .ok true)
    (hRead :
      state.tree.exists? (configurationPath path) =
        .ok true) :
    LeavesOutOnlyMissing surroundings arguments state
      path := by
  have hUses := uses_of_exists surroundings hPath hThere
  refine ⟨?_, fun _ => hUses⟩
  rw [Surroundings.configurationAt,
    findConfiguration_notFound_iff, hRead]
  refine iff_of_false ?_ nofun
  rintro ⟨after, hNone⟩
  rw [hNone] at hUses
  unfold Uses at hUses
  split at hUses
  · rcases hUses with ⟨_, hSome⟩
    cases hSome
  · rcases hUses with ⟨_, hError, _⟩
    cases hError

theorem leavesOutOnlyMissing_iff_of_missing
    (hPath : arguments.configuration = some path)
    (hNone :
      state.tree.exists? (.ofString path) = .ok false) :
    LeavesOutOnlyMissing surroundings arguments state
        path ↔
      state.tree.exists? (configurationPath path) =
        .ok false := by
  have hRun :=
    run_configurationIfAny surroundings hPath hNone
  constructor
  · intro hLeaves
    exact findConfiguration_notFound_iff.mp
      (hLeaves.leavesOut.mp ⟨state, hRun⟩)
  · intro hMissing
    refine ⟨iff_of_true ⟨state, hRun⟩ ?_, ?_⟩
    · exact findConfiguration_notFound_iff.mpr hMissing
    · rw [hMissing]
      nofun

theorem leavesOutOnlyMissing_iff_of_error
    {error : FileError}
    (hPath : arguments.configuration = some path)
    (hError :
      state.tree.exists? (.ofString path) = .error error) :
    LeavesOutOnlyMissing surroundings arguments state
        path ↔
      ∃ other,
        state.tree.exists? (configurationPath path) =
          .error other := by
  have hRun := run_configurationIfAny_of_error
    surroundings hPath hError
  have hKept : ¬ ∃ after,
      (configurationIfAny surroundings arguments).run state =
        .ok none after := by
    rw [hRun]
    nofun
  constructor
  · intro hLeaves
    cases hRead :
        state.tree.exists? (configurationPath path) with
    | error other => exact ⟨other, rfl⟩
    | ok found =>
        cases found with
        | false =>
            exact absurd (hLeaves.leavesOut.mpr
              (findConfiguration_notFound_iff.mpr hRead))
              hKept
        | true =>
            have hUses := hLeaves.reads hRead
            rw [hRun] at hUses
            unfold Uses at hUses
            split at hUses
            · rcases hUses with ⟨_, hSome⟩
              cases hSome
            · next cause hFound =>
                rcases hUses with ⟨_, hSame, _⟩
                have hCause : cause = .unreachable error := by
                  unfold Halt.ofConfiguration at hSame
                  split at hSame
                  · cases hSame
                  · cases hSame
                    rfl
                rw [hCause] at hFound
                exact absurd hFound
                  (findConfiguration_ne_unreachable hRead _)
  · rintro ⟨other, hRead⟩
    refine ⟨iff_of_false hKept ?_, ?_⟩
    · rw [Surroundings.configurationAt,
        findConfiguration_notFound_iff, hRead]
      nofun
    · rw [hRead]
      nofun

end Run

/- Exactly then only what is missing is left out. -/
theorem optional_configuration_left_out_iff
    {surroundings : Surroundings}
    {arguments : Arguments}
    {state : RunState}
    {path : String}
    (hPath : arguments.configuration = some path) :
    Run.LeavesOutOnlyMissing surroundings arguments state
        path ↔
      state.tree.ResolvesAlike (.ofString path) := by
  unfold FileTree.ResolvesAlike
  cases hLocate : state.tree.locate (.ofString path) with
  | ok place =>
      have hFound : state.tree.exists? (.ofString path) =
          .ok (state.tree.node? place).isSome := by
        rw [FileTree.exists?, hLocate]
      have hRead := FileTree.exists?_collapse hLocate
      rw [hFound] at hRead
      refine iff_of_true ?_ trivial
      cases hNode : (state.tree.node? place).isSome with
      | true =>
          rw [hNode] at hFound hRead
          exact Run.LeavesOutOnlyMissing.of_exists hPath
            hFound hRead
      | false =>
          rw [hNode] at hFound hRead
          exact (Run.leavesOutOnlyMissing_iff_of_missing
            hPath hFound).mpr hRead
  | error error =>
      rcases error with ⟨_ | _ | _ | _ | _, name⟩ | _ | _
      case system.nameTooLong =>
        apply Run.leavesOutOnlyMissing_iff_of_error hPath
        rw [FileTree.exists?, hLocate]
      all_goals
        apply Run.leavesOutOnlyMissing_iff_of_missing hPath
        rw [FileTree.exists?, hLocate]

/- A configuration beside a directory it is reached through. -/
def neighborTree : FileTree :=
  { nodes := [(["conf"], .directory),
      (["pocketbase.yaml"], .file [])] }

/- The file is found through a directory that is there. -/
theorem neighbor_not_left_out :
    Run.LeavesOutOnlyMissing (.usual [] .notFound)
      { configuration := some "conf/../pocketbase.yaml" }
      { tree := neighborTree
        session := { replies := [], silence := "" } }
      "conf/../pocketbase.yaml" := by
  refine (optional_configuration_left_out_iff rfl).mpr ?_
  have hLocate : neighborTree.locate
      (.ofString "conf/../pocketbase.yaml") =
        .ok ["pocketbase.yaml"] := rfl
  unfold FileTree.ResolvesAlike
  rw [hLocate]
  trivial

/- Through one that is missing it is overlooked. -/
theorem neighbor_overlooked :
    ¬ Run.LeavesOutOnlyMissing (.usual [] .notFound)
      { configuration := some "conf/../pocketbase.yaml" }
      { tree :=
          { nodes := [(["pocketbase.yaml"], .file [])] }
        session := { replies := [], silence := "" } }
      "conf/../pocketbase.yaml" := by
  intro hLeaves
  have hNone : FileTree.exists?
      { nodes := [(["pocketbase.yaml"], .file [])] }
      (.ofString "conf/../pocketbase.yaml") =
        .ok false := rfl
  have hThere : FileTree.exists?
      { nodes := [(["pocketbase.yaml"], .file [])] }
      (configurationPath "conf/../pocketbase.yaml") =
        .ok true := rfl
  have hMissing :=
    (Run.leavesOutOnlyMissing_iff_of_missing rfl hNone).mp
      hLeaves
  rw [hThere] at hMissing
  cases hMissing

end PocketDart
