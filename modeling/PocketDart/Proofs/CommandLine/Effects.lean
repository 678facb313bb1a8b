import PocketDart.CommandLine.Run
import PocketDart.Proofs.Stateful

/-
  This file proves how actions of a run are put together as
  far as files are concerned. Some leave all files alone
  however they end; some of these always give a result.

  Key definitions include:
    * `Run.KeepsFiles`
    * `Run.Gives`

  Key theorems include:
    * `Run.KeepsFiles.bind`
    * `Run.Gives.bind`
    * `Run.keepsFiles_collections`
-/

------------------------------------------------------------
-- Final States
------------------------------------------------------------

namespace PocketDart

open Stateful (run_bind_of_ok run_bind_of_error)

namespace Run

variable {A B : Type}
variable {first : Run A}
variable {second : A → Run B}
variable {state next after : RunState}

def final
    (action : Run A)
    (state : RunState) : RunState :=
  match action.run state with
  | .ok _ after => after
  | .error _ after => after

------------------------------------------------------------
-- Kept Files
------------------------------------------------------------

/- An action that leaves all files alone. -/
def KeepsFiles (action : Run A) : Prop :=
  ∀ state, (action.final state).tree = state.tree

/- Nothing is done to give a result. -/
@[simp]
theorem keepsFiles_pure (result : A) :
    KeepsFiles (pure result) :=
  fun _ => rfl

/- Nothing is done to end early. -/
theorem keepsFiles_throw (halt : Halt) :
    KeepsFiles (throw halt : Run A) :=
  fun _ => rfl

/- The state is looked at and left. -/
@[simp]
theorem keepsFiles_get : KeepsFiles (get : Run RunState) :=
  fun _ => rfl

@[simp]
theorem keepsFiles_display (shown : Shown) :
    (display shown).KeepsFiles :=
  fun _ => rfl

/- What is logged is no file. -/
@[simp]
theorem keepsFiles_log (messages : List Log.Message) :
    (log messages).KeepsFiles :=
  fun _ => rfl

/- Two actions keep the files that each of them keeps. -/
theorem KeepsFiles.bind
    (hFirst : first.KeepsFiles)
    (hSecond : ∀ result, (second result).KeepsFiles) :
    (first >>= second).KeepsFiles := by
  intro state
  have hKept := hFirst state
  unfold final at hKept ⊢
  cases hRun : first.run state with
  | ok result next =>
      rw [hRun] at hKept
      rw [run_bind_of_ok hRun]
      exact (hSecond result next).trans hKept
  | error halt next =>
      rw [hRun] at hKept
      rw [run_bind_of_error hRun]
      exact hKept

/- The files at the end are those at the start. -/
theorem KeepsFiles.tree_eq
    {action : Run A}
    (hKeeps : action.KeepsFiles)
    {result : A}
    (hRun : action.run state = .ok result after) :
    after.tree = state.tree := by
  have hKept := hKeeps state
  rwa [final, hRun] at hKept

------------------------------------------------------------
-- Results
------------------------------------------------------------

/- An action that gives a result and keeps all files. -/
def Gives
    (action : Run A)
    (result : A) : Prop :=
  ∀ state, ∃ after,
    action.run state = .ok result after ∧
      after.tree = state.tree

theorem Gives.exists_run
    {action : Run A}
    {result : A}
    (hGives : action.Gives result)
    {tree : FileTree}
    (hTree : state.tree = tree) :
    ∃ after,
      action.run state = .ok result after ∧
        after.tree = tree := by
  rcases hGives state with ⟨after, hRun, hKept⟩
  exact ⟨after, hRun, hKept.trans hTree⟩

@[simp]
theorem gives_pure (result : A) :
    Gives (pure result) result :=
  fun state => ⟨state, rfl, rfl⟩

theorem gives_modify
    {change : RunState → RunState}
    (hTree : ∀ state, (change state).tree = state.tree) :
    Gives (modify change) () :=
  fun state => ⟨change state, rfl, hTree state⟩

@[simp]
theorem gives_display (shown : Shown) :
    (display shown).Gives () :=
  gives_modify fun _ => rfl

@[simp]
theorem gives_log (messages : List Log.Message) :
    (log messages).Gives () :=
  gives_modify fun _ => rfl

@[simp]
theorem gives_logged (result : Log.Logged A) :
    (logged result).Gives result.result :=
  fun _ => ⟨_, rfl, rfl⟩

/- Two actions give what the second gives after the first. -/
theorem Gives.bind
    {a : A}
    {b : B}
    (hFirst : first.Gives a)
    (hSecond : (second a).Gives b) :
    (first >>= second).Gives b := by
  intro state
  rcases hFirst state with ⟨next, hNext, hKept⟩
  rcases hSecond next with ⟨after, hAfter, hTree⟩
  exact ⟨after, by rw [run_bind_of_ok hNext, hAfter],
    hTree.trans hKept⟩

theorem exists_gives_mapM
    {action : A → Run B}
    {items : List A}
    (hItems : ∀ item ∈ items,
      ∃ result, (action item).Gives result) :
    ∃ results, (items.mapM action).Gives results := by
  induction items with
  | nil => exact ⟨[], gives_pure []⟩
  | cons item rest ih =>
      rw [List.forall_mem_cons] at hItems
      rcases hItems.1 with ⟨result, hFirst⟩
      rcases ih hItems.2 with ⟨results, hRest⟩
      refine ⟨result :: results, ?_⟩
      rw [List.mapM_cons]
      exact hFirst.bind (hRest.bind (gives_pure _))

theorem gives_forIn
    {action : A → Run Unit}
    {items : List A}
    (hItems : ∀ item ∈ items, (action item).Gives ()) :
    Gives (forIn items PUnit.unit fun item _ => do
      action item
      pure (ForInStep.yield PUnit.unit)) PUnit.unit := by
  induction items with
  | nil => exact gives_pure _
  | cons item rest ih =>
      rw [List.forall_mem_cons] at hItems
      rw [List.forIn_cons]
      have hFirst : Gives (do
          action item
          pure (ForInStep.yield PUnit.unit))
          (ForInStep.yield PUnit.unit) :=
        hItems.1.bind (gives_pure _)
      exact hFirst.bind (ih hItems.2)

------------------------------------------------------------
-- Collections
------------------------------------------------------------

/- What is logged on the way is no file. -/
@[simp]
theorem keepsFiles_logged (result : Log.Logged A) :
    (logged result).KeepsFiles :=
  (keepsFiles_log _).bind fun _ => keepsFiles_pure _

/- Loading the configuration only reads. -/
theorem keepsFiles_configuration
    (surroundings : Surroundings)
    (arguments : Arguments) :
    (configuration surroundings arguments).KeepsFiles := by
  unfold configuration
  refine keepsFiles_get.bind fun state => ?_
  refine (keepsFiles_logged _).bind fun result => ?_
  split
  · exact keepsFiles_pure _
  · split
    · refine (keepsFiles_display _).bind fun _ => ?_
      refine (keepsFiles_display _).bind fun _ => ?_
      exact keepsFiles_throw _
    · exact keepsFiles_throw _

/- So does doing without it. -/
theorem keepsFiles_configurationIfAny
    (surroundings : Surroundings)
    (arguments : Arguments) :
    (configurationIfAny surroundings
      arguments).KeepsFiles := by
  unfold configurationIfAny
  split
  · exact keepsFiles_throw _
  · refine keepsFiles_get.bind fun state => ?_
    split
    · exact keepsFiles_throw _
    · exact keepsFiles_pure _
    · exact (keepsFiles_configuration _ _).bind
        fun _ => keepsFiles_pure _

theorem keepsFiles_fileCollections
    (machine : Machine)
    (path : String)
    (includeSystem : Bool) :
    (fileCollections machine path
      includeSystem).KeepsFiles := by
  unfold fileCollections
  refine (keepsFiles_display _).bind fun _ => ?_
  refine keepsFiles_get.bind fun state => ?_
  refine (keepsFiles_logged _).bind fun result => ?_
  split
  · exact keepsFiles_pure _
  · split
    all_goals exact keepsFiles_throw _

/- The state that is looked at is the one at the start. -/
@[simp]
theorem final_get
    (action : RunState → Run A)
    (state : RunState) :
    (get >>= action).final state =
      (action state).final state := rfl

theorem KeepsFiles.final_set
    {action : Run A}
    (hKeeps : action.KeepsFiles)
    {before next : RunState}
    (hTree : next.tree = before.tree) :
    ((do set next; action : Run A).final before).tree =
      before.tree :=
  (hKeeps next).trans hTree

theorem keepsFiles_talk
    (exchange : Talk A)
    {explain : ServerError → Run A}
    (hExplain : ∀ error, (explain error).KeepsFiles) :
    (talk exchange explain).KeepsFiles := by
  intro state
  unfold talk
  rw [final_get]
  split
  · exact (keepsFiles_pure _).final_set rfl
  · exact (hExplain _).final_set rfl
  all_goals exact (keepsFiles_throw _).final_set rfl

theorem keepsFiles_rejectCredentials (message : String) :
    (rejectCredentials message : Run A).KeepsFiles :=
  (keepsFiles_display _).bind fun _ => keepsFiles_throw _

theorem keepsFiles_connect (domain : String) :
    (connect domain).KeepsFiles := by
  unfold connect
  split
  · exact keepsFiles_pure _
  · exact keepsFiles_rejectCredentials _
  · exact keepsFiles_throw _

theorem keepsFiles_serverCollections
    (machine : Machine)
    (configuration : Configuration)
    (includeSystem : Bool) :
    (serverCollections machine configuration
      includeSystem).KeepsFiles := by
  unfold serverCollections
  refine (keepsFiles_display _).bind fun _ => ?_
  refine (keepsFiles_connect _).bind fun client => ?_
  refine KeepsFiles.bind ?_ fun _ => ?_
  · exact keepsFiles_talk _ fun _ =>
      keepsFiles_rejectCredentials _
  · refine (keepsFiles_display _).bind fun _ => ?_
    exact keepsFiles_talk _ fun _ => keepsFiles_throw _

/- Getting the collections leaves all files alone. -/
theorem keepsFiles_collections
    (surroundings : Surroundings)
    (arguments : Arguments) :
    (collections surroundings arguments).KeepsFiles := by
  unfold collections
  split
  · refine (keepsFiles_configurationIfAny _ _).bind
      fun configuration => ?_
    exact (keepsFiles_fileCollections _ _ _).bind
      fun _ => keepsFiles_pure _
  · refine (keepsFiles_configuration _ _).bind
      fun configuration => ?_
    exact (keepsFiles_serverCollections _ _ _).bind
      fun _ => keepsFiles_pure _

end Run

end PocketDart
