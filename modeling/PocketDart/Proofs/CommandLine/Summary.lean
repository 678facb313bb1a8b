import PocketDart.Proofs.CommandLine.Effects
import PocketDart.Proofs.Generation.Models

/-
  This file proves that nothing which is shown at the end of
  a run stops it: the summary of a report over texts and the
  formatter give their results, whatever they are, and leave
  all files alone.

  Key theorems include:
    * `Run.gives_summary`
    * `Run.gives_formatIn`
    * `Run.gives_showAll`
-/

------------------------------------------------------------
-- Summary
------------------------------------------------------------

namespace PocketDart

namespace Run

theorem gives_nameCell (name : String) :
    (nameCell (.text name)).Gives name :=
  gives_pure name

theorem exists_gives_rows
    {A : Type}
    {results : ByName A}
    (hTexts : ∀ key ∈ ByName.keys results,
      ∃ name, key = .text name)
    (place : A → String) :
    ∃ rows,
      Gives (results.mapM fun entry => do
        return [← nameCell entry.1, place entry.2]) rows := by
  refine exists_gives_mapM fun entry hEntry => ?_
  rcases hTexts entry.1 (List.mem_map_of_mem hEntry) with
    ⟨name, hName⟩
  rw [hName]
  exact ⟨_, (gives_nameCell name).bind (gives_pure _)⟩

theorem exists_gives_summaryTable
    {report : GenerationReport}
    (hTexts : report.IsOverTexts)
    (written : List Path) :
    ∃ table, (summaryTable report written).Gives table := by
  rw [GenerationReport.IsOverTexts,
    List.forall_mem_append] at hTexts
  rcases exists_gives_rows hTexts.1 (placeOf written) with
    ⟨models, hModels⟩
  rcases exists_gives_rows hTexts.2
      (fun _ => "[red]failed[/red]") with
    ⟨failures, hFailures⟩
  exact ⟨_, hModels.bind (hFailures.bind (gives_pure _))⟩

/- Lists are shown line by line. -/
theorem gives_bullets
    (heading colour : String)
    (items : List String) :
    (bullets heading colour items).Gives () := by
  unfold bullets
  split
  · refine (gives_display _).bind ?_
    refine Gives.bind (gives_forIn fun _ _ => ?_)
      (gives_pure ())
    exact gives_display _
  · exact gives_pure ()

theorem gives_summary
    {report : GenerationReport}
    (hTexts : report.IsOverTexts)
    (written : List Path) :
    (summary report written).Gives () := by
  rcases exists_gives_summaryTable hTexts written with
    ⟨table, hTable⟩
  unfold summary
  refine hTable.bind ?_
  refine (gives_display _).bind ?_
  refine (gives_display _).bind ?_
  exact (gives_bullets _ _ _).bind (gives_bullets _ _ _)

theorem gives_showAll
    {report : GenerationReport}
    (hTexts : report.IsOverTexts) :
    (showAll report).Gives (exitCode report) := by
  unfold showAll
  refine Gives.bind (gives_forIn fun _ _ => ?_) ?_
  · exact gives_display _
  · exact (gives_summary hTexts []).bind (gives_pure _)

------------------------------------------------------------
-- Formatter
------------------------------------------------------------

/- The usual command is there to be run. -/
theorem formatModels_ne_error
    (formatter : Formatter)
    (directory : String)
    (error : FormatError) :
    (formatModels formatter formatCommand directory).result ≠
      .error error := by
  unfold formatModels formatCommand
  cases formatter with
  | notFound => nofun
  | notRun reason => nofun
  | exits code errors =>
      by_cases hCode : code = 0
      · simp [hCode]
      · simp [hCode]

/- Whatever the formatter does, the run goes on. -/
theorem gives_formatIn
    (surroundings : Surroundings)
    (directory : String) :
    (formatIn surroundings directory).Gives () := by
  unfold formatIn
  refine (gives_display _).bind ?_
  refine Gives.bind (gives_modify fun _ => rfl) ?_
  refine (gives_log _).bind ?_
  split
  · next error hError =>
      exact absurd hError (formatModels_ne_error _ _ error)
  · exact gives_pure ()
  · exact gives_display _

end Run

end PocketDart
