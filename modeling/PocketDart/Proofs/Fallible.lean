/-
  This file proves how computations that may fail are taken
  apart: a sequence of steps succeeds exactly when each of
  its steps does, and it fails as they do.

  Key definitions include:
    * `Fallible.FailsOnly`

  Key theorems include:
    * `Fallible.bind_eq_ok`
    * `Fallible.bind_eq_error`
    * `Fallible.mapError_eq_ok`
    * `Fallible.map_eq_ok`
    * `Fallible.map_eq_error`
    * `Fallible.exists_of_mapM_eq_ok`
    * `Fallible.forall_of_mapM_eq_ok`
    * `Fallible.mapM_eq_error_iff`
    * `Fallible.failsOnly_bind`
    * `Fallible.failsOnly_mapM`
-/

------------------------------------------------------------
-- Steps
------------------------------------------------------------

namespace PocketDart

namespace Fallible

variable {E F A B : Type}

/- After a result the second step is done. -/
@[simp]
theorem ok_bind
    (a : A)
    (second : A → Except E B) :
    ((.ok a : Except E A) >>= second) = second a := rfl

/- After a failure nothing happens. -/
@[simp]
theorem error_bind
    (cause : E)
    (second : A → Except E B) :
    ((.error cause : Except E A) >>= second) =
      .error cause := rfl

/- A failure is not changed. -/
@[simp]
theorem map_error
    (change : A → B)
    (cause : E) :
    change <$> (.error cause : Except E A) =
      .error cause := rfl

/- Two steps succeed when the second does after the first. -/
theorem bind_eq_ok
    {first : Except E A}
    {second : A → Except E B}
    {b : B} :
    (first >>= second) = .ok b ↔
      ∃ a, first = .ok a ∧ second a = .ok b := by
  cases first with
  | error cause => simp
  | ok a => simp

/- Two steps fail when the first does, or else the second. -/
theorem bind_eq_error
    {first : Except E A}
    {second : A → Except E B}
    {cause : E} :
    (first >>= second) = .error cause ↔
      first = .error cause ∨
        ∃ a, first = .ok a ∧ second a = .error cause := by
  cases first with
  | error other => simp
  | ok a => simp

/- A step that only gives a result. -/
@[simp]
theorem pure_eq_ok
    {a b : A} :
    (pure a : Except E A) = .ok b ↔ b = a := by
  simp [pure, Except.pure, eq_comm]

/- After a failure nothing happens. -/
@[simp]
theorem throw_bind
    (cause : E)
    (second : A → Except E B) :
    ((throw cause : Except E A) >>= second) =
      .error cause := rfl

/- A failure is no success. -/
@[simp]
theorem throw_ne_ok
    {cause : E}
    {a : A} :
    (throw cause : Except E A) = .ok a ↔ False := by
  simp [throw, throwThe, MonadExceptOf.throw]

/- Another cause does not change whether a step succeeds. -/
theorem mapError_eq_ok
    {step : Except E A}
    {change : E → F}
    {a : A} :
    step.mapError change = .ok a ↔ step = .ok a := by
  cases step with
  | error cause =>
      constructor
      · intro h
        cases h
      · intro h
        cases h
  | ok a =>
      constructor
      · intro h
        cases h
        rfl
      · intro h
        cases h
        rfl

theorem mapError_eq_error
    {step : Except E A}
    {change : E → F}
    {cause : F} :
    step.mapError change = .error cause ↔
      ∃ other, step = .error other ∧
        change other = cause := by
  cases step with
  | error other =>
      constructor
      · rintro ⟨⟩
        exact ⟨other, rfl, rfl⟩
      · rintro ⟨_, ⟨⟩, rfl⟩
        rfl
  | ok a =>
      constructor
      · rintro ⟨⟩
      · rintro ⟨_, ⟨⟩, _⟩

/- A changed result comes from a result. -/
theorem map_eq_ok
    {step : Except E A}
    {change : A → B}
    {b : B} :
    step.map change = .ok b ↔
      ∃ a, step = .ok a ∧ change a = b := by
  cases step with
  | error cause => simp [Except.map]
  | ok a => simp [Except.map]

/- A changed result does not change how a step fails. -/
theorem map_eq_error
    {step : Except E A}
    {change : A → B}
    {cause : E} :
    step.map change = .error cause ↔
      step = .error cause := by
  cases step with
  | error other => simp [Except.map]
  | ok a => simp [Except.map]

/- Results of the same step come from what it was made for. -/
theorem exists_of_mapM_eq_ok
    {step : A → Except E B}
    {items : List A}
    {results : List B}
    (hSteps : items.mapM step = .ok results) :
    ∀ result ∈ results, ∃ item ∈ items,
      step item = .ok result := by
  induction items generalizing results with
  | nil =>
      rcases pure_eq_ok.mp hSteps with rfl
      simp
  | cons item rest ih =>
      rw [List.mapM_cons] at hSteps
      rcases bind_eq_ok.mp hSteps with
        ⟨first, hFirst, hRest⟩
      rcases bind_eq_ok.mp hRest with ⟨more, hMore, hAll⟩
      rcases pure_eq_ok.mp hAll with rfl
      rw [List.forall_mem_cons]
      refine ⟨⟨item, List.mem_cons_self, hFirst⟩, ?_⟩
      intro result hResult
      rcases ih hMore result hResult with
        ⟨other, hOther, hStep⟩
      exact ⟨other, List.mem_cons_of_mem _ hOther, hStep⟩

/- A step that is done for items succeeds for each of them. -/
theorem forall_of_mapM_eq_ok
    {step : A → Except E B}
    {items : List A}
    {results : List B}
    (hSteps : items.mapM step = .ok results) :
    ∀ item ∈ items, ∃ result, step item = .ok result := by
  induction items generalizing results with
  | nil => nofun
  | cons item rest ih =>
      rw [List.mapM_cons] at hSteps
      rcases bind_eq_ok.mp hSteps with
        ⟨first, hFirst, hRest⟩
      rcases bind_eq_ok.mp hRest with ⟨more, hMore, _⟩
      rw [List.forall_mem_cons]
      exact ⟨⟨first, hFirst⟩, ih hMore⟩

/-
  A step that is done for items fails as it does for the
  first item for which it fails.
-/
theorem mapM_eq_error_iff
    {step : A → Except E B}
    {items : List A}
    {cause : E} :
    items.mapM step = .error cause ↔
      ∃ before item after,
        items = before ++ item :: after ∧
          (∃ results, before.mapM step = .ok results) ∧
          step item = .error cause := by
  induction items with
  | nil => simp [pure, Except.pure]
  | cons first rest ih =>
      rw [List.mapM_cons, bind_eq_error]
      constructor
      · rintro (hFirst | ⟨result, hFirst, hRest⟩)
        · exact ⟨[], first, rest, rfl, ⟨[], rfl⟩, hFirst⟩
        · rcases bind_eq_error.mp hRest with
            hMore | ⟨_, _, hPure⟩
          · rcases ih.mp hMore with
              ⟨before, item, after, rfl, ⟨results, hBefore⟩,
                hItem⟩
            refine ⟨first :: before, item, after, rfl,
              ⟨result :: results, ?_⟩, hItem⟩
            rw [List.mapM_cons, hFirst, hBefore]
            rfl
          · cases hPure
      · rintro ⟨before, item, after, hItems, hBefore, hItem⟩
        rcases List.cons_eq_append_iff.mp hItems with
          ⟨rfl, hCons⟩ | ⟨more, rfl, hRest⟩
        · cases hCons
          exact Or.inl hItem
        · rcases hBefore with ⟨results, hBefore⟩
          rw [List.mapM_cons] at hBefore
          rcases bind_eq_ok.mp hBefore with
            ⟨result, hFirst, hMore⟩
          rcases bind_eq_ok.mp hMore with
            ⟨others, hOthers, _⟩
          refine Or.inr ⟨result, hFirst,
            bind_eq_error.mpr (Or.inl (ih.mpr ?_))⟩
          exact ⟨more, item, after, hRest,
            ⟨others, hOthers⟩, hItem⟩

------------------------------------------------------------
-- Failures
------------------------------------------------------------

def FailsOnly
    (causes : E → Prop)
    (step : Except E A) : Prop :=
  ∀ cause, step = .error cause → causes cause

section

variable {causes : E → Prop}

@[simp]
theorem failsOnly_ok (a : A) :
    FailsOnly causes (.ok a : Except E A) :=
  nofun

@[simp]
theorem failsOnly_error {cause : E} :
    FailsOnly causes (.error cause : Except E A) ↔
      causes cause := by
  constructor
  · exact fun hFails => hFails cause rfl
  · rintro hCause _ ⟨⟩
    exact hCause

theorem FailsOnly.ne_error
    {step : Except E A}
    {cause : E}
    (hFails : FailsOnly causes step)
    (hCause : ¬ causes cause) :
    step ≠ .error cause :=
  fun hStep => hCause (hFails cause hStep)

theorem failsOnly_of_forall
    (hCauses : ∀ cause, causes cause)
    (step : Except E A) :
    FailsOnly causes step :=
  fun cause _ => hCauses cause

/- Two steps fail as the first does, or else the second. -/
theorem failsOnly_bind
    {first : Except E A}
    {second : A → Except E B} :
    FailsOnly causes (first >>= second) ↔
      FailsOnly causes first ∧
        ∀ a, first = .ok a →
          FailsOnly causes (second a) := by
  cases first with
  | error cause => simp
  | ok a => simp

/- Another cause counts in place of the first. -/
theorem failsOnly_mapError
    {change : F → E}
    {step : Except F A} :
    FailsOnly causes (step.mapError change) ↔
      FailsOnly (fun cause => causes (change cause))
        step := by
  constructor
  · intro hFails cause hStep
    exact hFails _ (mapError_eq_error.mpr ⟨_, hStep, rfl⟩)
  · intro hFails other hStep
    rcases mapError_eq_error.mp hStep with
      ⟨cause, hCause, rfl⟩
    exact hFails cause hCause

theorem failsOnly_mapM
    {step : A → Except E B}
    {items : List A}
    (hSteps : ∀ item ∈ items,
      FailsOnly causes (step item)) :
    FailsOnly causes (items.mapM step) := by
  induction items with
  | nil => exact failsOnly_ok []
  | cons item rest ih =>
      rcases List.forall_mem_cons.mp hSteps with
        ⟨hItem, hRest⟩
      rw [List.mapM_cons, failsOnly_bind]
      refine ⟨hItem, fun first _ => ?_⟩
      rw [failsOnly_bind]
      exact ⟨ih hRest, fun more _ => failsOnly_ok _⟩

end

end Fallible

end PocketDart
