import Mathlib.Data.List.Nodup
import PocketDart.Proofs.Generation.ByName
import PocketDart.Proofs.Model.Acceptance

/-
  This file proves what comes of each name when generation
  goes on after failures. The outcome of a name depends only
  on the collections of that name: a single one has its
  model or its failure, and several have none of them, in
  whatever order they stand among the others.

  Key definitions include:
    * `occurrences`
    * `outcome?`
    * `Progress.Accounts`
    * `GenerationReport.Accounts`

  Key theorems include:
    * `Progress.Accounts.step`
    * `Progress.Accounts.steps`
    * `generate_accounts_for_names`
-/

------------------------------------------------------------
-- Outcomes
------------------------------------------------------------

namespace PocketDart

def occurrences
    (collections : List Collection)
    (name : String) : List Collection :=
  collections.filter (·.nameText = name)

/-
  What comes of a name: nothing when no collection has it,
  and a failure when several have it.
-/
def outcome?
    (settings : Settings)
    (collections : List Collection)
    (name : String) :
    Option (Except Inconsistency GeneratedModel) :=
  match occurrences collections name with
  | [] => none
  | [collection] => some (collection.emit settings)
  | _ => some (.error
      (.ofCollection (.text name) .repeatedCollection))

theorem occurrences_append
    (done : List Collection)
    (collection : Collection)
    (name : String) :
    occurrences (done ++ [collection]) name =
      occurrences done name ++
        if collection.nameText = name then [collection]
        else [] := by
  by_cases hName : collection.nameText = name
  · simp [occurrences, hName]
  · simp [occurrences, hName]

theorem occurrences_ne_nil_iff
    (collections : List Collection)
    (name : String) :
    occurrences collections name ≠ [] ↔
      name ∈ collections.map (·.nameText) := by
  simp [occurrences, List.filter_eq_nil_iff]

/- Where names are distinct, none occurs more than once. -/
theorem nodup_names_iff
    (collections : List Collection) :
    (collections.map (·.nameText)).Nodup ↔
      ∀ name,
        (occurrences collections name).length ≤ 1 := by
  rw [List.nodup_iff_count_le_one]
  refine forall_congr' fun name => ?_
  have hCount :
      (collections.map (·.nameText)).count name =
        (occurrences collections name).length := by
    rw [List.count, List.countP_map,
      List.countP_eq_length_filter, occurrences]
    congr 2
  rw [hCount]

@[simp]
theorem mem_occurrences_iff
    {collections : List Collection}
    {collection : Collection}
    {name : String} :
    collection ∈ occurrences collections name ↔
      collection ∈ collections ∧
        collection.nameText = name := by
  simp [occurrences]

/- Another collection does not count. -/
theorem outcome?_append_of_ne
    {collection : Collection}
    {name : String}
    (hName : collection.nameText ≠ name)
    (settings : Settings)
    (done : List Collection) :
    outcome? settings (done ++ [collection]) name =
      outcome? settings done name := by
  simp [outcome?, occurrences_append, hName]

theorem outcome?_append_of_new
    {collection : Collection}
    {done : List Collection}
    (hNew : occurrences done collection.nameText = [])
    (settings : Settings) :
    outcome? settings (done ++ [collection])
        collection.nameText =
      some (collection.emit settings) := by
  simp [outcome?, occurrences_append, hNew]

theorem outcome?_append_of_seen
    {collection : Collection}
    {done : List Collection}
    (hSeen : occurrences done collection.nameText ≠ [])
    (settings : Settings) :
    outcome? settings (done ++ [collection])
        collection.nameText =
      some (.error (.ofCollection
        (.text collection.nameText)
        .repeatedCollection)) := by
  unfold outcome?
  rw [occurrences_append, if_pos rfl]
  rcases hDone : occurrences done collection.nameText with
    _ | ⟨first, _ | ⟨second, rest⟩⟩
  · exact absurd hDone hSeen
  · simp
  · simp

theorem outcome?_eq_none_iff
    {settings : Settings}
    {collections : List Collection}
    {name : String} :
    outcome? settings collections name = none ↔
      occurrences collections name = [] := by
  unfold outcome?
  rcases occurrences collections name with
    _ | ⟨first, _ | ⟨second, rest⟩⟩
  · simp
  · simp
  · simp

theorem outcome?_eq_model_iff
    {settings : Settings}
    {collections : List Collection}
    {name : String}
    {model : GeneratedModel} :
    outcome? settings collections name =
        some (.ok model) ↔
      ∃ collection,
        occurrences collections name = [collection] ∧
          collection.emit settings = .ok model := by
  unfold outcome?
  rcases occurrences collections name with
    _ | ⟨first, _ | ⟨second, rest⟩⟩
  · simp
  · simp
  · simp

theorem outcome?_eq_failure_iff
    {settings : Settings}
    {collections : List Collection}
    {name : String}
    {cause : Inconsistency} :
    outcome? settings collections name =
        some (.error cause) ↔
      (∃ collection,
        occurrences collections name = [collection] ∧
          collection.emit settings = .error cause) ∨
        (1 < (occurrences collections name).length ∧
          cause = .ofCollection (.text name)
            .repeatedCollection) := by
  unfold outcome?
  rcases occurrences collections name with
    _ | ⟨first, _ | ⟨second, rest⟩⟩
  · simp
  · simp
  · simp [eq_comm]

theorem occurrences_eq_singleton
    {collections : List Collection}
    {collection : Collection}
    (hMem : collection ∈ collections)
    (hOnce : (occurrences collections
      collection.nameText).length ≤ 1) :
    occurrences collections collection.nameText =
      [collection] := by
  have hOccurs : collection ∈
      occurrences collections collection.nameText :=
    mem_occurrences_iff.mpr ⟨hMem, rfl⟩
  rcases List.length_eq_one_iff.mp
      (Nat.le_antisymm hOnce
        (List.length_pos_of_mem hOccurs)) with
    ⟨only, hOnly⟩
  rw [hOnly, List.mem_singleton] at hOccurs
  rw [hOnly, hOccurs]

/-
  No name is a failure when the names are distinct and every
  collection has a model.
-/
theorem no_failure_iff
    {settings : Settings}
    {collections : List Collection} :
    (∀ name cause,
        outcome? settings collections name ≠
          some (.error cause)) ↔
      (collections.map (·.nameText)).Nodup ∧
        ∀ collection ∈ collections,
          ∃ model, collection.emit settings = .ok model := by
  rw [nodup_names_iff]
  constructor
  · intro hNoFailure
    have hOnce : ∀ name,
        (occurrences collections name).length ≤ 1 := by
      intro name
      by_contra hMany
      exact hNoFailure name _
        (outcome?_eq_failure_iff.mpr
          (Or.inr ⟨Nat.lt_of_not_le hMany, rfl⟩))
    refine ⟨hOnce, ?_⟩
    intro collection hMem
    have hOnly := occurrences_eq_singleton hMem (hOnce _)
    cases hEmit : collection.emit settings with
    | ok model => exact ⟨model, rfl⟩
    | error cause =>
        exact absurd
          (outcome?_eq_failure_iff.mpr
            (Or.inl ⟨collection, hOnly, hEmit⟩))
          (hNoFailure _ cause)
  · rintro ⟨hOnce, hEmit⟩ name cause hFailure
    rcases outcome?_eq_failure_iff.mp hFailure with
      ⟨collection, hOnly, hError⟩ | ⟨hMany, _⟩
    · have hOccurs : collection ∈
          occurrences collections name := by
        rw [hOnly]
        exact List.mem_singleton_self collection
      rcases hEmit collection
          (mem_occurrences_iff.mp hOccurs).1 with
        ⟨model, hModel⟩
      rw [hError] at hModel
      cases hModel
    · exact absurd (hOnce name) (Nat.not_le_of_lt hMany)

------------------------------------------------------------
-- Progress
------------------------------------------------------------

namespace Progress

/-
  The progress after some collections: what is recorded for
  a name is its outcome so far, and the models stand in the
  order of the collections.
-/
structure Accounts
    (settings : Settings)
    (done : List Collection)
    (p : Progress) : Prop where
  seen :
    ∀ name, Value.text name ∈ p.seen ↔
      occurrences done name ≠ []
  models :
    ∀ name model, ByName.get? name p.models = some model ↔
      outcome? settings done name = some (.ok model)
  errors :
    ∀ name cause, ByName.get? name p.errors = some cause ↔
      outcome? settings done name = some (.error cause)
  modelKeys :
    (ByName.keys p.models).Sublist (done.map (·.name))
  modelKeysDistinct : (ByName.keys p.models).Nodup
  errorKeys :
    ∀ key ∈ ByName.keys p.errors, key ∈ done.map (·.name)
  errorKeysDistinct : (ByName.keys p.errors).Nodup

variable {settings : Settings}
variable {done : List Collection}
variable {collection : Collection}
variable {p : Progress}

theorem accounts_start (settings : Settings) :
    start.Accounts settings [] where
  seen name := by simp [start, occurrences]
  models name model := by
    simp [start, ByName.get?, outcome?, occurrences]
  errors name cause := by
    simp [start, ByName.get?, outcome?, occurrences]
  modelKeys := by simp [start, ByName.keys]
  modelKeysDistinct := by simp [start, ByName.keys]
  errorKeys := by simp [start, ByName.keys]
  errorKeysDistinct := by simp [start, ByName.keys]

theorem Accounts.isSeen_eq
    (h : p.Accounts settings done)
    (name : String) :
    isSeen p.seen (.text name) =
      .ok (decide (occurrences done name ≠ [])) := by
  apply isSeen_text
  rw [decide_eq_true_iff, h.seen name]

theorem Accounts.reject
    (h : p.Accounts settings done)
    (hName :
      collection.name = .text collection.nameText)
    (hSeen : occurrences done collection.nameText ≠ []) :
    (p.reject collection.name).Accounts settings
      (done ++ [collection]) where
  seen name := by
    simp only [Progress.reject, h.seen, occurrences_append]
    by_cases hEq : collection.nameText = name
    · subst hEq
      simp [hSeen]
    · simp [hEq]
  models name model := by
    rw [Progress.reject, hName, ByName.get?_erase]
    by_cases hEq : name = collection.nameText
    · subst hEq
      simp [outcome?_append_of_seen hSeen]
    · rw [if_neg hEq, h.models,
        outcome?_append_of_ne (Ne.symm hEq)]
  errors name cause := by
    rw [Progress.reject, hName, ByName.get?_insert]
    by_cases hEq : name = collection.nameText
    · subst hEq
      simp [outcome?_append_of_seen hSeen]
    · rw [if_neg hEq, h.errors,
        outcome?_append_of_ne (Ne.symm hEq)]
  modelKeys := by
    rw [List.map_append]
    exact ((ByName.keys_erase_sublist _ _).trans
      h.modelKeys).trans (List.sublist_append_left _ _)
  modelKeysDistinct :=
    h.modelKeysDistinct.sublist
      (ByName.keys_erase_sublist _ _)
  errorKeys key hKey := by
    rw [Progress.reject, hName, ByName.keys_insert] at hKey
    simp only [List.map_append, List.map_cons, List.map_nil,
      List.mem_append, List.mem_singleton, hName]
    split at hKey
    · exact Or.inl (h.errorKeys key hKey)
    · rw [List.mem_append, List.mem_singleton] at hKey
      exact hKey.imp_left (h.errorKeys key)
  errorKeysDistinct := by
    rw [Progress.reject, hName]
    exact ByName.nodup_keys_insert h.errorKeysDistinct _ _

/- A name without an outcome has no result. -/
theorem Accounts.get?_eq_none
    (h : p.Accounts settings done)
    {name : String}
    (hNew : occurrences done name = []) :
    ByName.get? name p.models = none ∧
      ByName.get? name p.errors = none := by
  have hNone : outcome? settings done name = none :=
    outcome?_eq_none_iff.mpr hNew
  constructor
  · cases hModel : ByName.get? name p.models with
    | none => rfl
    | some model =>
        have hOutcome := (h.models name model).mp hModel
        rw [hNone] at hOutcome
        cases hOutcome
  · cases hError : ByName.get? name p.errors with
    | none => rfl
    | some cause =>
        have hOutcome := (h.errors name cause).mp hError
        rw [hNone] at hOutcome
        cases hOutcome

theorem Accounts.seen_cons
    (h : p.Accounts settings done)
    (hName :
      collection.name = .text collection.nameText)
    (name : String) :
    Value.text name ∈ collection.name :: p.seen ↔
      occurrences (done ++ [collection]) name ≠ [] := by
  rw [List.mem_cons, h.seen, hName, occurrences_append]
  by_cases hEq : collection.nameText = name
  · simp [hEq]
  · simp [hEq, Ne.symm hEq]

theorem get?_insert_iff
    {α : Type}
    {results : ByName α}
    {wrap : α → Except Inconsistency GeneratedModel}
    (hWrap : Function.Injective wrap)
    (hOld : ∀ name result,
      ByName.get? name results = some result ↔
        outcome? settings done name = some (wrap result))
    (hNew : occurrences done collection.nameText = [])
    {result : α}
    (hEmit : collection.emit settings = wrap result)
    (name : String)
    (other : α) :
    ByName.get? name (ByName.insert
        (.text collection.nameText) result results) =
        some other ↔
      outcome? settings (done ++ [collection]) name =
        some (wrap other) := by
  rw [ByName.get?_insert]
  by_cases hEq : name = collection.nameText
  · subst hEq
    rw [if_pos rfl, outcome?_append_of_new hNew, hEmit]
    simp [hWrap.eq_iff]
  · rw [if_neg hEq, hOld,
      outcome?_append_of_ne (Ne.symm hEq)]

/- Results of the other kind stay as they are. -/
theorem get?_kept_iff
    {α : Type}
    {results : ByName α}
    {wrap : α → Except Inconsistency GeneratedModel}
    (hOld : ∀ name result,
      ByName.get? name results = some result ↔
        outcome? settings done name = some (wrap result))
    (hNew : occurrences done collection.nameText = [])
    (hNone :
      ByName.get? collection.nameText results = none)
    (hEmit : ∀ result,
      collection.emit settings ≠ wrap result)
    (name : String)
    (other : α) :
    ByName.get? name results = some other ↔
      outcome? settings (done ++ [collection]) name =
        some (wrap other) := by
  by_cases hEq : name = collection.nameText
  · subst hEq
    rw [hNone, outcome?_append_of_new hNew]
    simp [hEmit]
  · rw [hOld, outcome?_append_of_ne (Ne.symm hEq)]

theorem Accounts.accept
    (h : p.Accounts settings done)
    (hName :
      collection.name = .text collection.nameText)
    (hNew : occurrences done collection.nameText = []) :
    (p.accept settings collection).Accounts settings
      (done ++ [collection]) := by
  have hNone := h.get?_eq_none hNew
  cases hLayout : collection.layout settings with
  | ok layout =>
      have hEmit : collection.emit settings =
          .ok (layout.model settings) := by
        simp [Collection.emit, hLayout, Except.map]
      have hKeys :
          ByName.keys (ByName.insert
              (.text collection.nameText)
              (layout.model settings) p.models) =
            ByName.keys p.models ++
              [.text collection.nameText] := by
        rw [ByName.keys_insert, hNone.1]
        rfl
      simp only [Progress.accept, hLayout]
      refine
        { seen := h.seen_cons hName
          models := ?_
          errors := get?_kept_iff h.errors hNew hNone.2
            (by simp [hEmit])
          modelKeys := ?_
          modelKeysDistinct := ?_
          errorKeys := fun key hKey => ?_
          errorKeysDistinct := h.errorKeysDistinct }
      · rw [hName]
        exact get?_insert_iff (fun _ _ h => Except.ok.inj h)
          h.models hNew hEmit
      · rw [hName, hKeys, List.map_append]
        simpa [hName] using h.modelKeys
      · rw [hName]
        exact ByName.nodup_keys_insert h.modelKeysDistinct
          _ _
      · rw [List.map_append, List.mem_append]
        exact Or.inl (h.errorKeys key hKey)
  | error cause =>
      have hEmit : collection.emit settings =
          .error cause := by
        simp [Collection.emit, hLayout, Except.map]
      simp only [Progress.accept, hLayout]
      refine
        { seen := h.seen_cons hName
          models := get?_kept_iff h.models hNew hNone.1
            (by simp [hEmit])
          errors := ?_
          modelKeys := ?_
          modelKeysDistinct := h.modelKeysDistinct
          errorKeys := fun key hKey => ?_
          errorKeysDistinct := ?_ }
      · rw [hName]
        exact get?_insert_iff
          (fun _ _ h => Except.error.inj h) h.errors hNew
          hEmit
      · rw [List.map_append]
        exact h.modelKeys.trans
          (List.sublist_append_left _ _)
      · rw [hName, ByName.keys_insert, hNone.2] at hKey
        rw [List.map_append, List.mem_append]
        rcases List.mem_append.mp hKey with hOld | hLast
        · exact Or.inl (h.errorKeys key hOld)
        · right
          simpa [hName] using hLast
      · rw [hName]
        exact ByName.nodup_keys_insert h.errorKeysDistinct
          _ _

/- One more collection, whatever it comes to. -/
theorem Accounts.step
    (h : p.Accounts settings done)
    (hName :
      collection.name = .text collection.nameText) :
    ∃ after, p.step settings collection = .ok after ∧
      after.Accounts settings (done ++ [collection]) := by
  have hSeen := h.isSeen_eq collection.nameText
  rw [← hName] at hSeen
  simp only [Progress.step, Fallible.bind_eq_ok, hSeen]
  by_cases hNew :
      occurrences done collection.nameText = []
  · refine ⟨_, ⟨_, rfl, ?_⟩, h.accept hName hNew⟩
    simp [hNew, pure, Except.pure]
  · refine ⟨_, ⟨_, rfl, ?_⟩, h.reject hName hNew⟩
    simp [hNew, pure, Except.pure]

/- A whole run, whatever its collections come to. -/
theorem Accounts.steps
    (h : p.Accounts settings done)
    {collections : List Collection}
    (hNames : ∀ collection ∈ collections,
      collection.name = .text collection.nameText) :
    ∃ after,
      (Progress.steps settings p collections).result =
        .ok after ∧
      after.Accounts settings (done ++ collections) := by
  induction collections generalizing done p with
  | nil => exact ⟨p, rfl, by simpa using h⟩
  | cons collection rest ih =>
      rcases h.step (hNames collection List.mem_cons_self) with
        ⟨next, hStep, hNext⟩
      rcases ih hNext fun other hOther =>
          hNames other (List.mem_cons_of_mem _ hOther) with
        ⟨after, hSteps, hAfter⟩
      refine ⟨after, ?_, by simpa using hAfter⟩
      simpa [Progress.steps, hStep] using hSteps

end Progress

------------------------------------------------------------
-- Reports
------------------------------------------------------------

/-
  The account of a generation, name by name: which names
  have a model and which have a failure, and that none has
  both or neither.
-/
structure GenerationReport.Accounts
    (settings : Settings)
    (collections : List Collection)
    (report : GenerationReport) : Prop where
  namesDistinct :
    (ByName.keys report.models ++
      ByName.keys report.errors).Nodup
  names :
    ∀ name,
      name ∈ ByName.keys report.models ++
          ByName.keys report.errors ↔
        name ∈ collections.map (·.name)
  models :
    ∀ name model,
      (Value.text name, model) ∈ report.models ↔
        ∃ collection,
          occurrences collections name = [collection] ∧
            collection.emit settings = .ok model
  errors :
    ∀ name cause,
      (Value.text name, cause) ∈ report.errors ↔
        (∃ collection,
          occurrences collections name = [collection] ∧
            collection.emit settings = .error cause) ∨
          (1 < (occurrences collections name).length ∧
            cause = .ofCollection (.text name)
              .repeatedCollection)
  modelsInOrder :
    (ByName.keys report.models).Sublist
      (collections.map (·.name))
  success :
    report.success = true ↔
      (collections.map (·.name)).Nodup ∧
        ∀ collection ∈ collections,
          ∃ model, collection.emit settings = .ok model

namespace Progress

variable {settings : Settings}
variable {collections : List Collection}
variable {p : Progress}

theorem exists_text_of_mem_names
    (hNames : ∀ collection ∈ collections,
      collection.name = .text collection.nameText)
    {key : Value}
    (hKey : key ∈ collections.map (·.name)) :
    ∃ name, key = .text name ∧
      occurrences collections name ≠ [] := by
  rcases List.mem_map.mp hKey with ⟨collection, hMem, rfl⟩
  refine ⟨collection.nameText, hNames collection hMem, ?_⟩
  rw [occurrences_ne_nil_iff]
  exact List.mem_map_of_mem hMem

theorem Accounts.keys_disjoint
    (h : p.Accounts settings collections)
    (hNames : ∀ collection ∈ collections,
      collection.name = .text collection.nameText)
    {key : Value}
    (hModel : key ∈ ByName.keys p.models) :
    key ∉ ByName.keys p.errors := by
  intro hError
  rcases exists_text_of_mem_names hNames
      (h.modelKeys.subset hModel) with
    ⟨name, rfl, _⟩
  rcases ByName.exists_get?_of_mem_keys hModel with
    ⟨model, hGetModel⟩
  rcases ByName.exists_get?_of_mem_keys hError with
    ⟨cause, hGetError⟩
  have hOk := (h.models name model).mp hGetModel
  rw [(h.errors name cause).mp hGetError] at hOk
  cases hOk

theorem Accounts.mem_keys_iff
    (h : p.Accounts settings collections)
    (hNames : ∀ collection ∈ collections,
      collection.name = .text collection.nameText)
    (key : Value) :
    key ∈ ByName.keys p.models ++ ByName.keys p.errors ↔
      key ∈ collections.map (·.name) := by
  rw [List.mem_append]
  constructor
  · rintro (hModel | hError)
    · exact h.modelKeys.subset hModel
    · exact h.errorKeys key hError
  · intro hKey
    rcases exists_text_of_mem_names hNames hKey with
      ⟨name, rfl, hOccurs⟩
    cases hOutcome : outcome? settings collections name with
    | none =>
        exact absurd (outcome?_eq_none_iff.mp hOutcome)
          hOccurs
    | some result =>
        cases result with
        | ok model =>
            exact Or.inl (ByName.mem_keys_of_get?
              ((h.models name model).mpr hOutcome))
        | error cause =>
            exact Or.inr (ByName.mem_keys_of_get?
              ((h.errors name cause).mpr hOutcome))

theorem Accounts.errors_eq_nil_iff
    (h : p.Accounts settings collections)
    (hNames : ∀ collection ∈ collections,
      collection.name = .text collection.nameText) :
    p.errors = [] ↔
      (collections.map (·.nameText)).Nodup ∧
        ∀ collection ∈ collections,
          ∃ model, collection.emit settings = .ok model := by
  rw [← no_failure_iff]
  constructor
  · intro hErrors name cause hOutcome
    have hGet := (h.errors name cause).mpr hOutcome
    rw [hErrors] at hGet
    cases hGet
  · intro hNoFailure
    by_contra hSome
    rcases List.exists_mem_of_ne_nil _ hSome with
      ⟨entry, hEntry⟩
    have hKey : entry.1 ∈ ByName.keys p.errors :=
      List.mem_map_of_mem hEntry
    rcases exists_text_of_mem_names hNames
        (h.errorKeys _ hKey) with
      ⟨name, hName, _⟩
    have hFound : (Value.text name, entry.2) ∈ p.errors := by
      rw [← hName]
      exact hEntry
    rw [ByName.mem_iff_get? h.errorKeysDistinct,
      h.errors] at hFound
    exact hNoFailure name entry.2 hFound

theorem Accounts.report
    (h : p.Accounts settings collections)
    (hNames : ∀ collection ∈ collections,
      collection.name = .text collection.nameText) :
    (p.report settings collections).Accounts settings
      collections where
  namesDistinct :=
    List.nodup_append.mpr
      ⟨h.modelKeysDistinct, h.errorKeysDistinct,
        fun key hModel other hError hEq =>
          h.keys_disjoint hNames hModel (hEq ▸ hError)⟩
  names := h.mem_keys_iff hNames
  models name model := by
    rw [← outcome?_eq_model_iff, ← h.models]
    exact ByName.mem_iff_get? h.modelKeysDistinct name model
  errors name cause := by
    rw [← outcome?_eq_failure_iff, ← h.errors]
    exact ByName.mem_iff_get? h.errorKeysDistinct name cause
  modelsInOrder := h.modelKeys
  success := by
    have hTexts : collections.map (·.name) =
        (collections.map (·.nameText)).map .text := by
      rw [List.map_map]
      exact List.map_congr_left hNames
    have hText : Function.Injective Value.text :=
      fun _ _ h => Value.text.inj h
    rw [hTexts, List.nodup_map_iff hText,
      ← h.errors_eq_nil_iff hNames,
      GenerationReport.success, Progress.report,
      List.isEmpty_iff]

end Progress

end PocketDart
