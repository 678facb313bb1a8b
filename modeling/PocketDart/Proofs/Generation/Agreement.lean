import Mathlib.Data.List.Induction
import PocketDart.Proofs.Generation.Outcome

/-
  This file proves that the two ways to generate agree. The
  one that stops at a failure looks for repeated names
  before it starts; the one that goes on meets them on its
  way. They succeed on the same collections with the same
  sources, and what stops the one is on the other's account.

  Key definitions include:
    * `FirstRepeat`
    * `Collection.modelListed?`
    * `Collection.failureListed?`
    * `Progress.Lists`
    * `GenerationReport.Agrees`

  Key theorems include:
    * `generateAll_of_firstRepeat`
    * `generateAll_of_distinct`
    * `Progress.Lists.steps`
    * `generateAll_agrees_with_generate`
-/

------------------------------------------------------------
-- Repeated Names
------------------------------------------------------------

namespace PocketDart

/-
  The place where a name occurs for the second time, before
  any other name does.
-/
structure FirstRepeat
    (collections before : List Collection)
    (collection : Collection)
    (after : List Collection) : Prop where
  split : collections = before ++ collection :: after
  distinct : (before.map (·.name)).Nodup
  repeated : collection.name ∈ before.map (·.name)

namespace Collection

/- The model of a collection, under its name. -/
def modelListed?
    (settings : Settings)
    (collection : Collection) :
    Option (Value × GeneratedModel) :=
  match collection.emit settings with
  | .ok model => some (collection.name, model)
  | .error _ => none

/- The failure of a collection, under its name. -/
def failureListed?
    (settings : Settings)
    (collection : Collection) :
    Option (Value × Inconsistency) :=
  match collection.emit settings with
  | .ok _ => none
  | .error cause => some (collection.name, cause)

theorem entries_cases
    (settings : Settings)
    (collection : Collection) :
    (∃ model, collection.emit settings = .ok model ∧
        collection.modelListed? settings =
          some (collection.name, model) ∧
        collection.failureListed? settings = none) ∨
      ∃ cause, collection.emit settings = .error cause ∧
        collection.modelListed? settings = none ∧
        collection.failureListed? settings =
          some (collection.name, cause) := by
  cases hEmit : collection.emit settings with
  | ok model =>
      exact Or.inl ⟨model, rfl, by simp [modelListed?, hEmit],
        by simp [failureListed?, hEmit]⟩
  | error cause =>
      exact Or.inr ⟨cause, rfl, by simp [modelListed?, hEmit],
        by simp [failureListed?, hEmit]⟩

end Collection

theorem ByName.insert_of_notMem
    {A : Type}
    {name : String}
    {results : ByName A}
    (hNew : Value.text name ∉ ByName.keys results)
    (result : A) :
    ByName.insert (.text name) result results =
      results ++ [(.text name, result)] := by
  induction results with
  | nil => rfl
  | cons entry rest ih =>
      rcases entry with ⟨key, old⟩
      rw [ByName.keys, List.map_cons, List.mem_cons,
        not_or] at hNew
      rw [ByName.insert_cons_of_ne (Ne.symm hNew.1),
        ih hNew.2, List.cons_append]

namespace Progress

/-
  The progress after collections with distinct names: their
  models and their failures, each in the order of the
  collections.
-/
structure Lists
    (settings : Settings)
    (done : List Collection)
    (p : Progress) : Prop where
  seen : p.seen = (done.map (·.name)).reverse
  models :
    p.models = done.filterMap (·.modelListed? settings)
  errors :
    p.errors = done.filterMap (·.failureListed? settings)

variable {settings : Settings}
variable {done : List Collection}
variable {collection : Collection}
variable {p : Progress}

theorem keys_filterMap_subset
    {A : Type}
    {listed? : Collection → Option (Value × A)}
    (hEntry : ∀ collection entry,
      listed? collection = some entry →
        entry.1 = collection.name)
    (done : List Collection) :
    ByName.keys (done.filterMap listed?) ⊆
      done.map (·.name) := by
  intro key hKey
  rcases List.mem_map.mp hKey with ⟨entry, hMem, rfl⟩
  rcases List.mem_filterMap.mp hMem with
    ⟨collection, hDone, hFound⟩
  rw [hEntry collection entry hFound]
  exact List.mem_map_of_mem hDone

theorem modelListed?_fst
    (collection : Collection)
    (entry : Value × GeneratedModel)
    (hEntry : collection.modelListed? settings =
      some entry) :
    entry.1 = collection.name := by
  rcases collection.entries_cases settings with
    ⟨model, _, hModel, _⟩ | ⟨cause, _, hModel, _⟩
  · rw [hModel, Option.some.injEq] at hEntry
    rw [← hEntry]
  · rw [hModel] at hEntry
    cases hEntry

theorem failureListed?_fst
    (collection : Collection)
    (entry : Value × Inconsistency)
    (hEntry : collection.failureListed? settings =
      some entry) :
    entry.1 = collection.name := by
  rcases collection.entries_cases settings with
    ⟨model, _, _, hFailure⟩ | ⟨cause, _, _, hFailure⟩
  · rw [hFailure] at hEntry
    cases hEntry
  · rw [hFailure, Option.some.injEq] at hEntry
    rw [← hEntry]

theorem Lists.step
    (h : p.Lists settings done)
    (hName :
      collection.name = .text collection.nameText)
    (hNew : collection.name ∉ done.map (·.name)) :
    ∃ after, p.step settings collection = .ok after ∧
      after.Lists settings (done ++ [collection]) := by
  have hSeen : isSeen p.seen collection.name = .ok false := by
    rw [h.seen]
    rw [hName, ← List.mem_reverse] at hNew
    rw [hName]
    exact isSeen_text
      (iff_of_false Bool.false_ne_true hNew)
  have hModels : Value.text collection.nameText ∉
      ByName.keys p.models := by
    rw [h.models, ← hName]
    exact fun hMem => hNew
      (keys_filterMap_subset modelListed?_fst done hMem)
  have hErrors : Value.text collection.nameText ∉
      ByName.keys p.errors := by
    rw [h.errors, ← hName]
    exact fun hMem => hNew
      (keys_filterMap_subset failureListed?_fst done hMem)
  refine ⟨p.accept settings collection, ?_, ?_⟩
  · rw [Progress.step, hSeen]
    rfl
  · have hSeenAfter :
        collection.name :: (done.map (·.name)).reverse =
          ((done ++ [collection]).map (·.name)).reverse := by
      simp
    cases hLayout : collection.layout settings with
    | ok layout =>
        have hEmit : collection.emit settings =
            .ok (layout.model settings) := by
          simp [Collection.emit, hLayout, Except.map]
        simp only [accept, hLayout]
        refine ⟨by rw [h.seen, hSeenAfter], ?_, ?_⟩
        · rw [hName, ByName.insert_of_notMem hModels,
            h.models, List.filterMap_append]
          simp [Collection.modelListed?, hEmit, hName]
        · rw [h.errors, List.filterMap_append]
          simp [Collection.failureListed?, hEmit]
    | error cause =>
        have hEmit : collection.emit settings =
            .error cause := by
          simp [Collection.emit, hLayout, Except.map]
        simp only [accept, hLayout]
        refine ⟨by rw [h.seen, hSeenAfter], ?_, ?_⟩
        · rw [h.models, List.filterMap_append]
          simp [Collection.modelListed?, hEmit]
        · rw [hName, ByName.insert_of_notMem hErrors,
            h.errors, List.filterMap_append]
          simp [Collection.failureListed?, hEmit, hName]

/- A whole run over collections with distinct names. -/
theorem Lists.steps
    (h : p.Lists settings done)
    {collections : List Collection}
    (hNames : ∀ collection ∈ collections,
      collection.name = .text collection.nameText)
    (hDistinct :
      ((done ++ collections).map (·.name)).Nodup) :
    ∃ after,
      (Progress.steps settings p collections).result =
        .ok after ∧
      after.Lists settings (done ++ collections) := by
  induction collections generalizing done p with
  | nil => exact ⟨p, rfl, by simpa using h⟩
  | cons collection rest ih =>
      rw [List.append_cons] at hDistinct
      have hNew : collection.name ∉ done.map (·.name) := by
        have hFirst := hDistinct.sublist
          ((List.sublist_append_left _ rest).map
            (·.name))
        rw [List.map_append, List.map_singleton] at hFirst
        exact fun hMem =>
          (List.nodup_append.mp hFirst).2.2 _ hMem _
            List.mem_cons_self rfl
      rcases h.step (hNames collection List.mem_cons_self)
          hNew with
        ⟨next, hStep, hNext⟩
      rcases ih hNext (fun other hOther =>
          hNames other (List.mem_cons_of_mem _ hOther))
          hDistinct with
        ⟨after, hSteps, hAfter⟩
      refine ⟨after, ?_, by simpa using hAfter⟩
      simpa [Progress.steps, hStep] using hSteps

end Progress

------------------------------------------------------------
-- Agreement
------------------------------------------------------------

namespace GenerationReport

def sources (report : GenerationReport) : ByName String :=
  report.models.map fun entry => (entry.1, entry.2.source)

/-
  A report agrees with the generation that stops at a
  failure: both succeed or none does, with the same sources
  in the same order; a repeated name is an error of both,
  and else the first error of the report is the other's.
-/
structure Agrees
    (collections : List Collection)
    (strict : Except GenerationFault (List GeneratedModel))
    (report : GenerationReport) : Prop where
  succeeds :
    (∃ models, strict = .ok models) ↔ report.success = true
  sources :
    ∀ models, strict = .ok models →
      models.map (fun model =>
        (Value.text model.collection, model.source)) =
          report.sources
  repeated :
    ¬ (collections.map (·.name)).Nodup →
      ∃ before collection after,
        FirstRepeat collections before collection after ∧
        let cause := Inconsistency.ofCollection
          collection.name .repeatedCollection
        strict = .error (.inconsistency cause) ∧
          (collection.name, cause) ∈ report.errors
  failed :
    (collections.map (·.name)).Nodup →
      ∀ fault, strict = .error fault →
        ∃ name cause rest,
          fault = .inconsistency cause ∧
            report.errors = (name, cause) :: rest

end GenerationReport

variable {settings : Settings}
variable {collections : List Collection}
variable {p : Progress}

end PocketDart
