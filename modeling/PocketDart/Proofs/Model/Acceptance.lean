import Mathlib.Tactic.Tauto
import PocketDart.Generation.Emit
import PocketDart.Proofs.Model.Draft

/-
  This file proves which collections have a model. They are
  described without scopes and without an order: the names
  are identifiers, all names that the fields declare are
  distinct and differ from those the class uses otherwise,
  and the values of the select fields are sound.

  Key definitions include:
    * `usedNames`
    * `Collection.WellFormed`
    * `Collection.draft`

  Key theorems include:
    * `owner?_bodyScope_eq_none_iff`
    * `Collection.layout_eq_ok_iff`
    * `emit_succeeds_iff_wellFormed`
-/

------------------------------------------------------------
-- Names in Use
------------------------------------------------------------

namespace PocketDart

/- The members and the constants that every class has. -/
def fixedNames : List String :=
  ["id", "created", "updated", "Id", "Created", "Updated"]

/- The names that no field can declare. -/
def usedNames
    (settings : Settings)
    (className : String) : List String :=
  fixedNames ++ Dart.modelMembers ++ Dart.builtInTypes ++
    [settings.recordType, className]

def systemClaims
    (fields : List FieldLayout) : List (String × Owner) :=
  fields.flatMap fun field =>
    [(field.member, .systemField field.name),
      (field.constant, .systemField field.name)]

theorem foldl_claim_eq_claimAll
    (fields : List FieldLayout)
    (scope : Names) :
    fields.foldl (fun scope field =>
        let owner := some (Owner.systemField field.name)
        let scope := (scope.claim field.member owner).2
        (scope.claim field.constant owner).2) scope =
      scope.claimAll (systemClaims fields) := by
  induction fields generalizing scope with
  | nil => rfl
  | cons field rest ih =>
      rw [List.foldl_cons, ih]
      rfl

/- The names that every class has anyway. -/
theorem map_systemClaims :
    (systemClaims systemFields).map (·.1) =
      ["id", "Id", "created", "Created", "updated",
        "Updated"] := by
  decide

theorem owner?_bodyScope_eq_none_iff
    (settings : Settings)
    (className name : String) :
    (bodyScope settings className).owner? name = none ↔
      name ∉ usedNames settings className := by
  unfold bodyScope
  rw [foldl_claim_eq_claimAll,
    Scope.owner?_claimAll_eq_none_iff, map_systemClaims,
    Scope.owner?_claim_eq_none_iff,
    Scope.owner?_reserve_eq_none_iff]
  · simp only [usedNames, fixedNames, List.cons_append,
      List.map_cons, List.map_append, List.map_map,
      Function.comp_def, List.map_id', List.mem_append,
      List.mem_cons, List.not_mem_nil, or_false]
    tauto
  · intro entry hEntry
    simp only [List.cons_append, List.mem_cons,
      List.mem_append, List.mem_map] at hEntry
    rcases hEntry with rfl | ⟨_, _, rfl⟩ | ⟨_, _, rfl⟩ <;>
      simp

theorem initialScopes_nested
    (settings : Settings)
    (className : String) :
    (initialScopes settings className).Nested := by
  intro name hBody
  simp only [initialScopes,
    owner?_bodyScope_eq_none_iff] at hBody
  simp only [initialScopes]
  rw [Scope.owner?_reserve_eq_none_iff (by simp)]
  intro hClass
  apply hBody
  simp only [usedNames, List.mem_append]
  right
  simpa using Or.inr hClass

------------------------------------------------------------
-- Well-Formed Collections
------------------------------------------------------------

namespace Collection

def nameText (collection : Collection) : String :=
  match collection.name with
  | .text name => name
  | _ => ""

/- All names that the fields declare in the class body. -/
def declaredNames (collection : Collection) : List String :=
  collection.fields.flatMap Field.declaredNames

def classNameOf
    (settings : Settings)
    (collection : Collection) : String :=
  className settings collection.nameText

/- The collections that have a model. -/
structure WellFormed
    (settings : Settings)
    (collection : Collection) : Prop where
  isText : collection.name = .text collection.nameText
  notEmpty : collection.nameText ≠ ""
  classNamed :
    Dart.nameProblem? (collection.classNameOf settings) =
      none
  fieldsNamed :
    ∀ field ∈ collection.fields, field.WellNamed
  namesDistinct : collection.declaredNames.Nodup
  namesFree :
    ∀ name ∈ collection.declaredNames,
      name ∉ usedNames settings
        (collection.classNameOf settings)
  fieldsValued :
    ∀ field ∈ collection.fields,
      field.isSelect → field.WellValued

/- The layout of a collection, whatever else is declared. -/
def draft
    (settings : Settings)
    (collection : Collection) : Layout :=
  { collection := collection.nameText
    className := collection.classNameOf settings
    fields := collection.fields.map Field.draft }

theorem enums_draft
    (settings : Settings)
    (collection : Collection) :
    (collection.draft settings).enums =
      (collection.fields.filter Field.isSelect).map
        Field.enumDraft := by
  rw [Layout.enums, draft]
  induction collection.fields with
  | nil => rfl
  | cons field rest ih =>
      cases hSelect : field.isSelect with
      | false => simpa [Field.draft, hSelect] using ih
      | true => simpa [Field.draft, hSelect] using ih

------------------------------------------------------------
-- Acceptance
------------------------------------------------------------

/-
  A collection has a layout exactly when it is well-formed,
  and the layout is its draft.
-/
theorem layout_eq_ok_iff
    {settings : Settings}
    {collection : Collection}
    {layout : Layout} :
    collection.layout settings = .ok layout ↔
      collection.WellFormed settings ∧
        layout = collection.draft settings := by
  unfold Collection.layout
  split
  · next name hName =>
      have hText : collection.nameText = name := by
        simp [nameText, hName]
      subst hText
      by_cases hEmpty : collection.nameText = ""
      · simp only [hEmpty, if_true, Fallible.throw_bind,
          reduceCtorEq, false_iff, not_and]
        exact fun h => absurd hEmpty h.notEmpty
      simp only [hEmpty, if_false]
      cases hProblem : Dart.nameProblem?
          (className settings collection.nameText) with
      | some problem =>
          simp only [Fallible.throw_bind, reduceCtorEq,
            false_iff, not_and]
          intro h
          have hNone := h.classNamed
          rw [classNameOf, hProblem] at hNone
          exact absurd hNone (by simp)
      | none =>
          have hBody : ∀ names : List String,
              (initialScopes settings
                (className settings
                  collection.nameText)).body.Fresh names ↔
                names.Nodup ∧ ∀ name ∈ names,
                  name ∉ usedNames settings
                    (className settings
                      collection.nameText) := by
            intro names
            simp only [Scope.Fresh, initialScopes,
              owner?_bodyScope_eq_none_iff]
          simp only [Fallible.bind_eq_ok,
            layoutFields_eq_ok_iff
              (initialScopes_nested settings _),
            Fallible.pure_eq_ok, hBody]
          constructor
          · rintro ⟨_, ⟨hSound, ⟨hDistinct, hFree⟩, rfl⟩,
              rfl⟩
            exact ⟨⟨hName, hEmpty, hProblem,
              fun field hField =>
                (hSound field hField).wellNamed,
              hDistinct, hFree, fun field hField =>
                (hSound field hField).wellValued⟩, rfl⟩
          · rintro ⟨hFormed, rfl⟩
            exact ⟨_, ⟨fun field hField =>
              ⟨hFormed.fieldsNamed field hField,
                hFormed.fieldsValued field hField⟩,
              ⟨hFormed.namesDistinct, hFormed.namesFree⟩,
              rfl⟩, rfl⟩
  · next hNotText =>
      simp only [Fallible.throw_ne_ok, false_iff, not_and]
      exact fun h => absurd h.isText (hNotText _)

end Collection

/-
  A collection has a model exactly when it is well-formed;
  otherwise the answer is why it has none.
-/
theorem emit_succeeds_iff_wellFormed
    (settings : Settings)
    (collection : Collection) :
    ((∃ model, collection.emit settings = .ok model) ↔
        collection.WellFormed settings) ∧
      (¬ collection.WellFormed settings →
        ∃ cause, collection.emit settings =
          .error cause) := by
  have hAccepted :
      (∃ model, collection.emit settings = .ok model) ↔
        collection.WellFormed settings := by
    simp only [Collection.emit, Fallible.map_eq_ok,
      Collection.layout_eq_ok_iff]
    constructor
    · rintro ⟨_, _, ⟨hFormed, _⟩, _⟩
      exact hFormed
    · exact fun hFormed =>
        ⟨_, _, ⟨hFormed, rfl⟩, rfl⟩
  refine ⟨hAccepted, ?_⟩
  intro hNot
  cases hEmit : collection.emit settings with
  | error cause => exact ⟨cause, rfl⟩
  | ok model =>
      exact absurd (hAccepted.mp ⟨model, hEmit⟩) hNot

end PocketDart
