import Mathlib.Logic.ExistsUnique
import PocketDart.Proofs.Model.Acceptance

/-
  This file proves that the error about a collection blames
  the first field at fault. The fields before it have a
  model, and those behind it change nothing: fields are laid
  out one after the other, and the first that has no layout
  ends the whole run.

  Key definitions include:
    * `Collection.IsNamed`
    * `Collection.FailsAt`

  Key theorems include:
    * `exists_faulty_of_layoutFields`
    * `Collection.FailsAt.unique`
    * `emit_blames_first_faulty_field`
-/

------------------------------------------------------------
-- Runs over Fields
------------------------------------------------------------

namespace PocketDart

section

variable {collection : Value}
variable {scopes next : Scopes}
variable {field : Field}
variable {fields : List Field}

theorem layoutFields_cons_of_error
    {cause : Cause}
    (hField : layoutField scopes field = .error cause)
    (rest : List Field) :
    layoutFields collection scopes (field :: rest) =
      .error ⟨collection, field.name, cause⟩ := by
  rw [layoutFields, hField]
  rfl

theorem layoutFields_cons_of_ok
    {layout : FieldLayout}
    (hField : layoutField scopes field = .ok (layout, next))
    (rest : List Field) :
    layoutFields collection scopes (field :: rest) =
      (layoutFields collection next rest).map
        (layout :: ·) := by
  rw [layoutFields, hField]
  change (layoutFields collection next rest >>= fun more =>
    pure (layout :: more)) = _
  cases layoutFields collection next rest with
  | error error => rfl
  | ok layouts => rfl

/-
  An error comes from a field that ends the run. What is
  before it has a layout, and what is behind it is not
  looked at, so that it can be anything.
-/
theorem exists_faulty_of_layoutFields
    {error : Inconsistency}
    (hError :
      layoutFields collection scopes fields = .error error) :
    ∃ before field after,
      fields = before ++ field :: after ∧
        (∃ layouts,
          layoutFields collection scopes before =
            .ok layouts) ∧
        error.collection = collection ∧
        error.field = field.name ∧
        ∀ others,
          layoutFields collection scopes
              (before ++ field :: others) =
            .error error := by
  induction fields generalizing scopes with
  | nil => cases hError
  | cons field rest ih =>
      cases hField : layoutField scopes field with
      | error cause =>
          rw [layoutFields_cons_of_error hField] at hError
          cases hError
          exact ⟨[], field, rest, rfl, ⟨[], rfl⟩, rfl, rfl,
            layoutFields_cons_of_error hField⟩
      | ok laidOut =>
          rcases laidOut with ⟨layout, next⟩
          rw [layoutFields_cons_of_ok hField] at hError
          have hRest :
              layoutFields collection next rest =
                .error error := by
            cases hMore :
                layoutFields collection next rest with
            | error other =>
                rw [hMore] at hError
                cases hError
                rfl
            | ok layouts =>
                rw [hMore] at hError
                cases hError
          rcases ih hRest with
            ⟨before, faulty, after, rfl, ⟨layouts, hBefore⟩,
              hCollection, hName, hOthers⟩
          refine ⟨field :: before, faulty, after, rfl,
            ⟨layout :: layouts, ?_⟩, hCollection, hName,
            fun others => ?_⟩
          · rw [layoutFields_cons_of_ok hField, hBefore]
            rfl
          · rw [List.cons_append,
              layoutFields_cons_of_ok hField,
              hOthers others]
            rfl

theorem layoutFields_append_of_error
    {error : Inconsistency}
    (hError :
      layoutFields collection scopes fields = .error error)
    (others : List Field) :
    layoutFields collection scopes (fields ++ others) =
      .error error := by
  rcases exists_faulty_of_layoutFields hError with
    ⟨before, field, after, rfl, _, _, _, hOthers⟩
  rw [List.append_assoc, List.cons_append]
  exact hOthers (after ++ others)

end

------------------------------------------------------------
-- Cut Collections
------------------------------------------------------------

namespace Collection

def withFields
    (collection : Collection)
    (fields : List Field) : Collection :=
  { collection with fields }

def cut
    (collection : Collection)
    (count : Nat) : Collection :=
  collection.withFields (collection.fields.take count)

/-
  A name that is a text and gives a class name, whatever the
  fields are.
-/
structure IsNamed
    (settings : Settings)
    (collection : Collection) : Prop where
  isText : collection.name = .text collection.nameText
  notEmpty : collection.nameText ≠ ""
  classNamed :
    Dart.nameProblem? (collection.classNameOf settings) =
      none

/-
  The place of a field at fault: the fields before it have a
  model, and together with it they have none.
-/
structure FailsAt
    (settings : Settings)
    (collection : Collection)
    (place : Nat) : Prop where
  before :
    ∃ model, (collection.cut place).emit settings =
      .ok model
  through :
    ∃ error, (collection.cut (place + 1)).emit settings =
      .error error

variable {settings : Settings}
variable {collection : Collection}
variable {error : Inconsistency}

theorem IsNamed.emit_eq
    (hNamed : collection.IsNamed settings)
    (fields : List Field) :
    (collection.withFields fields).emit settings =
      (layoutFields collection.name
        (initialScopes settings
          (collection.classNameOf settings)) fields).map
        fun layouts =>
          Layout.model settings ⟨collection.nameText,
            collection.classNameOf settings, layouts⟩ := by
  have hName : (collection.withFields fields).name =
      .text collection.nameText := hNamed.isText
  have hClass : Dart.nameProblem?
      (className settings collection.nameText) = none :=
    hNamed.classNamed
  simp only [emit, layout, hName, hNamed.notEmpty, hClass,
    if_false]
  rw [hNamed.isText]
  change Except.map _
    (layoutFields _ _ fields >>= fun layouts =>
      pure (Layout.mk _ _ layouts)) = _
  rw [classNameOf]
  cases layoutFields (.text collection.nameText)
      (initialScopes settings
        (className settings collection.nameText))
      fields with
  | error error => rfl
  | ok layouts => rfl

/- More fields do not undo an error about some of them. -/
theorem IsNamed.emit_append_of_error
    (hNamed : collection.IsNamed settings)
    {fields : List Field}
    (hError :
      (collection.withFields fields).emit settings =
        .error error)
    (others : List Field) :
    (collection.withFields (fields ++ others)).emit
        settings = .error error := by
  rw [hNamed.emit_eq, Fallible.map_eq_error] at hError ⊢
  exact layoutFields_append_of_error hError others

/- No more than one place is at fault. -/
theorem FailsAt.unique
    (hNamed : collection.IsNamed settings)
    {place other : Nat}
    (hPlace : collection.FailsAt settings place)
    (hOther : collection.FailsAt settings other) :
    place = other := by
  -- A cut that fails would go on to fail at every later one.
  have hOrder : ∀ {place other : Nat},
      collection.FailsAt settings place →
      collection.FailsAt settings other →
        ¬ place < other := by
    intro place other hPlace hOther hLess
    rcases hPlace.through with ⟨error, hError⟩
    rcases hOther.before with ⟨model, hModel⟩
    obtain ⟨more, rfl⟩ := Nat.exists_eq_add_of_le hLess
    have hLater := hNamed.emit_append_of_error hError
      ((collection.fields.drop (place + 1)).take more)
    rw [← List.take_add] at hLater
    rw [cut, hLater] at hModel
    cases hModel
  rcases Nat.lt_trichotomy place other with
    hLess | hEq | hMore
  · exact absurd hLess (hOrder hPlace hOther)
  · exact hEq
  · exact absurd hMore (hOrder hOther hPlace)

end Collection

/-
  The error about a collection with a sound name comes from
  the one field up to which there is a model and with which
  there is none any more. It names the collection and that
  field, and it is the same error if the collection ends
  with that field or goes on with any others.
-/
theorem emit_blames_first_faulty_field
    {settings : Settings}
    {collection : Collection}
    (hNamed : collection.IsNamed settings)
    {error : Inconsistency}
    (hEmit : collection.emit settings = .error error) :
    (∃! place, collection.FailsAt settings place) ∧
      ∀ place, collection.FailsAt settings place →
        ∃ field, collection.fields[place]? = some field ∧
          error.collection = collection.name ∧
          error.field = field.name ∧
          (collection.cut (place + 1)).emit settings =
            .error error ∧
          ∀ others,
            (collection.withFields
              (collection.fields.take (place + 1) ++
                others)).emit settings = .error error := by
  have hFields := hNamed.emit_eq collection.fields
  rw [show collection.withFields collection.fields =
      collection from rfl, hEmit] at hFields
  rcases exists_faulty_of_layoutFields
      (Fallible.map_eq_error.mp hFields.symm) with
    ⟨before, field, after, hSplit, ⟨layouts, hBefore⟩,
      hCollection, hField, hOthers⟩
  have hOpen : collection.fields.take before.length =
      before := by
    rw [hSplit, List.take_left]
  have hThrough :
      collection.fields.take (before.length + 1) =
        before ++ [field] := by
    rw [hSplit, List.take_length_add_append,
      List.take_succ_cons, List.take_zero]
  have hAll : ∀ others,
      (collection.withFields
        (collection.fields.take (before.length + 1) ++
          others)).emit settings = .error error := by
    intro others
    rw [hNamed.emit_eq, hThrough, List.append_assoc,
      Fallible.map_eq_error]
    exact hOthers others
  have hCut :
      (collection.cut (before.length + 1)).emit settings =
        .error error := by
    have hNone := hAll []
    rwa [List.append_nil] at hNone
  have hFails :
      collection.FailsAt settings before.length := by
    refine ⟨?_, error, hCut⟩
    rw [Collection.cut, hNamed.emit_eq, hOpen, hBefore]
    exact ⟨_, rfl⟩
  refine ⟨⟨before.length, hFails, fun other hOther =>
    Collection.FailsAt.unique hNamed hOther hFails⟩, ?_⟩
  intro place hPlace
  rcases Collection.FailsAt.unique hNamed hPlace hFails with
    rfl
  refine ⟨field, ?_, hCollection, hField, hCut, hAll⟩
  rw [hSplit, List.getElem?_append_right (Nat.le_refl _),
    Nat.sub_self]
  rfl

/- Posts with a title, a status and the title once more. -/
def postsOf (statuses : List String) : Collection :=
  let title : Field :=
    { name := .text "title", kind := .text
      required := .bool true, options := []
      tag := .text "text" }
  let status : Field :=
    { name := .text "status", kind := .select
      required := .bool true
      options := [("values", .list (statuses.map .text))]
      tag := .text "select" }
  { name := .text "posts"
    fields := [title, status, title]
    id := .null, kind := .text "base", system := false }

/-
  A status that is declared twice is blamed, and not the
  title behind it, which is taken.
-/
theorem repeated_status_is_blamed :
    (postsOf ["open", "open"]).IsNamed {} ∧
      (postsOf ["open", "open"]).FailsAt {} 1 ∧
      (∃! place,
        (postsOf ["open", "open"]).FailsAt {} place) ∧
      ((postsOf ["open", "open"]).cut 2).emit {} =
        .error ⟨.text "posts", .text "status",
          .repeatedValue "open"⟩ := by
  have hNamed : (postsOf ["open", "open"]).IsNamed {} :=
    ⟨rfl, by decide, by decide⟩
  have hEmit : (postsOf ["open", "open"]).emit {} =
      .error ⟨.text "posts", .text "status",
        .repeatedValue "open"⟩ := by
    rfl
  have hFails : (postsOf ["open", "open"]).FailsAt {} 1 :=
    ⟨⟨_, rfl⟩, ⟨_, rfl⟩⟩
  rcases emit_blames_first_faulty_field hNamed hEmit with
    ⟨hUnique, hBlame⟩
  rcases hBlame 1 hFails with ⟨_, _, _, _, hCut, _⟩
  exact ⟨hNamed, hFails, hUnique, hCut⟩

end PocketDart
