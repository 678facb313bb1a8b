import Mathlib.Data.List.Forall2
import PocketDart.Generation.Emit

/-
  This file proves that the order in which the options of a
  field are listed does not matter. Collections that differ
  in nothing else are the same, and they have the same model
  or the same inconsistency under all settings.

  Key definitions include:
    * `Entries.Same`
    * `Field.Same`
    * `Collection.Same`

  Key theorems include:
    * `Field.Same.layoutField_eq`
    * `layoutFields_eq_of_same`
    * `Collection.Same.emit_eq`
-/

------------------------------------------------------------
-- Entries
------------------------------------------------------------

namespace PocketDart

/- Entries that hold the same values under the same keys. -/
def Entries.Same (entries other : Entries) : Prop :=
  ∀ key, entries.lookup key = other.lookup key

namespace Entries.Same

variable {entries other third : Entries}

theorem symm (hSame : Same entries other) :
    Same other entries :=
  fun key => (hSame key).symm

theorem trans
    (hFirst : Same entries other)
    (hSecond : Same other third) :
    Same entries third :=
  fun key => (hFirst key).trans (hSecond key)

end Entries.Same

------------------------------------------------------------
-- Fields
------------------------------------------------------------

/- Fields that differ in the order of their options only. -/
structure Field.Same (field other : Field) : Prop where
  name : field.name = other.name
  kind : field.kind = other.kind
  required : field.required = other.required
  options : Entries.Same field.options other.options
  tag : field.tag = other.tag

namespace Field.Same

variable {field other third : Field}

theorem symm (hSame : field.Same other) :
    other.Same field :=
  ⟨hSame.name.symm, hSame.kind.symm, hSame.required.symm,
    hSame.options.symm, hSame.tag.symm⟩

theorem trans
    (hFirst : field.Same other)
    (hSecond : other.Same third) :
    field.Same third :=
  ⟨hFirst.name.trans hSecond.name,
    hFirst.kind.trans hSecond.kind,
    hFirst.required.trans hSecond.required,
    hFirst.options.trans hSecond.options,
    hFirst.tag.trans hSecond.tag⟩

/- Of the options only the declared values are looked up. -/
theorem checkValues_eq (hSame : field.Same other) :
    checkValues field = checkValues other := by
  rw [checkValues, hSame.options "values", checkValues]

theorem layoutEnum_eq
    (hSame : field.Same other)
    (scopes : Scopes)
    (name : String) :
    layoutEnum scopes field name =
      layoutEnum scopes other name := by
  rw [layoutEnum, hSame.checkValues_eq, layoutEnum]

/- Such fields are laid out in the same way. -/
theorem layoutField_eq
    (hSame : field.Same other)
    (scopes : Scopes) :
    layoutField scopes field = layoutField scopes other := by
  have hRequired : field.isRequired = other.isRequired := by
    rw [Field.isRequired, hSame.required, Field.isRequired]
  have hSelect : field.isSelect = other.isSelect := by
    rw [Field.isSelect, Field.isSelect, hSame.kind]
  have hNamed : ∀ name,
      layoutNamedField scopes field name =
        layoutNamedField scopes other name := by
    intro name
    simp only [layoutNamedField, hRequired, hSelect,
      hSame.kind, hSame.layoutEnum_eq]
  rw [layoutField, layoutField, hSame.name]
  split
  · rw [hNamed]
  · rfl

end Field.Same

theorem forall₂_same_trans
    {fields others thirds : List Field}
    (hFirst : List.Forall₂ Field.Same fields others)
    (hSecond : List.Forall₂ Field.Same others thirds) :
    List.Forall₂ Field.Same fields thirds := by
  induction hFirst generalizing thirds with
  | nil => exact hSecond
  | cons hSame hRest ih =>
      cases hSecond with
      | cons hNext hMore =>
          exact .cons (hSame.trans hNext) (ih hMore)

theorem layoutFields_eq_of_same
    {fields others : List Field}
    (hSame : List.Forall₂ Field.Same fields others)
    (collection : Value)
    (scopes : Scopes) :
    layoutFields collection scopes fields =
      layoutFields collection scopes others := by
  induction hSame generalizing scopes with
  | nil => rfl
  | cons hFirst hRest ih =>
      simp only [layoutFields, hFirst.layoutField_eq,
        hFirst.name, ih]

------------------------------------------------------------
-- Collections
------------------------------------------------------------

/- Collections that differ in the order of options only. -/
structure Collection.Same
    (collection other : Collection) : Prop where
  name : collection.name = other.name
  fields :
    List.Forall₂ Field.Same collection.fields other.fields
  id : collection.id = other.id
  kind : collection.kind = other.kind
  system : collection.system = other.system

namespace Collection.Same

variable {collection other third : Collection}

theorem symm (hSame : collection.Same other) :
    other.Same collection :=
  ⟨hSame.name.symm,
    (hSame.fields.imp fun _ _ => Field.Same.symm).flip,
    hSame.id.symm, hSame.kind.symm, hSame.system.symm⟩

theorem trans
    (hFirst : collection.Same other)
    (hSecond : other.Same third) :
    collection.Same third :=
  ⟨hFirst.name.trans hSecond.name,
    forall₂_same_trans hFirst.fields hSecond.fields,
    hFirst.id.trans hSecond.id,
    hFirst.kind.trans hSecond.kind,
    hFirst.system.trans hSecond.system⟩

theorem layout_eq
    (hSame : collection.Same other)
    (settings : Settings) :
    collection.layout settings = other.layout settings := by
  rw [Collection.layout, Collection.layout, hSame.name]
  split
  · simp only [layoutFields_eq_of_same hSame.fields]
  · rfl

theorem emit_eq
    (hSame : collection.Same other)
    (settings : Settings) :
    collection.emit settings = other.emit settings := by
  rw [Collection.emit, hSame.layout_eq, Collection.emit]

end Collection.Same

end PocketDart
