import Mathlib.Data.List.FinRange
import Mathlib.Data.List.Nodup
import PocketDart.Proofs.Model.Acceptance

/-
  This file proves that the order of the fields only orders
  what is generated for them. Whether a collection has a
  model depends on its names as a whole, and the layout of a
  field on the field alone, although the names are claimed
  one after the other.

  Key definitions include:
    * `Collection.reorder`

  Key theorems include:
    * `Collection.WellFormed.of_perm`
    * `Collection.fields_reorder_perm`
    * `reordered_fields_keep_layouts`
-/

------------------------------------------------------------
-- Orders of Fields
------------------------------------------------------------

namespace PocketDart

namespace Collection

variable {settings : Settings}
variable {collection : Collection}

/-
  The same fields in another order: at each place stands the
  field of the place that the order tells.
-/
def reorder
    (collection : Collection)
    (order : Equiv.Perm (Fin collection.fields.length)) :
    Collection :=
  { collection with
    fields := .ofFn fun place =>
      collection.fields[order place] }

/- The fields are the same ones. -/
theorem fields_reorder_perm
    (collection : Collection)
    (order : Equiv.Perm (Fin collection.fields.length)) :
    (collection.reorder order).fields.Perm
      collection.fields := by
  have hPerm := order.ofFn_comp_perm collection.fields.get
  rwa [List.ofFn_get] at hPerm

/- What is well-formed depends on no order. -/
theorem WellFormed.of_perm
    (hFormed : collection.WellFormed settings)
    {other : Collection}
    (hName : other.name = collection.name)
    (hPerm : other.fields.Perm collection.fields) :
    other.WellFormed settings := by
  have hText : other.nameText = collection.nameText := by
    rw [nameText, hName, nameText]
  have hClass : other.classNameOf settings =
      collection.classNameOf settings := by
    rw [classNameOf, hText, classNameOf]
  have hNames :
      other.declaredNames.Perm collection.declaredNames :=
    hPerm.flatMap_right Field.declaredNames
  exact
    { isText := by rw [hName, hText, ← hFormed.isText]
      notEmpty := by
        rw [hText]
        exact hFormed.notEmpty
      classNamed := by
        rw [hClass]
        exact hFormed.classNamed
      fieldsNamed := fun field hField =>
        hFormed.fieldsNamed field (hPerm.mem_iff.mp hField)
      namesDistinct :=
        hNames.nodup_iff.mpr hFormed.namesDistinct
      namesFree := fun name hMem => by
        rw [hClass]
        exact hFormed.namesFree name
          (hNames.mem_iff.mp hMem)
      fieldsValued := fun field hField =>
        hFormed.fieldsValued field
          (hPerm.mem_iff.mp hField) }

theorem fields_draft_reorder
    (settings : Settings)
    (collection : Collection)
    (order : Equiv.Perm (Fin collection.fields.length)) :
    ((collection.reorder order).draft settings).fields =
      (List.finRange _).map fun place =>
        collection.fields[order place].draft := by
  have hFields :
      ((collection.reorder order).draft settings).fields =
        (List.ofFn fun place =>
          collection.fields[order place]).map
            Field.draft := rfl
  rw [hFields, List.ofFn_eq_map, List.map_map]
  rfl

end Collection

/-
  With its fields in another order an accepted collection is
  accepted too, and its class has the same name. Every field
  has the layout that it had, at its new place behind the
  fields of every record, and the enums follow the select
  fields.
-/
theorem reordered_fields_keep_layouts
    {settings : Settings}
    {collection : Collection}
    {model : GeneratedModel}
    (hEmit : collection.emit settings = .ok model)
    (order : Equiv.Perm (Fin collection.fields.length)) :
    ∃ layout reordered : Layout,
      collection.layout settings = .ok layout ∧
      (collection.reorder order).layout settings =
        .ok reordered ∧
      (collection.reorder order).emit settings =
        .ok (reordered.model settings) ∧
      reordered.collection = layout.collection ∧
      reordered.className = layout.className ∧
      reordered.fields.length = collection.fields.length ∧
      (∀ place, ∃ entry,
        layout.fields[order place]? = some entry ∧
        reordered.fields[place]? = some entry ∧
        (entry.enum?.isSome ↔
          collection.fields[order place].isSelect)) ∧
      (∃ fixed, fixed.map (·.name) = systemFieldNames ∧
        layout.allFields = fixed ++ layout.fields ∧
        reordered.allFields = fixed ++ reordered.fields) ∧
      reordered.enums =
        (List.finRange collection.fields.length).filterMap
          fun place =>
            layout.fields[order place]?.bind (·.enum?) := by
  rcases Fallible.map_eq_ok.mp hEmit with
    ⟨layout, hLayout, _⟩
  rcases Collection.layout_eq_ok_iff.mp hLayout with
    ⟨hFormed, rfl⟩
  have hReordered :
      (collection.reorder order).layout settings =
        .ok ((collection.reorder order).draft settings) :=
    Collection.layout_eq_ok_iff.mpr
      ⟨hFormed.of_perm rfl
        (collection.fields_reorder_perm order), rfl⟩
  have hOld : ∀ place,
      (collection.draft settings).fields[order place]? =
        some collection.fields[order place].draft := by
    intro place
    simp [Collection.draft]
  have hNew := collection.fields_draft_reorder settings order
  refine ⟨_, _, hLayout, hReordered, ?_, rfl, rfl, ?_, ?_,
    ⟨systemFields, by decide, rfl, rfl⟩, ?_⟩
  · rw [Collection.emit, hReordered]
    rfl
  · rw [hNew, List.length_map, List.length_finRange]
  · intro place
    refine ⟨_, hOld place, ?_, ?_⟩
    · rw [hNew]
      simp
    · simp [Field.draft]
  · rw [Layout.enums, hNew, List.filterMap_map]
    congr 1
    funext place
    rw [hOld place]
    rfl

/- Articles with a title, a status and a channel. -/
def articles : Collection :=
  let choice (name : String) (values : List String) : Field :=
    { name := .text name, kind := .select
      required := .bool true
      options := [("values", .list (values.map .text))]
      tag := .text "select" }
  { name := .text "articles"
    fields := [
      { name := .text "title", kind := .text
        required := .bool true, options := []
        tag := .text "text" },
      choice "status" ["open", "closed"],
      choice "channel" ["web", "print"]]
    id := .null, kind := .text "base", system := false }

/- The title and the channel in each other's place. -/
def channelFirst :
    Equiv.Perm (Fin articles.fields.length) :=
  (Equiv.swap 0 2 : Equiv.Perm (Fin 3))

/- The channel in front brings its enum to the front. -/
theorem channel_first_keeps_layouts :
    ∃ model layout reordered,
      articles.emit {} = .ok model ∧
      articles.layout {} = .ok layout ∧
      (articles.reorder channelFirst).layout {} =
        .ok reordered ∧
      reordered.fields[0]? = layout.fields[2]? ∧
      layout.enums.map (·.typeName) =
        ["StatusEnum", "ChannelEnum"] ∧
      reordered.enums.map (·.typeName) =
        ["ChannelEnum", "StatusEnum"] := by
  have hEmit : articles.emit {} =
      .ok ((articles.draft {}).model {}) := by
    rfl
  rcases reordered_fields_keep_layouts hEmit
      channelFirst with
    ⟨layout, reordered, hLayout, hReordered, _, _, _, _,
      hFields, _, hEnums⟩
  have hDraft : articles.layout {} =
      .ok (articles.draft {}) := by
    rfl
  obtain rfl : articles.draft {} = layout := by
    rw [hDraft] at hLayout
    exact Except.ok.inj hLayout
  refine ⟨_, _, reordered, hEmit, hLayout, hReordered,
    ?_, ?_, ?_⟩
  · rcases hFields (0 : Fin 3) with ⟨entry, hOld, hNew, _⟩
    exact hNew.trans hOld.symm
  · decide
  · rw [hEnums]
    decide

end PocketDart
