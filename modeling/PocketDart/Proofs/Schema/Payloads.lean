import PocketDart.Machine
import PocketDart.Proofs.Generation.ByName
import PocketDart.Proofs.Schema.Misuses
import PocketDart.Proofs.Schema.Sameness

/-
  This file proves that the payloads of older and of newer
  servers mean the same. An older server keeps the settings
  of a field under its options and lists the fields of the
  user only; a newer one puts the settings beside the name
  of the field and lists fields of the system among those
  of the user. Keys may stand in any order in a payload. A
  tag that is nested too deep to be shown keeps both of
  them from being read.

  Key definitions include:
    * `FieldDescription`
    * `FieldDescription.IsShown`
    * `FieldDescription.IsReadFrom`
    * `FieldDescription.IsOlder`
    * `FieldDescription.IsNewer`
    * `IsSkipped`
    * `Listed`
    * `CollectionDescription`

  Key theorems include:
    * `lookup_foldl_addSetting`
    * `FieldDescription.IsOlder.isReadFrom`
    * `FieldDescription.IsNewer.isReadFrom`
    * `Listed.userFields`
    * `readings_of_both_payloads_agree`
-/

------------------------------------------------------------
-- Descriptions
------------------------------------------------------------

namespace PocketDart

/-
  What a payload says of a field: any values whatever, with
  a name that is none of the system and with settings under
  some of the keys for settings.
-/
structure FieldDescription where
  name : Value
  tag : Value
  required : Value
  settings : Entries
  nameOfUser : ∀ text ∈ systemFieldNames, name ≠ .text text
  settingsKnown :
    ∀ key, settings.lookup key ≠ none → key ∈ Field.settings

/- What a payload says of a collection. -/
structure CollectionDescription where
  name : Value
  id : Value
  kind : Value
  system : Value
  fields : List FieldDescription

def FieldDescription.field
    (description : FieldDescription) : Field :=
  .ofKind description.name (.ofTag description.tag)
    (.bool description.required.truthy)
    description.settings description.tag

def FieldDescription.IsShown
    (levels : Nat)
    (description : FieldDescription) : Prop :=
  description.tag.showFault? levels ≠ some .tooDeep

def CollectionDescription.collection
    (description : CollectionDescription) : Collection :=
  { name := description.name
    fields := description.fields.map FieldDescription.field
    id := description.id
    kind := description.kind
    system := description.system.truthy }

def CollectionDescription.IsShown
    (levels : Nat)
    (description : CollectionDescription) : Prop :=
  ∀ field ∈ description.fields, field.IsShown levels

------------------------------------------------------------
-- Payloads
------------------------------------------------------------

namespace FieldDescription

/- What both payloads of a field hold. -/
structure IsNamedIn
    (description : FieldDescription)
    (payload : Entries) : Prop where
  name : payload.lookup "name" = some description.name
  tag : payload.lookup "type" = some description.tag
  required :
    payload.lookup "required" = some description.required

/- An older payload of a field: settings are options. -/
structure IsOlder
    (description : FieldDescription)
    (payload : Entries) : Prop
    extends description.IsNamedIn payload where
  options :
    ∃ options,
      payload.lookup "options" = some (.object options) ∧
        Entries.Same options description.settings
  noSettings :
    ∀ key ∈ Field.settings, payload.lookup key = none

/- A newer payload of a field: settings stand beside it. -/
structure IsNewer
    (description : FieldDescription)
    (payload : Entries) : Prop
    extends description.IsNamedIn payload where
  settings :
    ∀ key ∈ Field.settings,
      payload.lookup key = description.settings.lookup key
  noOptions : payload.lookup "options" = none
  shown :
    (payload.lookup "hidden").any Value.truthy = false

end FieldDescription

/- A listed field that is hidden or one of the system. -/
def IsSkipped (payload : Entries) : Prop :=
  (∃ text ∈ systemFieldNames,
      payload.lookup "name" = some (.text text)) ∨
    (payload.lookup "hidden").any Value.truthy

/-
  A list of newer payloads, in which fields that are skipped
  stand at any places among those that are described.
-/
inductive Listed :
    List FieldDescription → List Value → Prop
  | nil : Listed [] []
  | field
      {description : FieldDescription}
      {payload : Entries}
      {descriptions : List FieldDescription}
      {items : List Value} :
      description.IsNewer payload →
      Listed descriptions items →
      Listed (description :: descriptions)
        (.object payload :: items)
  | skipped
      {payload : Entries}
      {descriptions : List FieldDescription}
      {items : List Value} :
      IsSkipped payload →
      Listed descriptions items →
      Listed descriptions (.object payload :: items)

namespace CollectionDescription

/- What both payloads of a collection hold. -/
structure IsNamedIn
    (description : CollectionDescription)
    (payload : Entries) : Prop where
  name : payload.lookup "name" = some description.name
  id : payload.lookup "id" = some description.id
  kind : payload.lookup "type" = some description.kind
  system :
    payload.lookup "system" = some description.system

/- An older payload of a collection. -/
structure IsOlder
    (description : CollectionDescription)
    (payload : Entries) : Prop
    extends description.IsNamedIn payload where
  fields :
    ∃ items, payload.lookup "schema" = some (.list items) ∧
      List.Forall₂
        (fun (field : FieldDescription) item =>
          ∃ entries, item = .object entries ∧
            field.IsOlder entries)
        description.fields items

/- A newer payload of a collection. -/
structure IsNewer
    (description : CollectionDescription)
    (payload : Entries) : Prop
    extends description.IsNamedIn payload where
  fields :
    ∃ items, payload.lookup "fields" = some (.list items) ∧
      Listed description.fields items
  noSchema : payload.lookup "schema" = none

end CollectionDescription

------------------------------------------------------------
-- Options
------------------------------------------------------------

namespace Field

theorem lookup_addSetting
    (data options : Entries)
    (setting key : String) :
    (addSetting data options setting).lookup key =
      (options.lookup key).or
        (if key = setting then data.lookup key else none) := by
  unfold addSetting
  by_cases hKey : key = setting
  · subst hKey
    cases hData : data.lookup key with
    | none => simp
    | some value =>
        cases hOption : options.lookup key with
        | some old => simp [Entries.hasKey, hOption]
        | none =>
            simp [Entries.hasKey, hOption,
              Entries.lookup_insert_self]
  · rw [if_neg hKey, Option.or_none]
    split
    · split
      · rfl
      · exact Entries.lookup_insert_ne hKey _ _
    · rfl

theorem lookup_foldl_addSetting
    (data : Entries)
    (keys : List String)
    (options : Entries)
    (key : String) :
    (keys.foldl (addSetting data) options).lookup key =
      (options.lookup key).or
        (if key ∈ keys then data.lookup key else none) := by
  induction keys generalizing options with
  | nil => simp
  | cons setting rest ih =>
      rw [List.foldl_cons, ih, lookup_addSetting,
        Option.or_assoc]
      congr 1
      by_cases hFirst : key = setting
      · subst hFirst
        cases hData : data.lookup key with
        | none => simp
        | some value => simp
      · simp [hFirst]

@[simp]
theorem readOptions_object (options : Entries) :
    readOptions (some (.object options)) = .ok options := by
  cases options with
  | nil => rfl
  | cons entry rest => rfl

/- Without options there is nothing to take. -/
theorem readOptions_none : readOptions none = .ok [] := rfl

end Field

------------------------------------------------------------
-- Fields
------------------------------------------------------------

namespace FieldDescription

variable {levels : Nat}
variable {description : FieldDescription}
variable {payload : Entries}

/-
  What comes of reading an item is the field of the
  description, as far as its tag is shown.
-/
structure IsReadFrom
    (levels : Nat)
    (description : FieldDescription)
    (item : Value) : Prop where
  shown : description.IsShown levels →
    ∃ field, Field.read levels item = .ok field ∧
      field.Same description.field
  tooDeep : ¬ description.IsShown levels →
    Field.read levels item = .error .tooDeep

/-
  A payload is read as the field that it describes, when its
  options and what stands beside them give the settings.
-/
theorem IsNamedIn.isReadFrom
    (hNamed : description.IsNamedIn payload)
    {options : Entries}
    (hOptions :
      Field.readOptions (payload.lookup "options") =
        .ok options)
    (hSettings :
      Entries.Same
        (Field.settings.foldl (Field.addSetting payload)
          options)
        description.settings) :
    description.IsReadFrom levels (.object payload) where
  shown := by
    intro hShown
    have hKind : FieldKind.read levels description.tag =
        .ok (.ofTag description.tag) := if_neg hShown
    refine ⟨.ofKind description.name (.ofTag description.tag)
      (.bool description.required.truthy)
      (Field.settings.foldl (Field.addSetting payload)
        options)
      description.tag, ?_, rfl, rfl, rfl, hSettings, rfl⟩
    simp only [Field.read, Value.entries, Value.require,
      hOptions, hNamed.name, hNamed.tag, hNamed.required,
      Option.getD_some, hKind, Fallible.ok_bind]
    rfl
  tooDeep := by
    intro hShown
    refine Field.read_eq_tooDeep_iff.mpr
      ⟨payload, options, description.name, rfl, hOptions,
        hNamed.name, ?_⟩
    rw [hNamed.tag]
    exact not_not.mp hShown

theorem IsOlder.isReadFrom
    (hOlder : description.IsOlder payload) :
    description.IsReadFrom levels (.object payload) := by
  rcases hOlder.options with ⟨options, hOptions, hSame⟩
  apply hOlder.toIsNamedIn.isReadFrom
  · rw [hOptions]
    exact Field.readOptions_object options
  · intro key
    rw [Field.lookup_foldl_addSetting, ← hSame key]
    split
    · next hKey =>
        rw [hOlder.noSettings key hKey, Option.or_none]
    · rw [Option.or_none]

theorem IsNewer.isReadFrom
    (hNewer : description.IsNewer payload) :
    description.IsReadFrom levels (.object payload) := by
  apply hNewer.toIsNamedIn.isReadFrom
  · rw [hNewer.noOptions]
    exact Field.readOptions_none
  · intro key
    rw [Field.lookup_foldl_addSetting]
    by_cases hKey : key ∈ Field.settings
    · rw [if_pos hKey, hNewer.settings key hKey]
      rfl
    · rw [if_neg hKey]
      by_contra hSome
      exact hKey (description.settingsKnown key
        (Ne.symm hSome))

theorem exists_fields_of_isShown
    {descriptions : List FieldDescription}
    {items : List Value}
    (hItems :
      List.Forall₂ (IsReadFrom levels) descriptions items)
    (hShown : ∀ description ∈ descriptions,
      description.IsShown levels) :
    ∃ fields, items.mapM (Field.read levels) = .ok fields ∧
      List.Forall₂ Field.Same fields
        (descriptions.map field) := by
  induction hItems with
  | nil => exact ⟨[], rfl, .nil⟩
  | cons hFirst hRest ih =>
      rcases List.forall_mem_cons.mp hShown with
        ⟨hFirstShown, hRestShown⟩
      rcases hFirst.shown hFirstShown with
        ⟨first, hRead, hSame⟩
      rcases ih hRestShown with ⟨fields, hReads, hSames⟩
      refine ⟨first :: fields, ?_, .cons hSame hSames⟩
      rw [List.mapM_cons, hRead, hReads]
      rfl

theorem mapM_read_eq_tooDeep
    {descriptions : List FieldDescription}
    {items : List Value}
    (hItems :
      List.Forall₂ (IsReadFrom levels) descriptions items)
    (hShown : ¬ ∀ description ∈ descriptions,
      description.IsShown levels) :
    items.mapM (Field.read levels) = .error .tooDeep := by
  induction hItems with
  | nil => exact absurd (by simp) hShown
  | @cons description _ _ _ hFirst hRest ih =>
      rw [List.mapM_cons]
      by_cases hFirstShown : description.IsShown levels
      · have hRestShown := fun hAll => hShown
          (List.forall_mem_cons.mpr ⟨hFirstShown, hAll⟩)
        rcases hFirst.shown hFirstShown with
          ⟨first, hRead, _⟩
        rw [hRead, ih hRestShown]
        rfl
      · rw [hFirst.tooDeep hFirstShown]
        rfl

end FieldDescription

------------------------------------------------------------
-- Fields of the User
------------------------------------------------------------

theorem FieldDescription.IsNewer.isUserField
    {description : FieldDescription}
    {payload : Entries}
    (hNewer : description.IsNewer payload) :
    Collection.isUserField (.object payload) = .ok true := by
  have hName :
      systemFieldNames.any description.name.equalsText =
        false := by
    rw [List.any_eq_false]
    intro text hText hEquals
    exact description.nameOfUser text hText
      ((Value.equals_text_iff _ _).mp hEquals)
  simp only [Collection.isUserField, Value.entries,
    hNewer.name, hNewer.shown, Option.getD_some, hName,
    Fallible.ok_bind]
  rfl

theorem IsSkipped.isUserField
    {payload : Entries}
    (hSkipped : IsSkipped payload) :
    Collection.isUserField (.object payload) = .ok false := by
  simp only [Collection.isUserField, Value.entries,
    Fallible.ok_bind]
  rcases hSkipped with ⟨text, hText, hName⟩ | hHidden
  · have hSystem :
        systemFieldNames.any (Value.text text).equalsText := by
      rw [List.any_eq_true]
      refine ⟨text, hText, ?_⟩
      exact (Value.equals_text_iff _ _).mpr rfl
    rw [hName, Option.getD_some, hSystem]
    rfl
  · rw [hHidden, Bool.not_true, Bool.and_false]
    rfl

theorem Listed.userFields
    {descriptions : List FieldDescription}
    {items : List Value}
    (hListed : Listed descriptions items) :
    ∃ kept, Collection.userFields items = .ok kept ∧
      List.Forall₂
        (fun (description : FieldDescription) item =>
          ∃ payload, item = .object payload ∧
            description.IsNewer payload)
        descriptions kept := by
  induction hListed with
  | nil => exact ⟨[], rfl, .nil⟩
  | @field _ payload _ _ hNewer _ ih =>
      rcases ih with ⟨kept, hKept, hAll⟩
      refine ⟨.object payload :: kept, ?_,
        .cons ⟨payload, rfl, hNewer⟩ hAll⟩
      rw [Collection.userFields, hNewer.isUserField, hKept]
      rfl
  | skipped hSkipped _ ih =>
      rcases ih with ⟨kept, hKept, hAll⟩
      refine ⟨kept, ?_, hAll⟩
      rw [Collection.userFields, hSkipped.isUserField, hKept]
      rfl

------------------------------------------------------------
-- Collections
------------------------------------------------------------

namespace CollectionDescription

variable {levels : Nat}
variable {description : CollectionDescription}
variable {payload : Entries}

/-
  What comes of reading an item is the collection of the
  description, as far as the tags of its fields are shown.
-/
structure IsReadFrom
    (levels : Nat)
    (description : CollectionDescription)
    (item : Value) : Prop where
  shown : description.IsShown levels →
    ∃ collection,
      Collection.read levels item = .ok collection ∧
        collection.Same description.collection
  tooDeep : ¬ description.IsShown levels →
    Collection.read levels item = .error .tooDeep

/-
  A payload is read as the collection that it describes,
  when the payloads of its fields are.
-/
theorem IsNamedIn.isReadFrom
    (hNamed : description.IsNamedIn payload)
    {items : List Value}
    (hFields : Collection.fieldList (.object payload) =
      .ok (.list items))
    (hItems :
      List.Forall₂ (FieldDescription.IsReadFrom levels)
        description.fields items) :
    description.IsReadFrom levels (.object payload) where
  shown := by
    intro hShown
    rcases FieldDescription.exists_fields_of_isShown hItems
      hShown with ⟨fields, hReads, hSame⟩
    refine ⟨⟨description.name, fields, description.id,
      description.kind, description.system.truthy⟩, ?_,
      rfl, hSame, rfl, rfl, rfl⟩
    simp only [Collection.read, hFields, Value.entries,
      Value.require, Value.elements, Value.elements?,
      hNamed.name, hNamed.id, hNamed.kind, hNamed.system,
      hReads, Fallible.ok_bind]
    rfl
  tooDeep := by
    intro hShown
    have hReads := FieldDescription.mapM_read_eq_tooDeep
      hItems hShown
    simp only [Collection.read, hFields, Value.entries,
      Value.require, Value.elements, Value.elements?,
      hNamed.name, hReads, Fallible.ok_bind,
      Fallible.error_bind]

/- A list of fields that is there is the one to be read. -/
@[simp]
theorem orElse_list (items : List Value) :
    Value.orElse (some (.list items)) (.list []) =
      .list items := by
  cases items with
  | nil => rfl
  | cons item rest => rfl

theorem IsOlder.isReadFrom
    (hOlder : description.IsOlder payload) :
    description.IsReadFrom levels (.object payload) := by
  rcases hOlder.fields with ⟨items, hSchema, hItems⟩
  have hFields : Collection.fieldList (.object payload) =
      .ok (.list items) := by
    simp only [Collection.fieldList, Collection.holds,
      Entries.hasKey, Value.entries, hSchema, orElse_list,
      Fallible.ok_bind]
    rfl
  apply hOlder.toIsNamedIn.isReadFrom hFields
  apply hItems.imp
  rintro field item ⟨entries, rfl, hField⟩
  exact hField.isReadFrom

theorem IsNewer.isReadFrom
    (hNewer : description.IsNewer payload) :
    description.IsReadFrom levels (.object payload) := by
  rcases hNewer.fields with ⟨items, hListed, hItems⟩
  rcases hItems.userFields with ⟨kept, hKept, hAll⟩
  have hFields : Collection.fieldList (.object payload) =
      .ok (.list kept) := by
    simp only [Collection.fieldList, Collection.holds,
      Entries.hasKey, Value.entries, hNewer.noSchema, hListed,
      orElse_list, Value.elements, Value.elements?, hKept,
      Fallible.ok_bind]
    rfl
  apply hNewer.toIsNamedIn.isReadFrom hFields
  apply hAll.imp
  rintro field item ⟨entries, rfl, hField⟩
  exact hField.isReadFrom

end CollectionDescription

/-
  An older and a newer payload of the same description are
  both read, as the same collection, which is the one that
  is described. So they have the same model or the same
  inconsistency under all settings. Only if the tag of a
  field is nested too deep to be shown, neither is read, for
  this reason.
-/
theorem readings_of_both_payloads_agree
    {description : CollectionDescription}
    {older newer : Entries}
    (hOlder : description.IsOlder older)
    (hNewer : description.IsNewer newer)
    (levels : Nat) :
    (description.IsShown levels →
      ∃ first second,
        Collection.read levels (.object older) = .ok first ∧
        Collection.read levels (.object newer) =
          .ok second ∧
        first.Same description.collection ∧
        first.Same second ∧
        ∀ settings,
          first.emit settings = second.emit settings) ∧
      (¬ description.IsShown levels →
        Collection.read levels (.object older) =
          .error .tooDeep ∧
        Collection.read levels (.object newer) =
          .error .tooDeep) := by
  have hOlderRead :
      description.IsReadFrom levels (.object older) :=
    hOlder.isReadFrom
  have hNewerRead :
      description.IsReadFrom levels (.object newer) :=
    hNewer.isReadFrom
  constructor
  · intro hShown
    rcases hOlderRead.shown hShown with
      ⟨first, hFirst, hDescribed⟩
    rcases hNewerRead.shown hShown with
      ⟨second, hSecond, hSame⟩
    have hBoth := hDescribed.trans hSame.symm
    exact ⟨first, second, hFirst, hSecond, hDescribed, hBoth,
      hBoth.emit_eq⟩
  · intro hShown
    exact ⟨hOlderRead.tooDeep hShown,
      hNewerRead.tooDeep hShown⟩

/-
  A field with two settings, the second of them null, once
  as an option and once beside a field of the system and a
  hidden one.
-/
theorem readings_of_both_state_payloads_agree :
    let state : FieldDescription :=
      { name := .text "state", tag := .text "select"
        required := .bool true
        settings := [("values", .list [.text "open"]),
          ("maxSelect", .null)]
        nameOfUser := by
          rintro text hText ⟨⟩
          exact absurd hText (by decide)
        settingsKnown := by
          intro key hKey
          by_contra hNone
          simp only [Field.settings, List.mem_cons,
            not_or] at hNone
          simp [List.lookup_cons, beq_false_of_ne hNone.1,
            beq_false_of_ne hNone.2.1] at hKey }
    let posts : CollectionDescription :=
      { name := .text "posts", id := .text "p1"
        kind := .text "base", system := .bool false
        fields := [state] }
    let about : Entries :=
      [("id", .text "p1"), ("name", .text "posts"),
        ("type", .text "base"), ("system", .bool false)]
    let named : Entries :=
      [("name", .text "state"), ("type", .text "select"),
        ("required", .bool true)]
    let older : Entries :=
      ("schema", .list [.object (("options",
          .object state.settings) :: named)]) :: about
    let newer : Entries :=
      ("fields", .list
        [.object [("name", .text "id")],
          .object (("maxSelect", .null) ::
            ("values", .list [.text "open"]) :: named),
          .object [("name", .text "key"),
            ("hidden", .bool true)]]) :: about
    ∃ first second,
      Collection.read Machine.usual.tagLevels
        (.object older) = .ok first ∧
      Collection.read Machine.usual.tagLevels
        (.object newer) = .ok second ∧
      first.Same posts.collection ∧
      first.Same second ∧
      ∀ settings,
        first.emit settings = second.emit settings := by
  intro state posts about named older newer
  have hNamed : posts.IsNamedIn older := ⟨rfl, rfl, rfl, rfl⟩
  have hState : state.IsOlder (("options",
      .object state.settings) :: named) :=
    { name := rfl, tag := rfl, required := rfl
      options := ⟨_, rfl, fun _ => rfl⟩
      noSettings := by decide }
  have hBeside : state.IsNewer (("maxSelect", .null) ::
      ("values", .list [.text "open"]) :: named) :=
    { name := rfl, tag := rfl, required := rfl
      settings := by
        simp only [Field.settings, List.forall_mem_cons]
        exact ⟨rfl, rfl, rfl, rfl, rfl, by simp⟩
      noOptions := rfl
      shown := rfl }
  have hOlder : posts.IsOlder older :=
    { toIsNamedIn := hNamed
      fields := ⟨_, rfl, .cons ⟨_, rfl, hState⟩ .nil⟩ }
  have hNewer : posts.IsNewer newer :=
    { name := rfl, id := rfl, kind := rfl, system := rfl
      fields := ⟨_, rfl,
        .skipped (Or.inl ⟨"id", by decide, rfl⟩)
          (.field hBeside (.skipped (Or.inr rfl) .nil))⟩
      noSchema := rfl }
  have hShown : posts.IsShown Machine.usual.tagLevels := by
    intro field hField
    rcases List.mem_singleton.mp hField with rfl
    nofun
  exact (readings_of_both_payloads_agree hOlder hNewer
    Machine.usual.tagLevels).1 hShown

end PocketDart
