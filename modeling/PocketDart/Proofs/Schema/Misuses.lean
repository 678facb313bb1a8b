import PocketDart.Proofs.Fallible
import PocketDart.Schema.Collection

/-
  This file proves what goes wrong when payloads of
  collections are read. Values may be used as what they are
  not, which those who read payloads allow for. The only
  other fault comes of the tag of a field that is nested too
  deep to be shown, and it comes up exactly where all that
  is read before it is sound.

  Key definitions include:
    * `Field.MeetsDeepTag`
    * `Collection.MeetsDeepTag`
    * `MeetsDeepTag`

  Key theorems include:
    * `Field.failsOnly_read`
    * `Field.read_eq_tooDeep_iff`
    * `Collection.failsOnly_read`
    * `Collection.read_eq_tooDeep_iff`
    * `ofReading_of_readCollections`
    * `failsOnly_readCollections`
    * `readCollections_eq_tooDeep_iff`
-/

------------------------------------------------------------
-- Values
------------------------------------------------------------

namespace PocketDart

open Fallible (FailsOnly bind_eq_error mapM_eq_error_iff)
open Fallible (failsOnly_bind failsOnly_ok failsOnly_error)

namespace Misuse

def OfReading (cause : Misuse) : Prop :=
  cause.isHandled ∨ cause = .tooDeep

theorem failsOnly_ofReading
    {A : Type}
    {step : Except Misuse A}
    (hFails : FailsOnly (·.isHandled) step) :
    FailsOnly OfReading step :=
  fun cause hCause => Or.inl (hFails cause hCause)

theorem ne_tooDeep_of_failsOnly
    {A : Type}
    {step : Except Misuse A}
    (hFails : FailsOnly (·.isHandled) step) :
    step ≠ .error .tooDeep :=
  hFails.ne_error Bool.false_ne_true

end Misuse

namespace Value

@[simp]
theorem entries_eq_ok_iff
    {value : Value}
    {entries : Entries} :
    value.entries = .ok entries ↔
      value = .object entries := by
  cases value <;> simp [Value.entries]

@[simp]
theorem require_eq_ok_iff
    {entries : Entries}
    {key : String}
    {value : Value} :
    require entries key = .ok value ↔
      entries.lookup key = some value := by
  unfold require
  cases entries.lookup key <;> simp

@[simp]
theorem failsOnly_entries (value : Value) :
    FailsOnly (·.isHandled) value.entries := by
  unfold entries
  split
  · exact failsOnly_ok _
  · exact failsOnly_error.mpr rfl

@[simp]
theorem failsOnly_require
    (entries : Entries)
    (key : String) :
    FailsOnly (·.isHandled)
      (require entries key) := by
  unfold require
  split
  · exact failsOnly_ok _
  · exact failsOnly_error.mpr rfl

@[simp]
theorem failsOnly_elements (value : Value) :
    FailsOnly (·.isHandled) value.elements := by
  unfold elements
  split
  · exact failsOnly_ok _
  · exact failsOnly_error.mpr rfl

@[simp]
theorem failsOnly_asKey (value : Value) :
    FailsOnly (·.isHandled) value.asKey := by
  unfold asKey
  split
  · exact failsOnly_ok _
  · exact failsOnly_error.mpr rfl

end Value

------------------------------------------------------------
-- Fields
------------------------------------------------------------

namespace Field

/-
  Items can be no pairs. The induction is on the items, with
  the entries that are read from those before them.
-/
theorem failsOnly_readPairs
    (index : Nat)
    (entries : Entries)
    (items : List Value) :
    FailsOnly (·.isHandled)
      (readPairs index entries items) := by
  induction items generalizing index entries with
  | nil => exact failsOnly_ok _
  | cons item rest ih =>
      unfold readPairs
      split
      · exact failsOnly_error.mpr rfl
      · next key value _ =>
          rw [failsOnly_bind]
          exact ⟨key.failsOnly_asKey, fun _ _ => ih _ _⟩
      · exact failsOnly_error.mpr rfl

/- Options can be neither an object nor pairs. -/
theorem failsOnly_readOptions (value : Option Value) :
    FailsOnly (·.isHandled)
      (readOptions value) := by
  unfold readOptions
  split
  · exact failsOnly_ok _
  · rw [failsOnly_bind]
    exact ⟨Value.failsOnly_elements _,
      fun items _ => failsOnly_readPairs 0 [] items⟩

/- What can go wrong with a field. -/
theorem failsOnly_read
    (levels : Nat)
    (data : Value) :
    FailsOnly Misuse.OfReading (read levels data) := by
  unfold read
  simp only [failsOnly_bind]
  refine ⟨Misuse.failsOnly_ofReading data.failsOnly_entries,
    fun data _ => ⟨Misuse.failsOnly_ofReading
      (failsOnly_readOptions _), fun _ _ =>
        ⟨Misuse.failsOnly_ofReading
          (Value.failsOnly_require _ _), fun _ _ =>
            ⟨?_, fun _ _ => failsOnly_ok _⟩⟩⟩⟩
  unfold FieldKind.read
  split
  · exact failsOnly_error.mpr (Or.inr rfl)
  · exact failsOnly_ok _

/-
  A field with a tag that is nested too deep, and nothing
  wrong with what is read before the tag.
-/
def MeetsDeepTag
    (levels : Nat)
    (data : Value) : Prop :=
  ∃ entries options name,
    data = .object entries ∧
      readOptions (entries.lookup "options") =
        .ok options ∧
      entries.lookup "name" = some name ∧
      ((entries.lookup "type").getD .null).showFault?
        levels = some .tooDeep

theorem kind_read_eq_tooDeep_iff
    {levels : Nat}
    {tag : Value} :
    FieldKind.read levels tag = .error .tooDeep ↔
      tag.showFault? levels = some .tooDeep := by
  unfold FieldKind.read
  split
  · next hFault => exact iff_of_true rfl hFault
  · next hFault => exact iff_of_false nofun hFault

theorem read_eq_tooDeep_iff
    {levels : Nat}
    {data : Value} :
    read levels data = .error .tooDeep ↔
      MeetsDeepTag levels data := by
  unfold read MeetsDeepTag
  constructor
  · intro hRead
    rcases (bind_eq_error.mp hRead).resolve_left
        (Misuse.ne_tooDeep_of_failsOnly
          data.failsOnly_entries) with
      ⟨entries, hEntries, hRead⟩
    rcases (bind_eq_error.mp hRead).resolve_left
        (Misuse.ne_tooDeep_of_failsOnly
          (failsOnly_readOptions _)) with
      ⟨options, hOptions, hRead⟩
    rcases (bind_eq_error.mp hRead).resolve_left
        (Misuse.ne_tooDeep_of_failsOnly
          (Value.failsOnly_require _ _)) with
      ⟨name, hName, hRead⟩
    refine ⟨entries, options, name,
      Value.entries_eq_ok_iff.mp hEntries, hOptions,
      Value.require_eq_ok_iff.mp hName, ?_⟩
    rcases bind_eq_error.mp hRead with hKind | ⟨_, _, hPure⟩
    · exact kind_read_eq_tooDeep_iff.mp hKind
    · cases hPure
  · rintro ⟨entries, options, name, rfl, hOptions, hName,
      hTag⟩
    simp only [Value.entries, Value.require, hOptions, hName,
      kind_read_eq_tooDeep_iff.mpr hTag, Fallible.ok_bind,
      Fallible.error_bind]

end Field

------------------------------------------------------------
-- Collections
------------------------------------------------------------

namespace Collection

/- A listed field can be no object. -/
theorem failsOnly_isUserField (data : Value) :
    FailsOnly (·.isHandled)
      (isUserField data) := by
  unfold isUserField
  rw [failsOnly_bind]
  exact ⟨data.failsOnly_entries, fun _ _ => failsOnly_ok _⟩

/- So can one of many. -/
theorem failsOnly_userFields (items : List Value) :
    FailsOnly (·.isHandled)
      (userFields items) := by
  induction items with
  | nil => exact failsOnly_ok _
  | cons data rest ih =>
      unfold userFields
      simp only [failsOnly_bind]
      exact ⟨failsOnly_isUserField data, fun _ _ =>
        ⟨ih, fun _ _ => failsOnly_ok _⟩⟩

theorem failsOnly_holds
    (data : Value)
    (word : String) :
    FailsOnly (·.isHandled) (holds data word) := by
  unfold holds
  split
  · exact failsOnly_ok _
  · exact failsOnly_ok _
  · exact failsOnly_ok _
  · exact failsOnly_error.mpr rfl

/- What can go wrong before the fields are read. -/
theorem failsOnly_fieldList (data : Value) :
    FailsOnly (·.isHandled) (fieldList data) := by
  unfold fieldList
  rw [failsOnly_bind]
  refine ⟨failsOnly_holds data "schema", ?_⟩
  intro older _
  cases older with
  | true =>
      simp only [if_true]
      rw [failsOnly_bind]
      exact ⟨data.failsOnly_entries,
        fun _ _ => failsOnly_ok _⟩
  | false =>
      simp only [Bool.false_eq_true, if_false,
        failsOnly_bind]
      exact ⟨data.failsOnly_entries, fun _ _ =>
        ⟨Value.failsOnly_elements _, fun items _ =>
          ⟨failsOnly_userFields items,
            fun _ _ => failsOnly_ok _⟩⟩⟩

/- What can go wrong with a collection. -/
theorem failsOnly_read
    (levels : Nat)
    (data : Value) :
    FailsOnly Misuse.OfReading (read levels data) := by
  unfold read
  simp only [failsOnly_bind]
  refine ⟨Misuse.failsOnly_ofReading
      (failsOnly_fieldList data), fun fields _ =>
    ⟨Misuse.failsOnly_ofReading data.failsOnly_entries,
      fun _ _ => ⟨Misuse.failsOnly_ofReading
        (Value.failsOnly_require _ _), fun _ _ =>
          ⟨Misuse.failsOnly_ofReading
            fields.failsOnly_elements, fun _ _ =>
              ⟨?_, fun _ _ => failsOnly_ok _⟩⟩⟩⟩⟩
  exact Fallible.failsOnly_mapM
    fun data _ => Field.failsOnly_read levels data

/-
  A collection with such a field, and nothing wrong with
  what is read before the field.
-/
def MeetsDeepTag
    (levels : Nat)
    (data : Value) : Prop :=
  ∃ entries listed name before field after fields,
    data = .object entries ∧
      fieldList data = .ok listed ∧
      entries.lookup "name" = some name ∧
      listed.elements = .ok (before ++ field :: after) ∧
      before.mapM (Field.read levels) = .ok fields ∧
      Field.MeetsDeepTag levels field

/- Such a collection is the only one with this fault. -/
theorem read_eq_tooDeep_iff
    {levels : Nat}
    {data : Value} :
    read levels data = .error .tooDeep ↔
      MeetsDeepTag levels data := by
  unfold read MeetsDeepTag
  constructor
  · intro hRead
    rcases (bind_eq_error.mp hRead).resolve_left
        (Misuse.ne_tooDeep_of_failsOnly
          (failsOnly_fieldList data)) with
      ⟨listed, hListed, hRead⟩
    rcases (bind_eq_error.mp hRead).resolve_left
        (Misuse.ne_tooDeep_of_failsOnly
          data.failsOnly_entries) with
      ⟨entries, hEntries, hRead⟩
    rcases (bind_eq_error.mp hRead).resolve_left
        (Misuse.ne_tooDeep_of_failsOnly
          (Value.failsOnly_require _ _)) with
      ⟨name, hName, hRead⟩
    rcases (bind_eq_error.mp hRead).resolve_left
        (Misuse.ne_tooDeep_of_failsOnly
          listed.failsOnly_elements) with
      ⟨items, hItems, hRead⟩
    rcases bind_eq_error.mp hRead with hFields | ⟨_, _, hPure⟩
    · rcases mapM_eq_error_iff.mp hFields with
        ⟨before, field, after, rfl, ⟨fields, hBefore⟩, hField⟩
      exact ⟨entries, listed, name, before, field, after,
        fields, Value.entries_eq_ok_iff.mp hEntries, hListed,
        Value.require_eq_ok_iff.mp hName, hItems, hBefore,
        Field.read_eq_tooDeep_iff.mp hField⟩
    · cases hPure
  · rintro ⟨entries, listed, name, before, field, after,
      fields, rfl, hListed, hName, hItems, hBefore, hField⟩
    have hFields : (before ++ field :: after).mapM
        (Field.read levels) = .error .tooDeep :=
      mapM_eq_error_iff.mpr ⟨before, field, after, rfl,
        ⟨fields, hBefore⟩,
        Field.read_eq_tooDeep_iff.mpr hField⟩
    simp only [Value.entries, Value.require, hListed, hName,
      hItems, hFields, Fallible.ok_bind,
      Fallible.error_bind]

end Collection

------------------------------------------------------------
-- Documents
------------------------------------------------------------

theorem ofReading_of_readCollections
    {levels : Nat}
    {document : Value}
    {cause : Misuse}
    (hRead : readCollections levels document =
      .error (.misuse cause)) :
    cause.OfReading := by
  unfold readCollections at hRead
  split at hRead
  · cases hRead
  · next payloads _ =>
      rcases Fallible.mapError_eq_error.mp hRead with
        ⟨_, hPayloads, ⟨⟩⟩
      exact Fallible.failsOnly_mapM
        (fun data _ => Collection.failsOnly_read levels data)
        cause hPayloads

/- What can go wrong with a list of collections. -/
theorem failsOnly_readCollections
    (levels : Nat)
    (payloads : List Value) :
    FailsOnly
      (fun fault => ∃ cause, fault = .misuse cause ∧
        cause.OfReading)
      (readCollections levels (.list payloads)) := by
  rintro (_ | cause) hRead
  · rcases Fallible.mapError_eq_error.mp hRead with
      ⟨_, _, ⟨⟩⟩
  · exact ⟨cause, rfl, ofReading_of_readCollections hRead⟩

/-
  A document with such a collection, and nothing wrong with
  what is read before the collection.
-/
def MeetsDeepTag
    (levels : Nat)
    (document : Value) : Prop :=
  ∃ before data after collections,
    collectionPayloads? document =
        some (before ++ data :: after) ∧
      before.mapM (Collection.read levels) =
        .ok collections ∧
      Collection.MeetsDeepTag levels data

/- Such a document is the only one with this fault. -/
theorem readCollections_eq_tooDeep_iff
    {levels : Nat}
    {document : Value} :
    readCollections levels document =
        .error (.misuse .tooDeep) ↔
      MeetsDeepTag levels document := by
  unfold readCollections MeetsDeepTag
  cases collectionPayloads? document with
  | none => simp
  | some payloads =>
      simp only [Fallible.mapError_eq_error,
        SchemaFault.misuse.injEq, exists_eq_right,
        mapM_eq_error_iff, Option.some.injEq]
      constructor
      · rintro ⟨before, data, after, hPayloads,
          ⟨collections, hBefore⟩, hData⟩
        exact ⟨before, data, after, collections, hPayloads,
          hBefore, Collection.read_eq_tooDeep_iff.mp hData⟩
      · rintro ⟨before, data, after, collections, hPayloads,
          hBefore, hData⟩
        exact ⟨before, data, after, hPayloads,
          ⟨collections, hBefore⟩,
          Collection.read_eq_tooDeep_iff.mpr hData⟩

end PocketDart
