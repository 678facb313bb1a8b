import PocketDart.Proofs.Model.Conversion
import PocketDart.Proofs.Model.ProgramText
import PocketDart.Value.Moment

/-
  This file proves that a generated model keeps records: the
  factory accepts every record that suits the collection,
  and the object is written with every value that was read.

  Key definitions include:
    * `Dart.Record.Suits`
    * `Collection.object`

  Key theorems include:
    * `Collection.WellFormed.fromModel_eq_object`
    * `Collection.WellFormed.toMap_object`
    * `toMap_fromModel`
-/

------------------------------------------------------------
-- Records
------------------------------------------------------------

namespace PocketDart

open Dart (Item Record TimeFormat)

variable {Time : Type}

/-
  A record that suits all fields. When it was created and
  updated is read as well, but never written.
-/
structure Dart.Record.Suits
    (times : TimeFormat Time)
    (fields : List Field)
    (record : Record) : Prop where
  created : ∃ time, times.parse? record.created = some time
  updated : ∃ time, times.parse? record.updated = some time
  values :
    ∀ field ∈ fields,
      field.Suits times (record.value field.nameText)

------------------------------------------------------------
-- Objects
------------------------------------------------------------

namespace Collection

/- The members of the class, those of every record first. -/
def members (collection : Collection) : List String :=
  ["id", "created", "updated"] ++
    collection.fields.map fun field =>
      memberName field.nameText

/- The members that the factory fills from a record. -/
def object
    (times : TimeFormat Time)
    (created updated : Time)
    (collection : Collection)
    (record : Record) : List (String × Item Time) :=
  [("id", .wire (.text record.id)),
    ("created", .time created), ("updated", .time updated)] ++
    collection.fields.map fun field =>
      (memberName field.nameText,
        field.item times (record.value field.nameText))

theorem map_object
    (times : TimeFormat Time)
    (created updated : Time)
    (collection : Collection)
    (record : Record) :
    (collection.object times created updated record).map
      (·.1) = collection.members := by
  rw [object, List.map_append, List.map_map]
  rfl

theorem map_parameters
    (settings : Settings)
    (collection : Collection) :
    (collection.program settings).parameters.map
      (·.member) = collection.members := by
  have hParameters :
      (collection.program settings).parameters =
        (systemFields ++ collection.fields.map
          Field.draft).map (·.parameter) := rfl
  have hSystem : systemFields.map (·.member) =
      ["id", "created", "updated"] := by
    decide
  rw [hParameters, members, ← hSystem, List.map_map,
    List.map_append, List.map_map]
  rfl

theorem memberTypes_eq
    (settings : Settings)
    (collection : Collection) :
    (collection.program settings).memberTypes =
      [("id", ⟨"String", false⟩),
        ("created", ⟨"DateTime", false⟩),
        ("updated", ⟨"DateTime", false⟩)] ++
        collection.fields.map fun field =>
          (memberName field.nameText, field.draft.type.told) := by
  have hProperties :
      (collection.program settings).properties =
        (systemFields ++ collection.fields.map
          Field.draft).map (·.property) := rfl
  have hSystem : (systemFields.map fun field =>
      (field.member, field.type.told)) =
      [("id", ⟨"String", false⟩),
        ("created", ⟨"DateTime", false⟩),
        ("updated", ⟨"DateTime", false⟩)] := by
    decide
  rw [Dart.Program.memberTypes, hProperties, ← hSystem,
    List.map_map, List.map_append, List.map_map]
  rfl

end Collection

namespace Collection.WellFormed

variable {settings : Settings}
variable {collection : Collection}
variable {times : TimeFormat Time}
variable {created updated : Time}
variable {record : Record}

/- The members of the class are distinct. -/
theorem allMembers_nodup
    (hFormed : collection.WellFormed settings) :
    collection.members.Nodup := by
  have hFixed :
      ["id", "created", "updated"] ⊆ fixedNames := by
    decide
  refine List.Nodup.append (by decide) hFormed.members_nodup
    ?_
  intro name hName hMember
  rcases List.mem_map.mp hMember with ⟨field, hField, rfl⟩
  exact hFormed.fixedNames_disjoint (hFixed hName)
    (List.mem_flatMap.mpr
      ⟨field, hField, field.member_mem_declaredNames⟩)

theorem object_admits
    (hFormed : collection.WellFormed settings)
    (hSuits : record.Suits times collection.fields)
    {entry : String × Item Time}
    (hEntry : entry ∈
      collection.object times created updated record) :
    ∃ type,
      (collection.program settings).memberTypes.lookup
          entry.1 = some type ∧
        type.admits entry.2 := by
  have hDistinct :
      ((collection.program settings).memberTypes.map
        (·.1)).Nodup := by
    rw [memberTypes_eq, List.map_append, List.map_map]
    exact hFormed.allMembers_nodup
  have hFound : ∀ type,
      (entry.1, type) ∈
        (collection.program settings).memberTypes →
      type.admits entry.2 →
      ∃ type,
        (collection.program settings).memberTypes.lookup
            entry.1 = some type ∧
          type.admits entry.2 :=
    fun type hMem hAdmits =>
      ⟨type, Dart.lookup_of_mem hDistinct hMem, hAdmits⟩
  have hTypes := memberTypes_eq settings collection
  rcases List.mem_append.mp hEntry with hOwn | hField
  · simp only [List.mem_cons, List.not_mem_nil,
      or_false] at hOwn
    rcases hOwn with rfl | rfl | rfl
    · exact hFound ⟨"String", false⟩ (by simp [hTypes]) rfl
    · exact hFound ⟨"DateTime", false⟩ (by simp [hTypes]) rfl
    · exact hFound ⟨"DateTime", false⟩ (by simp [hTypes]) rfl
  · rcases List.mem_map.mp hField with ⟨field, hMem, rfl⟩
    apply hFound field.draft.type.told
    · rw [hTypes]
      exact List.mem_append_right _
        (List.mem_map.mpr ⟨field, hMem, rfl⟩)
    · rw [Dart.TypeName.admits_told]
      exact hFormed.admits_item hMem
        (hSuits.values field hMem)

/- The factory makes the object of a record that suits. -/
theorem fromModel_eq_object
    (hFormed : collection.WellFormed settings)
    (hSuits : record.Suits times collection.fields)
    (hCreated : times.parse? record.created = some created)
    (hUpdated : times.parse? record.updated = some updated) :
    (collection.program settings).fromModel times record =
      some (collection.object times created updated
        record) := by
  have hOwn : systemArguments.mapM (fun argument => do
      return (argument.1,
        ← (collection.program settings).eval times
          ⟨some record, []⟩ argument.2)) =
      some [("id", .wire (.text record.id)),
        ("created", .time created),
        ("updated", .time updated)] := by
    simp [systemArguments, Dart.Program.eval, Record.own?,
      hCreated, hUpdated]
  have hFields : (collection.fields.map fun field =>
        field.draft.argument).mapM (fun argument => do
      return (argument.1,
        ← (collection.program settings).eval times
          ⟨some record, []⟩ argument.2)) =
      some (collection.fields.map fun field =>
        (memberName field.nameText,
          field.item times
            (record.value field.nameText))) := by
    rw [List.mapM_map]
    apply Dart.mapM_eq_map
    intro field hField
    have hRead := hFormed.eval_readExpression hField
      (hSuits.values field hField)
    simp only [Function.comp_apply, FieldLayout.argument,
      hRead]
    rfl
  have hArguments :
      (collection.program settings).arguments =
        systemArguments ++ collection.fields.map fun field =>
          field.draft.argument :=
    congrArg (systemArguments ++ ·) List.map_map
  rw [Dart.Program.fromModel, hArguments, List.mapM_append,
    hOwn, hFields]
  apply Dart.Program.construct_eq_self
  · exact (map_parameters settings collection).trans
      (map_object times created updated collection
        record).symm
  · have hDistinct := hFormed.allMembers_nodup
    rwa [← map_object times created updated collection
      record] at hDistinct
  · intro entry hEntry
    exact hFormed.object_admits hSuits hEntry

theorem toMap_object
    (hFormed : collection.WellFormed settings)
    (hSuits : record.Suits times collection.fields) :
    (collection.program settings).toMap times
        (collection.object times created updated record) =
      some (collection.fields.map fun field =>
        (field.nameText, .wire
          (field.stored (record.value field.nameText)))) := by
  have hDistinct :
      ((collection.object times created updated record).map
        (·.1)).Nodup := by
    rw [map_object]
    exact hFormed.allMembers_nodup
  have hEntries :
      (collection.program settings).entries =
        collection.fields.map fun field =>
          field.draft.entry :=
    List.map_map
  rw [Dart.Program.toMap, hEntries, List.mapM_map,
    Dart.mapM_eq_map (fun field : Field =>
      (field.nameText, (.wire (field.stored
        (record.value field.nameText)) : Item Time)))]
  · have hKeys :
        ((collection.fields.map fun field =>
          (field.nameText, (.wire (field.stored
            (record.value field.nameText)) :
              Item Time))).map (·.1)).Nodup := by
      rw [List.map_map]
      exact hFormed.nameTexts_nodup
    rw [Option.bind_eq_bind, Option.bind_some,
      Dart.mapOf_eq_self hKeys]
    rfl
  · intro field hField
    have hMember := Dart.lookup_of_mem hDistinct
      (List.mem_append_right _ (List.mem_map.mpr
        ⟨field, hField, rfl⟩))
    have hWrite := hFormed.eval_writeExpression hField
      (hSuits.values field hField) hMember
    have hName := hFormed.wireName?_constant hField false
    have hConstant : field.draft.constant =
        typeName field.nameText := rfl
    simp only [Function.comp_apply, FieldLayout.entry,
      hWrite, hConstant, hName]
    rfl

end Collection.WellFormed

------------------------------------------------------------
-- Round Trips
------------------------------------------------------------

/-
  A model keeps the records of its collection. Its source is
  read as a program whose factory accepts each record that
  suits the collection, and whose object is written with one
  entry for each field, in order and under the name of the
  field, that holds the value of the record.
-/
theorem toMap_fromModel
    {settings : Settings}
    {collection : Collection}
    {model : GeneratedModel}
    (hEmit : collection.emit settings = .ok model)
    (times : TimeFormat Time) :
    (∀ field ∈ collection.fields,
        field.name = .text field.nameText) ∧
      (collection.fields.map Field.nameText).Nodup ∧
      ∃ program,
        Dart.readProgram? model.source = some program ∧
        ∀ record : Record,
          record.Suits times collection.fields →
          ∃ object,
            program.fromModel times record = some object ∧
              program.toMap times object =
                some (collection.fields.map fun field =>
                  (field.nameText, .wire (field.stored
                    (record.value field.nameText)))) := by
  rcases Collection.source_of_emit hEmit with
    ⟨hFormed, hSource⟩
  have hRead := hFormed.isSpelled.readProgram?_source settings
  rw [← hSource] at hRead
  refine ⟨?_, hFormed.nameTexts_nodup, _, hRead, ?_⟩
  · intro field hField
    exact (hFormed.fieldsNamed field hField).isText
  · intro record hSuits
    rcases hSuits.created with ⟨created, hCreated⟩
    rcases hSuits.updated with ⟨updated, hUpdated⟩
    exact ⟨_, hFormed.fromModel_eq_object hSuits hCreated
        hUpdated, hFormed.toMap_object hSuits⟩

/- A record with an empty choice, a date and no note. -/
theorem toMap_fromModel_ticket :
    let field (name : String) (kind : FieldKind)
        (required : Bool) (options : Entries) : Field :=
      .ofKind (.text name) kind (.bool required) options .null
    let tickets : Collection :=
      { name := .text "tickets"
        fields :=
          [field "status" .select false
              [("values",
                .list [.text "open", .text "on_hold"])],
            field "due_on" .date true [],
            field "note" .text false []]
        id := .null, kind := .text "base", system := false }
    let noon := "2024-05-06T12:00:00.000Z"
    let times : TimeFormat Moment :=
      { parse? := fun text =>
          if text = noon then
            some ⟨2024, 5, 6, some ⟨12, 0, 0, 0, some 0⟩⟩
          else none
        format := fun _ => noon }
    let ticket : Record :=
      { id := "t1", created := noon, updated := noon
        data := [("status", .text ""), ("due_on", .text noon)] }
    ∃ model program object,
      tickets.emit {} = .ok model ∧
        Dart.readProgram? model.source = some program ∧
        program.fromModel times ticket = some object ∧
        program.toMap times object =
          some [("status", .wire .null),
            ("due_on", .wire (.text noon)),
            ("note", .wire .null)] := by
  intro field tickets noon times ticket
  have hNoon : times.Keeps noon := ⟨_, rfl, rfl⟩
  have hEmit : tickets.emit {} =
      .ok ((tickets.draft {}).model {}) := rfl
  have hSuits : ticket.Suits times tickets.fields := by
    refine ⟨⟨_, rfl⟩, ⟨_, rfl⟩, ?_⟩
    intro entry hEntry
    simp only [tickets, List.mem_cons, List.not_mem_nil,
      or_false] at hEntry
    rcases hEntry with rfl | rfl | rfl
    · exact Or.inr ⟨rfl, Or.inr rfl⟩
    · exact Or.inl ⟨noon, rfl, hNoon⟩
    · exact Or.inr ⟨rfl, rfl⟩
  rcases toMap_fromModel hEmit times with
    ⟨_, _, program, hRead, hTrip⟩
  rcases hTrip ticket hSuits with ⟨object, hObject, hMap⟩
  exact ⟨_, program, object, hEmit, hRead, hObject, hMap⟩

end PocketDart
