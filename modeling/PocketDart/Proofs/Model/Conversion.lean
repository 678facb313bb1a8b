import PocketDart.Proofs.Model.Declarations

/-
  This file proves what the expressions of a field do. The
  one that reads it gives its member the value of a record
  that suits the field, and the one that writes it gives the
  value back. Only the empty text of an optional select
  field is written as null.

  Key definitions include:
    * `Dart.TimeFormat.Keeps`
    * `Field.Suits`
    * `Field.item`
    * `Field.stored`

  Key theorems include:
    * `Collection.WellFormed.tableItem?_variant`
    * `Collection.WellFormed.eval_readExpression`
    * `Collection.WellFormed.eval_writeExpression`
    * `Collection.WellFormed.admits_item`
-/

------------------------------------------------------------
-- Values
------------------------------------------------------------

namespace PocketDart

open Dart (Item Record TimeFormat)

variable {Time : Type}

/- A text that is read and written back as it was. -/
def Dart.TimeFormat.Keeps
    (times : TimeFormat Time)
    (text : String) : Prop :=
  ∃ time, times.parse? text = some time ∧
    times.format time = text

def FieldKind.holds : FieldKind → Value → Bool
  | .text, .text _ => true
  | .number, .int _ => true
  | .number, .float _ => true
  | .bool, .bool _ => true
  | .other, _ => true
  | _, _ => false

namespace Field

theorem isSelect_of_kind
    {field : Field}
    (hKind : field.kind = .select) :
    field.isSelect := by
  simp [isSelect, hKind]

/-
  Whether a record may hold a value in a field: a declared
  one, a date or one of the kind. Where the field is not
  required, null will do, and so will the empty text in
  place of a declared value.
-/
def Suits
    (times : TimeFormat Time)
    (field : Field)
    (value : Value) : Prop :=
  match field.kind with
  | .select =>
      (∃ text ∈ field.valueTexts, value = .text text) ∨
        field.isRequired = false ∧
          (value = .null ∨ value = .text "")
  | .date =>
      (∃ text, value = .text text ∧ times.Keeps text) ∨
        field.isRequired = false ∧ value = .null
  | kind =>
      kind.holds value ∨
        field.isRequired = false ∧ value = .null

/- What the member holds for a value of the record. -/
def item
    (times : TimeFormat Time)
    (field : Field)
    (value : Value) : Item Time :=
  match field.kind, value with
  | .select, .text text =>
      if text = "" then .wire .null
      else
        .constant (enumTypeName field.nameText)
          (memberName text)
  | .date, .text text =>
      (times.parse? text).elim (.wire .null) .time
  | _, value => .wire value

/- What is written for a value of the record. -/
def stored
    (field : Field)
    (value : Value) : Value :=
  match field.kind, value with
  | .select, .text text =>
      if text = "" then .null else .text text
  | _, value => value

end Field

------------------------------------------------------------
-- Tables
------------------------------------------------------------

namespace Dart

/- Null is no key of a table. -/
theorem heldFor_null (entries : List (Item Time × Item Time)) :
    heldFor (.wire .null) entries = .wire .null := by
  induction entries with
  | nil => rfl
  | cons entry rest ih =>
      have hOther :
          entry.1.isSameKey (.wire .null) = false := by
        rcases entry with ⟨⟨⟨⟩⟩ | _ | _, _⟩ <;> rfl
      rw [heldFor, hOther, ih]
      rfl

theorem heldFor_map
    {texts : List String}
    (key item : String → Item Time)
    (hKeys : ∀ text ∈ texts, ∀ other ∈ texts,
      (key other).isSameKey (key text) ↔ other = text)
    {text : String}
    (hText : text ∈ texts) :
    heldFor (key text)
        (texts.map fun text => (key text, item text)) =
      item text := by
  induction texts with
  | nil => cases hText
  | cons first rest ih =>
      rw [List.map_cons, heldFor]
      have hFirst := hKeys text hText first
        List.mem_cons_self
      by_cases hSame : first = text
      · rw [if_pos (hFirst.mpr hSame), hSame]
      · rw [if_neg fun h => hSame (hFirst.mp h)]
        have hRest : text ∈ rest :=
          (List.mem_cons.mp hText).resolve_left
            (Ne.symm hSame)
        apply ih _ hRest
        intro text hText other hOther
        exact hKeys text (List.mem_cons_of_mem _ hText)
          other (List.mem_cons_of_mem _ hOther)

end Dart

namespace Collection.WellFormed

variable {settings : Settings}
variable {collection : Collection}
variable {field : Field}

theorem atom?_variant
    (hFormed : collection.WellFormed settings)
    (Time : Type)
    (hField : field ∈ collection.fields)
    (hSelect : field.isSelect)
    {text : String}
    (hText : text ∈ field.valueTexts) :
    (collection.program settings).atom?
        (.text text) =
          some (.wire (.text text) : Item Time) ∧
      (collection.program settings).atom?
        (.constant (enumTypeName field.nameText)
          (memberName text)) =
        some (.constant (enumTypeName field.nameText)
          (memberName text) : Item Time) := by
  have hEnum := hFormed.fileDeclaration?_of_mem
    (mem_fileDeclarations settings hField hSelect
      (enumTypeName field.nameText)
      (.enum (field.enumDraft.variants.map (·.name)))
      List.mem_cons_self)
  have hVariant : memberName text ∈
      field.enumDraft.variants.map (·.name) := by
    rw [Field.enumDraft, List.map_map]
    exact List.mem_map_of_mem hText
  constructor
  · rfl
  · simp [Dart.Program.atom?, hEnum, hVariant]

theorem tableItem?_toMap
    (hFormed : collection.WellFormed settings)
    (hField : field ∈ collection.fields)
    (hSelect : field.isSelect)
    (key : Item Time) :
    (collection.program settings).tableItem?
        field.enumDraft.part.toMap key =
      some (Dart.heldFor key (field.valueTexts.map fun text =>
        (.constant (enumTypeName field.nameText)
          (memberName text), .wire (.text text)))) := by
  apply Dart.Program.tableItem?_eq_heldFor
  · exact List.map_map
  · intro text hText
    exact (hFormed.atom?_variant Time hField hSelect
      hText).symm

theorem tableItem?_fromMap
    (hFormed : collection.WellFormed settings)
    (hField : field ∈ collection.fields)
    (hSelect : field.isSelect)
    (key : Item Time) :
    (collection.program settings).tableItem?
        field.enumDraft.part.fromMap key =
      some (Dart.heldFor key (field.valueTexts.map fun text =>
        (.wire (.text text),
          .constant (enumTypeName field.nameText)
            (memberName text)))) := by
  apply Dart.Program.tableItem?_eq_heldFor
  · exact List.map_map
  · intro text hText
    exact hFormed.atom?_variant Time hField hSelect hText

/- A declared value and its constant lead to each other. -/
theorem tableItem?_variant
    (hFormed : collection.WellFormed settings)
    (Time : Type)
    (hField : field ∈ collection.fields)
    (hSelect : field.isSelect)
    {text : String}
    (hText : text ∈ field.valueTexts) :
    (collection.program settings).tableItem?
        field.enumDraft.part.toMap
        (.constant (enumTypeName field.nameText)
          (memberName text)) =
        some (.wire (.text text) : Item Time) ∧
      (collection.program settings).tableItem?
        field.enumDraft.part.fromMap (.wire (.text text)) =
        some (.constant (enumTypeName field.nameText)
          (memberName text) : Item Time) := by
  have hDistinct :=
    (hFormed.fieldsValued field hField
      hSelect).variantsDistinct
  constructor
  · rw [hFormed.tableItem?_toMap hField hSelect,
      Dart.heldFor_map (fun text =>
        .constant (enumTypeName field.nameText)
          (memberName text)) _ _ hText]
    intro text hText other hOther
    constructor
    · intro hSame
      have hName : memberName other = memberName text := by
        simpa [Item.isSameKey] using hSame
      exact List.inj_on_of_nodup_map hDistinct hOther hText
        hName
    · rintro rfl
      simp [Item.isSameKey]
  · rw [hFormed.tableItem?_fromMap hField hSelect,
      Dart.heldFor_map (fun text => .wire (.text text)) _ _
        hText]
    intro text hText other hOther
    simp [Item.isSameKey]

------------------------------------------------------------
-- Names
------------------------------------------------------------

theorem wireName?_constant
    (hFormed : collection.WellFormed settings)
    (hField : field ∈ collection.fields)
    (inFactory : Bool) :
    (collection.program settings).wireName? inFactory
        (typeName field.nameText) =
      some field.nameText := by
  have hRecord :
      typeName field.nameText ≠
        Dart.Expression.recordName := by
    intro hEq
    have hHead :
        (typeName field.nameText).toList.head? =
          some 'r' := by
      rw [hEq]
      decide
    exact absurd (Naming.isLower_head?_typeName hHead)
      (by decide)
  have hDeclared := hFormed.declaration?_of_mem inFactory
    (mem_classDeclarations settings hField
      (typeName field.nameText)
      (.constant field.nameText)
      (List.mem_cons_of_mem _ List.mem_cons_self))
    hRecord
  simp only [Dart.Program.wireName?, hDeclared]

/- The names of tables and functions are no record. -/
theorem lookupName_ne_recordName
    (member ending : String) :
    lookupName member ending ≠
      Dart.Expression.recordName := by
  intro hEq
  have hMem := underscore_mem_lookupName member ending
  rw [hEq] at hMem
  exact absurd hMem (by decide)

/- What a table means in a method of the class. -/
theorem declaration?_toMap
    (hFormed : collection.WellFormed settings)
    (hField : field ∈ collection.fields)
    (hSelect : field.isSelect) :
    (collection.program settings).declaration? false
        field.enumDraft.toMap =
      some (.table field.enumDraft.part.toMap) := by
  apply hFormed.methodDeclaration?_of_mem
  apply List.mem_append_right
  apply mem_fileDeclarations settings hField hSelect
  simp [Dart.EnumPart.declarations, EnumLayout.part]

/- What the function of an enum returns in the factory. -/
theorem call?_fromWire
    (hFormed : collection.WellFormed settings)
    (Time : Type)
    (hField : field ∈ collection.fields)
    (hSelect : field.isSelect)
    {text : String}
    (hText : text ∈ field.valueTexts) :
    ∃ reader,
      (collection.program settings).declaration? true
          field.enumDraft.fromWire = some (.reader reader) ∧
        (collection.program settings).call? reader
            (.wire (.text text)) =
          some (.constant (enumTypeName field.nameText)
            (memberName text) : Item Time) := by
  have hReader := hFormed.declaration?_of_mem true
    (List.mem_append_right _
      (mem_fileDeclarations settings hField hSelect
        field.enumDraft.fromWire
        (.reader field.enumDraft.part.fromWire)
        (by simp [Dart.EnumPart.declarations,
          EnumLayout.part])))
    (lookupName_ne_recordName _ _)
  have hTable := hFormed.fileDeclaration?_of_mem
    (mem_fileDeclarations settings hField hSelect
      field.enumDraft.fromMap
      (.table field.enumDraft.part.fromMap)
      (by simp [Dart.EnumPart.declarations,
        EnumLayout.part]))
  have hItem :=
    (hFormed.tableItem?_variant Time hField hSelect hText).2
  refine ⟨field.enumDraft.part.fromWire, hReader, ?_⟩
  have hName : field.enumDraft.part.fromWire.table =
      field.enumDraft.fromMap := rfl
  rw [Dart.Program.call?, hName, hTable]
  simp [hItem, Item.isNull]

------------------------------------------------------------
-- Expressions
------------------------------------------------------------

variable {times : TimeFormat Time}

theorem eval_recordValue
    (hFormed : collection.WellFormed settings)
    (times : TimeFormat Time)
    (hField : field ∈ collection.fields)
    (record : Record) :
    (collection.program settings).eval times
        ⟨some record, []⟩
        (.recordValue (typeName field.nameText)) =
      some (.wire (record.value field.nameText)) := by
  simp [Dart.Program.eval, Dart.Frame.inFactory,
    hFormed.wireName?_constant hField]

theorem eval_member
    (hFormed : collection.WellFormed settings)
    (times : TimeFormat Time)
    (hField : field ∈ collection.fields)
    {members : List (String × Item Time)}
    {item : Item Time}
    (hMember : members.lookup (memberName field.nameText) =
      some item) :
    (collection.program settings).eval times ⟨none, members⟩
        (.member (memberName field.nameText)) =
      some item := by
  have hDeclared := hFormed.methodDeclaration?_of_mem
    (mem_classDeclarations settings hField
      (memberName field.nameText) .member
      List.mem_cons_self)
  simp [Dart.Program.eval, Dart.Frame.inFactory, hDeclared,
    hMember]

theorem eval_fromWire
    (hFormed : collection.WellFormed settings)
    (times : TimeFormat Time)
    (hField : field ∈ collection.fields)
    (hSelect : field.isSelect)
    {record : Record}
    {text : String}
    (hText : text ∈ field.valueTexts)
    (hValue :
      record.value field.nameText = .text text) :
    (collection.program settings).eval times
        ⟨some record, []⟩
        (.call field.enumDraft.fromWire
          (.recordValue (typeName field.nameText))) =
      some (.constant (enumTypeName field.nameText)
        (memberName text)) := by
  rcases hFormed.call?_fromWire Time hField hSelect hText with
    ⟨reader, hReader, hCall⟩
  rw [Dart.Program.eval,
    hFormed.eval_recordValue times hField record, hValue]
  simp [Dart.Frame.inFactory, hReader, hCall]

theorem eval_readSelect
    (hFormed : collection.WellFormed settings)
    (hField : field ∈ collection.fields)
    (hKind : field.kind = .select)
    {record : Record}
    (hSuits : field.Suits times
      (record.value field.nameText)) :
    (collection.program settings).eval times
        ⟨some record, []⟩ field.draft.readExpression =
      some (field.item times
        (record.value field.nameText)) := by
  have hSelect := Field.isSelect_of_kind hKind
  have hWire := hFormed.eval_recordValue times hField
    record
  simp only [Field.Suits, hKind] at hSuits
  simp only [FieldLayout.readExpression, Field.draft, hKind,
    hSelect, if_true, Dart.TypeName.ofKind, Field.item]
  rcases hSuits with ⟨text, hText, hValue⟩ |
    ⟨hOptional, hValue⟩
  · have hNotEmpty : text ≠ "" :=
      (hFormed.fieldsValued field hField
        hSelect).textsNotEmpty text hText
    have hConstant := hFormed.eval_fromWire times hField
      hSelect hText hValue
    rw [hValue] at hWire ⊢
    cases hRequired : field.isRequired with
    | true => simp [hConstant, hNotEmpty]
    | false =>
        simp [Dart.Program.eval_unlessBlank hWire, hConstant,
          Item.isNull, Item.isBlank, hNotEmpty]
  · rw [hOptional, Bool.not_false, if_pos rfl,
      Dart.Program.eval_unlessBlank hWire]
    rcases hValue with hNull | hBlank
    · simp [hNull, Item.isNull]
    · simp [hBlank, Item.isBlank]

theorem eval_readDate
    (hFormed : collection.WellFormed settings)
    (hField : field ∈ collection.fields)
    (hKind : field.kind = .date)
    {record : Record}
    (hSuits : field.Suits times
      (record.value field.nameText)) :
    (collection.program settings).eval times
        ⟨some record, []⟩ field.draft.readExpression =
      some (field.item times
        (record.value field.nameText)) := by
  have hWire := hFormed.eval_recordValue times hField
    record
  simp only [Field.Suits, hKind] at hSuits
  simp only [FieldLayout.readExpression, Field.draft, hKind,
    Dart.TypeName.ofKind, Field.item]
  rcases hSuits with ⟨text, hValue, time, hParse, _⟩ |
    ⟨hOptional, hNull⟩
  · have hTime : (collection.program settings).eval times
        ⟨some record, []⟩ (.parseTime
          (.recordValue (typeName field.nameText))) =
          some (.time time) := by
      rw [Dart.Program.eval, hWire, hValue]
      simp [hParse]
    rw [hValue] at hWire ⊢
    cases hRequired : field.isRequired with
    | true => simp [hTime, hParse]
    | false =>
        simp [Dart.Program.eval_unlessNull hWire, hTime,
          Item.isNull, hParse]
  · rw [hOptional, Bool.not_false, if_pos rfl,
      Dart.Program.eval_unlessNull hWire]
    simp [hNull, Item.isNull]

/-
  The expression that reads a field gives its member what
  the record holds.
-/
theorem eval_readExpression
    (hFormed : collection.WellFormed settings)
    (hField : field ∈ collection.fields)
    {record : Record}
    (hSuits : field.Suits times
      (record.value field.nameText)) :
    (collection.program settings).eval times
        ⟨some record, []⟩ field.draft.readExpression =
      some (field.item times
        (record.value field.nameText)) := by
  have hWire := hFormed.eval_recordValue times hField
    record
  cases hKind : field.kind with
  | select =>
      exact hFormed.eval_readSelect hField hKind hSuits
  | date => exact hFormed.eval_readDate hField hKind hSuits
  | _ =>
      simp only [FieldLayout.readExpression, Field.draft,
        hKind, Field.item]
      exact hWire

theorem eval_writeSelect
    (hFormed : collection.WellFormed settings)
    (hField : field ∈ collection.fields)
    (hKind : field.kind = .select)
    {value : Value}
    (hSuits : field.Suits times value)
    {members : List (String × Item Time)}
    (hMember : members.lookup (memberName field.nameText) =
      some (field.item times value)) :
    (collection.program settings).eval times ⟨none, members⟩
        field.draft.writeExpression =
      some (.wire (field.stored value)) := by
  have hSelect := Field.isSelect_of_kind hKind
  have hItem :=
    hFormed.eval_member times hField hMember
  have hTable := hFormed.declaration?_toMap hField hSelect
  simp only [Field.Suits, hKind] at hSuits
  simp only [FieldLayout.writeExpression, Field.draft, hKind,
    hSelect, if_true, Dart.Program.eval, Dart.Frame.inFactory,
    Option.isSome_none, hTable] at hItem ⊢
  simp only [hItem, Option.bind_eq_bind, Option.bind_some]
  rcases hSuits with ⟨text, hText, rfl⟩ |
    ⟨_, rfl | rfl⟩
  · have hNotEmpty : text ≠ "" :=
      (hFormed.fieldsValued field hField
        hSelect).textsNotEmpty text hText
    simp only [Field.item, Field.stored, hKind, hNotEmpty,
      if_false]
    exact (hFormed.tableItem?_variant Time hField hSelect
      hText).1
  · rw [hFormed.tableItem?_toMap hField hSelect]
    simp [Field.item, Field.stored, hKind, Dart.heldFor_null]
  · rw [hFormed.tableItem?_toMap hField hSelect]
    simp [Field.item, Field.stored, hKind, Dart.heldFor_null]

theorem eval_writeDate
    (hFormed : collection.WellFormed settings)
    (hField : field ∈ collection.fields)
    (hKind : field.kind = .date)
    {value : Value}
    (hSuits : field.Suits times value)
    {members : List (String × Item Time)}
    (hMember : members.lookup (memberName field.nameText) =
      some (field.item times value)) :
    (collection.program settings).eval times ⟨none, members⟩
        field.draft.writeExpression =
      some (.wire (field.stored value)) := by
  have hItem :=
    hFormed.eval_member times hField hMember
  simp only [Field.Suits, hKind] at hSuits
  simp only [FieldLayout.writeExpression, Field.draft, hKind,
    Dart.TypeName.ofKind]
  rw [Dart.Program.eval, hItem]
  rcases hSuits with ⟨text, rfl, time, hParse, hFormat⟩ |
    ⟨hOptional, rfl⟩
  · simp [Field.item, Field.stored, hKind, hParse, hFormat]
  · simp [Field.item, Field.stored, hKind, hOptional]

/-
  The expression that writes a field gives back what the
  record held.
-/
theorem eval_writeExpression
    (hFormed : collection.WellFormed settings)
    (hField : field ∈ collection.fields)
    {value : Value}
    (hSuits : field.Suits times value)
    {members : List (String × Item Time)}
    (hMember : members.lookup (memberName field.nameText) =
      some (field.item times value)) :
    (collection.program settings).eval times ⟨none, members⟩
        field.draft.writeExpression =
      some (.wire (field.stored value)) := by
  have hItem :=
    hFormed.eval_member times hField hMember
  cases hKind : field.kind with
  | select =>
      exact hFormed.eval_writeSelect hField hKind hSuits
        hMember
  | date =>
      exact hFormed.eval_writeDate hField hKind hSuits hMember
  | _ =>
      simp only [FieldLayout.writeExpression, Field.draft,
        hKind, Field.item, Field.stored] at hItem ⊢
      exact hItem

------------------------------------------------------------
-- Types
------------------------------------------------------------

/- A member can hold what is read for it. -/
theorem admits_item
    (hFormed : collection.WellFormed settings)
    (hField : field ∈ collection.fields)
    {value : Value}
    (hSuits : field.Suits times value) :
    field.draft.type.admits (field.item times value) := by
  have hNull : field.isRequired = false →
      field.draft.type.admits
        (.wire .null : Item Time) := by
    intro hOptional
    simp [Dart.TypeName.admits, Field.draft, hOptional,
      Dart.TypeName.ofKind, Item.isNull]
  cases hKind : field.kind with
  | select =>
      simp only [Field.Suits, hKind] at hSuits
      rcases hSuits with ⟨text, hText, rfl⟩ |
        ⟨hOptional, rfl | rfl⟩
      · have hNotEmpty : text ≠ "" :=
          (hFormed.fieldsValued field hField
            (Field.isSelect_of_kind hKind)).textsNotEmpty
              text hText
        simp [Field.item, hKind, hNotEmpty, Field.draft,
          Dart.TypeName.admits, Dart.TypeName.ofKind,
          Dart.TypeName.baseOf, Item.isNull, Item.type?]
      · simpa [Field.item, hKind] using hNull hOptional
      · simpa [Field.item, hKind] using hNull hOptional
  | date =>
      simp only [Field.Suits, hKind] at hSuits
      rcases hSuits with ⟨text, rfl, time, hParse, _⟩ |
        ⟨hOptional, rfl⟩
      · simp [Field.item, hKind, hParse, Field.draft,
          Dart.TypeName.admits, Dart.TypeName.ofKind,
          Dart.TypeName.baseOf, Item.isNull, Item.type?]
      · simpa [Field.item, hKind] using hNull hOptional
  | other =>
      simp [Field.draft, hKind, Dart.TypeName.admits,
        Dart.TypeName.ofKind, Dart.TypeName.baseOf,
        Dart.TypeName.isUntyped]
  | _ =>
      simp only [Field.Suits, hKind] at hSuits
      rcases hSuits with hHolds | ⟨hOptional, rfl⟩
      · cases value <;>
          simp [FieldKind.holds, Field.item, hKind,
            Field.draft, Dart.TypeName.admits,
            Dart.TypeName.ofKind, Dart.TypeName.baseOf,
            Item.isNull, Item.type?] at hHolds ⊢
      · simpa [Field.item, hKind] using hNull hOptional

end Collection.WellFormed

end PocketDart
