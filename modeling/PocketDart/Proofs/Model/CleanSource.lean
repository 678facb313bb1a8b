import PocketDart.Proofs.Model.Clean
import PocketDart.Proofs.Model.Recovery

/-
  This file proves that a source is in its clean form when
  it is put together. Whatever the names, the literals and
  the import hold, no line of it ends in a blank, and no two
  empty lines follow each other. Only the type of records is
  written as it is, so that it may not hold a line break.

  Key definitions include:
    * `Dart.Expression.IsSpelled`

  Key theorems include:
    * `Dart.Expression.IsSpelled.steady`
    * `Layout.IsSpelled.kept_tail`
    * `Layout.IsSpelled.exists_tidied_closing`
    * `Layout.IsSpelled.tidy_source_eq`
    * `emitted_source_is_clean`
-/

------------------------------------------------------------
-- Expressions
------------------------------------------------------------

namespace PocketDart

/- An expression all of whose names are steady. -/
def Dart.Expression.IsSpelled : Dart.Expression → Prop
  | .recordValue constant => IsSteady constant
  | .recordField name => IsSteady name
  | .member name => IsSteady name
  | .call function argument =>
      IsSteady function ∧ argument.IsSpelled
  | .lookup table key => IsSteady table ∧ key.IsSpelled
  | .parseTime text => text.IsSpelled
  | .formatTime time _ => time.IsSpelled
  | .unlessNull tested value =>
      tested.IsSpelled ∧ value.IsSpelled
  | .unlessBlank tested value =>
      tested.IsSpelled ∧ value.IsSpelled

theorem Dart.Expression.IsSpelled.steady
    {expression : Dart.Expression}
    (hSpelled : expression.IsSpelled) :
    IsSteady expression.render := by
  induction expression with
  | recordValue constant =>
      have hRecord : IsSteady recordName :=
        isSteady_text (by decide)
      change IsSteady
        (recordName ++ ".data[" ++ constant ++ "]")
      exact ((hRecord.text (by decide)).append
        hSpelled).text (by decide)
  | recordField name =>
      have hRecord : IsSteady recordName :=
        isSteady_text (by decide)
      change IsSteady (recordName ++ "." ++ name)
      exact (hRecord.text (by decide)).append hSpelled
  | member name => exact hSpelled
  | call function argument ih =>
      change IsSteady
        (function ++ "(" ++ argument.render ++ ")")
      exact ((hSpelled.1.text (by decide)).append
        (ih hSpelled.2)).text (by decide)
  | lookup table key ih =>
      change IsSteady (table ++ "[" ++ key.render ++ "]")
      exact ((hSpelled.1.text (by decide)).append
        (ih hSpelled.2)).text (by decide)
  | parseTime text ih =>
      change IsSteady
        ("DateTime.parse(" ++ text.render ++ ")")
      exact ((isSteady_text (by decide)).append
        (ih hSpelled)).text (by decide)
  | formatTime time nullAware ih =>
      have hMark : IsSteady
          (if nullAware then "?." else ".") := by
        split
        · exact isSteady_text (by decide)
        · exact isSteady_text (by decide)
      change IsSteady (time.render ++
        (if nullAware then "?." else ".") ++
          "toIso8601String()")
      exact ((ih hSpelled).append hMark).text (by decide)
  | unlessNull tested value ihTested ihValue =>
      change IsSteady (tested.render ++ " != null ? " ++
        value.render ++ " : null")
      exact (((ihTested hSpelled.1).text (by decide)).append
        (ihValue hSpelled.2)).text (by decide)
  | unlessBlank tested value ihTested ihValue =>
      have hTested := ihTested hSpelled.1
      change IsSteady (tested.render ++ " == null || " ++
        tested.render ++ " == '' ? null : " ++ value.render)
      exact (((hTested.text (by decide)).append
        hTested).text (by decide)).append
          (ihValue hSpelled.2)

------------------------------------------------------------
-- Rows of a Field
------------------------------------------------------------

theorem firm_namedRow
    {name : String}
    {value : Dart.Expression}
    (hName : IsSteady name)
    (hValue : value.IsSpelled) :
    IsFirm (namedRow name value) :=
  ((((isSteady_text (by decide)).append hName).text
    (by decide)).append hValue.steady).ended (by decide)

theorem firm_systemArguments :
    ∀ argument ∈ systemArguments,
      IsFirm (namedRow argument.1 argument.2) := by
  have hId : IsSteady "id" := isSteady_text (by decide)
  have hCreated : IsSteady "created" :=
    isSteady_text (by decide)
  have hUpdated : IsSteady "updated" :=
    isSteady_text (by decide)
  rw [systemArguments, List.forall_mem_cons,
    List.forall_mem_cons, List.forall_mem_singleton]
  exact ⟨firm_namedRow hId hId,
    firm_namedRow hCreated hCreated,
    firm_namedRow hUpdated hUpdated⟩

namespace FieldLayout.IsSpelled

variable {field : FieldLayout}

theorem readExpression
    (hSpelled : field.IsSpelled)
    (hEnum : ∀ layout, field.enum? = some layout →
      layout.IsSpelled) :
    field.readExpression.IsSpelled := by
  have hWire : IsSteady field.constant :=
    hSpelled.constant.steady
  unfold FieldLayout.readExpression
  dsimp only
  split
  · next layout _ hLayout =>
      have hReader : IsSteady layout.fromWire :=
        (hEnum layout hLayout).steady_lookupName
          (isSteady_text (by decide))
      split
      · exact ⟨hWire, hReader, hWire⟩
      · exact ⟨hReader, hWire⟩
  · split
    · exact ⟨hWire, hWire⟩
    · exact hWire
  · exact hWire

theorem writeExpression
    (hSpelled : field.IsSpelled)
    (hEnum : ∀ layout, field.enum? = some layout →
      layout.IsSpelled) :
    field.writeExpression.IsSpelled := by
  have hMember : IsSteady field.member :=
    hSpelled.member.steady
  unfold FieldLayout.writeExpression
  dsimp only
  split
  · next layout _ hLayout =>
      exact ⟨(hEnum layout hLayout).steady_lookupName
        (isSteady_text (by decide)), hMember⟩
  · exact hMember
  · exact hMember

theorem firm_readLine
    (hSpelled : field.IsSpelled)
    (hEnum : ∀ layout, field.enum? = some layout →
      layout.IsSpelled) :
    IsFirm field.readLine :=
  firm_namedRow hSpelled.member.steady
    (hSpelled.readExpression hEnum)

theorem firm_writeLine
    (hSpelled : field.IsSpelled)
    (hEnum : ∀ layout, field.enum? = some layout →
      layout.IsSpelled) :
    IsFirm field.writeLine :=
  firm_namedRow hSpelled.constant.steady
    (hSpelled.writeExpression hEnum)

end FieldLayout.IsSpelled

------------------------------------------------------------
-- Sources
------------------------------------------------------------

/- After the last line nothing is left to be tidied. -/
theorem Text.tidied_nil : Text.tidied false [] = [] := rfl

namespace Layout.IsSpelled

variable {settings : Settings}
variable {layout : Layout}

theorem enum
    (hSpelled : layout.IsSpelled)
    {field : FieldLayout}
    (hField : field ∈ layout.fields)
    (enum : EnumLayout)
    (hEnum : field.enum? = some enum) :
    enum.IsSpelled :=
  hSpelled.enums enum
    (List.mem_filterMap.mpr ⟨field, hField, hEnum⟩)

theorem firm_bodyLines
    (hSpelled : layout.IsSpelled) :
    ∀ line ∈ layout.bodyLines, IsFirm line := by
  have hClass : IsSteady layout.className :=
    hSpelled.className.steady
  have hReturn : IsFirm ("    return " ++
      layout.className ++ "(") :=
    ((isSteady_text (by decide)).append hClass).ended
      (by decide)
  have hEnd : IsFirm ("  " ++ closeBrace) :=
    (isSteady_text (by decide)).ended (by decide)
  rw [Layout.bodyLines, List.forall_mem_append,
    List.forall_mem_append, List.forall_mem_append,
    List.forall_mem_map, List.forall_mem_map]
  refine ⟨⟨⟨?_, firm_systemArguments⟩, ?_⟩, ?_⟩
  · rwa [List.forall_mem_singleton]
  · intro field hField
    exact (hSpelled.fields field hField).firm_readLine
      (hSpelled.enum hField)
  · rw [List.forall_mem_cons, List.forall_mem_singleton]
    exact ⟨isFirm_text (by decide), hEnd⟩

theorem firm_toMapLines
    (hSpelled : layout.IsSpelled) :
    ∀ line ∈ layout.toMapLines, IsFirm line := by
  have hHead : IsFirm
      ("  Map<String, dynamic> toMap() " ++ openBrace) :=
    (isSteady_text (by decide)).ended (by decide)
  have hReturn : IsFirm ("    return " ++ openBrace) :=
    (isSteady_text (by decide)).ended (by decide)
  have hClose : IsFirm ("    " ++ closeBrace ++ ";") :=
    ((isSteady_text (by decide)).text (by decide)).ended
      (by decide)
  have hEnd : IsFirm ("  " ++ closeBrace) :=
    (isSteady_text (by decide)).ended (by decide)
  rw [Layout.toMapLines, List.forall_mem_append,
    List.forall_mem_append, List.forall_mem_map]
  refine ⟨⟨?_, ?_⟩, ?_⟩
  · rw [List.forall_mem_cons, List.forall_mem_singleton]
    exact ⟨hHead, hReturn⟩
  · intro field hField
    exact (hSpelled.fields field hField).firm_writeLine
      (hSpelled.enum hField)
  · rw [List.forall_mem_cons, List.forall_mem_singleton]
    exact ⟨hClose, hEnd⟩

/- The clean form keeps what follows the first line. -/
theorem kept_tail
    (hSpelled : layout.IsSpelled) :
    Text.Kept layout.tail := by
  have hBody : Text.Kept (block layout.bodyLines) :=
    kept_block hSpelled.firm_bodyLines
  have hToMap : Text.Kept (gap layout.toMapLines) :=
    kept_gap (by simp [Layout.toMapLines])
      hSpelled.firm_toMapLines
  have hEnd : Text.Kept (block [closeBrace]) := by
    apply kept_block
    rw [List.forall_mem_singleton]
    exact isFirm_text (by decide)
  exact hBody.append (hToMap.append hEnd)

theorem tidied_tail
    (hSpelled : layout.IsSpelled) :
    Text.tidied false layout.tail = layout.tail := by
  have hKept := hSpelled.kept_tail []
  rwa [List.append_nil, Text.tidied_nil,
    List.append_nil] at hKept

/- The first line of the factory begins and ends firmly. -/
theorem firm_factoryStart
    (hSpelled : layout.IsSpelled) :
    IsFirm layout.factoryStart :=
  ((isSteady_text (by decide)).append
    hSpelled.className.steady).ended (by decide)

@[simp]
theorem firm_factoryEnd : IsFirm Layout.factoryEnd :=
  (isSteady_text (by decide)).ended (by decide)

/- What the type of records holds is tidied in between. -/
theorem exists_tidied_closing
    (hSpelled : layout.IsSpelled)
    (settings : Settings) :
    ∃ front, Text.tidied false (layout.closing settings) =
      '\n' :: (layout.factoryStart.toList ++ (front ++
        (Layout.factoryEnd.toList ++
          '\n' :: layout.tail))) := by
  have hStart := hSpelled.firm_factoryStart
  have hBreak : '\n' ∉ Layout.factoryEnd.toList := by decide
  rcases hStart.steady.exists_tidied_append hStart.ends
      hBreak firm_factoryEnd.ends true
      settings.recordType.toList layout.tail with
    ⟨front, hFront⟩
  refine ⟨front, ?_⟩
  rw [Layout.closing_eq, Text.tidied_break, hFront,
    hSpelled.tidied_tail]
  rfl

/- A source is its own clean form. -/
theorem tidy_source_eq
    (hSpelled : layout.IsSpelled)
    (hType : '\n' ∉ settings.recordType.toList) :
    Text.tidy (layout.source settings) =
      layout.source settings := by
  have hRecord : IsSteady settings.recordType :=
    Text.steady_of_notMem hType
  have hStart : IsFirm (layout.factoryStart ++
      settings.recordType ++ Layout.factoryEnd) :=
    (hSpelled.firm_factoryStart.steady.append
      hRecord).firm firm_factoryEnd
  have hKept : Text.Kept (layout.closing settings) := by
    have hLine : layout.closing settings =
        gap [layout.factoryStart ++ settings.recordType ++
          Layout.factoryEnd] ++ layout.tail := by
      simp [Layout.closing_eq, gap, block_cons]
    rw [hLine]
    apply Text.Kept.append _ hSpelled.kept_tail
    apply kept_gap (List.cons_ne_nil _ _)
    rwa [List.forall_mem_singleton]
  have hClosing := hKept []
  rw [List.append_nil, Text.tidied_nil,
    List.append_nil] at hClosing
  apply String.ext
  rw [hSpelled.toList_tidy_source, hClosing,
    Layout.toList_source]

end Layout.IsSpelled

/-
  The source of every collection that has a model stays as
  it was put together, if the type of records has no line
  break: the clean form changes no character of it.
-/
theorem emitted_source_is_clean
    {settings : Settings}
    {collection : Collection}
    {model : GeneratedModel}
    (hType : '\n' ∉ settings.recordType.toList)
    (hEmit : collection.emit settings = .ok model) :
    ∃ layout,
      collection.layout settings = .ok layout ∧
        Text.tidy (layout.source settings) =
          layout.source settings ∧
        model.source = layout.source settings := by
  rcases Collection.source_of_emit hEmit with
    ⟨hFormed, hSource⟩
  have hClean := hFormed.isSpelled.tidy_source_eq hType
  exact ⟨_, Collection.layout_eq_ok_iff.mpr ⟨hFormed, rfl⟩,
    hClean, hSource.trans hClean⟩

/-
  A name that ends in a line break and literals that end in
  blanks: the title is followed by an empty line, and the
  source stays as it is.
-/
theorem notes_source_is_clean :
    let settings : Settings :=
      { recordImport := "notes.dart ", recordType := "Note "
        classSuffix := "" }
    let collection : Collection :=
      { name := .text "notes\n", id := .null
        kind := .text "base", system := false
        fields :=
          [{ name := .text "state_", kind := .select
             required := .bool false, tag := .text "select"
             options := [("values", .list
               [.text "open", .text "on_hold"])] }] }
    ∃ model layout,
      '\n' ∉ settings.recordType.toList ∧
        collection.emit settings = .ok model ∧
        collection.layout settings = .ok layout ∧
        Text.tidy (layout.source settings) =
          layout.source settings ∧
        model.source = layout.source settings := by
  intro settings collection
  have hType : '\n' ∉ settings.recordType.toList := by
    decide
  have hEmit : collection.emit settings =
      .ok ((collection.draft settings).model settings) := by
    dsimp only [settings, collection]
    rfl
  rcases emitted_source_is_clean hType hEmit with
    ⟨layout, hLayout, hClean, hSource⟩
  exact ⟨_, layout, hType, hEmit, hLayout, hClean, hSource⟩

end PocketDart
