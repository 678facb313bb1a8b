import PocketDart.Machine
import PocketDart.Proofs.Model.Reading

/-
  This file proves that a source with comments keeps all of
  the schema: where two collections lead to the same source,
  they have the same name and the same fields, with equal
  names, kinds, requirements and declared values. The source
  is read up to the factory, part by part, since the text
  from the factory on may be any.

  Key definitions include:
    * `Dart.TypeName.kindOf`
    * `Field.Agrees`

  Key theorems include:
    * `Layout.opening_tells`
    * `Dart.TypeName.kindOf_render`
    * `source_determines_schema`
-/

------------------------------------------------------------
-- Openings
------------------------------------------------------------

namespace PocketDart

theorem headerLines_tell
    {settings : Settings}
    (hComments : settings.addComments = true)
    {name other : String}
    (hTitle : IsTitle name)
    (hOther : IsTitle other)
    {r s : List Char}
    (hEq : block (headerLines settings name) ++ r =
      block (headerLines settings other) ++ s) :
    name = other ∧ r = s := by
  simp only [block_headerLines hComments, block_cons,
    block_nil, titleLine, String.toList_append,
    List.append_assoc, List.append_nil,
    List.append_cancel_left_eq] at hEq
  -- A slash comes after the line break behind the name.
  have hStop : lintLine.toList.head? = some '/' := by
    decide
  have hNone : ∀ {title : String}, IsTitle title →
      '/' ∉ title.toList ++ ['\n'] := by
    intro title hTitle
    rw [List.mem_append, not_or]
    exact ⟨hTitle.slash, by decide⟩
  rw [← List.append_assoc name.toList,
    ← List.append_assoc other.toList] at hEq
  rcases Text.eq_of_append_stop hStop (hNone hTitle)
      (hNone hOther) hEq with
    ⟨hName, hRest⟩
  simp only [List.append_cancel_left_eq] at hRest
  exact ⟨String.ext (List.append_cancel_right hName), hRest⟩

/- Lines behind an empty line begin with a line break. -/
theorem gap_cons_append
    (text rest : String)
    (more : List String) :
    gap ((text ++ rest) :: more) =
      ('\n' :: text.toList) ++
        (rest.toList ++ (['\n'] ++ block more)) := by
  simp only [gap, block_cons, String.toList_append,
    List.append_assoc]
  rfl

/- An enum begins with its keyword. -/
theorem EnumLayout.prefix_gap (layout : EnumLayout) :
    '\n' :: "enum ".toList <+: gap layout.lines := by
  rw [gap_lines, declarationLines, List.append_assoc,
    List.singleton_append, String.append_assoc,
    String.append_assoc, gap_cons_append, List.append_assoc]
  exact List.prefix_append _ _

/- A field begins with the keyword of its member. -/
theorem FieldLayout.prefix_gap (field : FieldLayout) :
    '\n' :: "  final ".toList <+:
      gap field.declarationLines := by
  simp only [declarationLines, String.append_assoc,
    gap_cons_append]
  exact List.prefix_append _ _

namespace Layout

variable {layout other : Layout}
variable {r s : List Char}

theorem enums_tell
    (hSpelled : layout.IsSpelled)
    (hOther : other.IsSpelled)
    {className : String}
    (hEq : layout.enums.flatMap (fun enum =>
          gap enum.lines) ++
        (gap ["class " ++ className ++ " " ++ openBrace] ++
          r) =
      other.enums.flatMap (fun enum => gap enum.lines) ++
        (gap ["class " ++ className ++ " " ++ openBrace] ++
          s)) :
    layout.enums = other.enums ∧ r = s := by
  have hApart : Text.Apart ('\n' :: "enum ".toList)
      (gap ["class " ++ className ++ " " ++ openBrace]) := by
    rw [String.append_assoc, String.append_assoc,
      gap_cons_append]
    exact Text.Apart.append (by decide) _
  rcases EnumLayout.lines_tell.list EnumLayout.prefix_gap
      hApart hSpelled.enums hOther.enums hEq with
    ⟨hSame, hRest⟩
  rw [List.forall₂_eq_eq_eq] at hSame
  exact ⟨hSame, hRest⟩

theorem fieldLines_tell
    (hSpelled : layout.IsSpelled)
    (hOther : other.IsSpelled)
    {className : String}
    (hEq : block layout.fieldLines ++
        (('\n' :: ("  const " ++ className ++ "(" ++
          openBrace).toList) ++ r) =
      block other.fieldLines ++
        (('\n' :: ("  const " ++ className ++ "(" ++
          openBrace).toList) ++ s)) :
    List.Forall₂ (fun field other =>
        field.name = other.name ∧
          field.type.render = other.type.render)
      layout.fields other.fields ∧ r = s := by
  have hApart : Text.Apart ('\n' :: "  final ".toList)
      ('\n' :: ("  const " ++ className ++ "(" ++
        openBrace).toList) := by
    rw [String.append_assoc, String.append_assoc,
      String.toList_append, ← List.cons_append]
    exact Text.Apart.append (by decide) _
  rw [block_fieldLines, block_fieldLines, List.append_assoc,
    List.append_assoc] at hEq
  exact FieldLayout.declarationLines_tell.list
    FieldLayout.prefix_gap hApart hSpelled.fields
    hOther.fields (List.append_cancel_left hEq)

theorem parameters_tell
    (hSpelled : layout.IsSpelled)
    (hOther : other.IsSpelled)
    (hEq : block (layout.allFields.map (·.parameterLine) ++
        ["  " ++ closeBrace ++ ");"]) ++ r =
      block (other.allFields.map (·.parameterLine) ++
        ["  " ++ closeBrace ++ ");"]) ++ s) :
    List.Forall₂ (fun field other =>
        field.required = other.required)
      layout.fields other.fields := by
  have hMark : ∀ field : FieldLayout,
      "    ".toList <+: field.parameterLine.toList := by
    intro field
    simp only [FieldLayout.parameterLine,
      String.toList_append, List.append_assoc]
    exact List.prefix_append _ _
  simp only [allFields, List.map_append, List.append_assoc,
    block_append (systemFields.map _),
    List.append_cancel_left_eq] at hEq
  exact (rows_tell FieldLayout.parameterLine_tells hMark
    (by decide) hSpelled.fields hOther.fields hEq).1

/-
  The opening of a source tells the layout, given that the
  name of the class comes from that of the collection.
-/
theorem opening_tells
    {settings : Settings}
    (hComments : settings.addComments = true)
    (hSpelled : layout.IsSpelled)
    (hOther : other.IsSpelled)
    (hClass : layout.collection = other.collection →
      layout.className = other.className)
    (hEq : layout.opening settings ++ r =
      other.opening settings ++ s) :
    layout.collection = other.collection ∧
      layout.enums = other.enums ∧
      List.Forall₂ (fun field other =>
          field.name = other.name ∧
            field.type.render = other.type.render)
        layout.fields other.fields ∧
      List.Forall₂ (fun field other =>
          field.required = other.required)
        layout.fields other.fields := by
  simp only [opening, List.append_assoc] at hEq
  rcases headerLines_tell hComments hSpelled.collection
      hOther.collection hEq with
    ⟨hName, hEnums⟩
  rw [hClass hName] at hEnums
  rcases enums_tell hSpelled hOther hEnums with
    ⟨hSameEnums, hFields⟩
  have hConstructor : ∀ (layout : Layout) (r : List Char),
      gap layout.constructorLines ++ r =
        ('\n' :: ("  const " ++ layout.className ++ "(" ++
            openBrace).toList) ++
          (['\n'] ++ (block (layout.allFields.map
              (·.parameterLine) ++
            ["  " ++ closeBrace ++ ");"]) ++ r)) := by
    intro layout r
    rw [constructorLines, gap_rows]
    simp only [List.cons_append, List.nil_append]
  rw [hConstructor, hConstructor, hClass hName] at hFields
  rcases fieldLines_tell hSpelled hOther hFields with
    ⟨hSameFields, hParameters⟩
  have hSameRequired := parameters_tell hSpelled hOther
    (List.append_cancel_left hParameters)
  exact ⟨hName, hSameEnums, hSameFields, hSameRequired⟩

end Layout

------------------------------------------------------------
-- Kinds
------------------------------------------------------------

namespace Dart.TypeName

/- The spellings of the types that are not enums. -/
def plainKinds : List (String × FieldKind) :=
  [("String", .text), ("String?", .text), ("num", .number),
   ("num?", .number), ("bool", .bool), ("bool?", .bool),
   ("DateTime", .date), ("DateTime?", .date),
   ("dynamic", .other)]

def kindOf (spelling : String) : FieldKind :=
  (plainKinds.lookup spelling).getD .select

/- No other type is spelled as an enum is. -/
theorem kindOf_of_enum
    (name ending : String)
    (hEnding : ending = "Enum" ∨ ending = "Enum?") :
    kindOf (name ++ ending) = .select := by
  have hNone : ∀ entry ∈ plainKinds,
      ¬ "Enum".toList <:+ entry.1.toList ∧
        ¬ "Enum?".toList <:+ entry.1.toList := by
    decide
  have hSuffix : ending.toList <:+
      (name ++ ending).toList := by
    rw [String.toList_append]
    exact List.suffix_append _ _
  have hLookup : plainKinds.lookup (name ++ ending) =
      none := by
    rw [List.lookup_eq_none_iff]
    intro entry hEntry
    apply bne_iff_ne.mpr
    intro hSame
    rw [hSame] at hSuffix
    rcases hNone entry hEntry with ⟨hPlain, hMarked⟩
    rcases hEnding with rfl | rfl
    · exact hPlain hSuffix
    · exact hMarked hSuffix
  rw [kindOf, hLookup]
  rfl

/- The type of a field tells its kind. -/
theorem kindOf_render
    (kind : FieldKind)
    (name : String)
    (required : Bool) :
    kindOf (ofKind kind name required).render = kind := by
  cases kind with
  | select =>
      rcases (ofKind .select name required).render_cases with
        hType | hType
      · rw [hType]
        exact kindOf_of_enum (typeName name) "Enum"
          (Or.inl rfl)
      · rw [hType]
        have hMarked :
            (ofKind .select name required).base ++ "?" =
              typeName name ++ "Enum?" := by
          simp only [ofKind, baseOf, enumTypeName,
            String.append_assoc]
          rfl
        rw [hMarked]
        exact kindOf_of_enum (typeName name) "Enum?"
          (Or.inr rfl)
  | text => cases required <;> rfl
  | number => cases required <;> rfl
  | bool => cases required <;> rfl
  | date => cases required <;> rfl
  | other => cases required <;> rfl

end Dart.TypeName

------------------------------------------------------------
-- Fields
------------------------------------------------------------

namespace Field

theorem map_value_enumDraft (field : Field) :
    field.enumDraft.variants.map (·.value) =
      field.valueTexts := by
  simp [enumDraft, Variant.ofText, Function.comp_def]

theorem WellValued.declaredValues_eq
    {field : Field}
    (hValued : field.WellValued) :
    field.declaredValues = field.valueTexts.map .text := by
  rw [declaredValues, hValued.areTexts]

theorem required_of_read
    {levels : Nat}
    {data : Value}
    {field : Field}
    (hRead : Field.read levels data = .ok field) :
    field.required = .bool field.isRequired := by
  simp only [Field.read, Fallible.bind_eq_ok,
    Fallible.pure_eq_ok] at hRead
  rcases hRead with ⟨_, _, _, _, _, _, _, _, rfl⟩
  rfl

theorem kind_eq_of_type
    {field other : Field}
    (hType : field.draft.type.render =
      other.draft.type.render) :
    field.kind = other.kind := by
  have hKind := congrArg Dart.TypeName.kindOf hType
  rwa [draft, draft, Dart.TypeName.kindOf_render,
    Dart.TypeName.kindOf_render] at hKind

/- Fields with the same name, kind, requirement and values. -/
structure Agrees (field other : Field) : Prop where
  name : field.name = other.name
  kind : field.kind = other.kind
  required : field.required = other.required
  values : field.isSelect →
    field.declaredValues = other.declaredValues

end Field

theorem forall₂_enumDraft
    {fields others : List Field}
    (hKinds : List.Forall₂ (fun field other =>
      field.kind = other.kind) fields others)
    (hEnums :
      (fields.filter Field.isSelect).map Field.enumDraft =
        (others.filter Field.isSelect).map
          Field.enumDraft) :
    List.Forall₂ (fun field other => field.isSelect →
      field.enumDraft = other.enumDraft) fields others := by
  induction hKinds with
  | nil => exact List.Forall₂.nil
  | @cons field other fields others hKind _ ih =>
      have hSame : field.isSelect = other.isSelect := by
        rw [Field.isSelect, Field.isSelect, hKind]
      cases hSelect : field.isSelect with
      | false =>
          rw [List.filter_cons_of_neg (by simp [hSelect]),
            List.filter_cons_of_neg
              (by simp [← hSame, hSelect])] at hEnums
          refine List.Forall₂.cons ?_ (ih hEnums)
          intro hSome
          rw [hSelect] at hSome
          cases hSome
      | true =>
          rw [List.filter_cons_of_pos hSelect,
            List.filter_cons_of_pos
              (by rw [← hSame, hSelect]),
            List.map_cons, List.map_cons] at hEnums
          rcases List.cons.inj hEnums with ⟨hEnum, hRest⟩
          exact List.Forall₂.cons (fun _ => hEnum)
            (ih hRest)

------------------------------------------------------------
-- Collections
------------------------------------------------------------

namespace Collection

variable {settings : Settings}
variable {collection other : Collection}

theorem required_of_read
    {levels : Nat}
    {data : Value}
    (hRead : Collection.read levels data = .ok collection) :
    ∀ field ∈ collection.fields,
      field.required = .bool field.isRequired := by
  simp only [Collection.read, Fallible.bind_eq_ok,
    Fallible.pure_eq_ok] at hRead
  rcases hRead with
    ⟨_, _, _, _, _, _, _, _, _, hFields, rfl⟩
  intro field hField
  rcases Fallible.exists_of_mapM_eq_ok hFields field
      hField with
    ⟨data, _, hFieldRead⟩
  exact Field.required_of_read hFieldRead

/-
  Well-formed collections whose sources begin with the same
  opening have the same name, and fields with the same names,
  kinds, requirements and texts as declared values.
-/
theorem WellFormed.alike_of_opening
    (hComments : settings.addComments = true)
    (hFormed : collection.WellFormed settings)
    (hOther : other.WellFormed settings)
    {r s : List Char}
    (hEq : (collection.draft settings).opening settings ++ r =
      (other.draft settings).opening settings ++ s) :
    collection.nameText = other.nameText ∧
      List.Forall₂ (fun field other : Field =>
          (field.nameText = other.nameText ∧
            field.kind = other.kind ∧
            field.isRequired = other.isRequired) ∧
          (field.isSelect →
            field.valueTexts = other.valueTexts))
        collection.fields other.fields := by
  have hClass : (collection.draft settings).collection =
        (other.draft settings).collection →
      (collection.draft settings).className =
        (other.draft settings).className :=
    fun hName => congrArg (className settings) hName
  rcases Layout.opening_tells hComments hFormed.isSpelled
      hOther.isSpelled hClass hEq with
    ⟨hName, hEnums, hFields, hRequired⟩
  simp only [draft, List.forall₂_map_left_iff,
    List.forall₂_map_right_iff] at hFields hRequired
  have hTypes := hFields.imp
    (fun (field other : Field) hSame =>
      And.intro hSame.1 (Field.kind_eq_of_type hSame.2))
  rw [enums_draft, enums_draft] at hEnums
  have hDrafts := forall₂_enumDraft
    (hTypes.imp fun _ _ hSame => hSame.2) hEnums
  refine ⟨hName, ?_⟩
  have hKeys := List.Forall₂.mp
    (fun (field other : Field) hType hSame =>
      And.intro hType.1 (And.intro hType.2 hSame))
    hTypes hRequired
  apply List.Forall₂.mp _ hKeys hDrafts
  intro field other hKey hDraft
  refine ⟨hKey, fun hSelect => ?_⟩
  rw [← field.map_value_enumDraft, hDraft hSelect,
    other.map_value_enumDraft]

end Collection

------------------------------------------------------------
-- Sources
------------------------------------------------------------

theorem Collection.source_of_emit
    {settings : Settings}
    {collection : Collection}
    {model : GeneratedModel}
    (hEmit : collection.emit settings = .ok model) :
    collection.WellFormed settings ∧
      model.source = Text.tidy
        ((collection.draft settings).source settings) := by
  rcases Fallible.map_eq_ok.mp hEmit with
    ⟨layout, hLayout, rfl⟩
  rcases Collection.layout_eq_ok_iff.mp hLayout with
    ⟨hFormed, rfl⟩
  exact ⟨hFormed, rfl⟩

/-
  A source with comments determines the schema: collections
  that were read and that lead to the same source have the
  same name, and their fields agree one by one.
-/
theorem source_determines_schema
    {settings : Settings}
    {levels : Nat}
    {data data' : Value}
    {collection collection' : Collection}
    {model model' : GeneratedModel}
    (hComments : settings.addComments = true)
    (hRead : Collection.read levels data = .ok collection)
    (hRead' :
      Collection.read levels data' = .ok collection')
    (hEmit : collection.emit settings = .ok model)
    (hEmit' : collection'.emit settings = .ok model')
    (hSource : model.source = model'.source) :
    collection.name = collection'.name ∧
      List.Forall₂ Field.Agrees
        collection.fields collection'.fields := by
  rcases Collection.source_of_emit hEmit with
    ⟨hFormed, hText⟩
  rcases Collection.source_of_emit hEmit' with
    ⟨hFormed', hText'⟩
  have hTidy :=
    hFormed.isSpelled.toList_tidy_source settings
  have hTidy' :=
    hFormed'.isSpelled.toList_tidy_source settings
  rw [← hText, hSource, hText', hTidy'] at hTidy
  rcases hFormed.alike_of_opening hComments hFormed'
      hTidy.symm with
    ⟨hName, hFields⟩
  constructor
  · rw [hFormed.isText, hFormed'.isText, hName]
  · rw [List.forall₂_iff_zip]
    refine ⟨hFields.length_eq, ?_⟩
    intro field field' hZip
    have hMem := List.of_mem_zip hZip
    have hSound := hFormed.sound field hMem.1
    have hSound' := hFormed'.sound field' hMem.2
    rcases List.forall₂_zip hFields hZip with
      ⟨⟨hNameText, hKind, hRequired⟩, hValues⟩
    constructor
    · rw [hSound.wellNamed.isText, hSound'.wellNamed.isText,
        hNameText]
    · exact hKind
    · rw [Collection.required_of_read hRead field hMem.1,
        Collection.required_of_read hRead' field' hMem.2,
        hRequired]
    · intro hSelect
      have hSelect' : field'.isSelect := by
        rwa [Field.isSelect, ← hKind]
      rw [(hSound.wellValued hSelect).declaredValues_eq,
        (hSound'.wellValued hSelect').declaredValues_eq,
        hValues hSelect]

/-
  One schema as an older and as a newer server describes it:
  the two descriptions lead to the same source.
-/
theorem source_determines_schema_of_versions :
    let older : Value := .object
      [("name", .text "posts"),
        ("schema", .list
          [.object
            [("name", .text "status"),
              ("type", .text "select"),
              ("required", .bool true),
              ("options", .object
                [("values", .list
                  [.text "open", .text "on_hold"])])]])]
    let newer : Value := .object
      [("id", .text "pbc_1"), ("name", .text "posts"),
        ("fields", .list
          [.object [("name", .text "id")],
            .object
              [("name", .text "status"),
                ("type", .text "select"),
                ("required", .bool true),
                ("values", .list
                  [.text "open", .text "on_hold"])]])]
    let levels := Machine.usual.tagLevels
    ∃ collection collection' model model',
      Collection.read levels older = .ok collection ∧
      Collection.read levels newer = .ok collection' ∧
      collection.emit {} = .ok model ∧
      collection'.emit {} = .ok model' ∧
      model.source = model'.source ∧
      collection.name = collection'.name ∧
      List.Forall₂ Field.Agrees
        collection.fields collection'.fields := by
  intro older newer levels
  have hRead : ∃ collection,
      Collection.read levels older = .ok collection :=
    ⟨_, rfl⟩
  have hRead' : ∃ collection,
      Collection.read levels newer = .ok collection :=
    ⟨_, rfl⟩
  rcases hRead with ⟨collection, hRead⟩
  rcases hRead' with ⟨collection', hRead'⟩
  have hEmit : collection.emit {} =
      .ok ((collection.draft {}).model {}) := by
    cases hRead
    rfl
  have hEmit' : collection'.emit {} =
      .ok ((collection'.draft {}).model {}) := by
    cases hRead'
    rfl
  have hSource : ((collection.draft {}).model {}).source =
      ((collection'.draft {}).model {}).source := by
    cases hRead
    cases hRead'
    rfl
  exact ⟨collection, collection', _, _, hRead, hRead',
    hEmit, hEmit', hSource,
    source_determines_schema rfl hRead hRead' hEmit hEmit'
      hSource⟩

end PocketDart
