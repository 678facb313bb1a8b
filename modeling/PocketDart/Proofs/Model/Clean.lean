import PocketDart.Proofs.Dart.Word
import PocketDart.Proofs.Model.Acceptance
import PocketDart.Proofs.Model.Lines
import PocketDart.Proofs.Naming.Raw

/-
  This file proves that the clean form leaves a source as it
  is up to the factory, where the first text comes that
  nobody checks. The names of a well-formed collection are
  words, so that no line before the factory ends in a blank.

  Key definitions include:
    * `IsFirm`
    * `EnumLayout.IsSpelled`
    * `FieldLayout.IsSpelled`
    * `Layout.IsSpelled`

  Key theorems include:
    * `kept_gap`
    * `Layout.IsSpelled.toList_tidy_source`
    * `Collection.WellFormed.isSpelled`
-/

------------------------------------------------------------
-- Firm Lines
------------------------------------------------------------

namespace PocketDart

/- A text whose line breaks do not follow blanks. -/
def IsSteady (text : String) : Prop :=
  Text.Steady text.toList

/- A line that may be ended by a line break. -/
structure IsFirm (line : String) : Prop where
  steady : IsSteady line
  ends : Text.EndsFirm line.toList

theorem isSteady_text
    {cs : List Char}
    (hNone : '\n' ∉ cs) :
    IsSteady (.ofList cs) := by
  rw [IsSteady, String.toList_ofList]
  exact Text.steady_of_notMem hNone

/- A literal has no line breaks. -/
@[simp]
theorem isSteady_literal (s : String) :
    IsSteady (Dart.literal s) :=
  Text.steady_of_notMem (Dart.break_notMem_literal s)

theorem isFirm_text
    {cs : List Char}
    (hFirm : '\n' ∉ cs ∧ Text.EndsFirm cs) :
    IsFirm (.ofList cs) := by
  refine ⟨isSteady_text hFirm.1, ?_⟩
  rw [String.toList_ofList]
  exact hFirm.2

namespace IsSteady

variable {first more : String}

theorem append
    (hFirst : IsSteady first)
    (hMore : IsSteady more) :
    IsSteady (first ++ more) := by
  rw [IsSteady, String.toList_append]
  exact Text.Steady.append hFirst hMore

theorem text
    (hFirst : IsSteady first)
    {cs : List Char}
    (hNone : '\n' ∉ cs) :
    IsSteady (first ++ .ofList cs) :=
  hFirst.append (isSteady_text hNone)

/- A steady text makes a line with a firm end. -/
theorem firm
    (hFirst : IsSteady first)
    (hMore : IsFirm more) :
    IsFirm (first ++ more) := by
  refine ⟨hFirst.append hMore.steady, ?_⟩
  rw [String.toList_append]
  exact hMore.ends.append_left first.toList

/- It also does so with one without line breaks. -/
theorem ended
    (hFirst : IsSteady first)
    {cs : List Char}
    (hFirm : '\n' ∉ cs ∧ Text.EndsFirm cs) :
    IsFirm (first ++ .ofList cs) :=
  hFirst.firm (isFirm_text hFirm)

end IsSteady

section

variable {lines : List String}

theorem steady_block
    (hFirm : ∀ line ∈ lines, IsFirm line) :
    Text.Steady (block lines) := by
  induction lines with
  | nil => exact Text.steady_of_notMem (by simp)
  | cons line more ih =>
      rw [List.forall_mem_cons] at hFirm
      rw [block_cons, ← List.append_assoc]
      exact (hFirm.1.steady.append_break hFirm.1.ends).append
        (ih hFirm.2)

/- Lines end in a line break. -/
theorem getLast?_block
    (hSome : lines ≠ []) :
    (block lines).getLast? = some '\n' := by
  rw [← toList_linesText hSome]
  exact List.getLast?_concat

theorem kept_block
    (hFirm : ∀ line ∈ lines, IsFirm line) :
    Text.Kept (block lines) := by
  apply (steady_block hFirm).kept
  by_cases hSome : lines = []
  · subst hSome
    exact Or.inl rfl
  · exact Or.inr (getLast?_block hSome)

theorem kept_gap
    (hSome : lines ≠ [])
    (hFirm : ∀ line ∈ lines, IsFirm line) :
    Text.Kept (gap lines) :=
  (steady_block hFirm).kept_break (getLast?_block hSome)

/- What it keeps one by one, it keeps together. -/
theorem kept_flatMap
    {A : Type}
    {values : List A}
    {write : A → List Char}
    (hKept : ∀ value ∈ values, Text.Kept (write value)) :
    Text.Kept (values.flatMap write) := by
  induction values with
  | nil => exact Text.kept_nil
  | cons value more ih =>
      rw [List.forall_mem_cons] at hKept
      rw [List.flatMap_cons]
      exact hKept.1.append (ih hKept.2)

end

------------------------------------------------------------
-- Enums
------------------------------------------------------------

theorem firm_rows
    {A : Type}
    {first last : String}
    {values : List A}
    {write : A → String}
    (hFirst : IsFirm first)
    (hValues : ∀ value ∈ values, IsFirm (write value))
    (hLast : IsFirm last) :
    ∀ line ∈ [first] ++ values.map write ++ [last],
      IsFirm line := by
  rw [List.forall_mem_append, List.forall_mem_append,
    List.forall_mem_singleton, List.forall_mem_singleton,
    List.forall_mem_map]
  exact ⟨⟨hFirst, hValues⟩, hLast⟩

/- An enum all of whose names are words. -/
structure EnumLayout.IsSpelled
    (layout : EnumLayout) : Prop where
  typeName : Dart.IsWord layout.typeName
  member : Dart.IsWord layout.member
  variants : ∀ variant ∈ layout.variants,
    Dart.IsWord variant.name

namespace EnumLayout.IsSpelled

variable {layout : EnumLayout}

/- The names of an enum are steady. -/
theorem steady_typeName
    (hSpelled : layout.IsSpelled) :
    IsSteady layout.typeName :=
  hSpelled.typeName.steady

theorem steady_lookupName
    (hSpelled : layout.IsSpelled)
    {ending : String}
    (hEnding : IsSteady ending) :
    IsSteady ("_" ++ layout.member ++ ending) :=
  ((isSteady_text (by decide)).append
    hSpelled.member.steady).append hEnding

theorem firm_declarationLines
    (hSpelled : layout.IsSpelled) :
    ∀ line ∈ layout.declarationLines, IsFirm line := by
  have hType := hSpelled.steady_typeName
  apply firm_rows
  · exact (((isSteady_text (by decide)).append hType).text
      (by decide)).ended (by decide)
  · intro variant hVariant
    have hName : IsSteady variant.name :=
      (hSpelled.variants variant hVariant).steady
    exact ((isSteady_text (by decide)).append hName).ended
      (by decide)
  · exact isFirm_text (by decide)

theorem firm_toMapLines
    (hSpelled : layout.IsSpelled) :
    ∀ line ∈ layout.toMapLines, IsFirm line := by
  have hType := hSpelled.steady_typeName
  have hTable : IsSteady layout.toMap :=
    hSpelled.steady_lookupName (isSteady_text (by decide))
  apply firm_rows
  · exact (((((isSteady_text (by decide)).append hTable).text
      (by decide)).append hType).text (by decide)).ended
        (by decide)
  · intro variant hVariant
    have hName : IsSteady variant.name :=
      (hSpelled.variants variant hVariant).steady
    have hValue := isSteady_literal variant.value
    exact ((((((isSteady_text (by decide)).append hType).text
      (by decide)).append hName).text (by decide)).append
        hValue).ended (by decide)
  · exact (isSteady_text (by decide)).ended (by decide)

theorem firm_fromMapLines
    (hSpelled : layout.IsSpelled) :
    ∀ line ∈ layout.fromMapLines, IsFirm line := by
  have hType := hSpelled.steady_typeName
  have hTable : IsSteady layout.fromMap :=
    hSpelled.steady_lookupName (isSteady_text (by decide))
  apply firm_rows
  · exact (((((isSteady_text (by decide)).append hTable).text
      (by decide)).append hType).text (by decide)).ended
        (by decide)
  · intro variant hVariant
    have hName : IsSteady variant.name :=
      (hSpelled.variants variant hVariant).steady
    have hValue := isSteady_literal variant.value
    exact ((((((isSteady_text (by decide)).append hValue).text
      (by decide)).append hType).text (by decide)).append
        hName).ended (by decide)
  · exact (isSteady_text (by decide)).ended (by decide)

theorem firm_fromWireLines
    (hSpelled : layout.IsSpelled) :
    ∀ line ∈ layout.fromWireLines, IsFirm line := by
  have hTable : IsSteady layout.fromMap :=
    hSpelled.steady_lookupName (isSteady_text (by decide))
  have hReader : IsSteady layout.fromWire :=
    hSpelled.steady_lookupName (isSteady_text (by decide))
  have hLabel := isSteady_literal layout.fieldName
  have hHead : IsFirm (layout.typeName ++ " " ++
      layout.fromWire ++ "(Object? value) " ++ openBrace) :=
    (((hSpelled.steady_typeName.text (by decide)).append
      hReader).text (by decide)).ended (by decide)
  have hResult : IsFirm ("  final result = " ++
      layout.fromMap ++ "[value];") :=
    ((isSteady_text (by decide)).append hTable).ended
      (by decide)
  have hTest : IsFirm ("  if (result == null) " ++
      openBrace) :=
    (isSteady_text (by decide)).ended (by decide)
  have hThrow : IsFirm
      ("    throw ArgumentError.value(value, " ++
        Dart.literal layout.fieldName ++
        ", 'Unmapped enum value');") :=
    ((isSteady_text (by decide)).append hLabel).ended
      (by decide)
  have hClose : IsFirm ("  " ++ closeBrace) :=
    (isSteady_text (by decide)).ended (by decide)
  have hReturn : IsFirm "  return result;" :=
    isFirm_text (by decide)
  have hEnd : IsFirm closeBrace := isFirm_text (by decide)
  intro line hLine
  simp only [fromWireLines, List.mem_cons,
    List.not_mem_nil, or_false] at hLine
  rcases hLine with rfl | rfl | rfl | rfl | rfl | rfl | rfl
  · exact hHead
  · exact hResult
  · exact hTest
  · exact hThrow
  · exact hClose
  · exact hReturn
  · exact hEnd

/- The clean form keeps an enum behind an empty line. -/
theorem kept
    (hSpelled : layout.IsSpelled) :
    Text.Kept (gap layout.lines) := by
  have hDeclaration := kept_gap
    (by simp [declarationLines])
    hSpelled.firm_declarationLines
  have hToMap := kept_gap (by simp [toMapLines])
    hSpelled.firm_toMapLines
  have hFromMap := kept_gap (by simp [fromMapLines])
    hSpelled.firm_fromMapLines
  have hFromWire := kept_gap (by simp [fromWireLines])
    hSpelled.firm_fromWireLines
  rw [gap_lines]
  exact hDeclaration.append
    (hToMap.append (hFromMap.append hFromWire))

end EnumLayout.IsSpelled

------------------------------------------------------------
-- Fields
------------------------------------------------------------

/- A field all of whose names are words. -/
structure FieldLayout.IsSpelled
    (field : FieldLayout) : Prop where
  base : Dart.IsWord field.type.base
  member : Dart.IsWord field.member
  constant : Dart.IsWord field.constant

theorem Dart.TypeName.render_cases (type : Dart.TypeName) :
    type.render = type.base ∨
      type.render = type.base ++ "?" := by
  unfold Dart.TypeName.render
  split
  · exact Or.inr rfl
  · exact Or.inl rfl

namespace FieldLayout.IsSpelled

variable {field : FieldLayout}

theorem steady_type
    (hSpelled : field.IsSpelled) :
    IsSteady field.type.render := by
  have hBase : IsSteady field.type.base :=
    hSpelled.base.steady
  rcases field.type.render_cases with hType | hType
  · rwa [hType]
  · rw [hType]
    exact hBase.text (by decide)

theorem firm_declarationLines
    (hSpelled : field.IsSpelled) :
    ∀ line ∈ field.declarationLines, IsFirm line := by
  have hType := hSpelled.steady_type
  have hMember : IsSteady field.member :=
    hSpelled.member.steady
  have hConstant : IsSteady field.constant :=
    hSpelled.constant.steady
  have hName := isSteady_literal field.name
  rw [declarationLines, List.forall_mem_cons,
    List.forall_mem_singleton]
  constructor
  · exact ((((isSteady_text (by decide)).append hType).text
      (by decide)).append hMember).ended (by decide)
  · exact ((((isSteady_text (by decide)).append
      hConstant).text (by decide)).append hName).ended
        (by decide)

theorem firm_parameterLine
    (hSpelled : field.IsSpelled) :
    IsFirm field.parameterLine := by
  have hMember : IsSteady field.member :=
    hSpelled.member.steady
  have hRequired : IsSteady
      (if field.required then "required " else "") := by
    split
    · exact isSteady_text (by decide)
    · exact isSteady_text (by decide)
  exact ((((isSteady_text (by decide)).append hRequired).text
    (by decide)).append hMember).ended (by decide)

end FieldLayout.IsSpelled

theorem systemFields_spelled :
    ∀ field ∈ systemFields, field.IsSpelled := by
  rw [systemFields, List.forall_mem_cons,
    List.forall_mem_cons, List.forall_mem_singleton]
  refine ⟨⟨?_, ?_, ?_⟩, ⟨?_, ?_, ?_⟩, ⟨?_, ?_, ?_⟩⟩
  · exact Dart.isWord_text (by decide)
  · exact Dart.isWord_text (by decide)
  · exact Dart.isWord_text (by decide)
  · exact Dart.isWord_text (by decide)
  · exact Dart.isWord_text (by decide)
  · exact Dart.isWord_text (by decide)
  · exact Dart.isWord_text (by decide)
  · exact Dart.isWord_text (by decide)
  · exact Dart.isWord_text (by decide)

------------------------------------------------------------
-- Headers
------------------------------------------------------------

/- The first line of a file with comments. -/
def noticeLine : String :=
  "// This file is auto-generated. " ++
    "Do not modify manually."

/- What stands before the name of the collection. -/
def titleStart : String :=
  "// Model for collection "

@[simp]
theorem firm_noticeLine : IsFirm noticeLine :=
  (isSteady_text (by decide)).ended (by decide)

def titleLine (collection : String) : String :=
  titleStart ++ collection

/- The line for the analysis of the file. -/
def lintLine : String :=
  "// ignore_for_file: constant_identifier_names"

def importLine (settings : Settings) : String :=
  "import " ++ Dart.literal settings.recordImport ++ ";"

theorem headerLines_eq
    {settings : Settings}
    (hComments : settings.addComments = true)
    (collection : String) :
    headerLines settings collection =
      [noticeLine] ++ [titleLine collection, lintLine] ++
        ("" :: [importLine settings]) := by
  rw [headerLines, hComments, if_pos rfl]
  rfl

theorem block_headerLines
    {settings : Settings}
    (hComments : settings.addComments = true)
    (collection : String) :
    block (headerLines settings collection) =
      block [noticeLine] ++
        (block [titleLine collection, lintLine] ++
          gap [importLine settings]) := by
  rw [headerLines_eq hComments, block_append, block_append,
    block_cons "", String.toList_empty, List.nil_append,
    List.append_assoc, gap]

theorem block_headerLines_of_plain
    {settings : Settings}
    (hPlain : settings.addComments = false)
    (collection : String) :
    block (headerLines settings collection) =
      block [lintLine] ++ gap [importLine settings] := by
  rw [headerLines, hPlain, if_neg Bool.false_ne_true]
  simp only [List.nil_append, block_cons, block_nil, gap,
    List.append_nil, String.toList_empty, List.append_assoc]
  rfl

@[simp]
theorem firm_lintLine : IsFirm lintLine :=
  isFirm_text (by decide)

theorem exists_firm_headerLine
    (settings : Settings)
    (collection : String) :
    ∃ line more, IsFirm line ∧
      block (headerLines settings collection) =
        block [line] ++ more := by
  cases hComments : settings.addComments with
  | true =>
      exact ⟨noticeLine, _, firm_noticeLine,
        block_headerLines hComments collection⟩
  | false =>
      exact ⟨lintLine, _, firm_lintLine,
        block_headerLines_of_plain hComments collection⟩

/- The clean form keeps the import, whatever is imported. -/
theorem kept_importLine (settings : Settings) :
    Text.Kept (gap [importLine settings]) := by
  apply kept_gap (List.cons_ne_nil _ _)
  rw [List.forall_mem_singleton]
  exact ((isSteady_text (by decide)).append
    (isSteady_literal settings.recordImport)).ended
      (by decide)

/- A name of a collection that may stand in a comment. -/
structure IsTitle (name : String) : Prop where
  slash : '/' ∉ name.toList
  quote : '\'' ∉ name.toList
  steady : IsSteady name
  ends : Text.EndsFirm name.toList ∨
    ∃ init, name.toList = init ++ ['\n'] ∧
      Text.Steady init ∧ Text.EndsFirm init

theorem firm_titleLine
    {name : String}
    (hSteady : IsSteady name)
    (hFirm : Text.EndsFirm name.toList) :
    IsFirm (titleLine name) := by
  constructor
  · exact (isSteady_text (by decide)).append hSteady
  · rw [titleLine, String.toList_append]
    exact hFirm.append_left titleStart.toList

/-
  The clean form keeps the name of a collection, also when a
  line break at its end makes for an empty line.
-/
theorem IsTitle.kept
    {name : String}
    (hTitle : IsTitle name) :
    Text.Kept (block [titleLine name, lintLine]) := by
  rcases hTitle.ends with
    hFirm | ⟨init, hName, hSteady, hFirm⟩
  · have hLine := firm_titleLine hTitle.steady hFirm
    apply kept_block
    rw [List.forall_mem_cons, List.forall_mem_singleton]
    exact ⟨hLine, firm_lintLine⟩
  · have hLine : IsFirm (titleLine (.ofList init)) := by
      apply firm_titleLine
      · rwa [IsSteady, String.toList_ofList]
      · rwa [String.toList_ofList]
    have hGap : block [titleLine name, lintLine] =
        block [titleLine (.ofList init)] ++
          gap [lintLine] := by
      simp only [block_cons, block_nil, gap, titleLine,
        String.toList_append, String.toList_ofList, hName,
        List.append_assoc, List.append_nil]
    rw [hGap]
    apply Text.Kept.append
    · apply kept_block
      rwa [List.forall_mem_singleton]
    · apply kept_gap (List.cons_ne_nil _ _)
      rw [List.forall_mem_singleton]
      exact firm_lintLine

/- The clean form keeps a header, whether commented or not. -/
theorem IsTitle.kept_headerLines
    {name : String}
    (hTitle : IsTitle name)
    (settings : Settings) :
    Text.Kept (block (headerLines settings name)) := by
  have hImport := kept_importLine settings
  cases hComments : settings.addComments with
  | true =>
      have hNotice : Text.Kept (block [noticeLine]) := by
        apply kept_block
        rw [List.forall_mem_singleton]
        exact firm_noticeLine
      rw [block_headerLines hComments]
      exact hNotice.append (hTitle.kept.append hImport)
  | false =>
      have hLint : Text.Kept (block [lintLine]) := by
        apply kept_block
        rw [List.forall_mem_singleton]
        exact firm_lintLine
      rw [block_headerLines_of_plain hComments]
      exact hLint.append hImport

------------------------------------------------------------
-- Classes
------------------------------------------------------------

/- A class all of whose names are words. -/
structure Layout.IsSpelled (layout : Layout) : Prop where
  collection : IsTitle layout.collection
  className : Dart.IsWord layout.className
  fields : ∀ field ∈ layout.fields, field.IsSpelled
  enums : ∀ enum ∈ layout.enums, enum.IsSpelled

namespace Layout.IsSpelled

variable {settings : Settings}
variable {layout : Layout}

theorem allFields
    (hSpelled : layout.IsSpelled) :
    ∀ field ∈ layout.allFields, field.IsSpelled := by
  rw [Layout.allFields, List.forall_mem_append]
  exact ⟨systemFields_spelled, hSpelled.fields⟩

/- The clean form keeps the fields. -/
theorem kept_fieldLines
    (hSpelled : layout.IsSpelled) :
    Text.Kept (block layout.fieldLines) := by
  have hSystem : Text.Kept (block (spaced
      (systemFields.map (·.declarationLines)))) := by
    rw [systemFields, List.map_cons, block_spaced]
    apply (kept_block ?_).append (kept_flatMap ?_)
    · exact (systemFields_spelled _
        List.mem_cons_self).firm_declarationLines
    · rw [List.forall_mem_map]
      intro field hField
      apply kept_gap (List.cons_ne_nil _ _)
      exact (systemFields_spelled field
        (List.mem_cons_of_mem _
          hField)).firm_declarationLines
  rw [block_fieldLines]
  apply hSystem.append (kept_flatMap ?_)
  intro field hField
  exact kept_gap (List.cons_ne_nil _ _)
    (hSpelled.fields field hField).firm_declarationLines

/- The clean form keeps the constructor. -/
theorem kept_constructorLines
    (hSpelled : layout.IsSpelled) :
    Text.Kept (gap layout.constructorLines) := by
  have hClass : IsSteady layout.className :=
    hSpelled.className.steady
  apply kept_gap
  · simp [constructorLines]
  · apply firm_rows
    · exact (((isSteady_text (by decide)).append hClass).text
        (by decide)).ended (by decide)
    · intro field hField
      exact (hSpelled.allFields field
        hField).firm_parameterLine
    · exact ((isSteady_text (by decide)).text
        (by decide)).ended (by decide)

/-
  The clean form keeps what stands between the header and
  the factory.
-/
theorem kept_body
    (hSpelled : layout.IsSpelled) :
    Text.Kept
      (layout.enums.flatMap (fun enum => gap enum.lines) ++
        (gap ["class " ++ layout.className ++ " " ++
            openBrace] ++
          (block layout.fieldLines ++
            gap layout.constructorLines))) := by
  have hEnums : Text.Kept
      (layout.enums.flatMap fun enum => gap enum.lines) :=
    kept_flatMap fun enum hEnum =>
      (hSpelled.enums enum hEnum).kept
  have hHead : Text.Kept (gap
      ["class " ++ layout.className ++ " " ++
        openBrace]) := by
    have hClass : IsSteady layout.className :=
      hSpelled.className.steady
    apply kept_gap (List.cons_ne_nil _ _)
    rw [List.forall_mem_singleton]
    exact (((isSteady_text (by decide)).append hClass).text
      (by decide)).ended (by decide)
  exact hEnums.append (hHead.append
    (hSpelled.kept_fieldLines.append
      hSpelled.kept_constructorLines))

theorem toList_tidy_source
    (hSpelled : layout.IsSpelled)
    (settings : Settings) :
    (Text.tidy (layout.source settings)).toList =
      layout.opening settings ++
        Text.tidied false (layout.closing settings) := by
  have hKept : Text.Kept (layout.opening settings) :=
    (hSpelled.collection.kept_headerLines settings).append
      hSpelled.kept_body
  rcases exists_firm_headerLine settings layout.collection
    with ⟨line, more, hLine, hHeader⟩
  have hSteady : Text.Steady (block [line]) := by
    apply steady_block
    rw [List.forall_mem_singleton]
    exact hLine
  have hStart : ∃ more, layout.opening settings =
      block [line] ++ more := by
    rw [Layout.opening, hHeader, List.append_assoc]
    exact ⟨_, rfl⟩
  rcases hStart with ⟨more, hStart⟩
  rw [hStart] at hKept
  rw [Text.tidy, String.toList_ofList, toList_source, hStart]
  exact Text.tidyChars_of_kept hSteady
    (getLast?_block (List.cons_ne_nil _ _)) hKept
    (layout.closing settings)

end Layout.IsSpelled

------------------------------------------------------------
-- Well-Formed Collections
------------------------------------------------------------

namespace Field

variable {field : Field}

theorem isWord_baseOf
    (kind : FieldKind)
    {name : String}
    (hName : Dart.IsWord (typeName name)) :
    Dart.IsWord (Dart.TypeName.baseOf kind name) := by
  cases kind with
  | select =>
      exact hName.append (Dart.isWord_text (by decide))
  | text => exact Dart.isWord_text (by decide)
  | number => exact Dart.isWord_text (by decide)
  | bool => exact Dart.isWord_text (by decide)
  | date => exact Dart.isWord_text (by decide)
  | other => exact Dart.isWord_text (by decide)

theorem WellNamed.draft_spelled
    (hNamed : field.WellNamed) :
    field.draft.IsSpelled := by
  have hConstant :=
    Dart.isWord_of_nameProblem? hNamed.constant
  exact ⟨isWord_baseOf field.kind hConstant,
    Dart.isWord_of_nameProblem? hNamed.member, hConstant⟩

theorem Sound.enumDraft_spelled
    (hSound : field.Sound)
    (hSelect : field.isSelect) :
    field.enumDraft.IsSpelled := by
  have hConstant :=
    Dart.isWord_of_nameProblem? hSound.wellNamed.constant
  refine ⟨isWord_baseOf .select hConstant,
    Dart.isWord_of_nameProblem? hSound.wellNamed.member,
    ?_⟩
  intro variant hVariant
  rcases List.mem_map.mp hVariant with ⟨text, hText, rfl⟩
  exact Dart.isWord_of_nameProblem?
    ((hSound.wellValued hSelect).variants text hText)

end Field

namespace Collection

variable {settings : Settings}
variable {collection : Collection}

theorem WellFormed.sound
    (hFormed : collection.WellFormed settings) :
    ∀ field ∈ collection.fields, field.Sound :=
  fun field hField =>
    ⟨hFormed.fieldsNamed field hField,
      hFormed.fieldsValued field hField⟩

theorem WellFormed.isSpelled
    (hFormed : collection.WellFormed settings) :
    (collection.draft settings).IsSpelled := by
  have hChecked := hFormed.classNamed
  constructor
  · exact ⟨Naming.slash_notMem_of_checked hChecked,
      Naming.notMem_of_checked hChecked (by decide)
        (by decide) (by decide),
      Naming.steady_of_checked hChecked,
      Naming.ends_of_checked hChecked hFormed.notEmpty⟩
  · exact Dart.isWord_of_nameProblem? hChecked
  · intro layout hLayout
    rcases List.mem_map.mp hLayout with ⟨field, hField, rfl⟩
    exact (hFormed.fieldsNamed field hField).draft_spelled
  · intro layout hLayout
    rw [enums_draft] at hLayout
    rcases List.mem_map.mp hLayout with ⟨field, hField, rfl⟩
    rw [List.mem_filter] at hField
    exact (hFormed.sound field hField.1).enumDraft_spelled
      hField.2

end Collection

end PocketDart
