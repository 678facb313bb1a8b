import PocketDart.Proofs.Dart.ProgramText
import PocketDart.Proofs.Model.CleanSource
import PocketDart.Proofs.Model.EnumTables

/-
  This file proves that the source of a class whose names
  are words is read as its program, whatever the settings
  put into the header and the factory. The clean form may
  change the type of records, but nothing that is read.

  Key theorems include:
    * `EnumLayout.IsSpelled.run_enumPart`
    * `Layout.IsSpelled.run_factory`
    * `Layout.IsSpelled.run_method`
    * `Layout.IsSpelled.readProgram?_source`
-/

------------------------------------------------------------
-- Headers
------------------------------------------------------------

namespace PocketDart

open Dart (TextReader)
open Dart.TextReader (bodyEnd methodStart methodEnd)

theorem IsTitle.exists_block_headerLines
    {name : String}
    (hTitle : IsTitle name)
    (settings : Settings) :
    ∃ front, '\'' ∉ front ∧
      block (headerLines settings name) =
        front ++ gap [importLine settings] := by
  cases hComments : settings.addComments with
  | true =>
      have hNotice : '\'' ∉ block [noticeLine] := by decide
      have hStart : '\'' ∉ titleStart.toList := by decide
      have hLint : '\'' ∉ '\n' :: block [lintLine] := by
        decide
      have hTitleLine :
          block [titleLine name, lintLine] =
            titleStart.toList ++ (name.toList ++
              '\n' :: block [lintLine]) := by
        simp [block_cons, titleLine]
      rw [block_headerLines hComments, ← List.append_assoc,
        hTitleLine]
      refine ⟨_, ?_, rfl⟩
      simp only [List.mem_append, not_or]
      exact ⟨hNotice, hStart, hTitle.quote, hLint⟩
  | false =>
      rw [block_headerLines_of_plain hComments]
      exact ⟨_, by decide, rfl⟩

theorem IsTitle.run_header
    {name : String}
    (hTitle : IsTitle name)
    (settings : Settings)
    (rest : List Char) :
    TextReader.header.run
        (block (headerLines settings name) ++ rest) =
      some ((), rest) := by
  rcases hTitle.exists_block_headerLines settings with
    ⟨front, hFront, hBlock⟩
  have hText :
      block (headerLines settings name) ++ rest =
        (String.ofList
          (front ++ "\nimport ".toList)).toList ++
          ("'".toList ++
            (settings.recordImport.toList.flatMap
                Dart.escapeChar ++
              '\'' :: (";\n".toList ++ rest))) := by
    simp [hBlock, gap, block_cons, importLine, Dart.literal,
      Dart.literalChars]
  have hQuote : '\'' ∉ (String.ofList
      (front ++ "\nimport ".toList)).toList := by
    rw [String.toList_ofList, List.mem_append, not_or]
    exact ⟨hFront, by decide⟩
  have hImport : "import ".toList <:+ (String.ofList
      (front ++ "\nimport ".toList)).toList := by
    rw [String.toList_ofList]
    exact ⟨front ++ ['\n'], by simp⟩
  rw [hText, TextReader.header,
    TextReader.run_bind_of_some
      (TextReader.run_before (by decide) hQuote _),
    TextReader.run_bind_of_some
      (TextReader.run_literalBody _ _),
    TextReader.run_bind_of_some (TextReader.run_expect _ _),
    if_pos hImport]
  rfl

------------------------------------------------------------
-- Enums
------------------------------------------------------------

namespace EnumLayout.IsSpelled

variable {layout : EnumLayout}

theorem run_enumPart
    (hSpelled : layout.IsSpelled)
    (rest : List Char) :
    TextReader.enumPart.run (gap layout.lines ++ rest) =
      some (layout.part, rest) := by
  have hConstants : layout.text.constants =
      layout.part.constants := by
    simp [text, pairs, part]
  have hText :
      gap layout.lines ++ rest =
        "\n".toList ++
          (block (["enum " ++ layout.typeName ++ " " ++
              openBrace] ++
            layout.text.constants.map (fun name =>
              "  " ++ name ++ ",") ++ [closeBrace] ++ [""]) ++
          (block (layout.part.toMap.lines ++ [""]) ++
            (block (layout.part.fromMap.lines ++ [""]) ++
              (block layout.part.fromWire.lines ++
                rest)))) := by
    have hType : layout.typeName = layout.part.type := rfl
    rw [gap, lines_eq, Dart.EnumPart.lines, hConstants,
      hType]
    simp only [block_append, List.append_assoc]
    rfl
  have hName : Dart.IsWord layout.part.fromWire.name :=
    hSpelled.isWord_lookupName
      (Dart.isWord_text (by decide))
  have hTable : Dart.IsWord layout.part.fromWire.table :=
    hSpelled.isWord_lookupName
      (Dart.isWord_text (by decide))
  have hReader :
      (TextReader.lookupFunction layout.typeName).run
          (block layout.part.fromWire.lines ++ rest) =
        some (layout.part.fromWire, rest) :=
    TextReader.run_lookupFunction hName hTable rest
  have hToMap :
      layout.text.toMap.map (fun row =>
        (Dart.Atom.constant layout.typeName row.1,
          Dart.Atom.text row.2)) =
        layout.part.toMap.entries := by
    simp [text, pairs, part]
  have hFromMap :
      layout.text.fromMap.map (fun row =>
        (Dart.Atom.text row.1,
          Dart.Atom.constant layout.typeName row.2)) =
        layout.part.fromMap.entries := by
    simp [text, pairs, part]
  rw [hText, TextReader.enumPart,
    TextReader.run_bind_of_some (TextReader.run_expect _ _),
    TextReader.run_bind_of_some
      (TextReader.run_declaration hSpelled.typeName
        hSpelled.isWord_constants _),
    TextReader.run_bind_of_some (hSpelled.run_toMap _),
    TextReader.run_bind_of_some (hSpelled.run_fromMap _)]
  dsimp only
  rw [TextReader.run_bind_of_some hReader, hToMap, hFromMap,
    hConstants]
  rfl

end EnumLayout.IsSpelled

------------------------------------------------------------
-- Expressions
------------------------------------------------------------

namespace FieldLayout.IsSpelled

variable {field : FieldLayout}

theorem readable_readExpression
    (hSpelled : field.IsSpelled)
    (hEnum : ∀ layout, field.enum? = some layout →
      layout.IsSpelled) :
    field.readExpression.IsReadable := by
  have hWire : Dart.IsWord field.constant :=
    hSpelled.constant
  unfold FieldLayout.readExpression
  dsimp only
  split
  · next layout _ hLayout =>
      have hReader : Dart.IsWord layout.fromWire :=
        (hEnum layout hLayout).isWord_lookupName
          (Dart.isWord_text (by decide))
      split
      · exact ⟨hWire, hReader, hWire⟩
      · exact ⟨hReader, hWire⟩
  · split
    · exact ⟨hWire, hWire⟩
    · exact hWire
  · exact hWire

theorem readable_writeExpression
    (hSpelled : field.IsSpelled)
    (hEnum : ∀ layout, field.enum? = some layout →
      layout.IsSpelled) :
    field.writeExpression.IsReadable := by
  have hMember : Dart.IsWord field.member :=
    hSpelled.member
  unfold FieldLayout.writeExpression
  dsimp only
  split
  · next layout _ hLayout =>
      exact ⟨(hEnum layout hLayout).isWord_lookupName
        (Dart.isWord_text (by decide)), hMember⟩
  · exact hMember
  · exact hMember

end FieldLayout.IsSpelled

------------------------------------------------------------
-- Factories and Methods
------------------------------------------------------------

namespace Layout.IsSpelled

variable {layout : Layout}

/- The rows of the factory can be read. -/
theorem readable_arguments
    (hSpelled : layout.IsSpelled) :
    TextReader.AreReadable layout.program.arguments := by
  have hSystem : ∀ name ∈ ["id", "created", "updated"],
      Dart.IsWord name := by
    rw [List.forall_mem_cons, List.forall_mem_cons,
      List.forall_mem_singleton]
    exact ⟨Dart.isWord_text (by decide),
      Dart.isWord_text (by decide),
      Dart.isWord_text (by decide)⟩
  intro row hRow
  rcases List.mem_append.mp hRow with hOwn | hField
  · simp only [systemArguments, List.mem_cons,
      List.not_mem_nil, or_false] at hOwn
    rcases hOwn with rfl | rfl | rfl
    · exact ⟨hSystem _ (by decide), hSystem _ (by decide)⟩
    · exact ⟨hSystem _ (by decide), hSystem _ (by decide)⟩
    · exact ⟨hSystem _ (by decide), hSystem _ (by decide)⟩
  · rcases List.mem_map.mp hField with ⟨field, hMem, rfl⟩
    have hField := hSpelled.fields field hMem
    exact ⟨hField.member,
      hField.readable_readExpression (hSpelled.enum hMem)⟩

/- So can those of the method that writes. -/
theorem readable_entries
    (hSpelled : layout.IsSpelled) :
    TextReader.AreReadable layout.program.entries := by
  intro row hRow
  rcases List.mem_map.mp hRow with ⟨field, hMem, rfl⟩
  have hField := hSpelled.fields field hMem
  exact ⟨hField.constant,
    hField.readable_writeExpression (hSpelled.enum hMem)⟩

end Layout.IsSpelled

namespace Layout

/- The factory up to the type of the method behind it. -/
def factoryText
    (layout : Layout)
    (front : List Char) : List Char :=
  '\n' :: layout.factoryStart.toList ++
    (front ++ " r) ".toList ++
      '\x7b' :: (("\n    return " ++ layout.className ++
        "(\n").toList ++
        (TextReader.rowsText layout.program.arguments ++
          bodyEnd.toList)))

/- The method behind its type, up to the end. -/
def methodText (layout : Layout) : List Char :=
  methodStart.toList ++
    (TextReader.rowsText layout.program.entries ++
      methodEnd.toList)

theorem rowsText_arguments (layout : Layout) :
    TextReader.rowsText layout.program.arguments =
      block (systemArguments.map fun argument =>
        namedRow argument.1 argument.2) ++
          block (layout.fields.map (·.readLine)) := by
  rw [← block_append, ← layout.map_arguments, block_map]
  simp [TextReader.rowsText, block_cons]

theorem rowsText_entries (layout : Layout) :
    TextReader.rowsText layout.program.entries =
      block (layout.fields.map (·.writeLine)) := by
  rw [← layout.map_entries, block_map]
  simp [TextReader.rowsText, block_cons]

theorem closing_text
    (layout : Layout)
    (front : List Char) :
    '\n' :: (layout.factoryStart.toList ++ (front ++
        (factoryEnd.toList ++ '\n' :: layout.tail))) =
      layout.factoryText front ++
        '<' :: layout.methodText := by
  have hOpen :
      ("\n    return " ++ layout.className ++ "(\n").toList =
        '\n' :: block
          ["    return " ++ layout.className ++ "("] := by
    simp [block_cons]
  have hMiddle :
      bodyEnd.toList ++ '<' :: methodStart.toList =
        block ["    );", "  " ++ closeBrace] ++
          gap ["  Map<String, dynamic> toMap() " ++ openBrace,
            "    return " ++ openBrace] := by
    decide
  have hEnd : methodEnd.toList =
      block ["    " ++ closeBrace ++ ";",
        "  " ++ closeBrace] ++ block [closeBrace] := by
    decide
  have hHead : factoryEnd.toList =
      " r) ".toList ++ ['\x7b'] := by
    decide
  have hTail : layout.tail =
      block ["    return " ++ layout.className ++ "("] ++
        (TextReader.rowsText layout.program.arguments ++
          (bodyEnd.toList ++ '<' :: layout.methodText)) := by
    rw [methodText, hEnd, ← List.cons_append,
      ← List.append_assoc bodyEnd.toList, hMiddle,
      rowsText_arguments, rowsText_entries, tail, bodyLines,
      toMapLines]
    simp only [gap, block_append, List.append_assoc]
  rw [factoryText, hOpen, hHead, hTail]
  simp only [List.append_assoc, List.cons_append,
    List.nil_append]

namespace IsSpelled

variable {layout : Layout}

theorem run_factory
    (hSpelled : layout.IsSpelled)
    (front : List Char) :
    (TextReader.factory layout.className).run
        (layout.factoryText front) =
      some (layout.program.arguments, []) := by
  let body : List Char :=
    ("\n    return " ++ layout.className ++ "(\n").toList ++
      (TextReader.rowsText layout.program.arguments ++
        (bodyEnd.toList ++ []))
  have hText :
      layout.factoryText front =
        ("\n  factory " ++ layout.className ++
          ".fromModel(").toList ++
          (front ++ " r) ".toList ++ '\x7b' :: body) := by
    simp [factoryText, factoryStart, body]
  have hBrace : '\x7b' ∈ Dart.Expression.brackets := by
    decide
  have hClass : '\x7b' ∉ layout.className.toList :=
    hSpelled.className.notMem (by decide) (by decide)
  have hMarks : '\x7b' ∉ "\n    return ".toList ∧
      '\x7b' ∉ "(\n".toList ∧ '\x7b' ∉ bodyEnd.toList := by
    decide
  have hLast : '\x7b' ∉ body := by
    simp only [body, String.toList_append, List.mem_append,
      List.not_mem_nil, not_or, not_false_eq_true, and_true]
    exact ⟨⟨⟨hMarks.1, hClass⟩, hMarks.2.1⟩,
      TextReader.notMem_rowsText hSpelled.readable_arguments
        hBrace, hMarks.2.2⟩
  have hRecord : " r) ".toList <:+
      (String.ofList (front ++ " r) ".toList)).toList :=
    ⟨front, by simp⟩
  rw [hText, TextReader.factory,
    TextReader.run_bind_of_some (TextReader.run_expect _ _),
    TextReader.run_bind_of_some
      (TextReader.run_upToLast hLast _),
    TextReader.run_bind_of_some (TextReader.run_expect _ _),
    TextReader.run_bind_of_some
      (TextReader.run_pairs hSpelled.readable_arguments
        (by decide) _),
    if_pos hRecord]
  rfl

theorem run_method
    (hSpelled : layout.IsSpelled) :
    TextReader.method.run layout.methodText =
      some (layout.program.entries, []) := by
  have hLast :
      Text.Apart "      ".toList methodEnd.toList := by
    decide
  have hRows := TextReader.run_pairs
    hSpelled.readable_entries hLast []
  rw [List.append_nil] at hRows
  rw [methodText, TextReader.method,
    TextReader.run_bind_of_some (TextReader.run_expect _ _),
    hRows]

/- A type is not found in the method behind its own. -/
theorem notMem_methodText
    (hSpelled : layout.IsSpelled) :
    '<' ∉ layout.methodText := by
  have hMarks : '<' ∉ methodStart.toList ∧
      '<' ∉ methodEnd.toList := by
    decide
  simp only [methodText, List.mem_append, not_or]
  exact ⟨hMarks.1, TextReader.notMem_rowsText
    hSpelled.readable_entries (by decide), hMarks.2⟩

------------------------------------------------------------
-- Sources
------------------------------------------------------------

theorem run_properties
    (hSpelled : layout.IsSpelled)
    (rest : List Char) :
    (TextReader.rows TextReader.property
        ("  const " ++ layout.className ++ "(" ++ openBrace ++
          "\n")).run
        (block layout.fieldLines ++ '\n' ::
          (("  const " ++ layout.className ++ "(" ++
            openBrace ++ "\n").toList ++ rest)) =
      some (layout.program.properties, rest) := by
  have hIndent : ∀ field : FieldLayout, "  final ".toList <+:
      block field.declarationLines ++ ['\n'] := by
    intro field
    exact ⟨_, by
      simp [FieldLayout.declarationLines, block_cons]; rfl⟩
  have hApart : Text.Apart "  final ".toList
      ("  const " ++ layout.className ++ "(" ++ openBrace ++
        "\n").toList := by
    simp only [String.toList_append, List.append_assoc]
    exact Text.Apart.append (by decide) _
  have hRow : ∀ field ∈ layout.allFields, ∀ more,
      TextReader.property.run
          (block field.declarationLines ++ ['\n'] ++ more) =
        some (field.property, more) := by
    intro field hField more
    have hNames := hSpelled.allFields field hField
    rw [← field.lines_property, List.append_assoc]
    exact TextReader.run_property hNames.base hNames.member
      hNames.constant field.type.told_told more
  have hLines :
      block layout.fieldLines ++ '\n' ::
          (("  const " ++ layout.className ++ "(" ++
            openBrace ++ "\n").toList ++ rest) =
        layout.allFields.flatMap (fun field =>
          block field.declarationLines ++ ['\n']) ++
            (("  const " ++ layout.className ++ "(" ++
              openBrace ++ "\n").toList ++ rest) := by
    rw [fieldLines, Layout.allFields, systemFields,
      List.cons_append, List.map_cons, block_spaced_append,
      ← List.map_cons, List.flatMap_map]
  rw [hLines, TextReader.run_rows hIndent hApart hRow]
  rfl

theorem run_parameters
    (hSpelled : layout.IsSpelled)
    (rest : List Char) :
    (TextReader.rows TextReader.parameter
        ("  " ++ closeBrace ++ ");\n")).run
        (block (layout.allFields.map (·.parameterLine)) ++
          (("  " ++ closeBrace ++ ");\n").toList ++ rest)) =
      some (layout.program.parameters, rest) := by
  have hIndent : ∀ field : FieldLayout, "    ".toList <+:
      block [field.parameterLine] := by
    intro field
    exact ⟨_, by
      simp [FieldLayout.parameterLine, block_cons]; rfl⟩
  have hRow : ∀ field ∈ layout.allFields, ∀ more,
      TextReader.parameter.run
          (block [field.parameterLine] ++ more) =
        some (field.parameter, more) := by
    intro field hField more
    rw [← field.line_parameter]
    exact TextReader.run_parameter
      (hSpelled.allFields field hField).member more
  have hLines :
      block (layout.allFields.map (·.parameterLine)) =
        layout.allFields.flatMap fun field =>
          block [field.parameterLine] := by
    simp [block_map, block_cons]
  rw [hLines,
    TextReader.run_rows hIndent (by decide) hRow]
  rfl

theorem run_enums
    (hSpelled : layout.IsSpelled)
    (rest : List Char) :
    (TextReader.rows TextReader.enumPart "\nclass ").run
        (layout.enums.flatMap (fun enum => gap enum.lines) ++
          ("\nclass ".toList ++ rest)) =
      some (layout.program.enums, rest) := by
  have hStart : ∀ enum : EnumLayout, "\nenum ".toList <+:
      gap enum.lines := by
    intro enum
    exact ⟨_, by
      simp [EnumLayout.lines, EnumLayout.declarationLines,
        gap, block_cons]; rfl⟩
  rw [TextReader.run_rows hStart (by decide)
    (fun enum hEnum => (hSpelled.enums enum hEnum).run_enumPart)]
  rfl

theorem readProgram?_source
    (hSpelled : layout.IsSpelled)
    (settings : Settings) :
    Dart.readProgram?
        (Text.tidy (layout.source settings)) =
      some layout.program := by
  rcases hSpelled.exists_tidied_closing settings with
    ⟨front, hClosing⟩
  rw [closing_text] at hClosing
  have hText :
      (Text.tidy (layout.source settings)).toList =
        block (headerLines settings layout.collection) ++
          (layout.enums.flatMap
              (fun enum => gap enum.lines) ++
            ("\nclass ".toList ++ (layout.className.toList ++
              ((" " ++ openBrace ++ "\n").toList ++
                (block layout.fieldLines ++ '\n' ::
                  (("  const " ++ layout.className ++ "(" ++
                    openBrace ++ "\n").toList ++
                    (block (layout.allFields.map
                        (·.parameterLine)) ++
                      (("  " ++ closeBrace ++
                        ");\n").toList ++
                        (layout.factoryText front ++ '<' ::
                          layout.methodText))))))))) := by
    rw [hSpelled.toList_tidy_source, hClosing]
    simp [opening, gap, block_cons, constructorLines,
      block_append]
  have hClass : ' ' ∉ layout.className.toList :=
    hSpelled.className.notMem (by decide) (by decide)
  have hFactory :
      (TextReader.within
          (.ofList (layout.factoryText front))
          (TextReader.factory layout.className)).run
            layout.methodText =
        some (layout.program.arguments,
          layout.methodText) :=
    TextReader.run_within (hSpelled.run_factory front) _
  have hRun :
      TextReader.program.run
          (Text.tidy (layout.source settings)).toList =
        some (layout.program, []) := by
    rw [hText, TextReader.program,
      TextReader.run_bind_of_some
        (hSpelled.collection.run_header settings _),
      TextReader.run_bind_of_some (hSpelled.run_enums _),
      TextReader.run_bind_of_some
        (TextReader.run_before (by decide) hClass _),
      TextReader.run_bind_of_some
        (hSpelled.run_properties _),
      TextReader.run_bind_of_some
        (hSpelled.run_parameters _),
      TextReader.run_bind_of_some
        (TextReader.run_upToLast
          hSpelled.notMem_methodText _),
      TextReader.run_bind_of_some hFactory,
      TextReader.run_bind_of_some hSpelled.run_method]
    rfl
  rw [Dart.readProgram?, hRun]

end IsSpelled

end Layout

end PocketDart
