import PocketDart.Proofs.Dart.EnumText
import PocketDart.Proofs.Model.Clean

/-
  This file proves that the enums of a layout are those of
  the select fields, and that the text of each says so. It
  lists the declared values in order, in the declaration and
  in both tables, and the tables undo each other.

  Key definitions include:
    * `EnumLayout.text`
    * `EnumLayout.Tabulates`

  Key theorems include:
    * `EnumLayout.IsSpelled.readEnum?_lines`
    * `Field.Sound.enumDraft_tabulates`
    * `enums_tabulate_select_fields`
-/

------------------------------------------------------------
-- Texts of Enums
------------------------------------------------------------

namespace PocketDart

open Dart (EnumText TextReader)

theorem toList_linesText_append
    (lines : List String)
    {more : List String}
    (hMore : more ≠ []) :
    (linesText (lines ++ more)).toList =
      block lines ++ (linesText more).toList := by
  have hEnded :
      (linesText (lines ++ more)).toList ++ ['\n'] =
        (block lines ++ (linesText more).toList) ++
          ['\n'] := by
    rw [toList_linesText (by simp [hMore]), block_append,
      List.append_assoc, toList_linesText hMore]
  exact List.append_cancel_right hEnded

namespace EnumLayout

/- The constants with their values. -/
def pairs (layout : EnumLayout) : List (String × String) :=
  layout.variants.map fun variant =>
    (variant.name, variant.value)

/- What the text of an enum has to say. -/
def text (layout : EnumLayout) : EnumText :=
  { type := layout.typeName
    constants := layout.pairs.map (·.1)
    toMap := layout.pairs
    fromMap := layout.pairs.map Prod.swap }

/- The declaration and the tables stand before a function. -/
theorem toList_linesText_lines (layout : EnumLayout) :
    (linesText layout.lines).toList =
      block (["enum " ++ layout.typeName ++ " " ++
          openBrace] ++
        layout.text.constants.map (fun name =>
          "  " ++ name ++ ",") ++ [closeBrace] ++ [""]) ++
      (block (layout.part.toMap.lines ++ [""]) ++
        (block (layout.part.fromMap.lines ++ [""]) ++
          (linesText layout.part.fromWire.lines).toList))
    := by
  have hConstants : layout.text.constants =
      layout.part.constants := by
    simp [text, pairs, part]
  have hType : layout.typeName = layout.part.type := rfl
  rw [lines_eq, Dart.EnumPart.lines,
    toList_linesText_append _ (by simp [Dart.Reader.lines]),
    hConstants, hType]
  simp only [block_append, List.append_assoc]

namespace IsSpelled

variable {layout : EnumLayout}

theorem isWord_lookupName
    (hSpelled : layout.IsSpelled)
    {ending : String}
    (hEnding : Dart.IsWord ending) :
    Dart.IsWord ("_" ++ layout.member ++ ending) :=
  ((Dart.isWord_text (by decide)).append
    hSpelled.member).append hEnding

theorem run_toMap
    (hSpelled : layout.IsSpelled)
    (rest : List Char) :
    (TextReader.table layout.typeName "String"
        (TextReader.toMapRow layout.typeName)).run
        (block (layout.part.toMap.lines ++ [""]) ++ rest) =
      some ((layout.toMap, layout.text.toMap), rest) := by
  have hName : Dart.IsWord layout.toMap :=
    hSpelled.isWord_lookupName
      (Dart.isWord_text (by decide))
  apply TextReader.run_table hName
  intro variant hVariant
  exact TextReader.run_toMapRow
    (hSpelled.variants variant hVariant) _ _

theorem run_fromMap
    (hSpelled : layout.IsSpelled)
    (rest : List Char) :
    (TextReader.table "String" layout.typeName
        (TextReader.fromMapRow layout.typeName)).run
        (block (layout.part.fromMap.lines ++ [""]) ++
          rest) =
      some ((layout.fromMap, layout.text.fromMap), rest) := by
  have hName : Dart.IsWord layout.fromMap :=
    hSpelled.isWord_lookupName
      (Dart.isWord_text (by decide))
  have hPairs : layout.text.fromMap =
      layout.variants.map fun variant =>
        (variant.value, variant.name) := by
    simp [text, pairs]
  rw [hPairs]
  apply TextReader.run_table hName
  intro variant hVariant
  exact TextReader.run_fromMapRow
    (hSpelled.variants variant hVariant) _ _

theorem isWord_constants
    (hSpelled : layout.IsSpelled) :
    ∀ name ∈ layout.text.constants, Dart.IsWord name := by
  intro name hName
  simp only [text, pairs, List.map_map, List.mem_map,
    Function.comp_apply] at hName
  rcases hName with ⟨variant, hVariant, rfl⟩
  exact hSpelled.variants variant hVariant

theorem readEnum?_lines
    (hSpelled : layout.IsSpelled) :
    Dart.readEnum? (linesText layout.lines) =
      some layout.text := by
  rw [Dart.readEnum?, toList_linesText_lines,
    StateT.run'_eq, TextReader.enumText,
    TextReader.run_bind_of_some
      (TextReader.run_declaration hSpelled.typeName
        hSpelled.isWord_constants _),
    TextReader.run_bind_of_some (hSpelled.run_toMap _),
    TextReader.run_bind_of_some (hSpelled.run_fromMap _)]
  rfl

end IsSpelled

------------------------------------------------------------
-- Enums of Fields
------------------------------------------------------------

/-
  An enum that lists the declared values of a field in their
  order, with constants of their own. Its text says so, and
  its tables, read as functions, undo each other.
-/
structure Tabulates
    (layout : EnumLayout)
    (field : Field) : Prop where
  ofField : field.name = .text layout.fieldName
  ofValues : field.declaredValues =
    layout.variants.map fun variant => .text variant.value
  namesDistinct : (layout.variants.map (·.name)).Nodup
  valuesDistinct : (layout.variants.map (·.value)).Nodup
  readText : ∃ text,
    Dart.readEnum? (linesText layout.lines) = some text ∧
      text.type = layout.typeName ∧
      text.constants = layout.variants.map (·.name) ∧
      text.toMap = layout.variants.map (fun variant =>
        (variant.name, variant.value)) ∧
      text.fromMap = layout.variants.map (fun variant =>
        (variant.value, variant.name)) ∧
      text.IsInverse (layout.variants.map (·.value))

end EnumLayout

theorem Field.Sound.enumDraft_tabulates
    {field : Field}
    (hSound : field.Sound)
    (hSelect : field.isSelect) :
    field.enumDraft.Tabulates field := by
  have hValued := hSound.wellValued hSelect
  have hNames :
      (field.enumDraft.variants.map (·.name)).Nodup := by
    rw [enumDraft, List.map_map]
    exact hValued.variantsDistinct
  have hValues :
      (field.enumDraft.variants.map (·.value)).Nodup := by
    rw [enumDraft, List.map_map]
    exact hValued.textsDistinct.map fun _ _ h => h
  have hPairs :
      field.enumDraft.pairs.map (·.1) =
          field.enumDraft.variants.map (·.name) ∧
        field.enumDraft.pairs.map (·.2) =
          field.enumDraft.variants.map (·.value) := by
    simp [EnumLayout.pairs]
  have hInverse : field.enumDraft.text.IsInverse
      (field.enumDraft.variants.map (·.value)) := by
    rw [← hPairs.2]
    apply EnumText.isInverse_of_pairs
    · rwa [hPairs.1]
    · rwa [hPairs.2]
  refine ⟨hSound.wellNamed.isText, ?_, hNames, hValues,
    _, (hSound.enumDraft_spelled hSelect).readEnum?_lines,
    rfl, hPairs.1, rfl, ?_, hInverse⟩
  · rw [declaredValues, hValued.areTexts, enumDraft,
      List.map_map]
    rfl
  · simp [EnumLayout.text, EnumLayout.pairs]

/-
  The enums of a layout are those of the select fields, in
  their order, and each tabulates the values of its field.
-/
theorem enums_tabulate_select_fields
    {settings : Settings}
    {collection : Collection}
    {layout : Layout}
    (hLayout : collection.layout settings = .ok layout) :
    List.Forall₂ EnumLayout.Tabulates layout.enums
      (collection.fields.filter Field.isSelect) := by
  rcases Collection.layout_eq_ok_iff.mp hLayout with
    ⟨hFormed, rfl⟩
  rw [Collection.enums_draft, List.forall₂_map_left_iff,
    List.forall₂_same]
  intro field hField
  rcases List.mem_filter.mp hField with ⟨hMem, hSelect⟩
  exact (hFormed.sound field hMem).enumDraft_tabulates
    hSelect

/- One enum for a select field, whose values need care. -/
theorem price_enums_tabulate :
    let price : Field :=
      { name := .text "price", kind := .select
        required := .bool false
        options := [("values",
          .list [.text "free", .text "us$", .text "on_sale"])]
        tag := .text "select" }
    let title : Field :=
      { name := .text "title", kind := .text
        required := .bool true, options := []
        tag := .text "text" }
    let posts : Collection :=
      { name := .text "posts", fields := [title, price]
        id := .null, kind := .text "base"
        system := false }
    ∃ layout, posts.layout {} = .ok layout ∧
      List.Forall₂ EnumLayout.Tabulates layout.enums
        [price] := by
  intro price title posts
  have hLayout : posts.layout {} =
      .ok (posts.draft {}) := rfl
  exact ⟨_, hLayout, enums_tabulate_select_fields hLayout⟩

end PocketDart
