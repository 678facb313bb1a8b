import PocketDart.Proofs.Model.Clean

/-
  This file proves that the parts of a source can be read
  back. An enum tells all that it was laid out from, a field
  tells its name and its type, and a parameter tells whether
  its field is required.

  Key definitions include:
    * `Variant.IsSpelled`
    * `FieldLayout.requiredMark`

  Key theorems include:
    * `rows_tell`
    * `EnumLayout.lines_tell`
    * `FieldLayout.declarationLines_tell`
    * `FieldLayout.parameterLine_tells`
-/

------------------------------------------------------------
-- Rows
------------------------------------------------------------

namespace PocketDart

section

variable {A : Type}

/- Rows behind an empty line and a first line. -/
theorem gap_rows
    (first last : String)
    (values : List A)
    (write : A → String)
    (r : List Char) :
    gap ([first] ++ values.map write ++ [last]) ++ r =
      ['\n'] ++ (first.toList ++ (['\n'] ++
        (block (values.map write ++ [last]) ++ r))) := by
  simp [gap, block_cons]

theorem rows_tell
    {sound : A → Prop}
    {write : A → String}
    {alike : A → A → Prop}
    (hTells : Text.Tells sound
      (fun value => (write value).toList ++ ['\n']) alike)
    {mark last : String}
    (hMark : ∀ value, mark.toList <+: (write value).toList)
    (hApart : Text.Apart mark.toList last.toList)
    {values others : List A}
    (hValues : ∀ value ∈ values, sound value)
    (hOthers : ∀ value ∈ others, sound value)
    {r s : List Char}
    (hEq : block (values.map write ++ [last]) ++ r =
      block (others.map write ++ [last]) ++ s) :
    List.Forall₂ alike values others ∧ r = s := by
  simp only [block_append, block_map, block_cons, block_nil,
    List.append_nil, List.append_assoc] at hEq
  rcases hTells.list
      (fun value => (hMark value).trans
        (List.prefix_append _ _))
      hApart hValues hOthers hEq with
    ⟨hAlike, hRest⟩
  exact ⟨hAlike, List.append_cancel_left hRest⟩

end

------------------------------------------------------------
-- Enums
------------------------------------------------------------

/- A constant of an enum whose name is a word. -/
def Variant.IsSpelled (variant : Variant) : Prop :=
  Dart.IsWord variant.name

theorem Variant.name_tells :
    Text.Tells Variant.IsSpelled
      (fun variant =>
        ("  " ++ variant.name ++ ",").toList ++ ['\n'])
      (fun variant other => variant.name = other.name) := by
  intro variant other hSpelled hOther r s hEq
  simp only [String.toList_append, List.append_assoc,
    List.append_cancel_left_eq] at hEq
  rcases hSpelled.eq_of_append hOther (by decide) hEq with
    ⟨hName, hRest⟩
  exact ⟨hName, List.append_cancel_left hRest⟩

theorem Variant.row_tells (typeName : String) :
    Text.Tells Variant.IsSpelled
      (fun variant =>
        ("  " ++ typeName ++ "." ++ variant.name ++ ": " ++
          Dart.literal variant.value ++ ",").toList ++
            ['\n'])
      Eq := by
  intro variant other hSpelled hOther r s hEq
  simp only [String.toList_append, List.append_assoc,
    List.append_cancel_left_eq] at hEq
  rcases hSpelled.eq_of_append hOther (by decide) hEq with
    ⟨hName, hLiteral⟩
  rcases Dart.literal_append_injective hLiteral with
    ⟨hValue, hRest⟩
  simp only [List.append_cancel_left_eq] at hRest
  rcases variant with ⟨name, value⟩
  exact ⟨congr (congrArg Variant.mk hName) hValue, hRest⟩

namespace EnumLayout

variable {layout other : EnumLayout}
variable {r s : List Char}

theorem declarationLines_tell
    (hSpelled : layout.IsSpelled)
    (hOther : other.IsSpelled)
    (hEq : gap layout.declarationLines ++ r =
      gap other.declarationLines ++ s) :
    layout.typeName = other.typeName ∧ r = s := by
  rw [declarationLines, declarationLines, gap_rows,
    gap_rows] at hEq
  simp only [String.toList_append, List.append_assoc,
    List.append_cancel_left_eq] at hEq
  rcases hSpelled.typeName.eq_of_append hOther.typeName
      (by decide) hEq with
    ⟨hType, hRows⟩
  simp only [List.append_cancel_left_eq] at hRows
  have hMark : ∀ variant : Variant,
      "  ".toList <+:
        ("  " ++ variant.name ++ ",").toList := by
    intro variant
    simp only [String.toList_append, List.append_assoc]
    exact List.prefix_append _ _
  rcases rows_tell Variant.name_tells hMark (by decide)
      hSpelled.variants hOther.variants hRows with
    ⟨_, hRest⟩
  exact ⟨hType, hRest⟩

/- The name of a table is a word. -/
theorem IsSpelled.toMap
    (hSpelled : layout.IsSpelled) :
    Dart.IsWord layout.toMap :=
  ((Dart.isWord_text (by decide)).append hSpelled.member).append
    (Dart.isWord_text (by decide))

/- The name of a table tells the member. -/
theorem member_eq_of_toMap
    (hEq : layout.toMap = other.toMap) :
    layout.member = other.member := by
  have hChars := congrArg String.toList hEq
  simp only [EnumLayout.toMap, String.toList_append,
    List.append_assoc] at hChars
  exact String.ext (List.append_cancel_right
    (List.append_cancel_left hChars))

theorem toMapLines_tell
    (hSpelled : layout.IsSpelled)
    (hOther : other.IsSpelled)
    (hType : layout.typeName = other.typeName)
    (hEq : gap layout.toMapLines ++ r =
      gap other.toMapLines ++ s) :
    layout.member = other.member ∧
      layout.variants = other.variants ∧ r = s := by
  rw [toMapLines, toMapLines, hType, gap_rows,
    gap_rows] at hEq
  simp only [String.toList_append, List.append_assoc,
    List.append_cancel_left_eq] at hEq
  rcases hSpelled.toMap.eq_of_append hOther.toMap
      (by decide) hEq with
    ⟨hTable, hRows⟩
  simp only [List.append_cancel_left_eq] at hRows
  have hMark : ∀ variant : Variant,
      "  ".toList <+: ("  " ++ other.typeName ++ "." ++
        variant.name ++ ": " ++
          Dart.literal variant.value ++ ",").toList := by
    intro variant
    simp only [String.toList_append, List.append_assoc]
    exact List.prefix_append _ _
  rcases rows_tell (Variant.row_tells other.typeName) hMark
      (by decide) hSpelled.variants hOther.variants hRows with
    ⟨hVariants, hRest⟩
  rw [List.forall₂_eq_eq_eq] at hVariants
  exact ⟨member_eq_of_toMap hTable, hVariants, hRest⟩

theorem fromWireLines_tell
    (hType : layout.typeName = other.typeName)
    (hMember : layout.member = other.member)
    (hEq : gap layout.fromWireLines ++ r =
      gap other.fromWireLines ++ s) :
    layout.fieldName = other.fieldName ∧ r = s := by
  simp only [fromWireLines, fromWire, fromMap, hType,
    hMember, gap, block_cons, String.toList_append,
    List.append_assoc, List.append_cancel_left_eq] at hEq
  rcases Dart.literal_append_injective hEq with
    ⟨hField, hRest⟩
  simp only [List.append_cancel_left_eq] at hRest
  exact ⟨hField, hRest⟩

theorem lines_tell :
    Text.Tells IsSpelled (fun layout => gap layout.lines)
      Eq := by
  intro layout other hSpelled hOther r s hEq
  simp only [gap_lines, List.append_assoc] at hEq
  rcases declarationLines_tell hSpelled hOther hEq with
    ⟨hType, hToMap⟩
  rcases toMapLines_tell hSpelled hOther hType hToMap with
    ⟨hMember, hVariants, hFromMap⟩
  have hSameLines :
      layout.fromMapLines = other.fromMapLines := by
    simp only [fromMapLines, fromMap, hType, hMember,
      hVariants]
  rw [hSameLines] at hFromMap
  have hFromWire := List.append_cancel_left hFromMap
  rcases fromWireLines_tell hType hMember hFromWire with
    ⟨hField, hRest⟩
  rcases layout with ⟨fieldName, typeName, member, variants⟩
  simp only at hField hType hMember hVariants
  subst hField hType hMember hVariants
  exact ⟨rfl, hRest⟩

end EnumLayout

------------------------------------------------------------
-- Fields
------------------------------------------------------------

namespace FieldLayout

theorem IsSpelled.space_notMem
    {field : FieldLayout}
    (hSpelled : field.IsSpelled) :
    ' ' ∉ field.type.render.toList := by
  have hBase : ' ' ∉ field.type.base.toList :=
    hSpelled.base.notMem (by decide) (by decide)
  rcases field.type.render_cases with hType | hType
  · rwa [hType]
  · rw [hType, String.toList_append, List.mem_append, not_or]
    exact ⟨hBase, by decide⟩

theorem declarationLines_tell :
    Text.Tells IsSpelled
      (fun field => gap field.declarationLines)
      (fun field other => field.name = other.name ∧
        field.type.render = other.type.render) := by
  intro field other hSpelled hOther r s hEq
  simp only [declarationLines, gap, block_cons, block_nil,
    String.toList_append, List.append_assoc,
    List.append_nil, List.append_cancel_left_eq] at hEq
  have hStop : " ".toList.head? = some ' ' := by decide
  rcases Text.eq_of_append_stop hStop hSpelled.space_notMem
      hOther.space_notMem hEq with
    ⟨hType, hMember⟩
  rcases hSpelled.member.eq_of_append hOther.member
      (by decide) hMember with
    ⟨_, hConstant⟩
  simp only [List.append_cancel_left_eq] at hConstant
  rcases hSpelled.constant.eq_of_append hOther.constant
      (by decide) hConstant with
    ⟨_, hLiteral⟩
  rcases Dart.literal_append_injective hLiteral with
    ⟨hName, hRest⟩
  simp only [List.append_cancel_left_eq] at hRest
  exact ⟨⟨hName, String.ext hType⟩, hRest⟩

/- The mark of a required parameter. -/
def requiredMark (required : Bool) : String :=
  if required then "required " else ""

theorem requiredMark_tells
    {required required' : Bool}
    {r s : List Char}
    (hEq : (requiredMark required).toList ++
        ("this.".toList ++ r) =
      (requiredMark required').toList ++
        ("this.".toList ++ s)) :
    required = required' ∧ r = s := by
  have hApart :
      Text.Apart "required ".toList "this.".toList := by
    decide
  cases required with
  | false =>
      cases required' with
      | false => exact ⟨rfl, List.append_cancel_left hEq⟩
      | true => exact absurd hEq.symm (hApart.append_ne _ _)
  | true =>
      cases required' with
      | false => exact absurd hEq (hApart.append_ne _ _)
      | true =>
          have hThis := List.append_cancel_left hEq
          exact ⟨rfl, List.append_cancel_left hThis⟩

theorem parameterLine_tells :
    Text.Tells IsSpelled
      (fun field => field.parameterLine.toList ++ ['\n'])
      (fun field other =>
        field.required = other.required) := by
  have hLine : ∀ field : FieldLayout,
      field.parameterLine =
        "    " ++ requiredMark field.required ++ "this." ++
          field.member ++ "," :=
    fun _ => rfl
  intro field other hSpelled hOther r s hEq
  simp only [hLine, String.toList_append, List.append_assoc,
    List.append_cancel_left_eq] at hEq
  rcases requiredMark_tells hEq with ⟨hRequired, hMember⟩
  rcases hSpelled.member.eq_of_append hOther.member
      (by decide) hMember with
    ⟨_, hRest⟩
  exact ⟨hRequired, List.append_cancel_left hRest⟩

end FieldLayout

end PocketDart
