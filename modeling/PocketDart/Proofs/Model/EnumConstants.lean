import Mathlib.Data.List.Nodup
import PocketDart.Proofs.Dart.Legal
import PocketDart.Proofs.Model.Acceptance
import PocketDart.Proofs.Naming.Ends
import PocketDart.Proofs.Naming.Marks

/-
  This file proves which declared values give a constant
  that an enum cannot have. A constant is not to be named
  like its enum or like a member that the enum has anyway.
  The scope of an enum knows some of these members, but
  neither the methods of every object nor the enum itself.

  Key definitions include:
    * `EnumLayout.ConstantsAllowed`
    * `Field.Clashes`

  Key theorems include:
    * `Naming.memberName_underscore`
    * `Field.memberName_eq_enumTypeName_iff`
    * `enumConstants_allowed_iff`
-/

------------------------------------------------------------
-- Constants of Enums
------------------------------------------------------------

namespace PocketDart

def Dart.objectMethods : List String :=
  ["toString", "noSuchMethod"]

/- The members that an enum has whatever it declares. -/
def Dart.inheritedMembers : List String :=
  enumMembers ++ objectMethods

/- No constant is named like the enum or a member of it. -/
def EnumLayout.ConstantsAllowed
    (layout : EnumLayout) : Prop :=
  ∀ variant ∈ layout.variants,
    variant.name ≠ layout.typeName ∧
      variant.name ∉ Dart.inheritedMembers

instance (layout : EnumLayout) :
    Decidable layout.ConstantsAllowed := by
  unfold EnumLayout.ConstantsAllowed
  infer_instance

/-
  A value whose constant is a method of every object, or
  that is an underscore before a raw name of the enum.
-/
def Field.Clashes
    (field : Field)
    (text : String) : Prop :=
  memberName text ∈ Dart.objectMethods ∨
    ∃ rest, text = "_" ++ rest ∧
      typeName rest = enumTypeName field.nameText

------------------------------------------------------------
-- Member Names that are Type Names
------------------------------------------------------------

namespace Naming

theorem memberChars_delimiter (rest : List Char) :
    memberChars (delimiter :: rest) =
      (Text.pieces delimiter rest).flatMap
        Text.capitalize := by
  simp [memberChars, Text.split, Text.pieces,
    Text.uncapitalize]

/-
  An underscore in front makes a type name of a member name,
  unless the rest is a name for points in time.
-/
theorem memberName_underscore
    {rest : String}
    (hTime : spellsTimeType rest.toList = false) :
    memberName ("_" ++ rest) = typeName rest := by
  have hChars : ("_" ++ rest).toList =
      delimiter :: rest.toList := by
    rw [String.toList_append]
    rfl
  rw [memberName, hChars, memberChars_delimiter, typeName,
    typeChars, hTime]
  rfl

theorem mem_of_mem_flatMap_capitalize
    {cs : List Char}
    {c : Char}
    (hLower : c.isLower)
    (hMem : c ∈ (Text.pieces delimiter cs).flatMap
      Text.capitalize) :
    c ∈ cs := by
  rcases List.mem_flatMap.mp hMem with
    ⟨piece, hPiece, hMem⟩
  have hIn : c ∈ piece := by
    cases piece with
    | nil => cases hMem
    | cons first rest =>
        rcases List.mem_append.mp hMem with hFirst | hRest
        · rw [Text.isLower_of_mem_upper hFirst] at hLower
          cases hLower
        · exact List.mem_cons_of_mem _ hRest
  have hFlat : c ∈ (Text.pieces delimiter cs).flatten :=
    List.mem_flatten.mpr ⟨piece, hPiece, hIn⟩
  rw [Text.flatten_pieces] at hFlat
  exact (List.mem_filter.mp hFlat).1

/- The letter `n` comes in no name for points in time. -/
theorem spellsTimeType_of_mem
    {raw : List Char}
    (hMem : 'n' ∈ raw) :
    spellsTimeType raw = false := by
  rw [Bool.eq_false_iff]
  intro hTime
  exact notMem_of_spellsTimeType (by decide) (by decide)
    hTime hMem

theorem mem_enumTypeName (raw : String) :
    'n' ∈ (enumTypeName raw).toList := by
  rw [enumTypeName, String.toList_append]
  exact List.mem_append_right _ (by decide)

/-
  A type name that starts with a dollar sign is the member
  name as well, since there is no first letter to change.
-/
theorem memberName_eq_typeName_of_dollar
    {raw : String}
    (hHead : (typeName raw).toList.head? = some '$') :
    memberName raw = typeName raw := by
  rw [typeName, String.toList_ofList, typeChars] at hHead
  split at hHead
  · exact absurd hHead (by decide)
  · next hTime =>
      have hMember : memberChars raw.toList =
          Text.uncapitalize
              (Text.split delimiter raw.toList).1 ++
            (Text.split delimiter raw.toList).2.flatMap
              Text.capitalize := rfl
      rw [memberName, hMember, typeName, typeChars,
        if_neg hTime, Text.pieces, List.flatMap_cons]
      rw [Text.pieces, List.flatMap_cons] at hHead
      cases hFirst : (Text.split delimiter raw.toList).1 with
      | nil => rfl
      | cons first rest =>
          rw [hFirst] at hHead
          rcases List.exists_cons_of_ne_nil
              (Text.upper_ne_nil first) with
            ⟨d, ds, hUpper⟩
          have hEq : d = '$' := by
            simpa [Text.capitalize, hUpper] using hHead
          subst hEq
          have hMem : '$' ∈ Text.upper first := by
            simp [hUpper]
          rcases Text.mem_upper hMem with hSame | hLetter
          · subst hSame
            rfl
          · exact absurd hLetter (by decide)

end Naming

------------------------------------------------------------
-- Constants Named like their Enum
------------------------------------------------------------

namespace Field

/-
  The type name of a field that declares its names once
  starts with a capital.
-/
theorem WellNamed.head?_typeName
    {field : Field}
    (hNamed : field.WellNamed)
    (hDistinct : field.declaredNames.Nodup) :
    ∃ c, (typeName field.nameText).toList.head? = some c ∧
      c.isUpper := by
  have hApart :
      memberName field.nameText ≠
        typeName field.nameText := by
    have hFirst := (List.nodup_append.mp hDistinct).1
    simpa using hFirst
  rcases Dart.exists_head?_of_nameProblem? hNamed.constant
    with ⟨c, hHead, hStart⟩
  have hSmall := Naming.isLower_head?_typeName hHead
  refine ⟨c, hHead,
    Dart.isUpper_of_isNameStart hStart hSmall ?_ ?_⟩
  · rintro rfl
    exact Naming.underscore_notMem_typeName _
      (List.mem_of_mem_head? hHead)
  · rintro rfl
    exact hApart
      (Naming.memberName_eq_typeName_of_dollar hHead)

/-
  A constant is named like its enum exactly when its value
  is an underscore before a raw name of the enum.
-/
theorem memberName_eq_enumTypeName_iff
    {field : Field}
    (hNamed : field.WellNamed)
    (hDistinct : field.declaredNames.Nodup)
    (text : String) :
    memberName text = enumTypeName field.nameText ↔
      ∃ rest, text = "_" ++ rest ∧
        typeName rest = enumTypeName field.nameText := by
  constructor
  · intro hEq
    rcases hNamed.head?_typeName hDistinct with
      ⟨c, hHead, hCapital⟩
    have hFirst :
        (memberName text).toList.head? = some c := by
      rw [hEq, enumTypeName, String.toList_append,
        List.head?_append, hHead]
      rfl
    have hMark : text.toList.head? =
        some Naming.delimiter := by
      by_contra hNone
      rw [Naming.isUpper_head?_memberName hNone hFirst]
        at hCapital
      cases hCapital
    rcases List.head?_eq_some_iff.mp hMark with
      ⟨rest, hText⟩
    have hSplit : text = "_" ++ String.ofList rest := by
      apply String.ext
      simp [hText, Naming.delimiter]
    have hLetter : 'n' ∈ rest := by
      apply Naming.mem_of_mem_flatMap_capitalize (by decide)
      have hMem := Naming.mem_enumTypeName field.nameText
      rwa [← hEq, memberName, String.toList_ofList, hText,
        Naming.memberChars_delimiter] at hMem
    refine ⟨.ofList rest, hSplit, ?_⟩
    rw [← hEq, hSplit]
    symm
    apply Naming.memberName_underscore
    rw [String.toList_ofList]
    exact Naming.spellsTimeType_of_mem hLetter
  · rintro ⟨rest, rfl, hType⟩
    rw [← hType]
    apply Naming.memberName_underscore
    rw [Bool.eq_false_iff]
    intro hTime
    have hLetter := Naming.mem_enumTypeName field.nameText
    rw [← hType, typeName, String.toList_ofList,
      Naming.typeChars, if_pos hTime] at hLetter
    exact absurd hLetter (by decide)

/-
  The enum of a sound field allows its constants exactly
  when no declared value clashes. The members that the scope
  of an enum knows are excluded already.
-/
theorem constantsAllowed_enumDraft_iff
    {field : Field}
    (hNamed : field.WellNamed)
    (hValued : field.WellValued)
    (hDistinct : field.declaredNames.Nodup) :
    field.enumDraft.ConstantsAllowed ↔
      ∀ text ∈ field.valueTexts, ¬ field.Clashes text := by
  rw [EnumLayout.ConstantsAllowed, enumDraft,
    List.forall_mem_map]
  refine forall₂_congr fun text hText => ?_
  have hKnown : memberName text ∉ Dart.enumMembers :=
    hValued.variantsFree text hText
  rw [Clashes, Dart.inheritedMembers, Variant.ofText,
    List.mem_append, not_or, not_or,
    ← memberName_eq_enumTypeName_iff hNamed hDistinct]
  constructor
  · rintro ⟨hType, _, hMethod⟩
    exact ⟨hMethod, hType⟩
  · rintro ⟨hMethod, hType⟩
    exact ⟨hType, hKnown, hMethod⟩

end Field

------------------------------------------------------------
-- Enums of a Collection
------------------------------------------------------------

theorem Collection.WellFormed.nodup_declaredNames
    {settings : Settings}
    {collection : Collection}
    (hFormed : collection.WellFormed settings)
    {field : Field}
    (hField : field ∈ collection.fields) :
    field.declaredNames.Nodup :=
  (List.nodup_flatMap.mp hFormed.namesDistinct).1 field
    hField

/-
  The enums of a layout allow all their constants exactly
  when no select field declares a value that clashes.
-/
theorem enumConstants_allowed_iff
    {settings : Settings}
    {collection : Collection}
    {layout : Layout}
    (hLayout : collection.layout settings = .ok layout) :
    (∀ enum ∈ layout.enums, enum.ConstantsAllowed) ↔
      ∀ field ∈ collection.fields, field.isSelect →
        ∀ text ∈ field.valueTexts,
          ¬ field.Clashes text := by
  rcases Collection.layout_eq_ok_iff.mp hLayout with
    ⟨hFormed, rfl⟩
  rw [Collection.enums_draft, List.forall_mem_map]
  simp only [List.mem_filter, and_imp]
  refine forall_congr' fun field => ?_
  refine forall₂_congr fun hField hSelect => ?_
  exact Field.constantsAllowed_enumDraft_iff
    (hFormed.fieldsNamed field hField)
    (hFormed.fieldsValued field hField hSelect)
    (hFormed.nodup_declaredNames hField)

def ticketsOf (statuses : List String) : Collection :=
  { name := .text "tickets", id := .null
    kind := .text "base", system := false
    fields := [
      { name := .text "status", kind := .select
        required := .bool true
        options :=
          [("values", .list (statuses.map .text))]
        tag := .text "select" }] }

/- An underscore in front does no harm by itself. -/
theorem open_constants_allowed :
    ∃ layout,
      (ticketsOf ["open", "_status"]).layout {} =
          .ok layout ∧
        ∀ enum ∈ layout.enums, enum.ConstantsAllowed := by
  have hLayout : (ticketsOf ["open", "_status"]).layout {} =
      .ok ((ticketsOf ["open", "_status"]).draft {}) := by
    rfl
  refine ⟨_, hLayout,
    (enumConstants_allowed_iff hLayout).mpr ?_⟩
  intro field hField _ text hText hClash
  rcases List.mem_singleton.mp hField with rfl
  have hCases : text = "open" ∨ text = "_status" := by
    simpa [Field.valueTexts, Field.declaredValues] using
      hText
  rcases hClash with hMethod | ⟨rest, hRest, hType⟩
  · rcases hCases with rfl | rfl
    · exact absurd hMethod (by decide)
    · exact absurd hMethod (by decide)
  · have hChars := congrArg String.toList hRest
    rcases hCases with rfl | rfl
    · simp at hChars
    · have hStatus : "status" = rest := by
        apply String.ext
        simpa using hChars
      subst hStatus
      exact absurd hType (by decide)

/-
  The method of every object and the enum itself come from
  values that are accepted.
-/
theorem status_constants_not_allowed :
    ∃ layout,
      (ticketsOf ["to_string", "_status_enum"]).layout {} =
          .ok layout ∧
        layout.enums.map (fun enum =>
            (enum.typeName, enum.variants.map (·.name))) =
          [("StatusEnum", ["toString", "StatusEnum"])] ∧
        ¬ ∀ enum ∈ layout.enums, enum.ConstantsAllowed := by
  refine ⟨_, rfl, rfl, ?_⟩
  decide

end PocketDart
