import PocketDart.Proofs.Model.EnumConstants
import PocketDart.Proofs.Model.FirstFault
import PocketDart.Proofs.Naming.TimeType

/-
  This file proves when a field collides with itself. Its
  member and its constant are the same name just where the
  raw name starts with an underscore or a dollar sign: the
  one leaves only capitals, the other has no case. Any other
  field is accepted alone where its names are free.

  Key definitions include:
    * `Naming.StartsWithMark`

  Key theorems include:
    * `Naming.memberName_eq_typeName_of_mark`
    * `Naming.memberName_eq_typeName_iff`
    * `Collection.wellFormed_withFields_text_iff`
    * `single_field_accepted`
-/

------------------------------------------------------------
-- Members that are Constants
------------------------------------------------------------

namespace PocketDart

namespace Naming

/- A raw name that starts with an underscore or a dollar. -/
def StartsWithMark (raw : String) : Prop :=
  raw.toList.head? = some delimiter ∨
    raw.toList.head? = some '$'

instance (raw : String) : Decidable (StartsWithMark raw) := by
  unfold StartsWithMark
  infer_instance

theorem memberName_eq_typeName_of_underscore
    {raw : String}
    (hHead : raw.toList.head? = some delimiter) :
    memberName raw = typeName raw := by
  rcases List.head?_eq_some_iff.mp hHead with ⟨rest, hRaw⟩
  have hPieces : Text.pieces delimiter (delimiter :: rest) =
      [] :: Text.pieces delimiter rest := by
    simp [Text.pieces, Text.split]
  have hTime :
      spellsTimeType (delimiter :: rest) = false := by
    apply spellsTimeType_of_empty
    rw [hPieces]
    exact List.mem_cons_self
  rw [memberName, typeName, hRaw, memberChars_delimiter,
    typeChars, hTime, hPieces]
  rfl

/- Behind a mark there is no first letter to change. -/
theorem memberName_eq_typeName_of_mark
    {raw : String}
    (hMark : StartsWithMark raw) :
    memberName raw = typeName raw := by
  rcases hMark with hHead | hHead
  · exact memberName_eq_typeName_of_underscore hHead
  · apply memberName_eq_typeName_of_dollar
    have hTime : spellsTimeType raw.toList = false := by
      rw [Bool.eq_false_iff]
      intro hTime
      exact notMem_of_spellsTimeType (by decide) (by decide)
        hTime (List.mem_of_mem_head? hHead)
    rcases List.head?_eq_some_iff.mp hHead with
      ⟨rest, hRaw⟩
    have hUpper : Text.upper '$' = ['$'] := by decide
    have hApart : '$' ≠ delimiter := by decide
    rw [hRaw] at hTime
    simp [typeName, typeChars, hRaw, hTime, Text.pieces,
      Text.split, hApart, Text.capitalize, hUpper]

theorem head?_of_memberName_dollar
    {raw : String}
    (hMark : raw.toList.head? ≠ some delimiter)
    (hHead : (memberName raw).toList.head? = some '$') :
    raw.toList.head? = some '$' := by
  rcases exists_first_of_head?_memberName hMark hHead with
    ⟨first, rest, hRaw, hMem⟩
  rcases Text.mem_lower hMem with hSame | hLetter
  · rw [hRaw, ← hSame]
    rfl
  · exact absurd hLetter (by decide)

/-
  Where the member is an identifier, it is the constant as
  well only behind a mark: a first letter would be small in
  the one and a capital in the other.
-/
theorem memberName_eq_typeName_iff
    {raw : String}
    (hMember : Dart.nameProblem? (memberName raw) = none) :
    memberName raw = typeName raw ↔ StartsWithMark raw := by
  refine ⟨fun hSame => ?_, memberName_eq_typeName_of_mark⟩
  by_contra hMark
  rw [StartsWithMark, not_or] at hMark
  rcases Dart.exists_head?_of_nameProblem? hMember with
    ⟨c, hHead, hStart⟩
  have hCapital := isUpper_head?_memberName hMark.1 hHead
  have hSmall : c.isLower = false := by
    rw [hSame] at hHead
    exact isLower_head?_typeName hHead
  have hUnderscore : c ≠ '_' := by
    rintro rfl
    exact underscore_notMem_memberName raw
      (List.mem_of_mem_head? hHead)
  have hDollar : c = '$' := by
    by_contra hOther
    rw [Dart.isUpper_of_isNameStart hStart hSmall hUnderscore
      hOther] at hCapital
    cases hCapital
  subst hDollar
  exact hMark.2 (head?_of_memberName_dollar hMark.1 hHead)

end Naming

------------------------------------------------------------
-- Single Fields
------------------------------------------------------------

namespace Collection

variable {settings : Settings}
variable {collection : Collection}
variable {field : Field}
variable {name : String}

theorem emits_iff_wellFormed :
    (∃ model, collection.emit settings = .ok model) ↔
      collection.WellFormed settings := by
  constructor
  · rintro ⟨model, hEmit⟩
    rcases Fallible.map_eq_ok.mp hEmit with ⟨_, hLayout, _⟩
    exact (layout_eq_ok_iff.mp hLayout).1
  · intro hFormed
    exact ⟨_, Fallible.map_eq_ok.mpr
      ⟨_, layout_eq_ok_iff.mpr ⟨hFormed, rfl⟩, rfl⟩⟩

/-
  A collection that is well-formed without fields stays so
  with a text field, exactly when the field is named well
  and its two names are fresh.
-/
theorem wellFormed_withFields_text_iff
    (hFormed :
      (collection.withFields []).WellFormed settings)
    (hKind : field.kind = .text) :
    (collection.withFields [field]).WellFormed settings ↔
      field.WellNamed ∧
        (bodyScope settings
          (collection.classNameOf settings)).Fresh
            [memberName field.nameText,
              typeName field.nameText] := by
  have hSelect : field.isSelect = false := by
    simp [Field.isSelect, hKind]
  have hNames :
      (collection.withFields [field]).declaredNames =
        [memberName field.nameText,
          typeName field.nameText] := by
    simp [declaredNames, withFields, Field.declaredNames,
      hSelect]
  have hFresh :
      (bodyScope settings
          (collection.classNameOf settings)).Fresh
            [memberName field.nameText,
              typeName field.nameText] ↔
        (collection.withFields [field]).declaredNames.Nodup ∧
          ∀ name ∈
              (collection.withFields [field]).declaredNames,
            name ∉ usedNames settings
              (collection.classNameOf settings) := by
    simp only [Scope.Fresh, owner?_bodyScope_eq_none_iff,
      hNames]
  rw [hFresh]
  constructor
  · intro hFields
    exact ⟨hFields.fieldsNamed field List.mem_cons_self,
      hFields.namesDistinct, hFields.namesFree⟩
  · rintro ⟨hNamed, hDistinct, hFree⟩
    refine ⟨hFormed.isText, hFormed.notEmpty,
      hFormed.classNamed, ?_, hDistinct, hFree, ?_⟩
    · intro other hOther
      rwa [List.mem_singleton.mp hOther]
    · intro other hOther hOtherSelect
      rw [List.mem_singleton.mp hOther, hSelect]
        at hOtherSelect
      cases hOtherSelect

theorem WellFormed.isNamed
    (hFormed :
      (collection.withFields []).WellFormed settings) :
    collection.IsNamed settings :=
  ⟨hFormed.isText, hFormed.notEmpty, hFormed.classNamed⟩

end Collection

/-
  Behind a mark the constant of a field meets its own member
  in the class body.
-/
theorem layoutNamedField_of_mark
    {scopes : Scopes}
    {name : String}
    (hSystem : name ∉ systemFieldNames)
    (hMember : Dart.nameProblem? (memberName name) = none)
    (hFree : scopes.body.owner? (memberName name) = none)
    (hMark : Naming.StartsWithMark name)
    (field : Field) :
    layoutNamedField scopes field name =
      .error (.takenName .constant (typeName name)
        (.field name)) := by
  have hSame := Naming.memberName_eq_typeName_of_mark hMark
  have hTaken :=
    Scope.owner?_claim_self hFree (some (.field name))
  have hBody :
      claimName .member (memberName name) (.field name)
          scopes.body =
        .ok (scopes.body.claim (memberName name)
          (some (.field name))).2 :=
    claimName_eq_ok_iff.mpr ⟨hFree, rfl⟩
  have hConstant :
      claimName .constant (memberName name) (.field name)
          (scopes.body.claim (memberName name)
            (some (.field name))).2 =
        .error (.takenName .constant (memberName name)
          (.field name)) := by
    rw [claimName, Scope.claim_of_owner hTaken]
  simp only [layoutNamedField, hSystem, if_false, ← hSame,
    checkName, hMember, hBody, hConstant, Fallible.ok_bind,
    Fallible.error_bind]

/-
  A field that starts with a mark is refused as the only
  field, and the error names the field itself as the owner
  of its constant.
-/
theorem marked_field_blames_itself
    {settings : Settings}
    {collection : Collection}
    (hEmpty : ∃ model,
      (collection.withFields []).emit settings = .ok model)
    {field : Field}
    {name : String}
    (hName : field.name = .text name)
    (hSystem : name ∉ systemFieldNames)
    (hMember : Dart.nameProblem? (memberName name) = none)
    (hFree :
      (bodyScope settings
        (collection.classNameOf settings)).owner?
          (memberName name) = none)
    (hMark : Naming.StartsWithMark name) :
    (collection.withFields [field]).emit settings =
      .error ⟨collection.name, .text name,
        .takenName .constant (typeName name)
          (.field name)⟩ := by
  have hSome : name ≠ "" := by
    rintro rfl
    exact absurd hMember (by decide)
  have hNamed :=
    (Collection.emits_iff_wellFormed.mp hEmpty).isNamed
  have hField :
      layoutField (initialScopes settings
          (collection.classNameOf settings)) field =
        .error (.takenName .constant (typeName name)
          (.field name)) := by
    simp only [layoutField, hName, if_neg hSome]
    apply layoutNamedField_of_mark hSystem hMember ?_ hMark
    simpa only [initialScopes] using hFree
  rw [hNamed.emit_eq, Fallible.map_eq_error,
    layoutFields_cons_of_error hField, hName]

/-
  A text field whose member and constant are identifiers and
  free in the class body is accepted as the only field, if
  its name starts with neither an underscore nor a dollar
  sign.
-/
theorem single_field_accepted
    {settings : Settings}
    {collection : Collection}
    (hEmpty : ∃ model,
      (collection.withFields []).emit settings = .ok model)
    {field : Field}
    {name : String}
    (hName : field.name = .text name)
    (hKind : field.kind = .text)
    (hSystem : name ∉ systemFieldNames)
    (hMember : Dart.nameProblem? (memberName name) = none)
    (hConstant : Dart.nameProblem? (typeName name) = none)
    (hMemberFree :
      (bodyScope settings
        (collection.classNameOf settings)).owner?
          (memberName name) = none)
    (hConstantFree :
      (bodyScope settings
        (collection.classNameOf settings)).owner?
          (typeName name) = none)
    (hMark : ¬ Naming.StartsWithMark name) :
    ∃ model,
      (collection.withFields [field]).emit settings =
        .ok model := by
  have hText : field.nameText = name := by
    simp [Field.nameText, hName]
  subst hText
  have hSome : field.nameText ≠ "" := by
    intro hNone
    rw [hNone] at hMember
    exact absurd hMember (by decide)
  have hApart : memberName field.nameText ≠
      typeName field.nameText :=
    mt (Naming.memberName_eq_typeName_iff hMember).mp hMark
  rw [Collection.emits_iff_wellFormed] at hEmpty ⊢
  rw [Collection.wellFormed_withFields_text_iff hEmpty hKind]
  refine ⟨⟨hName, hSome, hSystem, hMember, hConstant⟩, ?_, ?_⟩
  · simpa using hApart
  · simp [hMemberFree, hConstantFree]

/-
  A leading underscore is enough for a field to be refused
  although its member and its constant are identifiers and
  free before the field.
-/
theorem underscored_title_refused :
    let posts : Collection :=
      { name := .text "posts", fields := [], id := .null
        kind := .text "base", system := false }
    let title : Field :=
      { name := .text "_title", kind := .text
        required := .bool false, options := []
        tag := .text "text" }
    let scope := bodyScope {} (posts.classNameOf {})
    (∃ model, (posts.withFields []).emit {} = .ok model) ∧
      "_title" ∉ systemFieldNames ∧
      Dart.nameProblem? (memberName "_title") = none ∧
      Dart.nameProblem? (typeName "_title") = none ∧
      scope.owner? (memberName "_title") = none ∧
      scope.owner? (typeName "_title") = none ∧
      ¬ ∃ model, (posts.withFields [title]).emit {} =
        .ok model := by
  intro posts title scope
  refine ⟨⟨_, rfl⟩, by decide, by decide, by decide,
    by decide, by decide, ?_⟩
  rintro ⟨model, hModel⟩
  rw [marked_field_blames_itself ⟨_, rfl⟩ rfl (by decide)
    (by decide) (by decide) (by decide)] at hModel
  cases hModel

/- Two small words for a title, which do not collide. -/
theorem sub_title_accepted :
    let posts : Collection :=
      { name := .text "posts", fields := [], id := .null
        kind := .text "base", system := false }
    let subTitle : Field :=
      { name := .text "sub_title", kind := .text
        required := .bool false, options := []
        tag := .text "text" }
    ∃ model, (posts.withFields [subTitle]).emit {} =
      .ok model := by
  intro posts subTitle
  have hEmpty : ∃ model,
      (posts.withFields []).emit {} = .ok model := ⟨_, rfl⟩
  have hName : subTitle.name = .text "sub_title" := rfl
  exact single_field_accepted hEmpty hName rfl (by decide)
    (by decide) (by decide) (by decide) (by decide)
    (by decide)

end PocketDart
