import PocketDart.Model.Build
import PocketDart.Proofs.Fallible
import PocketDart.Proofs.Naming.Fresh

/-
  This file proves what the layout of a field is when it has
  one. The layout depends on the field alone, and the scopes
  only decide whether its names are free: they are claimed
  in one order, but any order would do.

  Key definitions include:
    * `Field.draft`
    * `Field.claims`
    * `Field.WellNamed`
    * `Field.WellValued`
    * `VariantsFit`
    * `Scopes.Nested`

  Key theorems include:
    * `layoutVariants_eq_ok_iff`
    * `layoutEnum_eq_ok_iff`
    * `layoutField_eq_ok_iff`
    * `layoutFields_eq_ok_iff`
-/

------------------------------------------------------------
-- Drafts
------------------------------------------------------------

namespace PocketDart

/- The enum constant of a declared value. -/
def Variant.ofText (text : String) : Variant :=
  ⟨memberName text, text⟩

namespace Field

def nameText (field : Field) : String :=
  match field.name with
  | .text name => name
  | _ => ""

def valueTexts (field : Field) : List String :=
  field.declaredValues.filterMap fun value =>
    match value with
    | .text text => some text
    | _ => none

/- The enum of a select field, whatever else is declared. -/
def enumDraft (field : Field) : EnumLayout :=
  { fieldName := field.nameText
    typeName := enumTypeName field.nameText
    member := memberName field.nameText
    variants := field.valueTexts.map .ofText }

/- The layout of a field, whatever else is declared. -/
def draft (field : Field) : FieldLayout :=
  { name := field.nameText
    member := memberName field.nameText
    constant := typeName field.nameText
    type :=
      .ofKind field.kind field.nameText field.isRequired
    required := field.isRequired
    kind := field.kind
    enum? :=
      if field.isSelect then some field.enumDraft else none }

/- The member, the constant and the enum type of a field. -/
def declaredNames (field : Field) : List String :=
  [memberName field.nameText, typeName field.nameText] ++
    if field.isSelect then [enumTypeName field.nameText]
    else []

def fileClaims (field : Field) : List (String × Owner) :=
  if field.isSelect then
    [(enumTypeName field.nameText, .enumOf field.nameText)]
  else []

/- The names that a field claims in the class body. -/
def claims (field : Field) : List (String × Owner) :=
  [(memberName field.nameText, .field field.nameText),
    (typeName field.nameText, .field field.nameText)] ++
    field.fileClaims

theorem map_claims (field : Field) :
    field.claims.map (·.1) = field.declaredNames := by
  cases hSelect : field.isSelect with
  | false =>
      simp [claims, fileClaims, declaredNames, hSelect]
  | true =>
      simp [claims, fileClaims, declaredNames, hSelect]

theorem fileClaims_sublist (field : Field) :
    (field.fileClaims.map (·.1)).Sublist
      field.declaredNames := by
  rw [← map_claims, claims, List.map_append]
  exact List.sublist_append_right _ _

------------------------------------------------------------
-- Sound Fields
------------------------------------------------------------

/-
  A name that is a text, is none of the names that every
  record has, and gives a member and a constant.
-/
structure WellNamed (field : Field) : Prop where
  isText : field.name = .text field.nameText
  notEmpty : field.nameText ≠ ""
  notSystem : field.nameText ∉ systemFieldNames
  member :
    Dart.nameProblem? (memberName field.nameText) = none
  constant :
    Dart.nameProblem? (typeName field.nameText) = none

/-
  Values that are a list of distinct texts, each of which
  gives an enum constant of its own.
-/
structure WellValued (field : Field) : Prop where
  areTexts :
    field.options.lookup "values" =
      some (.list (field.valueTexts.map .text))
  notEmpty : field.valueTexts ≠ []
  textsNotEmpty : ∀ text ∈ field.valueTexts, text ≠ ""
  textsDistinct : field.valueTexts.Nodup
  variants :
    ∀ text ∈ field.valueTexts,
      Dart.nameProblem? (memberName text) = none
  variantsDistinct :
    (field.valueTexts.map memberName).Nodup
  variantsFree :
    ∀ text ∈ field.valueTexts,
      memberName text ∉ Dart.enumMembers

/- A field that has a layout where its names are free. -/
structure Sound (field : Field) : Prop where
  wellNamed : field.WellNamed
  wellValued : field.isSelect → field.WellValued

theorem valueTexts_of_list
    {field : Field}
    {texts : List String}
    (hValues :
      field.options.lookup "values" =
        some (.list (texts.map .text))) :
    field.valueTexts = texts := by
  have hText :
      ∀ texts : List String,
        (texts.map Value.text).filterMap (fun value =>
          match value with
          | .text text => some text
          | _ => none) = texts := by
    intro texts
    induction texts with
    | nil => rfl
    | cons text rest ih => simp [ih]
  simp only [valueTexts, declaredValues, hValues]
  exact hText texts

end Field

------------------------------------------------------------
-- Names and Claims
------------------------------------------------------------

@[simp]
theorem checkName_eq_ok_iff
    {role : Role}
    {name : String}
    {result : Unit} :
    checkName role name = .ok result ↔
      Dart.nameProblem? name = none := by
  unfold checkName
  cases hProblem : Dart.nameProblem? name with
  | none => simp
  | some problem => simp

theorem claimName_eq_ok_iff
    {role : Role}
    {name : String}
    {owner : Owner}
    {scope after : Names} :
    claimName role name owner scope = .ok after ↔
      scope.owner? name = none ∧
        after = (scope.claim name (some owner)).2 := by
  unfold claimName
  cases hOwner : scope.owner? name with
  | none => simp [Scope.claim, hOwner, eq_comm]
  | some other =>
      simp [Scope.claim_of_owner hOwner]

------------------------------------------------------------
-- Enums
------------------------------------------------------------

/- When a declared value gets an enum constant. -/
theorem layoutVariant_eq_ok_iff
    {scope after : Names}
    {seen : List String}
    {value : Value}
    {variant : Variant} :
    layoutVariant scope seen value =
        .ok (variant, after) ↔
      ∃ text, value = .text text ∧ text ≠ "" ∧
        text ∉ seen ∧
        Dart.nameProblem? (memberName text) = none ∧
        scope.owner? (memberName text) = none ∧
        variant = .ofText text ∧
        after = (scope.claim (memberName text)
          (some (.value text))).2 := by
  cases value with
  | text text =>
      unfold layoutVariant
      by_cases hEmpty : text = ""
      · simp [hEmpty, Fallible.throw_bind]
      by_cases hSeen : text ∈ seen
      · simp [hEmpty, hSeen, Fallible.throw_bind]
      cases hProblem :
          Dart.nameProblem? (memberName text) with
      | some problem =>
          simp [hEmpty, hSeen, hProblem,
            Fallible.throw_bind]
      | none =>
          cases hOwner :
              scope.owner? (memberName text) with
          | some other =>
              simp [hEmpty, hSeen, hProblem, hOwner,
                Scope.claim_of_owner hOwner,
                Fallible.throw_ne_ok]
          | none =>
              simp [hEmpty, hSeen, hProblem, hOwner,
                Scope.claim, Fallible.pure_eq_ok,
                Variant.ofText]
  | _ => simp [layoutVariant, Fallible.throw_ne_ok]

/-
  Texts that can be declared after those that were seen, and
  whose enum constants are free.
-/
def VariantsFit
    (scope : Names)
    (seen texts : List String) : Prop :=
  (∀ text ∈ texts, text ≠ "" ∧ text ∉ seen ∧
    Dart.nameProblem? (memberName text) = none) ∧
  texts.Nodup ∧
  scope.Fresh (texts.map memberName)

/- The first text is declared before the others. -/
theorem variantsFit_cons_iff
    {scope : Names}
    {seen texts : List String}
    {text : String} :
    VariantsFit scope seen (text :: texts) ↔
      (text ≠ "" ∧ text ∉ seen ∧
        Dart.nameProblem? (memberName text) = none ∧
        scope.owner? (memberName text) = none) ∧
      VariantsFit
        (scope.claim (memberName text)
          (some (.value text))).2
        (text :: seen) texts := by
  simp only [VariantsFit, List.forall_mem_cons,
    List.nodup_cons, List.map_cons,
    Scope.fresh_cons_iff scope _ (.value text)]
  constructor
  · rintro ⟨⟨⟨hNe, hSeen, hProblem⟩, hTexts⟩,
      ⟨hNew, hDistinct⟩, hFree, hFresh⟩
    refine ⟨⟨hNe, hSeen, hProblem, hFree⟩, ?_, hDistinct,
      hFresh⟩
    intro other hOther
    rcases hTexts other hOther with
      ⟨hOtherNe, hOtherSeen, hOtherProblem⟩
    refine ⟨hOtherNe, ?_, hOtherProblem⟩
    intro hMem
    rcases List.mem_cons.mp hMem with rfl | hMem
    · exact hNew hOther
    · exact hOtherSeen hMem
  · rintro ⟨⟨hNe, hSeen, hProblem, hFree⟩, hTexts,
      hDistinct, hFresh⟩
    refine ⟨⟨⟨hNe, hSeen, hProblem⟩, ?_⟩, ⟨?_, hDistinct⟩,
      hFree, hFresh⟩
    · intro other hOther
      rcases hTexts other hOther with
        ⟨hOtherNe, hOtherSeen, hOtherProblem⟩
      exact ⟨hOtherNe,
        fun h => hOtherSeen (List.mem_cons_of_mem _ h),
        hOtherProblem⟩
    · intro hMem
      exact (hTexts text hMem).2.1 List.mem_cons_self

/-
  When declared values get enum constants. The values that
  were seen and the scope stand for those before.
-/
theorem layoutVariants_eq_ok_iff
    {scope : Names}
    {seen : List String}
    {values : List Value}
    {variants : List Variant} :
    layoutVariants scope seen values = .ok variants ↔
      ∃ texts : List String, values = texts.map .text ∧
        variants = texts.map .ofText ∧
        VariantsFit scope seen texts := by
  induction values generalizing scope seen variants with
  | nil =>
      constructor
      · intro h
        cases h
        exact ⟨[], rfl, rfl, by simp, List.nodup_nil,
          scope.fresh_nil⟩
      · rintro ⟨texts, hValues, rfl, _⟩
        have hTexts : texts = [] :=
          List.map_eq_nil_iff.mp hValues.symm
        simp [hTexts, layoutVariants]
  | cons value rest ih =>
      simp only [layoutVariants, Fallible.bind_eq_ok,
        Prod.exists, layoutVariant_eq_ok_iff, ih,
        Fallible.pure_eq_ok]
      constructor
      · rintro ⟨_, _, ⟨text, rfl, hNe, hSeen, hProblem,
          hFree, rfl, rfl⟩, _, ⟨texts, rfl, rfl, hFit⟩, rfl⟩
        exact ⟨text :: texts, rfl, rfl,
          variantsFit_cons_iff.mpr
            ⟨⟨hNe, hSeen, hProblem, hFree⟩, hFit⟩⟩
      · rintro ⟨texts, hValues, rfl, hAll⟩
        cases texts with
        | nil => simp at hValues
        | cons text texts =>
            have hSplit : value = .text text ∧
                rest = texts.map .text := by
              simpa using hValues
            rcases hSplit with ⟨rfl, rfl⟩
            rcases variantsFit_cons_iff.mp hAll with
              ⟨⟨hNe, hSeen, hProblem, hFree⟩, hFit⟩
            exact ⟨.ofText text, _, ⟨text, rfl, hNe, hSeen,
              hProblem, hFree, rfl, rfl⟩, _,
              ⟨texts, rfl, rfl, hFit⟩, rfl⟩

theorem fresh_enumScope_iff
    (names : List String) :
    enumScope.Fresh names ↔
      names.Nodup ∧
        ∀ name ∈ names, name ∉ Dart.enumMembers := by
  have hOwned :
      ∀ entry ∈ Dart.enumMembers.map fun name =>
        (name, some Owner.enumMember), entry.2 ≠ none := by
    simp
  simp only [Scope.Fresh, enumScope,
    Scope.owner?_reserve_eq_none_iff hOwned, List.map_map,
    Function.comp_def, List.map_id']

theorem checkValues_eq_ok_iff
    {field : Field}
    {values : List Value} :
    checkValues field = .ok values ↔
      field.options.lookup "values" = some (.list values) ∧
        values ≠ [] := by
  unfold checkValues
  split
  · next hNone => simp [hNone]
  · next hNull => simp [hNull]
  · next hEmpty => simp +contextual [hEmpty, eq_comm]
  · next items hNe hItems =>
      simp only [hItems, Except.ok.injEq, Option.some.injEq,
        Value.list.injEq]
      constructor
      · rintro rfl
        exact ⟨rfl, hNe⟩
      · exact fun h => h.1
  · next value _ _ hNotList hValue =>
      simp only [hValue, reduceCtorEq, Option.some.injEq,
        false_iff, not_and]
      intro hList
      exact absurd hList (hNotList values)

/- When the enum of a select field is laid out. -/
theorem layoutEnum_eq_ok_iff
    {scopes after : Scopes}
    {field : Field}
    {layout : EnumLayout} :
    layoutEnum scopes field field.nameText =
        .ok (layout, after) ↔
      field.WellValued ∧
        scopes.file.owner? (enumTypeName field.nameText) =
          none ∧
        scopes.body.owner? (enumTypeName field.nameText) =
          none ∧
        layout = field.enumDraft ∧
        after =
          ⟨(scopes.file.claim (enumTypeName field.nameText)
              (some (.enumOf field.nameText))).2,
            (scopes.body.claim (enumTypeName field.nameText)
              (some (.enumOf field.nameText))).2⟩ := by
  simp only [layoutEnum, Fallible.bind_eq_ok,
    checkValues_eq_ok_iff, claimName_eq_ok_iff,
    layoutVariants_eq_ok_iff, VariantsFit,
    Fallible.pure_eq_ok, fresh_enumScope_iff,
    Prod.mk.injEq]
  constructor
  · rintro ⟨values, ⟨hValues, hSome⟩,
      file, ⟨hFile, rfl⟩, body, ⟨hBody, rfl⟩,
      variants, ⟨texts, rfl, rfl, hTexts, hDistinct,
        hVariants, hMembers⟩, rfl, rfl⟩
    have hEq : field.valueTexts = texts :=
      Field.valueTexts_of_list hValues
    subst hEq
    refine ⟨⟨hValues, ?_, fun text hText =>
      (hTexts text hText).1, hDistinct, fun text hText =>
      (hTexts text hText).2.2, hVariants, ?_⟩, hFile, hBody,
      rfl, rfl⟩
    · simpa using hSome
    · intro text hText
      exact hMembers _ (List.mem_map_of_mem hText)
  · rintro ⟨hValued, hFile, hBody, rfl, rfl⟩
    refine ⟨_, ⟨hValued.areTexts, ?_⟩,
      _, ⟨hFile, rfl⟩, _, ⟨hBody, rfl⟩,
      _, ⟨field.valueTexts, rfl, rfl, ?_,
        hValued.textsDistinct, hValued.variantsDistinct, ?_⟩,
      rfl, rfl⟩
    · simpa using hValued.notEmpty
    · intro text hText
      exact ⟨hValued.textsNotEmpty text hText, by simp,
        hValued.variants text hText⟩
    · intro name hName
      rcases List.mem_map.mp hName with ⟨text, hText, rfl⟩
      exact hValued.variantsFree text hText

------------------------------------------------------------
-- Fields
------------------------------------------------------------

namespace Scopes

def claim
    (scopes : Scopes)
    (field : Field) : Scopes :=
  ⟨scopes.file.claimAll field.fileClaims,
    scopes.body.claimAll field.claims⟩

/- The class body knows what is declared in the file. -/
def Nested (scopes : Scopes) : Prop :=
  ∀ name, scopes.body.owner? name = none →
    scopes.file.owner? name = none

/- What a field declares in the file, the body knows. -/
theorem Nested.claim
    {scopes : Scopes}
    (hNested : scopes.Nested)
    (field : Field) :
    (scopes.claim field).Nested := by
  intro name hBody
  rw [Scopes.claim,
    Scope.owner?_claimAll_eq_none_iff] at hBody ⊢
  rw [Field.map_claims] at hBody
  exact ⟨fun hFile =>
      hBody.1 (field.fileClaims_sublist.subset hFile),
    hNested name hBody.2⟩

end Scopes

theorem Field.fresh_declaredNames_iff
    (field : Field)
    (scope : Names) :
    scope.Fresh field.declaredNames ↔
      scope.owner? (memberName field.nameText) = none ∧
        (scope.claim (memberName field.nameText)
          (some (.field field.nameText))).2.owner?
            (typeName field.nameText) = none ∧
        ((scope.claim (memberName field.nameText)
          (some (.field field.nameText))).2.claim
            (typeName field.nameText)
            (some (.field field.nameText))).2.Fresh
              (field.fileClaims.map (·.1)) := by
  rw [← map_claims, claims, List.map_append,
    List.map_cons, List.map_cons, List.map_nil,
    List.cons_append, List.cons_append, List.nil_append,
    Scope.fresh_cons_iff _ _ (.field field.nameText),
    Scope.fresh_cons_iff _ _ (.field field.nameText)]

theorem layoutNamedField_eq_ok_iff
    {scopes after : Scopes}
    {field : Field}
    {layout : FieldLayout} :
    layoutNamedField scopes field field.nameText =
        .ok (layout, after) ↔
      field.nameText ∉ systemFieldNames ∧
        Dart.nameProblem? (memberName field.nameText) =
          none ∧
        Dart.nameProblem? (typeName field.nameText) = none ∧
        (field.isSelect → field.WellValued) ∧
        scopes.file.Fresh (field.fileClaims.map (·.1)) ∧
        scopes.body.Fresh field.declaredNames ∧
        layout = field.draft ∧
        after = scopes.claim field := by
  rw [field.fresh_declaredNames_iff]
  unfold layoutNamedField
  by_cases hSystem : field.nameText ∈ systemFieldNames
  · simp [hSystem, Fallible.throw_bind]
  simp only [hSystem, if_false, Fallible.bind_eq_ok,
    checkName_eq_ok_iff, claimName_eq_ok_iff]
  cases hSelect : field.isSelect with
  | false =>
      have hNoEnum : field.fileClaims = [] := by
        simp [Field.fileClaims, hSelect]
      simp only [hNoEnum, Bool.false_eq_true, if_false,
        Fallible.pure_eq_ok, Prod.mk.injEq, List.map_nil,
        Scope.fresh_nil]
      constructor
      · rintro ⟨_, hMember, _, ⟨hFreeMember, rfl⟩, _,
          hConstant, _, ⟨hFreeConstant, rfl⟩, rfl, rfl⟩
        refine ⟨not_false, hMember, hConstant, False.elim,
          trivial, ⟨hFreeMember, hFreeConstant, trivial⟩,
          ?_, ?_⟩
        · simp [Field.draft, hSelect]
        · simp [Scopes.claim, Field.claims, hNoEnum,
            Scope.claimAll]
      · rintro ⟨_, hMember, hConstant, _, _,
          ⟨hFreeMember, hFreeConstant, _⟩, rfl, rfl⟩
        refine ⟨(), hMember, _, ⟨hFreeMember, rfl⟩, (),
          hConstant, _, ⟨hFreeConstant, rfl⟩, ?_, ?_⟩
        · simp [Field.draft, hSelect]
        · simp [Scopes.claim, Field.claims, hNoEnum,
            Scope.claimAll]
  | true =>
      have hEnum : field.fileClaims =
          [(enumTypeName field.nameText,
            .enumOf field.nameText)] := by
        simp [Field.fileClaims, hSelect]
      simp only [hEnum, if_true, Fallible.bind_eq_ok,
        Prod.exists, layoutEnum_eq_ok_iff,
        Fallible.pure_eq_ok, Prod.mk.injEq, List.map_cons,
        List.map_nil, Scope.fresh_singleton]
      constructor
      · rintro ⟨_, hMember, _, ⟨hFreeMember, rfl⟩, _,
          hConstant, _, ⟨hFreeConstant, rfl⟩, _, _,
          ⟨hValued, hFile, hBody, rfl, rfl⟩, rfl, rfl⟩
        refine ⟨not_false, hMember, hConstant,
          fun _ => hValued, hFile,
          ⟨hFreeMember, hFreeConstant, hBody⟩, ?_, ?_⟩
        · simp [Field.draft, hSelect]
        · simp [Scopes.claim, Field.claims, hEnum,
            Scope.claimAll]
      · rintro ⟨_, hMember, hConstant, hValued, hFile,
          ⟨hFreeMember, hFreeConstant, hBody⟩, rfl, rfl⟩
        refine ⟨(), hMember, _, ⟨hFreeMember, rfl⟩, (),
          hConstant, _, ⟨hFreeConstant, rfl⟩, _, _,
          ⟨hValued trivial, hFile, hBody, rfl, rfl⟩, ?_, ?_⟩
        · simp [Field.draft, hSelect]
        · simp [Scopes.claim, Field.claims, hEnum,
            Scope.claimAll]

/- When a field is laid out. -/
theorem layoutField_eq_ok_iff
    {scopes after : Scopes}
    {field : Field}
    {layout : FieldLayout} :
    layoutField scopes field = .ok (layout, after) ↔
      field.Sound ∧
        scopes.file.Fresh (field.fileClaims.map (·.1)) ∧
        scopes.body.Fresh field.declaredNames ∧
        layout = field.draft ∧
        after = scopes.claim field := by
  unfold layoutField
  split
  · next name hName =>
      have hText : field.nameText = name := by
        simp [Field.nameText, hName]
      subst hText
      by_cases hEmpty : field.nameText = ""
      · rw [if_pos hEmpty]
        constructor
        · intro h
          cases h
        · exact fun h =>
            absurd hEmpty h.1.wellNamed.notEmpty
      · rw [if_neg hEmpty, layoutNamedField_eq_ok_iff]
        constructor
        · rintro ⟨hSystem, hMember, hConstant, hValued,
            hFile, hBody, hLayout, hAfter⟩
          exact ⟨⟨⟨hName, hEmpty, hSystem, hMember,
            hConstant⟩, hValued⟩, hFile, hBody, hLayout,
            hAfter⟩
        · rintro ⟨hSound, hFile, hBody, hLayout, hAfter⟩
          exact ⟨hSound.wellNamed.notSystem,
            hSound.wellNamed.member,
            hSound.wellNamed.constant, hSound.wellValued,
            hFile, hBody, hLayout, hAfter⟩
  · next hNotText =>
      constructor
      · intro h
        cases h
      · exact fun h =>
          absurd h.1.wellNamed.isText (hNotText _)

/- In nested scopes the class body decides. -/
theorem Scopes.Nested.layoutField_eq_ok_iff
    {scopes after : Scopes}
    (hNested : scopes.Nested)
    {field : Field}
    {layout : FieldLayout} :
    layoutField scopes field = .ok (layout, after) ↔
      field.Sound ∧ scopes.body.Fresh field.declaredNames ∧
        layout = field.draft ∧
        after = scopes.claim field := by
  rw [PocketDart.layoutField_eq_ok_iff]
  constructor
  · rintro ⟨hSound, _, hBody, hLayout, hAfter⟩
    exact ⟨hSound, hBody, hLayout, hAfter⟩
  · rintro ⟨hSound, hBody, hLayout, hAfter⟩
    have hNames := field.fileClaims_sublist
    refine ⟨hSound, ⟨hBody.1.sublist hNames, ?_⟩, hBody,
      hLayout, hAfter⟩
    intro name hName
    exact hNested name
      (hBody.2 name (hNames.subset hName))

/-
  When fields are laid out: each of them has to be sound,
  and the names that they declare together have to be fresh.
-/
theorem layoutFields_eq_ok_iff
    {collection : Value}
    {scopes : Scopes}
    (hNested : scopes.Nested)
    {fields : List Field}
    {layouts : List FieldLayout} :
    layoutFields collection scopes fields = .ok layouts ↔
      (∀ field ∈ fields, field.Sound) ∧
        scopes.body.Fresh
          (fields.flatMap Field.declaredNames) ∧
        layouts = fields.map Field.draft := by
  induction fields generalizing scopes layouts with
  | nil => simp [layoutFields, eq_comm]
  | cons field rest ih =>
      have hRest := @ih (scopes.claim field)
        (hNested.claim field)
      simp only [layoutFields, Fallible.bind_eq_ok,
        Fallible.mapError_eq_ok, Prod.exists,
        hNested.layoutField_eq_ok_iff, Fallible.pure_eq_ok,
        List.forall_mem_cons, List.flatMap_cons,
        List.map_cons]
      have hFresh :
          scopes.body.Fresh (field.declaredNames ++
              rest.flatMap Field.declaredNames) ↔
            scopes.body.Fresh field.declaredNames ∧
              (scopes.claim field).body.Fresh
                (rest.flatMap Field.declaredNames) := by
        rw [← field.map_claims]
        exact Scope.fresh_append_iff _ _ _
      rw [hFresh]
      constructor
      · rintro ⟨_, _, ⟨hSound, hBody, rfl, rfl⟩, _, hMore,
          rfl⟩
        rcases hRest.mp hMore with ⟨hSounds, hBodies, rfl⟩
        exact ⟨⟨hSound, hSounds⟩, ⟨hBody, hBodies⟩, rfl⟩
      · rintro ⟨⟨hSound, hSounds⟩, ⟨hBody, hBodies⟩, rfl⟩
        exact ⟨_, _, ⟨hSound, hBody, rfl, rfl⟩, _,
          hRest.mpr ⟨hSounds, hBodies, rfl⟩, rfl⟩

end PocketDart
