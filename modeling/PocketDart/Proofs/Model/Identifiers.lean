import PocketDart.Proofs.Dart.Legal
import PocketDart.Proofs.Model.Acceptance
import PocketDart.Proofs.Naming.Ends

/-
  This file proves when the identifiers that a source
  declares are legal. Names are checked before they are used
  and the names of enums and tables are made from checked
  ones, so the only flaw that is left is a line break at the
  end of a checked name.

  Key definitions include:
    * `Layout.identifiers`

  Key theorems include:
    * `Field.WellNamed.legal`
    * `Field.draft_legal_iff`
    * `identifiers_legal_iff_no_break`
-/

------------------------------------------------------------
-- Declared Identifiers
------------------------------------------------------------

namespace PocketDart

/- The identifiers that an enum declares in the file. -/
def EnumLayout.identifiers
    (layout : EnumLayout) : List String :=
  [layout.typeName, layout.toMap, layout.fromMap,
    layout.fromWire] ++ layout.variants.map (·.name)

/- The identifiers that are declared for a field. -/
def FieldLayout.identifiers
    (field : FieldLayout) : List String :=
  [field.member, field.constant] ++
    field.enum?.elim [] EnumLayout.identifiers

/- All identifiers that a source declares. -/
def Layout.identifiers (layout : Layout) : List String :=
  layout.className ::
    layout.allFields.flatMap FieldLayout.identifiers

------------------------------------------------------------
-- Legal Names of Fields
------------------------------------------------------------

/- What every class declares is legal. -/
theorem systemFields_legal :
    ∀ name ∈ systemFields.flatMap FieldLayout.identifiers,
      Dart.IsLegal name := by
  have hChecked :
      ∀ name ∈ systemFields.flatMap FieldLayout.identifiers,
        Dart.nameProblem? name = none ∧
          name.toList.getLast? ≠ some '\n' := by
    decide
  intro name hName
  rcases hChecked name hName with ⟨hNone, hLast⟩
  exact (Dart.isLegal_iff_of_nameProblem? hNone).mpr hLast

namespace Field

variable {field : Field}

/- A sound name gives a legal member and constant. -/
theorem WellNamed.legal
    (hNamed : field.WellNamed)
    (hBreak : ¬ Naming.EndsInBreak field.nameText) :
    Dart.IsLegal (memberName field.nameText) ∧
      Dart.IsLegal (typeName field.nameText) := by
  rw [Dart.isLegal_iff_of_nameProblem? hNamed.member,
    Dart.isLegal_iff_of_nameProblem? hNamed.constant]
  exact ⟨fun hLast => hBreak
      ((Naming.getLast?_memberName_iff _).mp hLast),
    fun hLast => hBreak
      ((Naming.getLast?_typeName_iff _).mp hLast)⟩

/- Sound values give legal enum constants. -/
theorem WellValued.legal_iff
    (hValued : field.WellValued)
    {text : String}
    (hText : text ∈ field.valueTexts) :
    Dart.IsLegal (memberName text) ↔
      ¬ Naming.EndsInBreak text := by
  rw [Dart.isLegal_iff_of_nameProblem?
      (hValued.variants text hText),
    ← Naming.getLast?_memberName_iff]

theorem legal_of_member
    {member ending : String}
    (hMember : Dart.IsLegal member)
    (hEnding : ending.toList.all Dart.isNamePart) :
    Dart.IsLegal ("_" ++ member ++ ending) := by
  rw [String.append_assoc]
  apply Dart.isLegal_underscore
  intro c hMem
  rw [String.toList_append, List.mem_append] at hMem
  rcases hMem with hMem | hMem
  · exact hMember.isNamePart_of_mem hMem
  · exact List.all_eq_true.mp hEnding c hMem

theorem enumDraft_legal
    (hNamed : field.WellNamed)
    (hValued : field.WellValued)
    (hBreak : ¬ Naming.EndsInBreak field.nameText)
    (hBreaks : ∀ text ∈ field.valueTexts,
      ¬ Naming.EndsInBreak text) :
    ∀ name ∈ field.enumDraft.identifiers,
      Dart.IsLegal name := by
  rcases hNamed.legal hBreak with ⟨hMember, hConstant⟩
  have hType : Dart.IsLegal field.enumDraft.typeName :=
    hConstant.append (by decide) (by decide)
  have hToMap : Dart.IsLegal field.enumDraft.toMap :=
    legal_of_member hMember (by decide)
  have hFromMap : Dart.IsLegal field.enumDraft.fromMap :=
    legal_of_member hMember (by decide)
  have hFromWire : Dart.IsLegal field.enumDraft.fromWire :=
    legal_of_member hMember (by decide)
  intro name hName
  rcases List.mem_append.mp hName with hName | hName
  · simp only [List.mem_cons, List.not_mem_nil,
      or_false] at hName
    rcases hName with rfl | rfl | rfl | rfl
    · exact hType
    · exact hToMap
    · exact hFromMap
    · exact hFromWire
  · simp only [enumDraft, List.map_map, List.mem_map,
      Function.comp_apply] at hName
    rcases hName with ⟨text, hText, rfl⟩
    exact (hValued.legal_iff hText).mpr (hBreaks text hText)

/-
  All identifiers of a field are legal exactly when neither
  its name nor a declared value ends in a line break.
-/
theorem draft_legal_iff
    (hNamed : field.WellNamed)
    (hValued : field.isSelect → field.WellValued) :
    (∀ name ∈ field.draft.identifiers,
        Dart.IsLegal name) ↔
      ¬ Naming.EndsInBreak field.nameText ∧
        (field.isSelect → ∀ text ∈ field.valueTexts,
          ¬ Naming.EndsInBreak text) := by
  constructor
  · intro hLegal
    constructor
    · rw [← Naming.getLast?_memberName_iff]
      exact
        (Dart.isLegal_iff_of_nameProblem? hNamed.member).mp
          (hLegal _ List.mem_cons_self)
    · intro hSelect text hText
      rw [← (hValued hSelect).legal_iff hText]
      apply hLegal
      simp only [draft, hSelect, if_true,
        FieldLayout.identifiers, Option.elim_some,
        EnumLayout.identifiers, enumDraft,
        List.mem_append, List.map_map, List.mem_map]
      exact Or.inr (Or.inr ⟨text, hText, rfl⟩)
  · rintro ⟨hBreak, hBreaks⟩ name hName
    rcases hNamed.legal hBreak with ⟨hMember, hConstant⟩
    rcases List.mem_append.mp hName with hName | hName
    · simp only [List.mem_cons, List.not_mem_nil,
        or_false] at hName
      rcases hName with rfl | rfl
      · exact hMember
      · exact hConstant
    · cases hSelect : field.isSelect with
      | false => simp [draft, hSelect] at hName
      | true =>
          have hEnum : name ∈ field.enumDraft.identifiers := by
            simpa [draft, hSelect] using hName
          exact enumDraft_legal hNamed (hValued hSelect)
            hBreak (hBreaks hSelect) name hEnum

end Field

------------------------------------------------------------
-- Legal Sources
------------------------------------------------------------

theorem mem_identifiers_draft_iff
    {settings : Settings}
    {collection : Collection}
    {name : String} :
    name ∈ (collection.draft settings).identifiers ↔
      name = collection.classNameOf settings ∨
        name ∈ systemFields.flatMap
            FieldLayout.identifiers ∨
          ∃ field ∈ collection.fields,
            name ∈ field.draft.identifiers := by
  have hFields :
      name ∈ (collection.fields.map Field.draft).flatMap
          FieldLayout.identifiers ↔
        ∃ field ∈ collection.fields,
          name ∈ field.draft.identifiers := by
    rw [List.flatMap_map, List.mem_flatMap]
  rw [← hFields, ← List.mem_append, ← List.flatMap_append]
  exact List.mem_cons

/-
  The identifiers of a source are legal exactly when the
  class name does not end in a line break, and no field name
  and no select value does, underscores apart.
-/
theorem identifiers_legal_iff_no_break
    {settings : Settings}
    {collection : Collection}
    {layout : Layout}
    (hLayout : collection.layout settings = .ok layout) :
    (∀ name ∈ layout.identifiers, Dart.IsLegal name) ↔
      layout.className.toList.getLast? ≠ some '\n' ∧
        ∀ field ∈ collection.fields,
          ¬ Naming.EndsInBreak field.nameText ∧
            (field.isSelect → ∀ text ∈ field.valueTexts,
              ¬ Naming.EndsInBreak text) := by
  rcases Collection.layout_eq_ok_iff.mp hLayout with
    ⟨hFormed, rfl⟩
  have hClass :=
    Dart.isLegal_iff_of_nameProblem? hFormed.classNamed
  have hField : ∀ field ∈ collection.fields,
      (∀ name ∈ field.draft.identifiers,
        Dart.IsLegal name) ↔
      ¬ Naming.EndsInBreak field.nameText ∧
        (field.isSelect → ∀ text ∈ field.valueTexts,
          ¬ Naming.EndsInBreak text) :=
    fun field hMem =>
      Field.draft_legal_iff
        (hFormed.fieldsNamed field hMem)
        (hFormed.fieldsValued field hMem)
  constructor
  · intro hLegal
    refine ⟨hClass.mp (hLegal _ List.mem_cons_self), ?_⟩
    intro field hMem
    rw [← hField field hMem]
    intro name hName
    apply hLegal
    rw [mem_identifiers_draft_iff]
    exact Or.inr (Or.inr ⟨field, hMem, hName⟩)
  · rintro ⟨hBreak, hBreaks⟩ name hName
    rcases mem_identifiers_draft_iff.mp hName with
      rfl | hSystem | ⟨field, hMem, hName⟩
    · exact hClass.mpr hBreak
    · exact systemFields_legal name hSystem
    · exact (hField field hMem).mpr (hBreaks field hMem)
        name hName

/- Without line breaks all identifiers are legal. -/
theorem status_identifiers_legal :
    let status : Field :=
      { name := .text "status", kind := .select
        required := .bool true
        options := [("values",
          .list [.text "open", .text "on_hold"])]
        tag := .text "select" }
    let posts : Collection :=
      { name := .text "posts", fields := [status]
        id := .null, kind := .text "base"
        system := false }
    ∃ layout, posts.layout {} = .ok layout ∧
      ∀ name ∈ layout.identifiers, Dart.IsLegal name := by
  intro status posts
  have hLayout : posts.layout {} =
      .ok (posts.draft {}) := rfl
  refine ⟨_, hLayout,
    (identifiers_legal_iff_no_break hLayout).mpr ?_⟩
  exact ⟨by decide, by decide⟩

/- A field name with a line break passes the check. -/
theorem title_with_break_not_legal :
    let title : Field :=
      { name := .text "title\n", kind := .text
        required := .bool false, options := []
        tag := .text "text" }
    let posts : Collection :=
      { name := .text "posts", fields := [title]
        id := .null, kind := .text "base"
        system := false }
    ∃ layout, posts.layout {} = .ok layout ∧
      ∃ name ∈ layout.identifiers,
        ¬ Dart.IsLegal name := by
  intro title posts
  refine ⟨_, rfl, "title\n", by decide, ?_⟩
  intro hLegal
  exact hLegal.break_notMem (by decide)

end PocketDart
