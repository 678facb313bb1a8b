import PocketDart.Proofs.Model.Acceptance

/-
  This file proves when the name of a model class stands for
  nothing else inside the class. A field can take neither
  the name of its class nor that of a type, but the class
  itself is named whatever its collection and the settings
  say, also when its body needs the name for a type or for
  something that every class declares.

  Key definitions include:
    * `bodyTypes`
    * `Layout.declaredMembers`
    * `reservedClassNames`

  Key theorems include:
    * `Collection.WellFormed.className_notMem_declaredNames`
    * `className_unambiguous_iff`
-/

------------------------------------------------------------
-- Names inside a Class
------------------------------------------------------------

namespace PocketDart

/- The types that the body of a class refers to. -/
def bodyTypes (settings : Settings) : List String :=
  Dart.builtInTypes ++ [settings.recordType]

def declaredMethods : List String :=
  ["toMap"]

/- What a class declares: members, constants, methods. -/
def Layout.declaredMembers (layout : Layout) : List String :=
  layout.allFields.flatMap (fun field =>
      [field.member, field.constant]) ++
    declaredMethods

/- The names that a class needs, whatever its fields are. -/
def reservedClassNames (settings : Settings) : List String :=
  bodyTypes settings ++ fixedNames ++ declaredMethods

namespace Collection

variable {settings : Settings}
variable {collection : Collection}

/- No field takes the name of the class. -/
theorem WellFormed.className_notMem_declaredNames
    (hFormed : collection.WellFormed settings) :
    collection.classNameOf settings ∉
      collection.declaredNames := by
  intro hDeclared
  apply hFormed.namesFree _ hDeclared
  simp [usedNames]

theorem mem_declaredMembers_draft_iff
    (name : String) :
    name ∈ (collection.draft settings).declaredMembers ↔
      name ∈ fixedNames ++ declaredMethods ∨
        ∃ field ∈ collection.fields,
          name = memberName field.nameText ∨
            name = typeName field.nameText := by
  have hSystem :
      name ∈ systemFields.flatMap (fun field =>
          [field.member, field.constant]) ↔
        name ∈ fixedNames :=
    List.Perm.mem_iff (by decide)
  have hFields :
      name ∈ (collection.fields.map Field.draft).flatMap
          (fun field => [field.member, field.constant]) ↔
        ∃ field ∈ collection.fields,
          name = memberName field.nameText ∨
            name = typeName field.nameText := by
    rw [List.flatMap_map, List.mem_flatMap]
    simp [Field.draft]
  rw [Layout.declaredMembers, Layout.allFields,
    List.flatMap_append, List.mem_append, List.mem_append,
    List.mem_append, hSystem, draft, hFields]
  exact or_right_comm

theorem WellFormed.className_mem_declaredMembers_iff
    (hFormed : collection.WellFormed settings) :
    collection.classNameOf settings ∈
        (collection.draft settings).declaredMembers ↔
      collection.classNameOf settings ∈
        fixedNames ++ declaredMethods := by
  rw [mem_declaredMembers_draft_iff]
  constructor
  · rintro (hFixed | ⟨field, hField, hName⟩)
    · exact hFixed
    · have hDeclared : collection.classNameOf settings ∈
          field.declaredNames := by
        rcases hName with hMember | hConstant
        · simp [Field.declaredNames, hMember]
        · simp [Field.declaredNames, hConstant]
      exact absurd
        (List.mem_flatMap.mpr ⟨field, hField, hDeclared⟩)
        hFormed.className_notMem_declaredNames
  · exact Or.inl

end Collection

------------------------------------------------------------
-- Unambiguous Class Names
------------------------------------------------------------

/-
  The name of a class is none of the types in its body and
  none of its members exactly when it is not reserved. The
  condition speaks of the name of the collection and of the
  settings only: no field can bring such a clash about.
-/
theorem className_unambiguous_iff
    {settings : Settings}
    {collection : Collection}
    {layout : Layout}
    (hLayout : collection.layout settings = .ok layout) :
    (layout.className ∉ bodyTypes settings ∧
        layout.className ∉ layout.declaredMembers) ↔
      className settings collection.nameText ∉
        reservedClassNames settings := by
  rcases Collection.layout_eq_ok_iff.mp hLayout with
    ⟨hFormed, rfl⟩
  have hName : (collection.draft settings).className =
      className settings collection.nameText := rfl
  have hMembers := hFormed.className_mem_declaredMembers_iff
  rw [Collection.classNameOf] at hMembers
  rw [hName, hMembers, reservedClassNames,
    List.append_assoc, List.mem_append (s := bodyTypes _),
    not_or]

/- The usual class of posts has a name of its own. -/
theorem posts_className_unambiguous :
    let posts : Collection :=
      { name := .text "posts", fields := [], id := .null
        kind := .text "base", system := false }
    ∃ layout, posts.layout {} = .ok layout ∧
      layout.className ∉ bodyTypes {} ∧
      layout.className ∉ layout.declaredMembers := by
  intro posts
  have hLayout : posts.layout {} =
      .ok (posts.draft {}) := rfl
  exact ⟨_, hLayout,
    (className_unambiguous_iff hLayout).mpr (by decide)⟩

/- A collection of records hides the type of records. -/
theorem record_className_mem_bodyTypes :
    let record : Collection :=
      { name := .text "record", fields := [], id := .null
        kind := .text "base", system := false }
    ∃ layout, record.layout {} = .ok layout ∧
      layout.className ∈ bodyTypes {} := by
  intro record
  exact ⟨_, rfl, by decide⟩

end PocketDart
