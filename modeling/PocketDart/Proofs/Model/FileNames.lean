import PocketDart.Proofs.Model.ClassName
import PocketDart.Proofs.Model.Clean
import PocketDart.Proofs.Model.Declarations

/-
  This file proves that the names which a file declares are
  distinct and can be seen from inside the class. Only the
  class and the enum types are claimed in the scope of the
  file; the tables and functions keep out of the way because
  they begin with an underscore, which the name of a class
  does only when the suffix of the settings does.

  Key definitions include:
    * `EnumLayout.fileNames`
    * `Layout.fileNames`

  Key theorems include:
    * `head?_className_ne`
    * `Collection.WellFormed.className_notMem_fileNames`
    * `Collection.WellFormed.declaredMembers_disjoint`
    * `fileNames_distinct_and_visible`
-/

------------------------------------------------------------
-- Names of a File
------------------------------------------------------------

namespace PocketDart

/- The type, the tables and the function of an enum. -/
def EnumLayout.fileNames (layout : EnumLayout) : List String :=
  [layout.typeName, layout.toMap, layout.fromMap,
    layout.fromWire]

/- The names that a file declares outside the class body. -/
def Layout.fileNames (layout : Layout) : List String :=
  layout.className ::
    layout.enums.flatMap EnumLayout.fileNames

/-
  A class begins with an underscore only when its suffix
  does, for its type name holds none.
-/
theorem head?_className_ne
    {settings : Settings}
    (hSuffix : settings.classSuffix.toList.head? ≠
      some Naming.delimiter)
    (name : String) :
    (className settings name).toList.head? ≠
      some Naming.delimiter := by
  rw [className, String.toList_append, List.head?_append]
  cases hType : (typeName name).toList.head? with
  | none => exact hSuffix
  | some first =>
      intro hHead
      rw [Option.some_or, Option.some.injEq] at hHead
      subst hHead
      exact Naming.underscore_notMem_typeName name
        (List.mem_of_mem_head? hType)

/- The tables and the function begin with one. -/
theorem Field.head?_of_mem_lookupNames
    {field : Field}
    {name : String}
    (hName : name ∈ field.lookupNames) :
    name.toList.head? = some Naming.delimiter := by
  unfold lookupNames at hName
  split at hName
  · rcases List.mem_map.mp hName with ⟨ending, _, rfl⟩
    rw [lookupName, String.append_assoc,
      String.toList_append]
    rfl
  · cases hName

namespace Collection

variable {settings : Settings}
variable {collection : Collection}

theorem flatMap_fileNames
    (settings : Settings)
    (collection : Collection) :
    (collection.draft settings).enums.flatMap
        EnumLayout.fileNames =
      (collection.program settings).fileDeclarations.map
        (·.1) := by
  rw [Dart.Program.fileDeclarations, program,
    Layout.program, List.flatMap_map, List.map_flatMap]
  rfl

theorem flatMap_members
    (settings : Settings)
    (collection : Collection) :
    (collection.draft settings).allFields.flatMap
        (fun field => [field.member, field.constant]) =
      ((collection.program settings).properties.flatMap
        Dart.Property.declarations).map (·.1) := by
  rw [program, Layout.program, List.flatMap_map,
    List.map_flatMap]
  rfl

theorem mem_flatMap_fileNames
    {name : String}
    (hName : name ∈ (collection.draft settings).enums.flatMap
      EnumLayout.fileNames) :
    name ∈ collection.declaredNames ∨
      ∃ field ∈ collection.fields,
        name ∈ field.lookupNames := by
  rw [flatMap_fileNames, map_fileDeclarations,
    List.mem_flatMap] at hName
  rcases hName with ⟨field, hField, hName⟩
  rcases List.mem_append.mp hName with hEnum | hLookup
  · exact Or.inl (List.mem_flatMap.mpr ⟨field, hField,
      field.fileClaims_sublist.subset hEnum⟩)
  · exact Or.inr ⟨field, hField, hLookup⟩

namespace WellFormed

theorem className_notMem_fileNames
    (hFormed : collection.WellFormed settings)
    (hSuffix : settings.classSuffix.toList.head? ≠
      some Naming.delimiter) :
    collection.classNameOf settings ∉
      (collection.draft settings).enums.flatMap
        EnumLayout.fileNames := by
  intro hName
  rcases mem_flatMap_fileNames hName with
    hDeclared | ⟨field, _, hLookup⟩
  · exact hFormed.className_notMem_declaredNames hDeclared
  · exact head?_className_ne hSuffix _
      (field.head?_of_mem_lookupNames hLookup)

theorem declaredMethods_disjoint
    (hFormed : collection.WellFormed settings) :
    declaredMethods.Disjoint
      ((collection.draft settings).enums.flatMap
        EnumLayout.fileNames) := by
  have hMethods : ∀ name ∈ declaredMethods,
      name ∈ Dart.modelMembers ∧
        Naming.delimiter ∉ name.toList := by
    decide
  intro name hMethod hName
  rcases hMethods name hMethod with ⟨hMember, hPlain⟩
  rcases mem_flatMap_fileNames hName with
    hDeclared | ⟨field, _, hLookup⟩
  · apply hFormed.namesFree name hDeclared
    simp [usedNames, hMember]
  · exact hPlain
      (field.underscore_mem_of_mem_lookupNames hLookup)

/- What the class declares hides nothing of the file. -/
theorem declaredMembers_disjoint
    (hFormed : collection.WellFormed settings) :
    (collection.draft settings).declaredMembers.Disjoint
      ((collection.draft settings).enums.flatMap
        EnumLayout.fileNames) := by
  have hNodup := hFormed.declarations_nodup
  rw [Dart.Program.declarations, List.map_append,
    ← flatMap_fileNames, ← flatMap_members] at hNodup
  rw [Layout.declaredMembers, List.disjoint_append_left]
  exact ⟨List.disjoint_of_nodup_append hNodup,
    hFormed.declaredMethods_disjoint⟩

theorem flatMap_fileNames_nodup
    (hFormed : collection.WellFormed settings) :
    ((collection.draft settings).enums.flatMap
      EnumLayout.fileNames).Nodup := by
  have hNodup := hFormed.declarations_nodup
  rw [Dart.Program.declarations, List.map_append,
    ← flatMap_fileNames] at hNodup
  exact (List.nodup_append.mp hNodup).2.1

end WellFormed

end Collection

------------------------------------------------------------
-- Distinct and Visible Names
------------------------------------------------------------

/-
  Each select field gives an enum. The class, the enum types
  and all tables and functions have different names, and no
  member, constant or method of the class hides one of the
  names of an enum. The suffix may not begin with an
  underscore: the class would otherwise be able to take the
  name of a table.
-/
theorem fileNames_distinct_and_visible
    {settings : Settings}
    {collection : Collection}
    {layout : Layout}
    (hLayout : collection.layout settings = .ok layout)
    (hSuffix :
      settings.classSuffix.toList.head? ≠ some '_') :
    layout.enums.map (·.fieldName) =
        collection.selectFields.map Field.nameText ∧
      layout.fileNames.Nodup ∧
      ∀ name ∈ layout.enums.flatMap EnumLayout.fileNames,
        name ∉ layout.declaredMembers := by
  rcases Collection.layout_eq_ok_iff.mp hLayout with
    ⟨hFormed, rfl⟩
  refine ⟨?_, ?_, ?_⟩
  · rw [Collection.enums_draft, List.map_map]
    rfl
  · exact List.nodup_cons.mpr
      ⟨hFormed.className_notMem_fileNames hSuffix,
        hFormed.flatMap_fileNames_nodup⟩
  · intro name hName hMember
    exact hFormed.declaredMembers_disjoint hMember hName

/- Two select fields declare eight names beside the class. -/
theorem states_fileNames_distinct :
    let select (name : String) : Field :=
      { name := .text name, kind := .select
        required := .bool false
        options := [("values",
          .list [.text "open", .text "closed"])]
        tag := .text "select" }
    let posts : Collection :=
      { name := .text "posts"
        fields := [select "state", select "state_to"]
        id := .null, kind := .text "base"
        system := false }
    ∃ layout, posts.layout {} = .ok layout ∧
      layout.fileNames.Nodup ∧
      ∀ name ∈ layout.enums.flatMap EnumLayout.fileNames,
        name ∉ layout.declaredMembers := by
  intro select posts
  have hLayout : posts.layout {} =
      .ok (posts.draft {}) := rfl
  exact ⟨_, hLayout, (fileNames_distinct_and_visible hLayout
    (by decide)).2⟩

/- With an underscore in front the class clashes. -/
example :
    let state : Field :=
      { name := .text "state", kind := .select
        required := .bool false
        options := [("values", .list [.text "open"])]
        tag := .text "select" }
    let blank : Collection :=
      { name := .text "_", fields := [state]
        id := .null, kind := .text "base"
        system := false }
    ∃ layout,
      blank.layout { classSuffix := "_stateEnumToMap" } =
          .ok layout ∧
        ¬ layout.fileNames.Nodup :=
  ⟨_, rfl, by decide⟩

end PocketDart
