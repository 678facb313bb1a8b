import Mathlib.Data.List.Nodup
import Mathlib.Data.List.Perm.Basic
import PocketDart.Proofs.Dart.Meaning
import PocketDart.Proofs.Model.Acceptance
import PocketDart.Proofs.Naming.Marks

/-
  This file proves that the names a program declares are
  distinct, so that each of them means what is declared
  under it. Most names are claimed when the layout is built;
  the names of tables and functions are not, but they begin
  with an underscore and end in a word of their own.

  Key definitions include:
    * `lookupName`
    * `Field.lookupNames`
    * `Collection.program`

  Key theorems include:
    * `lookupName_injective`
    * `Collection.WellFormed.declarations_nodup`
    * `Collection.WellFormed.declaration?_of_mem`
-/

------------------------------------------------------------
-- Names of Tables and Functions
------------------------------------------------------------

namespace PocketDart

/- How the tables and the function of an enum end. -/
def lookupEndings : List String :=
  ["EnumToMap", "EnumFromMap", "EnumFromWire"]

/- The name of a table or function for a member. -/
def lookupName (member ending : String) : String :=
  "_" ++ member ++ ending

/-
  Such a name tells the member and the ending: no two of the
  endings agree in their last five characters.
-/
theorem lookupName_injective
    {member other ending ending' : String}
    (hEnding : ending ∈ lookupEndings)
    (hEnding' : ending' ∈ lookupEndings)
    (hEq : lookupName member ending =
      lookupName other ending') :
    member = other ∧ ending = ending' := by
  have hLong : ∀ ending ∈ lookupEndings,
      5 ≤ ending.toList.reverse.length := by
    decide
  have hApart : ∀ ending ∈ lookupEndings,
      ∀ ending' ∈ lookupEndings,
        ending.toList.reverse.take 5 =
          ending'.toList.reverse.take 5 →
        ending = ending' := by
    decide
  have hChars : ('_' :: member.toList) ++ ending.toList =
      ('_' :: other.toList) ++ ending'.toList := by
    simpa [lookupName] using congrArg String.toList hEq
  have hLast := congrArg (·.reverse.take 5) hChars
  simp only [List.reverse_append,
    List.take_append_of_le_length (hLong _ hEnding),
    List.take_append_of_le_length (hLong _ hEnding')]
    at hLast
  rcases hApart _ hEnding _ hEnding' hLast with rfl
  have hMember := List.append_cancel_right hChars
  exact ⟨String.ext (List.cons.inj hMember).2, rfl⟩

theorem underscore_mem_lookupName
    (member ending : String) :
    Naming.delimiter ∈
      (lookupName member ending).toList := by
  simp [lookupName, Naming.delimiter]

namespace Field

/- The tables and the function that a field declares. -/
def lookupNames (field : Field) : List String :=
  if field.isSelect then
    lookupEndings.map (lookupName (memberName field.nameText))
  else []

theorem underscore_notMem_of_mem_declaredNames
    {field : Field}
    {name : String}
    (hName : name ∈ field.declaredNames) :
    Naming.delimiter ∉ name.toList := by
  have hMember :=
    Naming.underscore_notMem_memberName field.nameText
  have hType :=
    Naming.underscore_notMem_typeName field.nameText
  have hEnum : Naming.delimiter ∉
      (enumTypeName field.nameText).toList := by
    rw [enumTypeName, String.toList_append,
      List.mem_append, not_or]
    exact ⟨hType, by decide⟩
  simp only [declaredNames, List.mem_append, List.mem_cons,
    List.not_mem_nil, or_false] at hName
  rcases hName with (rfl | rfl) | hName
  · exact hMember
  · exact hType
  · split at hName
    · rw [List.mem_singleton] at hName
      rwa [hName]
    · cases hName

theorem member_mem_declaredNames (field : Field) :
    memberName field.nameText ∈ field.declaredNames :=
  List.mem_append_left _ List.mem_cons_self

/- The tables and the function hold an underscore. -/
theorem underscore_mem_of_mem_lookupNames
    {field : Field}
    {name : String}
    (hName : name ∈ field.lookupNames) :
    Naming.delimiter ∈ name.toList := by
  unfold lookupNames at hName
  split at hName
  · rcases List.mem_map.mp hName with ⟨ending, _, rfl⟩
    exact underscore_mem_lookupName _ _
  · cases hName

/- The tables and the function of a field are distinct. -/
theorem lookupNames_nodup (field : Field) :
    field.lookupNames.Nodup := by
  unfold lookupNames
  split
  · apply List.Nodup.map_on
    · intro ending hEnding ending' hEnding' hEq
      exact (lookupName_injective hEnding hEnding' hEq).2
    · decide
  · exact List.nodup_nil

theorem lookupNames_disjoint
    {field other : Field}
    (hNames :
      field.declaredNames.Disjoint other.declaredNames) :
    field.lookupNames.Disjoint other.lookupNames := by
  intro name hName hOther
  unfold lookupNames at hName hOther
  split at hName
  · split at hOther
    · rcases List.mem_map.mp hName with ⟨ending, hEnding, rfl⟩
      rcases List.mem_map.mp hOther with
        ⟨ending', hEnding', hEq⟩
      have hMember :=
        (lookupName_injective hEnding' hEnding hEq).1
      apply hNames field.member_mem_declaredNames
      rw [← hMember]
      exact other.member_mem_declaredNames
    · cases hOther
  · cases hName

def classNames (field : Field) : List String :=
  [memberName field.nameText, typeName field.nameText]

def fileNames (field : Field) : List String :=
  field.fileClaims.map (·.1) ++ field.lookupNames

theorem append_fileNames (field : Field) :
    field.classNames ++ field.fileNames =
      field.declaredNames ++ field.lookupNames := by
  rw [fileNames, ← map_claims, claims, List.map_append,
    List.append_assoc]
  rfl

end Field

------------------------------------------------------------
-- Names of a Program
------------------------------------------------------------

namespace Collection

def program
    (settings : Settings)
    (collection : Collection) : Dart.Program :=
  (collection.draft settings).program

theorem flatMap_enums
    {A : Type}
    (settings : Settings)
    (collection : Collection)
    (give : EnumLayout → List A) :
    (collection.draft settings).enums.flatMap give =
      collection.fields.flatMap fun field =>
        if field.isSelect then give field.enumDraft
        else [] := by
  rw [enums_draft, List.flatMap_map]
  induction collection.fields with
  | nil => rfl
  | cons field rest ih =>
      rw [List.flatMap_cons, ← ih, List.filter_cons]
      split
      · rfl
      · rfl

theorem map_fileDeclarations
    (settings : Settings)
    (collection : Collection) :
    (collection.program settings).fileDeclarations.map
        (·.1) =
      collection.fields.flatMap Field.fileNames := by
  rw [Dart.Program.fileDeclarations, program,
    Layout.program, List.flatMap_map, flatMap_enums,
    List.map_flatMap]
  congr 1
  funext field
  cases hSelect : field.isSelect with
  | false =>
      simp [Field.fileNames, Field.fileClaims,
        Field.lookupNames, hSelect]
  | true =>
      simp [Field.fileNames, Field.fileClaims,
        Field.lookupNames, hSelect,
        Dart.EnumPart.declarations, EnumLayout.part,
        Field.enumDraft, lookupEndings, lookupName,
        EnumLayout.toMap, EnumLayout.fromMap,
        EnumLayout.fromWire]

/-
  All names of the program: those that every class has, those
  that the fields claim, and those of tables and functions.
-/
theorem perm_declarations
    (settings : Settings)
    (collection : Collection) :
    ((collection.program settings).declarations.map
        (·.1)).Perm
      (fixedNames ++ (collection.declaredNames ++
        collection.fields.flatMap Field.lookupNames)) := by
  have hFixed :
      ((systemFields.map (·.property)).flatMap
        Dart.Property.declarations).map (·.1) =
          ["id", "Id", "created", "Created", "updated",
            "Updated"] := by
    decide
  have hFields :
      (((collection.fields.map Field.draft).map
        (·.property)).flatMap
          Dart.Property.declarations).map (·.1) =
      collection.fields.flatMap Field.classNames := by
    rw [List.map_map, List.flatMap_map, List.map_flatMap]
    rfl
  have hClass :
      ((collection.program settings).properties.flatMap
        Dart.Property.declarations).map (·.1) =
      ["id", "Id", "created", "Created", "updated",
          "Updated"] ++
        collection.fields.flatMap Field.classNames := by
    rw [program, Layout.program, Layout.allFields,
      List.map_append, List.flatMap_append, List.map_append,
      hFixed, draft, hFields]
  rw [Dart.Program.declarations, List.map_append, hClass,
    map_fileDeclarations, List.append_assoc]
  apply List.Perm.append
  · decide
  calc
    List.Perm
        (collection.fields.flatMap Field.classNames ++
          collection.fields.flatMap Field.fileNames)
        (collection.fields.flatMap fun field =>
          field.classNames ++ field.fileNames) :=
      List.flatMap_append_perm _ Field.classNames
        Field.fileNames
    _ = collection.fields.flatMap (fun field =>
          field.declaredNames ++ field.lookupNames) := by
      simp only [Field.append_fileNames]
    List.Perm _
        (collection.declaredNames ++
          collection.fields.flatMap Field.lookupNames) :=
      (List.flatMap_append_perm _ Field.declaredNames
        Field.lookupNames).symm

------------------------------------------------------------
-- Distinct Names
------------------------------------------------------------

namespace WellFormed

variable {settings : Settings}
variable {collection : Collection}

theorem declaredNames_disjoint
    (hFormed : collection.WellFormed settings) :
    collection.fields.Pairwise fun field other =>
      field.declaredNames.Disjoint other.declaredNames :=
  (List.nodup_flatMap.mp hFormed.namesDistinct).2

theorem members_nodup
    (hFormed : collection.WellFormed settings) :
    (collection.fields.map fun field =>
      memberName field.nameText).Nodup := by
  rw [List.Nodup, List.pairwise_map]
  apply hFormed.declaredNames_disjoint.imp
  intro field other hNames hEq
  apply hNames field.member_mem_declaredNames
  rw [hEq]
  exact other.member_mem_declaredNames

/- Different fields have different names. -/
theorem nameTexts_nodup
    (hFormed : collection.WellFormed settings) :
    (collection.fields.map Field.nameText).Nodup := by
  apply List.Nodup.of_map memberName
  rw [List.map_map]
  exact hFormed.members_nodup

/- What every class has, no field declares. -/
theorem fixedNames_disjoint
    (hFormed : collection.WellFormed settings) :
    fixedNames.Disjoint collection.declaredNames := by
  intro name hFixed hName
  apply hFormed.namesFree name hName
  simp only [usedNames, List.mem_append]
  exact Or.inl (Or.inl (Or.inl hFixed))

/- All names of the program are distinct. -/
theorem declarations_nodup
    (hFormed : collection.WellFormed settings) :
    ((collection.program settings).declarations.map
      (·.1)).Nodup := by
  have hLookups :
      (collection.fields.flatMap Field.lookupNames).Nodup :=
    List.nodup_flatMap.mpr
      ⟨fun field _ => field.lookupNames_nodup,
        hFormed.declaredNames_disjoint.imp
          Field.lookupNames_disjoint⟩
  have hUnderscore : ∀ name ∈
      collection.fields.flatMap Field.lookupNames,
        Naming.delimiter ∈ name.toList := by
    intro name hName
    rcases List.mem_flatMap.mp hName with ⟨field, _, hLookup⟩
    exact field.underscore_mem_of_mem_lookupNames hLookup
  have hNone : ∀ name ∈ fixedNames ++
      collection.declaredNames,
        Naming.delimiter ∉ name.toList := by
    intro name hName
    rcases List.mem_append.mp hName with hFixed | hDeclared
    · have hPlain : ∀ name ∈ fixedNames,
          Naming.delimiter ∉ name.toList := by
        decide
      exact hPlain name hFixed
    · rcases List.mem_flatMap.mp hDeclared with
        ⟨field, _, hField⟩
      exact Field.underscore_notMem_of_mem_declaredNames
        hField
  rw [(collection.perm_declarations settings).nodup_iff,
    ← List.append_assoc]
  refine List.Nodup.append (List.Nodup.append (by decide)
    hFormed.namesDistinct hFormed.fixedNames_disjoint)
    hLookups ?_
  intro name hName hLookup
  exact hNone name hName (hUnderscore name hLookup)

------------------------------------------------------------
-- Resolved Names
------------------------------------------------------------

/- A name means what is declared under it. -/
theorem declaration?_of_mem
    (hFormed : collection.WellFormed settings)
    (inFactory : Bool)
    {name : String}
    {declaration : Dart.Declaration}
    (hMem : (name, declaration) ∈
      (collection.program settings).declarations)
    (hRecord : name ≠ Dart.Expression.recordName) :
    (collection.program settings).declaration? inFactory
      name = some declaration := by
  rw [Dart.Program.declaration?,
    if_neg fun h => hRecord h.2]
  exact Dart.lookup_of_mem hFormed.declarations_nodup hMem

/- In a method the record hides nothing. -/
theorem methodDeclaration?_of_mem
    (hFormed : collection.WellFormed settings)
    {name : String}
    {declaration : Dart.Declaration}
    (hMem : (name, declaration) ∈
      (collection.program settings).declarations) :
    (collection.program settings).declaration? false
      name = some declaration := by
  rw [Dart.Program.declaration?, if_neg (by simp)]
  exact Dart.lookup_of_mem hFormed.declarations_nodup hMem

theorem fileDeclaration?_of_mem
    (hFormed : collection.WellFormed settings)
    {name : String}
    {declaration : Dart.Declaration}
    (hMem : (name, declaration) ∈
      (collection.program settings).fileDeclarations) :
    (collection.program settings).fileDeclaration? name =
      some declaration := by
  have hNodup := hFormed.declarations_nodup
  rw [Dart.Program.declarations, List.map_append] at hNodup
  exact Dart.lookup_of_mem
    (List.nodup_append.mp hNodup).2.1 hMem

end WellFormed

theorem mem_fileDeclarations
    (settings : Settings)
    {collection : Collection}
    {field : Field}
    (hField : field ∈ collection.fields)
    (hSelect : field.isSelect)
    (name : String)
    (declaration : Dart.Declaration)
    (hDeclared : (name, declaration) ∈
      field.enumDraft.part.declarations) :
    (name, declaration) ∈
      (collection.program settings).fileDeclarations := by
  rw [Dart.Program.fileDeclarations, program,
    Layout.program, List.flatMap_map, flatMap_enums,
    List.mem_flatMap]
  refine ⟨field, hField, ?_⟩
  rw [if_pos hSelect]
  exact hDeclared

theorem mem_classDeclarations
    (settings : Settings)
    {collection : Collection}
    {field : Field}
    (hField : field ∈ collection.fields)
    (name : String)
    (declaration : Dart.Declaration)
    (hDeclared : (name, declaration) ∈
      field.draft.property.declarations) :
    (name, declaration) ∈
      (collection.program settings).declarations := by
  apply List.mem_append_left
  rw [List.mem_flatMap]
  refine ⟨field.draft.property, ?_, hDeclared⟩
  apply List.mem_map_of_mem
  exact List.mem_append_right _ (List.mem_map_of_mem hField)

end Collection

end PocketDart
