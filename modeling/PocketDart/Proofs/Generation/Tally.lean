import Mathlib.Algebra.Ring.Nat
import Mathlib.Data.List.Dedup
import Mathlib.Data.List.Perm.Subperm
import PocketDart.Proofs.Generation.Models

/-
  This file proves that the figures and the warnings of a
  report are those of what was generated. Every name counts
  once, the enums are those of the layouts behind the
  models, and of the collections with one name the first
  is warned about, for each of its fields without a type.

  Key definitions include:
    * `firstOfNames`
    * `Field.isUntyped`
    * `LiesBehind`
    * `GenerationReport.Tallies`

  Key theorems include:
    * `firstOfNames_append`
    * `Progress.Accounts.warns_step`
    * `Progress.Accounts.warns_steps`
    * `GenerationReport.Accounts.exists_layouts`
    * `generate_tallies_collections`
-/

------------------------------------------------------------
-- First Occurrences
------------------------------------------------------------

namespace PocketDart

def firstOfNames : List Collection → List Collection
  | [] => []
  | first :: rest =>
      first :: (firstOfNames rest).filter fun other =>
        other.nameText ≠ first.nameText

/- A further collection counts when its name is new. -/
theorem firstOfNames_append
    (done : List Collection)
    (collection : Collection) :
    firstOfNames (done ++ [collection]) =
      firstOfNames done ++
        if occurrences done collection.nameText = [] then
          [collection]
        else [] := by
  induction done with
  | nil => rfl
  | cons first rest ih =>
      rw [List.cons_append, firstOfNames, ih, firstOfNames,
        List.filter_append, List.cons_append]
      congr 2
      by_cases hName :
          first.nameText = collection.nameText
      · have hSeen :
            occurrences (first :: rest)
              collection.nameText ≠ [] := by
          simp [occurrences, hName]
        rw [if_neg hSeen]
        split <;> simp [hName]
      · have hSame :
            occurrences (first :: rest)
                collection.nameText =
              occurrences rest collection.nameText := by
          simp [occurrences, hName]
        rw [hSame]
        split <;> simp [Ne.symm hName]

------------------------------------------------------------
-- Fields without a Type
------------------------------------------------------------

theorem enumTypeName_ne_untyped (raw : String) :
    enumTypeName raw ≠ Dart.TypeName.untyped := by
  intro hSame
  have hEnds := congrArg
    (fun name => name.toList.getLast?) hSame
  simp [enumTypeName, Dart.TypeName.untyped] at hEnds

namespace Field

/- Whether nothing is known of the values of a field. -/
def isUntyped (field : Field) : Bool :=
  match Dart.TypeName.ofField field with
  | .ok type => type.isUntyped
  | .error _ => false

theorem isUntyped_eq
    {field : Field}
    (hName : field.name = .text field.nameText) :
    field.isUntyped = decide (field.kind = .other) := by
  unfold isUntyped Dart.TypeName.ofField
  rw [hName]
  cases field.kind with
  | select =>
      exact decide_eq_false
        (enumTypeName_ne_untyped field.nameText)
  | text | number | bool | date | other => rfl

end Field

theorem Collection.warnings_eq
    {collection : Collection}
    (hFields : ∀ field ∈ collection.fields,
      field.name = .text field.nameText) :
    collection.warnings =
      (collection.fields.filter Field.isUntyped).map
        (·.warning collection.name) := by
  rw [warnings]
  congr 1
  refine List.filter_congr fun field hField => ?_
  exact (Field.isUntyped_eq (hFields field hField)).symm

------------------------------------------------------------
-- Warnings
------------------------------------------------------------

namespace Progress

variable {settings : Settings}
variable {done : List Collection}
variable {collection : Collection}
variable {p after : Progress}

/- The warnings about the first collections with names. -/
def Warns (done : List Collection) (p : Progress) : Prop :=
  p.warnings =
    (firstOfNames done).flatMap Collection.warnings

/- Only a collection with a new name is warned about. -/
theorem Accounts.warns_step
    (h : p.Accounts settings done)
    (hWarns : p.Warns done)
    (hName :
      collection.name = .text collection.nameText)
    (hStep : p.step settings collection = .ok after) :
    after.Warns (done ++ [collection]) := by
  have hSeen := h.isSeen_eq collection.nameText
  rw [← hName] at hSeen
  unfold Warns at hWarns ⊢
  rw [firstOfNames_append, List.flatMap_append, ← hWarns]
  simp only [Progress.step, hSeen, Fallible.ok_bind] at hStep
  by_cases hNew :
      occurrences done collection.nameText = []
  · simp only [hNew, ne_eq, not_true_eq_false,
      decide_false, Bool.false_eq_true, if_false] at hStep
    rcases Except.ok.inj hStep with rfl
    rw [if_pos hNew, List.flatMap_singleton]
    unfold Progress.accept
    dsimp only
    split <;> rfl
  · simp only [ne_eq, hNew, not_false_eq_true,
      decide_true, if_true] at hStep
    rcases Except.ok.inj hStep with rfl
    rw [if_neg hNew, List.flatMap_nil, List.append_nil]
    rfl

/- A whole run warns about the first ones of all names. -/
theorem Accounts.warns_steps
    (h : p.Accounts settings done)
    (hWarns : p.Warns done)
    {collections : List Collection}
    (hNames : ∀ collection ∈ collections,
      collection.name = .text collection.nameText)
    (hSteps :
      (p.steps settings collections).result = .ok after) :
    after.Warns (done ++ collections) := by
  induction collections generalizing done p with
  | nil =>
      rcases Except.ok.inj hSteps with rfl
      rwa [List.append_nil]
  | cons collection rest ih =>
      rcases List.forall_mem_cons.mp hNames with
        ⟨hName, hRest⟩
      rcases h.step hName with ⟨next, hStep, hNext⟩
      simp only [Progress.steps, hStep] at hSteps
      rw [List.append_cons]
      exact ih hNext (h.warns_step hWarns hName hStep)
        hRest hSteps

end Progress

------------------------------------------------------------
-- Enums
------------------------------------------------------------

theorem ByName.has_text_iff
    {A : Type}
    (results : ByName A)
    (name : String) :
    ByName.has results (.text name) = true ↔
      Value.text name ∈ ByName.keys results := by
  simp [ByName.has, ByName.keys, Value.equals_text_iff,
    List.any_eq_true]

def modelled
    (models : ByName GeneratedModel)
    (collections : List Collection) : List Collection :=
  collections.filter fun collection =>
    ByName.has models collection.name

theorem enumCount_eq_sum
    (models : ByName GeneratedModel)
    (collections : List Collection) :
    enumCount models collections =
      ((modelled models collections).map fun collection =>
        collection.selectFields.length).sum := by
  rw [List.sum_eq_foldl, List.foldl_map]
  rfl

/-
  The layout behind an entry of a report: that of the only
  collection with the name, from which the model comes.
-/
structure LiesBehind
    (settings : Settings)
    (collections : List Collection)
    (layout : Layout)
    (entry : Value × GeneratedModel) : Prop where
  ofCollection :
    ∃ name collection,
      entry.1 = .text name ∧
        occurrences collections name = [collection] ∧
        collection.layout settings = .ok layout
  ofModel : entry.2 = layout.model settings

namespace GenerationReport.Accounts

variable {settings : Settings}
variable {collections : List Collection}
variable {report : GenerationReport}

theorem occurrences_of_modelled
    (hAccounts : report.Accounts settings collections)
    (hNames : ∀ collection ∈ collections,
      collection.name = .text collection.nameText)
    {collection : Collection}
    (hCounted :
      collection ∈ modelled report.models collections) :
    occurrences collections collection.nameText =
      [collection] := by
  rcases List.mem_filter.mp hCounted with ⟨hMem, hHas⟩
  rw [hNames collection hMem, ByName.has_text_iff] at hHas
  rcases List.mem_map.mp hHas with ⟨entry, hEntry, hKey⟩
  rcases hAccounts.exists_only hNames hEntry with
    ⟨name, only, hName, hOnly, _⟩
  rcases Value.text.inj (hKey.symm.trans hName) with rfl
  have hSame : collection ∈
      occurrences collections collection.nameText :=
    mem_occurrences_iff.mpr ⟨hMem, rfl⟩
  rw [hOnly, List.mem_singleton] at hSame
  rw [hOnly, ← hSame]

theorem nodup_modelled
    (hAccounts : report.Accounts settings collections)
    (hNames : ∀ collection ∈ collections,
      collection.name = .text collection.nameText) :
    ((modelled report.models collections).map
      (·.nameText)).Nodup := by
  rw [nodup_names_iff]
  intro name
  have hSublist :
      (occurrences (modelled report.models collections)
        name).Sublist (occurrences collections name) :=
    List.filter_sublist.filter _
  rcases hOccurs : occurrences
      (modelled report.models collections) name with
    _ | ⟨collection, rest⟩
  · exact Nat.zero_le 1
  · have hMem : collection ∈ occurrences
        (modelled report.models collections) name := by
      rw [hOccurs]
      exact List.mem_cons_self
    rcases mem_occurrences_iff.mp hMem with
      ⟨hCounted, rfl⟩
    rw [hAccounts.occurrences_of_modelled hNames hCounted,
      hOccurs] at hSublist
    exact hSublist.length_le

/- What is counted stands in the order of the models. -/
theorem map_name_modelled
    (hAccounts : report.Accounts settings collections)
    (hNames : ∀ collection ∈ collections,
      collection.name = .text collection.nameText) :
    (modelled report.models collections).map (·.name) =
      ByName.keys report.models := by
  have hTexts : (modelled report.models collections).map
      (·.name) =
        ((modelled report.models collections).map
          (·.nameText)).map .text := by
    rw [List.map_map]
    refine List.map_congr_left fun collection hCounted => ?_
    exact hNames collection (List.mem_of_mem_filter hCounted)
  have hDistinct : ((modelled report.models collections).map
      (·.name)).Nodup := by
    rw [hTexts]
    exact (hAccounts.nodup_modelled hNames).map
      fun _ _ => Value.text.inj
  have hSubset : (modelled report.models collections).map
      (·.name) ⊆ ByName.keys report.models := by
    intro key hKey
    rcases List.mem_map.mp hKey with
      ⟨collection, hCounted, rfl⟩
    rcases List.mem_filter.mp hCounted with ⟨hMem, hHas⟩
    rw [hNames collection hMem] at hHas ⊢
    exact (ByName.has_text_iff _ _).mp hHas
  have hSelf : (ByName.keys report.models).filter
      (ByName.has report.models) =
        ByName.keys report.models := by
    refine List.filter_eq_self.mpr fun key hKey => ?_
    rcases Progress.exists_text_of_mem_names hNames
        (hAccounts.modelsInOrder.subset hKey) with
      ⟨name, rfl, _⟩
    exact (ByName.has_text_iff _ _).mpr hKey
  have hSublist := hAccounts.modelsInOrder.filter
    (ByName.has report.models)
  rw [hSelf, List.filter_map] at hSublist
  exact (hSublist.eq_of_length_le
    (List.subperm_of_subset hDistinct
      hSubset).length_le).symm

theorem liesBehind_draft
    (hAccounts : report.Accounts settings collections)
    (hNames : ∀ collection ∈ collections,
      collection.name = .text collection.nameText)
    {collection : Collection}
    (hCounted :
      collection ∈ modelled report.models collections)
    {entry : Value × GeneratedModel}
    (hEntry : entry ∈ report.models)
    (hName : collection.name = entry.1) :
    LiesBehind settings collections
      (collection.draft settings) entry := by
  have hOccurs :=
    hAccounts.occurrences_of_modelled hNames hCounted
  rcases hAccounts.exists_only hNames hEntry with
    ⟨name, only, hKey, hOnly, hEmit⟩
  have hSame : collection.nameText = name := by
    rw [hNames collection (List.mem_of_mem_filter hCounted),
      hKey] at hName
    exact Value.text.inj hName
  rw [← hSame, hOccurs] at hOnly
  rcases List.singleton_inj.mp hOnly with rfl
  rcases Fallible.map_eq_ok.mp hEmit with
    ⟨layout, hLayout, hModel⟩
  rcases Collection.layout_eq_ok_iff.mp hLayout with ⟨_, rfl⟩
  rw [hSame] at hOccurs
  exact ⟨⟨name, collection, hKey, hOccurs, hLayout⟩,
    hModel.symm⟩

theorem exists_layouts
    (hAccounts : report.Accounts settings collections)
    (hNames : ∀ collection ∈ collections,
      collection.name = .text collection.nameText) :
    ∃ layouts : List Layout,
      List.Forall₂ (LiesBehind settings collections)
          layouts report.models ∧
        PocketDart.enumCount report.models collections =
          (layouts.map fun layout =>
            layout.enums.length).sum := by
  have hPairs : List.Forall₂
      (fun collection entry => collection.name = entry.1)
      (modelled report.models collections)
      report.models := by
    have hKeys := hAccounts.map_name_modelled hNames
    rwa [ByName.keys, ← List.forall₂_eq_eq_eq,
      List.forall₂_map_left_iff,
      List.forall₂_map_right_iff] at hKeys
  rcases List.forall₂_iff_zip.mp hPairs with
    ⟨hLength, hZip⟩
  refine ⟨(modelled report.models collections).map
    (·.draft settings), ?_, ?_⟩
  · rw [List.forall₂_map_left_iff, List.forall₂_iff_zip]
    refine ⟨hLength, fun {collection entry} hMem => ?_⟩
    rcases List.of_mem_zip hMem with ⟨hCounted, hEntry⟩
    exact hAccounts.liesBehind_draft hNames hCounted hEntry
      (hZip hMem)
  · rw [enumCount_eq_sum, List.map_map]
    congr 1
    refine List.map_congr_left fun collection _ => ?_
    rw [Function.comp_apply, Collection.enums_draft,
      List.length_map]
    rfl

theorem length_names
    (hAccounts : report.Accounts settings collections)
    (hNames : ∀ collection ∈ collections,
      collection.name = .text collection.nameText) :
    report.generatedCount + report.failedCount =
      (collections.map (·.nameText)).dedup.length := by
  have hTexts : collections.map (·.name) =
      (collections.map (·.nameText)).map .text := by
    rw [List.map_map]
    exact List.map_congr_left hNames
  have hPerm :
      (ByName.keys report.models ++
          ByName.keys report.errors).Perm
        ((collections.map (·.nameText)).dedup.map
          .text) := by
    rw [List.perm_ext_iff_of_nodup hAccounts.namesDistinct
      ((List.nodup_dedup _).map fun _ _ => Value.text.inj)]
    intro key
    rw [hAccounts.names, hTexts]
    simp only [List.mem_map, List.mem_dedup]
  have hLength := hPerm.length_eq
  simpa [ByName.keys, GenerationReport.generatedCount,
    GenerationReport.failedCount] using hLength

end GenerationReport.Accounts

------------------------------------------------------------
-- Reports
------------------------------------------------------------

/-
  A report whose figures are those of what was generated,
  and whose warnings are about the first collection of each
  name and its untyped fields, in order.
-/
structure GenerationReport.Tallies
    (settings : Settings)
    (collections : List Collection)
    (report : GenerationReport) : Prop where
  given :
    report.collectionCount = collections.length
  names :
    report.generatedCount + report.failedCount =
      (collections.map (·.nameText)).dedup.length
  enums :
    ∃ layouts : List Layout,
      List.Forall₂ (LiesBehind settings collections)
          layouts report.models ∧
        report.enumCount =
          (layouts.map fun layout =>
            layout.enums.length).sum
  warnings :
    report.warnings =
      (firstOfNames collections).flatMap fun collection =>
        (collection.fields.filter Field.isUntyped).map
          (·.warning collection.name)

theorem mem_of_mem_firstOfNames
    {collections : List Collection}
    {collection : Collection}
    (hFirst : collection ∈ firstOfNames collections) :
    collection ∈ collections := by
  induction collections with
  | nil => cases hFirst
  | cons first rest ih =>
      rcases List.mem_cons.mp hFirst with rfl | hRest
      · exact List.mem_cons_self
      · exact List.mem_cons_of_mem _
          (ih (List.mem_of_mem_filter hRest))

/-
  The figures of a report are those of its models and
  failures, and each untyped field of the first collection
  with a name is warned about once.
-/
theorem generate_tallies_collections
    (settings : Settings)
    {collections : List Collection}
    (hNames : ∀ collection ∈ collections,
      collection.name = .text collection.nameText)
    (hFields : ∀ collection ∈ collections,
      ∀ field ∈ collection.fields,
        field.name = .text field.nameText) :
    ∃ report,
      (generate settings collections).result = .ok report ∧
        report.Tallies settings collections := by
  have hStart := Progress.accounts_start settings
  rcases hStart.steps hNames with ⟨final, hSteps, hFinal⟩
  have hAccounts := hFinal.report hNames
  have hWarns : final.Warns ([] ++ collections) :=
    hStart.warns_steps rfl hNames hSteps
  refine ⟨final.report settings collections, ?_, ?_⟩
  · simp only [generate, hSteps]
    rfl
  · refine ⟨rfl, hAccounts.length_names hNames,
      hAccounts.exists_layouts hNames, ?_⟩
    refine Eq.trans hWarns ?_
    rw [List.nil_append, List.flatMap_def, List.flatMap_def]
    congr 1
    refine List.map_congr_left fun collection hFirst => ?_
    exact Collection.warnings_eq
      (hFields collection (mem_of_mem_firstOfNames hFirst))

/- A name that occurs twice is warned about once. -/
theorem generate_tallies_channels_and_drafts :
    let cover : Field :=
      { name := .text "cover", kind := .other
        required := .bool false, options := []
        tag := .text "file" }
    let channel : Field :=
      { name := .text "channel", kind := .select
        required := .bool true
        options := [("values",
          .list [.text "news", .text "sport"])]
        tag := .text "select" }
    let channels : Collection :=
      { name := .text "channels", fields := [channel, cover]
        id := .null, kind := .text "base"
        system := false }
    let drafts : Collection :=
      { channels with name := .text "drafts" }
    let collections := [drafts, channels, drafts]
    ∃ report,
      (generate {} collections).result = .ok report ∧
        report.Tallies {} collections := by
  intro cover channel channels drafts collections
  refine generate_tallies_collections {} ?_ ?_
  · intro collection hCollection
    simp only [collections, List.mem_cons, List.not_mem_nil,
      or_false] at hCollection
    rcases hCollection with rfl | rfl | rfl <;> rfl
  · intro collection hCollection field hField
    have hCases : field = channel ∨ field = cover := by
      simp only [collections, List.mem_cons,
        List.not_mem_nil, or_false] at hCollection
      rcases hCollection with rfl | rfl | rfl <;>
        simpa [channels, drafts] using hField
    rcases hCases with rfl | rfl <;> rfl

end PocketDart
