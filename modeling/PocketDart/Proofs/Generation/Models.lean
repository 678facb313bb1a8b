import PocketDart.Proofs.Files.Component
import PocketDart.Proofs.Generation.Agreement
import PocketDart.Proofs.Naming.Raw

/-
  This file proves what the models of a report are called.
  Each is the model of the only collection with its name,
  and the name of its file is a single component of a path:
  nothing checks it, but what the class is named for has no
  character that would matter in a path.

  Key definitions include:
    * `IsOnlyModel`
    * `AllEmit`
    * `GenerationReport.Lists`

  Key theorems include:
    * `Collection.WellFormed.isComponent`
    * `GenerationReport.Accounts.lists`
    * `exists_lists_of_generate`
-/

------------------------------------------------------------
-- File Names
------------------------------------------------------------

namespace PocketDart

/- An extension that stays within the name of a file. -/
structure Settings.ExtendsNames
    (settings : Settings) : Prop where
  noSlash : '/' ∉ settings.fileExtension.toList
  noZero : '\x00' ∉ settings.fileExtension.toList

/- What a class is named for does not hold the zero. -/
theorem Collection.WellFormed.zero_notMem_nameText
    {settings : Settings}
    {collection : Collection}
    (hFormed : collection.WellFormed settings) :
    '\x00' ∉ collection.nameText.toList :=
  Naming.notMem_of_checked hFormed.classNamed (by decide)
    (by decide) (by decide)

/- The name of a class's file is a single component. -/
theorem Collection.WellFormed.isComponent
    {settings : Settings}
    {collection : Collection}
    (hFormed : collection.WellFormed settings)
    (hExtension : settings.ExtendsNames) :
    Path.IsComponent
      (collection.nameText ++ settings.fileExtension) := by
  have hSlash := Naming.slash_notMem_of_checked
    hFormed.classNamed
  have hZero := hFormed.zero_notMem_nameText
  have hDot : '.' ∉ collection.nameText.toList :=
    Naming.notMem_of_checked hFormed.classNamed (by decide)
      (by decide) (by decide)
  -- The first character of the name is the first of all.
  have hHead : ∀ s : String, s.toList.head? = some '.' →
      collection.nameText ++ settings.fileExtension ≠ s := by
    rintro s hFirst rfl
    rw [String.toList_append, List.head?_append] at hFirst
    cases hName : collection.nameText.toList with
    | nil =>
        exact hFormed.notEmpty (String.toList_inj.mp hName)
    | cons first rest =>
        rw [hName] at hFirst hDot
        rcases Option.some.inj hFirst with rfl
        exact hDot List.mem_cons_self
  refine
    { notEmpty := ?_
      notDot := hHead "." rfl
      notDots := hHead ".." rfl
      noSlash := ?_
      noZero := ?_ }
  · intro hEmpty
    rw [String.append_eq_empty_iff] at hEmpty
    exact hFormed.notEmpty hEmpty.1
  · rw [String.toList_append, List.mem_append, not_or]
    exact ⟨hSlash, hExtension.noSlash⟩
  · rw [String.toList_append, List.mem_append, not_or]
    exact ⟨hZero, hExtension.noZero⟩

theorem Collection.fileName_of_emit
    {settings : Settings}
    {collection : Collection}
    {model : GeneratedModel}
    (hEmit : collection.emit settings = .ok model) :
    model.fileName =
      collection.nameText ++ settings.fileExtension := by
  rcases Fallible.map_eq_ok.mp hEmit with
    ⟨layout, hLayout, rfl⟩
  rcases layout_eq_ok_iff.mp hLayout with ⟨_, rfl⟩
  rfl

theorem Collection.isComponent_of_emit
    {settings : Settings}
    {collection : Collection}
    {model : GeneratedModel}
    (hExtension : settings.ExtendsNames)
    (hEmit : collection.emit settings = .ok model) :
    Path.IsComponent model.fileName := by
  rw [fileName_of_emit hEmit]
  rcases Fallible.map_eq_ok.mp hEmit with ⟨layout, hLayout, _⟩
  exact (layout_eq_ok_iff.mp hLayout).1.isComponent hExtension

theorem Collection.zero_notMem_fileName
    {settings : Settings}
    {collection : Collection}
    {model : GeneratedModel}
    (hZero : '\x00' ∉ settings.fileExtension.toList)
    (hEmit : collection.emit settings = .ok model) :
    '\x00' ∉ model.fileName.toList := by
  rcases Fallible.map_eq_ok.mp hEmit with ⟨layout, hLayout, _⟩
  have hFormed := (layout_eq_ok_iff.mp hLayout).1
  rw [fileName_of_emit hEmit, String.toList_append,
    List.mem_append, not_or]
  exact ⟨hFormed.zero_notMem_nameText, hZero⟩

------------------------------------------------------------
-- Models of a Report
------------------------------------------------------------

/- A model of the only collection with its name. -/
def IsOnlyModel
    (settings : Settings)
    (collections : List Collection)
    (model : GeneratedModel) : Prop :=
  ∃ name collection,
    occurrences collections name = [collection] ∧
      collection.emit settings = .ok model

/- Names are distinct and every collection has a model. -/
def AllEmit
    (settings : Settings)
    (collections : List Collection) : Prop :=
  (collections.map (·.name)).Nodup ∧
    ∀ collection ∈ collections,
      ∃ model, collection.emit settings = .ok model

def GenerationReport.IsOverTexts
    (report : GenerationReport) : Prop :=
  ∀ key ∈ ByName.keys report.models ++
      ByName.keys report.errors,
    ∃ name, key = .text name

/-
  The models of a report: those of the collections whose
  names occur once, in files of their own.
-/
structure GenerationReport.Lists
    (settings : Settings)
    (collections : List Collection)
    (report : GenerationReport) : Prop where
  models :
    ∀ model, model ∈ report.modelList ↔
      IsOnlyModel settings collections model
  filesDistinct :
    (report.modelList.map GeneratedModel.fileName).Nodup
  texts : report.IsOverTexts
  success :
    report.success = true ↔ AllEmit settings collections

namespace GenerationReport.Accounts

variable {settings : Settings}
variable {collections : List Collection}
variable {report : GenerationReport}

theorem exists_only
    (hAccounts : report.Accounts settings collections)
    (hNames : ∀ collection ∈ collections,
      collection.name = .text collection.nameText)
    {entry : Value × GeneratedModel}
    (hEntry : entry ∈ report.models) :
    ∃ name collection,
      entry.1 = .text name ∧
        occurrences collections name = [collection] ∧
        collection.emit settings = .ok entry.2 := by
  have hKey : entry.1 ∈ ByName.keys report.models :=
    List.mem_map_of_mem hEntry
  rcases Progress.exists_text_of_mem_names hNames
      (hAccounts.modelsInOrder.subset hKey) with
    ⟨name, hName, _⟩
  have hModel : (Value.text name, entry.2) ∈
      report.models := by
    rw [← hName]
    exact hEntry
  rcases (hAccounts.models name entry.2).mp hModel with
    ⟨collection, hOnly, hEmit⟩
  exact ⟨name, collection, hName, hOnly, hEmit⟩

theorem fileName_eq
    (hAccounts : report.Accounts settings collections)
    (hNames : ∀ collection ∈ collections,
      collection.name = .text collection.nameText)
    {entry : Value × GeneratedModel}
    (hEntry : entry ∈ report.models) :
    ∃ name, entry.1 = .text name ∧
      entry.2.fileName = name ++ settings.fileExtension := by
  rcases hAccounts.exists_only hNames hEntry with
    ⟨name, collection, hName, hOnly, hEmit⟩
  have hOccurs : collection ∈
      occurrences collections name := by
    rw [hOnly]
    exact List.mem_singleton_self collection
  rw [Collection.fileName_of_emit hEmit,
    (mem_occurrences_iff.mp hOccurs).2]
  exact ⟨name, hName, rfl⟩

theorem filesDistinct
    (hAccounts : report.Accounts settings collections)
    (hNames : ∀ collection ∈ collections,
      collection.name = .text collection.nameText) :
    (report.modelList.map GeneratedModel.fileName).Nodup := by
  have hKeys := (List.nodup_append.mp
    hAccounts.namesDistinct).1
  rw [GenerationReport.modelList, List.map_map]
  refine List.Nodup.map_on ?_ (List.Nodup.of_map _ hKeys)
  intro entry hEntry other hOther hSame
  rcases hAccounts.fileName_eq hNames hEntry with
    ⟨name, hName, hFile⟩
  rcases hAccounts.fileName_eq hNames hOther with
    ⟨second, hSecond, hOtherFile⟩
  have hTexts : name ++ settings.fileExtension =
      second ++ settings.fileExtension := by
    rw [← hFile, ← hOtherFile]
    exact hSame
  have hEq : name = second := by
    have hChars := congrArg String.toList hTexts
    rw [String.toList_append, String.toList_append,
      List.append_cancel_right_eq] at hChars
    exact String.toList_inj.mp hChars
  apply List.inj_on_of_nodup_map hKeys hEntry hOther
  rw [hName, hSecond, hEq]

theorem lists
    (hAccounts : report.Accounts settings collections)
    (hNames : ∀ collection ∈ collections,
      collection.name = .text collection.nameText) :
    report.Lists settings collections where
  models model := by
    constructor
    · intro hModel
      rcases List.mem_map.mp hModel with
        ⟨entry, hEntry, rfl⟩
      rcases hAccounts.exists_only hNames hEntry with
        ⟨name, collection, _, hOnly, hEmit⟩
      exact ⟨name, collection, hOnly, hEmit⟩
    · rintro ⟨name, collection, hOnly, hEmit⟩
      exact List.mem_map.mpr ⟨(.text name, model),
        (hAccounts.models name model).mpr
          ⟨collection, hOnly, hEmit⟩, rfl⟩
  filesDistinct := hAccounts.filesDistinct hNames
  texts key hKey := by
    rcases Progress.exists_text_of_mem_names hNames
        ((hAccounts.names key).mp hKey) with
      ⟨name, hName, _⟩
    exact ⟨name, hName⟩
  success := hAccounts.success

end GenerationReport.Accounts

theorem GenerationReport.Lists.components
    {settings : Settings}
    {collections : List Collection}
    {report : GenerationReport}
    (hLists : report.Lists settings collections)
    (hExtension : settings.ExtendsNames) :
    ∀ model ∈ report.modelList,
      Path.IsComponent model.fileName := by
  intro model hModel
  rcases (hLists.models model).mp hModel with
    ⟨_, _, _, hEmit⟩
  exact Collection.isComponent_of_emit hExtension hEmit

theorem exists_lists_of_generate
    (settings : Settings)
    {collections : List Collection}
    (hNames : ∀ collection ∈ collections,
      collection.name = .text collection.nameText) :
    ∃ report,
      (generate settings collections).result = .ok report ∧
        report.Lists settings collections := by
  rcases (Progress.accounts_start settings).steps hNames with
    ⟨final, hSteps, hFinal⟩
  refine ⟨final.report settings collections, ?_,
    (hFinal.report hNames).lists hNames⟩
  simp only [generate, hSteps]
  rfl

end PocketDart
