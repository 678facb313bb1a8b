import PocketDart.Generation.Settings
import PocketDart.Proofs.Fallible
import PocketDart.Proofs.Lookup

/-
  This file proves when a document of settings is read, and
  what is read from it: the defaults, but for the keys that
  the document has. Every key of the document has to be a
  known one, with a value of the right kind; a key that is
  no text is a fault of its own.

  Key definitions include:
    * `Settings.entries`
    * `Settings.Admits`
    * `Settings.AreGiven`
    * `Settings.Overrides`
    * `Settings.HasTextKeys`

  Key theorems include:
    * `Settings.set_cases`
    * `Settings.foldlM_set_cases`
    * `Settings.read_cases`
    * `Settings.failsOnly_read_iff`
-/

------------------------------------------------------------
-- Settings as Entries
------------------------------------------------------------

namespace PocketDart

open Fallible

namespace Settings

def entries
    (settings : Settings) : List (String × Document) :=
  [("add_comments", .bool settings.addComments),
   ("record_import", .text settings.recordImport),
   ("record_type", .text settings.recordType),
   ("class_suffix", .text settings.classSuffix),
   ("file_extension", .text settings.fileExtension)]

/- A value of the kind that a key stands for. -/
def Admits (key : String) (value : Document) : Prop :=
  if key = "add_comments" then ∃ b, value = .bool b
  else ∃ s, value = .text s

/- Known keys only, with values of the right kinds. -/
structure AreGiven
    (given : List (String × Document)) : Prop where
  known : ∀ entry ∈ given, entry.1 ∈ keys
  admitted : ∀ entry ∈ given, Admits entry.1 entry.2

/-
  Settings with the given entries in place of those of other
  settings. Where a key is given twice, which it is not in a
  document, the last value counts.
-/
def Overrides
    (given : List (String × Document))
    (before settings : Settings) : Prop :=
  ∀ key,
    settings.entries.lookup key =
      (given.reverse.lookup key).or
        (before.entries.lookup key)

------------------------------------------------------------
-- Reading
------------------------------------------------------------

/- A known key is set to a value of the right kind only. -/
theorem set_cases
    (before : Settings)
    {key : String}
    (hKey : key ∈ keys)
    (value : Document) :
    (Admits key value ∧
        ∃ settings, before.set key value = .ok settings ∧
          settings.entries =
            Entries.insert key value before.entries) ∨
      ¬ Admits key value ∧
        ∃ fault, before.set key value = .error fault := by
  simp only [keys, List.mem_cons, List.not_mem_nil,
    or_false] at hKey
  by_cases hFlag : key = "add_comments"
  · subst hFlag
    cases value with
    | bool b =>
        exact Or.inl ⟨⟨b, rfl⟩, _, rfl, by
          simp [entries, Entries.insert]⟩
    | _ => exact Or.inr ⟨by simp [Admits], _, rfl⟩
  · have hAdmits : Admits key value ↔
        ∃ s, value = .text s := by
      rw [Admits, if_neg hFlag]
    rw [hAdmits]
    unfold set
    rw [if_neg hFlag]
    cases value with
    | text s =>
        refine Or.inl ⟨⟨s, rfl⟩, _, rfl, ?_⟩
        rcases hKey with rfl | rfl | rfl | rfl | rfl
        · exact absurd rfl hFlag
        all_goals simp [entries, Entries.insert]
    | _ => exact Or.inr ⟨by simp, _, rfl⟩

theorem overrides_cons
    {key : String}
    {value : Document}
    {given : List (String × Document)}
    {before middle settings : Settings}
    (hSet : middle.entries =
      Entries.insert key value before.entries)
    (hRest : Overrides given middle settings) :
    Overrides ((key, value) :: given) before settings := by
  intro other
  rw [hRest other, hSet, List.reverse_cons,
    List.lookup_append, Option.or_assoc]
  congr 1
  by_cases hOther : other = key
  · subst hOther
    rw [Entries.lookup_insert_self]
    simp
  · rw [Entries.lookup_insert_ne hOther]
    simp [Lookup.lookup_cons_of_ne hOther]

theorem foldlM_set_cases
    (before : Settings)
    {given : List (String × Document)}
    (hKnown : ∀ entry ∈ given, entry.1 ∈ keys) :
    (AreGiven given ∧
        ∃ settings,
          given.foldlM (fun settings (key, value) =>
            settings.set key value) before = .ok settings ∧
          Overrides given before settings) ∨
      ¬ AreGiven given ∧
        ∃ fault,
          given.foldlM (fun settings (key, value) =>
            settings.set key value) before =
              .error fault := by
  induction given generalizing before with
  | nil =>
      refine Or.inl ⟨⟨hKnown, nofun⟩, before, rfl, ?_⟩
      intro key
      rfl
  | cons entry rest ih =>
      rcases entry with ⟨key, value⟩
      rcases List.forall_mem_cons.mp hKnown with
        ⟨hKey, hRest⟩
      rw [List.foldlM_cons]
      rcases before.set_cases hKey value with
        ⟨hAdmits, middle, hSet, hEntries⟩ |
        ⟨hNot, fault, hSet⟩
      · dsimp only
        rw [hSet]
        rcases ih middle hRest with
          ⟨hGiven, settings, hFold, hOverrides⟩ |
          ⟨hNot, hFault⟩
        · refine Or.inl ⟨⟨hKnown, ?_⟩, settings, hFold,
            overrides_cons hEntries hOverrides⟩
          exact List.forall_mem_cons.mpr
            ⟨hAdmits, hGiven.admitted⟩
        · refine Or.inr ⟨fun hGiven => hNot ⟨hRest, ?_⟩,
            hFault⟩
          exact (List.forall_mem_cons.mp
            hGiven.admitted).2
      · refine Or.inr ⟨fun hGiven => hNot ?_, fault, ?_⟩
        · exact hGiven.admitted _ List.mem_cons_self
        · dsimp only
          rw [hSet]
          rfl

/- The entries of a mapping whose keys are all texts. -/
def texts?
    (entries : DocumentEntries) :
    Option (List (String × Document)) :=
  entries.mapM fun (key, value) =>
    match key with
    | .text key => some (key, value)
    | _ => none

def given? :
    Option Document → Option (List (String × Document))
  | none => some []
  | some .null => some []
  | some (.mapping entries) => texts? entries
  | some _ => none

theorem textEntries_cases (entries : DocumentEntries) :
    (∃ given, texts? entries = some given ∧
        textEntries entries = .ok given) ∨
      texts? entries = none ∧
        ∃ kind, textEntries entries =
          .error (.keyNotText kind) := by
  induction entries with
  | nil => exact Or.inl ⟨[], rfl, rfl⟩
  | cons entry rest ih =>
      rcases entry with ⟨key, value⟩
      unfold texts? textEntries at ih ⊢
      rw [List.mapM_cons, List.mapM_cons]
      cases key with
      | text key =>
          rcases ih with
            ⟨given, hTexts, hEntries⟩ |
            ⟨hTexts, kind, hEntries⟩
          · refine Or.inl ⟨(key, value) :: given, ?_, ?_⟩
            · rw [hTexts]
              rfl
            · rw [hEntries]
              rfl
          · refine Or.inr ⟨?_, kind, ?_⟩
            · rw [hTexts]
              rfl
            · rw [hEntries]
              rfl
      | _ => exact Or.inr ⟨rfl, _, rfl⟩

theorem readEntries_cases
    (given : List (String × Document)) :
    ((∀ entry ∈ given, entry.1 ∈ keys) ∧
        readEntries given =
          given.foldlM (fun settings (key, value) =>
            settings.set key value) {}) ∨
      (¬ ∀ entry ∈ given, entry.1 ∈ keys) ∧
        ∃ fault, readEntries given = .error fault := by
  have hUnknown :
      ((given.map (·.1)).filter
          fun key => key ∉ keys).isEmpty = true ↔
        ∀ entry ∈ given, entry.1 ∈ keys := by
    simp [List.filter_eq_nil_iff]
  rw [← hUnknown]
  unfold readEntries
  dsimp only
  split
  · next hEmpty => exact Or.inl ⟨hEmpty, rfl⟩
  · next hSome => exact Or.inr ⟨hSome, _, rfl⟩

theorem read_cases (value : Option Document) :
    (∃ given settings,
        given? value = some given ∧ AreGiven given ∧
          read (value.getD .null) = .ok settings ∧
          Overrides given {} settings) ∨
      (∀ given, given? value = some given →
          ¬ AreGiven given) ∧
        ∃ fault, read (value.getD .null) = .error fault := by
  have hDefaults : Overrides [] {} {} := fun _ => rfl
  rcases value with _ | _ | _ | _ | _ | _ | _ | entries | _
  case none =>
    exact Or.inl ⟨[], {}, rfl, ⟨nofun, nofun⟩, rfl, hDefaults⟩
  case some.null =>
    exact Or.inl ⟨[], {}, rfl, ⟨nofun, nofun⟩, rfl, hDefaults⟩
  case some.mapping =>
    rw [Option.getD_some, read, given?]
    rcases textEntries_cases entries with
      ⟨given, hTexts, hEntries⟩ | ⟨hTexts, kind, hEntries⟩
    · rw [hTexts, hEntries]
      dsimp only [Fallible.ok_bind]
      rcases readEntries_cases given with
        ⟨hKnown, hRead⟩ | ⟨hUnknown, hFault⟩
      · rw [hRead]
        rcases foldlM_set_cases {} hKnown with
          ⟨hGiven, settings, hFold, hOverrides⟩ |
          ⟨hNot, hFault⟩
        · exact Or.inl ⟨given, settings, rfl, hGiven, hFold,
            hOverrides⟩
        · refine Or.inr ⟨?_, hFault⟩
          rintro _ ⟨⟩
          exact hNot
      · refine Or.inr ⟨?_, hFault⟩
        rintro _ ⟨⟩ hGiven
        exact hUnknown hGiven.known
    · rw [hTexts, hEntries]
      exact Or.inr ⟨nofun, _, rfl⟩
  all_goals exact Or.inr ⟨nofun, _, rfl⟩

------------------------------------------------------------
-- Keys
------------------------------------------------------------

def SparesKeys (fault : SettingsFault) : Prop :=
  ∀ kind, fault ≠ .keyNotText kind

/- Where settings may stand, no mapping has other keys. -/
def HasTextKeys (value : Option Document) : Prop :=
  ∀ entries, value = some (.mapping entries) →
    ∃ given, texts? entries = some given

theorem failsOnly_set
    (before : Settings)
    (key : String)
    (value : Document) :
    FailsOnly SparesKeys (before.set key value) := by
  unfold set
  split
  · split
    · exact failsOnly_ok _
    · exact failsOnly_error.mpr nofun
  · split
    · exact failsOnly_ok _
    · exact failsOnly_error.mpr nofun

theorem failsOnly_readEntries
    (given : List (String × Document)) :
    FailsOnly SparesKeys (readEntries given) := by
  have hFold (before : Settings) :
      FailsOnly SparesKeys (given.foldlM
        (fun settings (key, value) =>
          settings.set key value) before) := by
    induction given generalizing before with
    | nil => exact failsOnly_ok _
    | cons entry rest ih =>
        rw [List.foldlM_cons, failsOnly_bind]
        exact ⟨failsOnly_set _ _ _, fun after _ => ih after⟩
  unfold readEntries
  dsimp only
  split
  · exact hFold {}
  · exact failsOnly_error.mpr nofun

/- Only other keys make settings fail for their kind. -/
theorem failsOnly_read_iff
    {value : Option Document} :
    FailsOnly SparesKeys (read (value.getD .null)) ↔
      HasTextKeys value := by
  rcases value with _ | _ | _ | _ | _ | _ | _ | entries | _
  case some.mapping =>
    rw [Option.getD_some, read]
    rcases textEntries_cases entries with
      ⟨given, hTexts, hEntries⟩ | ⟨hTexts, kind, hEntries⟩
    · rw [hEntries]
      refine iff_of_true (failsOnly_readEntries given) ?_
      rintro _ ⟨⟩
      exact ⟨given, hTexts⟩
    · rw [hEntries]
      refine iff_of_false ?_ ?_
      · exact fun hFails => hFails _ rfl kind rfl
      · intro hKeys
        rcases hKeys entries rfl with ⟨given, hGiven⟩
        rw [hTexts] at hGiven
        cases hGiven
  case none | some.null =>
    exact iff_of_true (failsOnly_ok _) nofun
  all_goals
    exact iff_of_true (failsOnly_error.mpr nofun) nofun

end Settings

end PocketDart
