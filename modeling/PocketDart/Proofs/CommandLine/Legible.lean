import PocketDart.Config.File
import PocketDart.Files.SchemaFile
import PocketDart.Proofs.Config.Reading
import PocketDart.Proofs.Schema.Misuses

/-
  This file proves for which contents of the files that a
  run reads all errors are handled. In the schema file those
  are not that come of bytes that are no text, of a document
  with too much of something and of a tag that is nested too
  deep; in the configuration those that its reader leaves to
  others, and those of values that cannot be shown.

  Key definitions include:
    * `FileTree.HasLegible`
    * `IsLegibleSchema`
    * `IsLegibleConfiguration`
    * `FileTree.ReadsConfigurationIfAny`

  Key theorems include:
    * `FileTree.failsOnly_iff_hasLegible`
    * `loadCollections_isHandled_iff`
    * `findConfiguration_isHandled_iff`
-/

------------------------------------------------------------
-- Paths
------------------------------------------------------------

namespace PocketDart

open Fallible

namespace FileTree

variable {tree : FileTree}
variable {path : Path}
variable {bytes : List UInt8}
variable {legible : List UInt8 → Prop}

/-
  It can be told whether there is something at a path, and
  the bytes of a file there are legible.
-/
structure HasLegible
    (tree : FileTree)
    (legible : List UInt8 → Prop)
    (path : Path) : Prop where
  answers : ∃ found, tree.exists? path = .ok found
  legible :
    ∀ bytes, tree.readFile path = .ok bytes → legible bytes

theorem exists?_of_readFile
    (hBytes : tree.readFile path = .ok bytes) :
    tree.exists? path = .ok true := by
  rcases bind_eq_ok.mp hBytes with ⟨place, hLocate, hNode⟩
  rw [exists?, hLocate]
  cases hSome : tree.node? place with
  | none => simp [hSome] at hNode
  | some node => simp [hSome]

theorem readFile_ne_ok
    (hNone : tree.exists? path = .ok false) :
    tree.readFile path ≠ .ok bytes := by
  intro hBytes
  rw [exists?_of_readFile hBytes] at hNone
  cases hNone

/-
  The errors of reading a file that may be missing, given
  those for a file that is there.
-/
theorem failsOnly_iff_hasLegible
    {E A : Type}
    {causes : E → Prop}
    {result : Except E A}
    (hUnreachable : ∀ error,
      tree.exists? path = .error error →
        ¬ FailsOnly causes result)
    (hMissing : tree.exists? path = .ok false →
      FailsOnly causes result)
    (hThere : tree.exists? path = .ok true →
      (FailsOnly causes result ↔
        ∀ bytes, tree.readFile path = .ok bytes →
          legible bytes)) :
    FailsOnly causes result ↔
      tree.HasLegible legible path := by
  cases hExists : tree.exists? path with
  | error error =>
      refine iff_of_false (hUnreachable error hExists) ?_
      rintro ⟨⟨found, hFound⟩, _⟩
      rw [hExists] at hFound
      cases hFound
  | ok found =>
      cases found with
      | false =>
          refine iff_of_true (hMissing hExists) ?_
          exact ⟨⟨_, hExists⟩, fun bytes hBytes =>
            absurd hBytes (readFile_ne_ok hExists)⟩
      | true =>
          rw [hThere hExists]
          exact ⟨fun hLegible => ⟨⟨_, hExists⟩, hLegible⟩,
            fun hHas => hHas.legible⟩

end FileTree

------------------------------------------------------------
-- Schema Files
------------------------------------------------------------

/- The document in a text, whatever its line breaks are. -/
def documentIn
    (machine : Machine)
    (text : String) : Except Json.ReadError Value :=
  Json.read machine
    (String.ofList (Text.unifyBreaks text.toList))

/-
  Bytes in which one can look for collections: they are a
  text, which does not have too much of anything, and no tag
  of a field in its document is met that is nested too deep.
-/
structure IsLegibleSchema
    (machine : Machine)
    (bytes : List UInt8) : Prop where
  isText : ∃ text, Utf8.decode bytes = .ok text
  bounded :
    ∀ text, Utf8.decode bytes = .ok text → ∀ excess,
      documentIn machine text ≠ .error (.beyond excess)
  shallow :
    ∀ text, Utf8.decode bytes = .ok text → ∀ document,
      documentIn machine text = .ok document →
        ¬ MeetsDeepTag machine.tagLevels document

theorem readJson_isHandled_iff
    {machine : Machine}
    {path : Path}
    {text : String} :
    FailsOnly (·.isHandled)
        ((Json.read machine text).mapError
          (SchemaFileError.ofReadError path)) ↔
      ∀ excess,
        Json.read machine text ≠ .error (.beyond excess) := by
  rw [failsOnly_mapError]
  constructor
  · intro hHandled excess hRead
    exact Bool.false_ne_true (hHandled _ hRead)
  · intro hBounded cause hRead
    cases cause with
    | malformed error => rfl
    | beyond excess => exact absurd hRead (hBounded excess)

theorem SchemaFileError.isHandled_ofFault_iff
    {path : Path}
    {fault : SchemaFault} :
    (ofFault path fault).isHandled ↔
      ∀ cause, fault = .misuse cause → cause.isHandled := by
  cases fault with
  | misuse cause =>
      simp only [ofFault, SchemaFault.misuse.injEq,
        forall_eq']
      split
      · next hCause => exact iff_of_true rfl hCause
      · next hCause =>
          exact iff_of_false Bool.false_ne_true hCause
  | _ => exact iff_of_true rfl nofun

theorem readCollections_isHandled_iff
    {levels : Nat}
    {path : Path}
    {document : Value} :
    FailsOnly (·.isHandled)
        ((readCollections levels document).mapError
          (SchemaFileError.ofFault path)) ↔
      ¬ MeetsDeepTag levels document := by
  rw [failsOnly_mapError, ← readCollections_eq_tooDeep_iff]
  constructor
  · intro hHandled hDeep
    exact Bool.false_ne_true
      (SchemaFileError.isHandled_ofFault_iff.mp
        (hHandled _ hDeep) _ rfl)
  · intro hShallow fault hRead
    refine SchemaFileError.isHandled_ofFault_iff.mpr ?_
    rintro cause rfl
    rcases ofReading_of_readCollections hRead with
      hCause | rfl
    · exact hCause
    · exact absurd hRead hShallow

theorem readSchemaFile_isHandled_iff
    {machine : Machine}
    {tree : FileTree}
    {path : Path} :
    FailsOnly (·.isHandled)
        (readSchemaFile machine tree path) ↔
      ∀ bytes, tree.readFile path = .ok bytes →
        IsLegibleSchema machine bytes := by
  have hFile : FailsOnly (·.isHandled)
      ((tree.readFile path).mapError
        (SchemaFileError.unreadable path)) :=
    failsOnly_mapError.mpr (failsOnly_of_forall
      (fun _ => rfl) _)
  have hDecode : ∀ bytes, FailsOnly (·.isHandled)
      ((Utf8.decode bytes).mapError
        SchemaFileError.notText) ↔
      ∃ text, Utf8.decode bytes = .ok text := by
    intro bytes
    cases Utf8.decode bytes with
    | ok text => simp [Except.mapError]
    | error error =>
        simp [Except.mapError, SchemaFileError.isHandled]
  unfold readSchemaFile readDocument
  simp only [failsOnly_bind, hFile, hDecode, true_and,
    bind_eq_ok, mapError_eq_ok, readJson_isHandled_iff,
    readCollections_isHandled_iff]
  constructor
  · rintro ⟨hText, hShallow⟩ bytes hBytes
    exact ⟨(hText bytes hBytes).1, (hText bytes hBytes).2,
      fun text hText document hDocument =>
        hShallow document
          ⟨bytes, hBytes, text, hText, hDocument⟩⟩
  · intro hLegible
    refine ⟨fun bytes hBytes => ?_, ?_⟩
    · exact ⟨(hLegible bytes hBytes).isText,
        (hLegible bytes hBytes).bounded⟩
    · rintro document
        ⟨bytes, hBytes, text, hText, hDocument⟩
      exact (hLegible bytes hBytes).shallow text hText
        document hDocument

theorem loadCollections_isHandled_iff
    (machine : Machine)
    (tree : FileTree)
    (path : String) :
    FailsOnly (·.isHandled)
        (loadCollections machine tree path).result ↔
      tree.HasLegible (IsLegibleSchema machine)
        (.ofString path) := by
  unfold loadCollections
  refine FileTree.failsOnly_iff_hasLegible
    (fun error hExists => ?_) (fun hExists => ?_)
    (fun hExists => ?_)
  · simp only [hExists, failsOnly_error]
    exact Bool.false_ne_true
  · simp only [hExists, failsOnly_error]
    rfl
  · simp only [hExists]
    exact readSchemaFile_isHandled_iff

------------------------------------------------------------
-- Configurations
------------------------------------------------------------

section

variable {reader : DocumentReader}
variable {levels : Nat}
variable {environment : Environment}

/-
  Bytes in which one can look for a configuration: reading
  them meets nothing that its reader leaves to others, and
  what has to be shown of the document can be.
-/
structure IsLegibleConfiguration
    (reader : DocumentReader)
    (levels : Nat)
    (environment : Environment)
    (bytes : List UInt8) : Prop where
  handled :
    ∀ message, reader bytes ≠ .error (.unhandled message)
  shown :
    ∀ document, reader bytes = .ok document →
      ∀ server hosting,
        serverSection? document = some server →
        hosting? server = some hosting →
          Configuration.ShowsValues levels environment
            server hosting

/- One is only looked for in a file that is there. -/
structure FileTree.ReadsConfigurationIfAny
    (tree : FileTree)
    (legible : List UInt8 → Prop)
    (path : String) : Prop where
  answers : ∃ found,
    tree.exists? (.ofString path) = .ok found
  reads :
    tree.exists? (.ofString path) = .ok true →
      tree.HasLegible legible (configurationPath path)

theorem ofLoading_isHandled_iff
    {path : String}
    {bytes : List UInt8} :
    FailsOnly (·.isHandled)
        ((reader bytes).mapError
          (ConfigurationError.ofLoading path)) ↔
      ∀ message,
        reader bytes ≠ .error (.unhandled message) := by
  rw [failsOnly_mapError]
  constructor
  · intro hHandled message hRead
    exact Bool.false_ne_true (hHandled _ hRead)
  · intro hHandled cause hRead
    cases cause with
    | malformed reason => rfl
    | unhandled message =>
        exact absurd hRead (hHandled message)

theorem readConfigurationFile_isHandled_iff
    {tree : FileTree}
    {path : String} :
    FailsOnly (·.isHandled)
        (readConfigurationFile reader levels tree environment
          path) ↔
      ∀ bytes,
        tree.readFile (configurationPath path) = .ok bytes →
          IsLegibleConfiguration reader levels environment
            bytes := by
  have hFile : FailsOnly (·.isHandled)
      ((tree.readFile (configurationPath path)).mapError
        (ConfigurationError.unreadable path)) :=
    failsOnly_mapError.mpr (failsOnly_of_forall
      (fun _ => rfl) _)
  have hDocument : ∀ document, FailsOnly (·.isHandled)
      ((Configuration.read levels environment
        document).mapError ConfigurationError.incomplete) ↔
      FailsOnly (·.isRefusal)
        (Configuration.read levels environment document) :=
    fun document => failsOnly_mapError
  unfold readConfigurationFile
  simp only [failsOnly_bind, hFile, true_and,
    mapError_eq_ok, ofLoading_isHandled_iff, hDocument,
    Configuration.failsOnly_read_iff]
  refine forall₂_congr fun bytes _ => ?_
  exact ⟨fun hReads => ⟨hReads.1, hReads.2⟩,
    fun hLegible => ⟨hLegible.handled, hLegible.shown⟩⟩

theorem findConfiguration_isHandled_iff
    {tree : FileTree}
    {path : String} :
    FailsOnly (·.isHandled)
        (findConfiguration reader levels tree environment
          path) ↔
      tree.HasLegible
        (IsLegibleConfiguration reader levels environment)
        (configurationPath path) := by
  unfold findConfiguration
  refine FileTree.failsOnly_iff_hasLegible
    (fun error hExists => ?_) (fun hExists => ?_)
    (fun hExists => ?_)
  · rw [hExists]
    exact fun hHandled =>
      Bool.false_ne_true (hHandled _ rfl)
  · rw [hExists]
    exact failsOnly_error.mpr rfl
  · rw [hExists]
    exact readConfigurationFile_isHandled_iff

end

end PocketDart
