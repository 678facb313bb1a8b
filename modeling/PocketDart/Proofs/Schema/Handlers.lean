import Mathlib.Data.List.Forall2
import PocketDart.Proofs.CommandLine.SchemaFile
import PocketDart.Proofs.Server.Faults

/-
  This file proves how far those who have a document read
  allow for what can go wrong with it. There is a collection
  for each payload in it, or a fault of one of four classes:
  a file with the document is then no export, and a server
  that sent it is at fault. The one fault that they do not
  allow for is a tag of a field that is nested too deep to
  be shown.

  Key definitions include:
    * `SchemaFault.toClass`
    * `handledClasses`
    * `ReadingIsHandled`

  Key theorems include:
    * `Fallible.mapM_eq_ok_iff`
    * `reading_handled_or_tooDeep`
    * `failsOnly_loadCollections_iff`
    * `Client.readAll_isServerError_iff`
    * `reading_is_handled_iff`
-/

------------------------------------------------------------
-- Lists of Steps
------------------------------------------------------------

namespace PocketDart

open Client (defaultPageSize)
open Fallible (FailsOnly)

theorem Fallible.mapM_eq_ok_iff
    {E A B : Type}
    {step : A → Except E B}
    {items : List A}
    {results : List B} :
    items.mapM step = .ok results ↔
      List.Forall₂ (fun item result =>
        step item = .ok result) items results := by
  induction items generalizing results with
  | nil =>
      rw [List.mapM_nil, pure_eq_ok,
        List.forall₂_nil_left_iff]
  | cons item rest ih =>
      rw [List.mapM_cons, bind_eq_ok,
        List.forall₂_cons_left_iff]
      constructor
      · rintro ⟨first, hFirst, hRest⟩
        rcases bind_eq_ok.mp hRest with ⟨more, hMore, hAll⟩
        rcases pure_eq_ok.mp hAll with rfl
        exact ⟨first, more, hFirst, ih.mp hMore, rfl⟩
      · rintro ⟨first, more, hFirst, hMore, rfl⟩
        exact ⟨first, hFirst, bind_eq_ok.mpr
          ⟨more, ih.mpr hMore, rfl⟩⟩

------------------------------------------------------------
-- Classes of Faults
------------------------------------------------------------

def SchemaFault.toClass : SchemaFault → Misuse.Class
  | .noCollections => .content
  | .misuse cause => cause.toClass

def handledClasses : List Misuse.Class :=
  [.ability, .key, .kind, .content]

theorem isHandled_iff_toClass_mem (cause : Misuse) :
    cause.isHandled ↔ cause.toClass ∈ handledClasses := by
  cases cause <;>
    simp [Misuse.isHandled, handledClasses, Misuse.toClass]

section

variable {levels : Nat}
variable {document : Value}

/-
  A document that those who have it read allow for: there is
  a collection for each payload, in order, or a fault of one
  of their classes.
-/
def ReadingIsHandled
    (levels : Nat)
    (document : Value) : Prop :=
  (∃ payloads collections,
    collectionPayloads? document = some payloads ∧
      readCollections levels document = .ok collections ∧
      List.Forall₂ (fun data collection =>
          Collection.read levels data = .ok collection)
        payloads collections) ∨
    ∃ fault,
      readCollections levels document = .error fault ∧
        fault.toClass ∈ handledClasses

theorem exists_payloads_of_readCollections
    {collections : List Collection}
    (hRead :
      readCollections levels document = .ok collections) :
    ∃ payloads,
      collectionPayloads? document = some payloads ∧
        List.Forall₂ (fun data collection =>
            Collection.read levels data = .ok collection)
          payloads collections := by
  unfold readCollections at hRead
  cases hPayloads : collectionPayloads? document with
  | none =>
      rw [hPayloads] at hRead
      cases hRead
  | some payloads =>
      rw [hPayloads] at hRead
      exact ⟨payloads, rfl, Fallible.mapM_eq_ok_iff.mp
        (Fallible.mapError_eq_ok.mp hRead)⟩

/- Only one fault is not of these classes. -/
theorem reading_handled_or_tooDeep
    (levels : Nat)
    (document : Value) :
    ReadingIsHandled levels document ∨
      readCollections levels document =
        .error (.misuse .tooDeep) := by
  cases hRead : readCollections levels document with
  | ok collections =>
      rcases exists_payloads_of_readCollections hRead with
        ⟨payloads, hPayloads, hEach⟩
      exact Or.inl (Or.inl
        ⟨payloads, collections, hPayloads, hRead, hEach⟩)
  | error fault =>
      cases fault with
      | noCollections =>
          exact Or.inl (Or.inr ⟨_, hRead, by decide⟩)
      | misuse cause =>
          rcases ofReading_of_readCollections hRead with
            hHandled | rfl
          · exact Or.inl (Or.inr ⟨_, hRead,
              (isHandled_iff_toClass_mem cause).mp hHandled⟩)
          · exact Or.inr rfl

theorem readingIsHandled_iff :
    ReadingIsHandled levels document ↔
      ¬ MeetsDeepTag levels document := by
  rw [← readCollections_eq_tooDeep_iff]
  constructor
  · intro hHandled hDeep
    unfold ReadingIsHandled at hHandled
    rw [hDeep] at hHandled
    rcases hHandled with ⟨_, _, _, ⟨⟩, _⟩ | ⟨_, ⟨⟩, hClass⟩
    exact absurd hClass (by decide)
  · exact (reading_handled_or_tooDeep levels
      document).resolve_right

theorem exists_fault_of_class
    (levels : Nat) :
    ∀ wanted ∈ handledClasses, ∃ document fault,
      readCollections levels document = .error fault ∧
        fault.toClass = wanted := by
  have hAbility :
      readCollections levels (.list [.list []]) =
        .error (.misuse (.lacks .list .get)) := rfl
  have hKey :
      readCollections levels (.list [.object []]) =
        .error (.misuse (.missingKey "name")) := rfl
  have hKind : readCollections levels (.list [.null]) =
      .error (.misuse (.notSearchable .null)) := rfl
  have hContent : readCollections levels .null =
      .error .noCollections := rfl
  simp only [handledClasses, List.forall_mem_cons]
  exact ⟨⟨_, _, hAbility, rfl⟩, ⟨_, _, hKey, rfl⟩,
    ⟨_, _, hKind, rfl⟩, ⟨_, _, hContent, rfl⟩, nofun⟩

------------------------------------------------------------
-- Handlers
------------------------------------------------------------

theorem SchemaFileError.ofFault_eq_notExport_iff
    {path : Path}
    {fault : SchemaFault} :
    (∃ other, ofFault path fault = .notExport path other) ↔
      (ofFault path fault).isHandled := by
  unfold ofFault
  split
  · split
    · exact iff_of_true ⟨_, rfl⟩ rfl
    · exact iff_of_false nofun Bool.false_ne_true
  · exact iff_of_true ⟨_, rfl⟩ rfl

theorem failsOnly_loadCollections_iff
    {machine : Machine}
    {tree : FileTree}
    {path : String}
    (hDocument :
      readDocument machine tree (.ofString path) =
        .ok document) :
    FailsOnly
        (fun error => ∃ fault,
          error = .notExport (.ofString path) fault)
        (loadCollections machine tree path).result ↔
      ¬ MeetsDeepTag machine.tagLevels document := by
  rw [loadCollections_eq_of_document hDocument,
    Fallible.failsOnly_mapError]
  simp only [SchemaFileError.ofFault_eq_notExport_iff]
  exact Fallible.failsOnly_mapError.symm.trans
    readCollections_isHandled_iff

theorem Client.readAll_isServerError_iff
    {client : Client}
    {session next : Session}
    {payloads : List Value}
    (hFetch : (client.fetch defaultPageSize).run session =
      .ok payloads next) :
    (∀ cause after,
        (client.readAll levels).run session =
          .error cause after →
        ∃ fault, cause = .server (.malformed fault)) ↔
      ¬ MeetsDeepTag levels (.list payloads) := by
  rw [← readCollections_eq_tooDeep_iff]
  cases hRead : readCollections levels (.list payloads) with
  | ok collections =>
      rw [Client.run_readAll hFetch hRead]
      exact iff_of_true nofun nofun
  | error fault =>
      rcases failsOnly_readCollections levels payloads fault
        hRead with ⟨cause, rfl, hCause⟩
      rw [Client.run_readAll_of_misuse hFetch hRead]
      rcases hCause with hHandled | rfl
      · refine iff_of_true ?_ ?_
        · rintro _ _ ⟨⟩
          exact ⟨_, by rw [payloadError, if_pos hHandled]⟩
        · rintro ⟨⟩
          cases hHandled
      · refine iff_of_false (fun hServer => ?_) (· rfl)
        rcases hServer _ _ rfl with ⟨_, ⟨⟩⟩

end

/-
  A document that is handled wherever it is read: by itself,
  from a file, where it is decoded, and from a server, whose
  pages together are a list.
-/
structure IsHandledDocument
    (machine : Machine)
    (document : Value) : Prop where
  reading : ReadingIsHandled machine.tagLevels document
  files :
    ∀ tree path,
      readDocument machine tree (.ofString path) =
          .ok document →
        FailsOnly
          (fun error => ∃ fault,
            error = .notExport (.ofString path) fault)
          (loadCollections machine tree path).result
  servers :
    ∀ payloads, document = .list payloads →
      ∀ (client : Client) session next,
        (client.fetch defaultPageSize).run session =
            .ok payloads next →
          ∀ cause after,
            (client.readAll machine.tagLevels).run session =
                .error cause after →
              ∃ fault, cause = .server (.malformed fault)

/-
  Whatever value a document is, it is handled unless it has
  the tag of a field that is nested too deep. Each of the
  four classes occurs, and those who have documents read
  from files and from servers take just their faults for
  faults of the document.
-/
theorem reading_is_handled_iff
    (machine : Machine) :
    (∀ document,
      IsHandledDocument machine document ↔
        ¬ MeetsDeepTag machine.tagLevels document) ∧
      (∀ wanted ∈ handledClasses, ∃ document fault,
        readCollections machine.tagLevels document =
            .error fault ∧
          fault.toClass = wanted) ∧
      (∀ path cause,
        (∃ fault, SchemaFileError.ofFault path
            (.misuse cause) = .notExport path fault) ↔
          cause.toClass ∈ handledClasses) ∧
      ∀ cause,
        (∃ error, Client.payloadError cause =
            .server error) ↔
          cause.toClass ∈ handledClasses := by
  refine ⟨fun document => ?_, exists_fault_of_class _,
    fun path cause => ?_, fun cause => ?_⟩
  · constructor
    · exact fun hHandled =>
        readingIsHandled_iff.mp hHandled.reading
    · intro hShallow
      refine
        { reading := readingIsHandled_iff.mpr hShallow
          files := fun tree path hDocument => ?_
          servers := fun payloads hList => ?_ }
      · exact (failsOnly_loadCollections_iff hDocument).mpr
          hShallow
      · subst hList
        intro client session next hFetch
        exact (Client.readAll_isServerError_iff hFetch).mpr
          hShallow
  · rw [← isHandled_iff_toClass_mem,
      SchemaFileError.ofFault]
    split
    · next hCause => exact iff_of_true ⟨_, rfl⟩ hCause
    · next hCause =>
        refine iff_of_false ?_ hCause
        rintro ⟨_, ⟨⟩⟩
  · rw [← isHandled_iff_toClass_mem]
    exact payloadError_eq_server_iff cause

/-
  A file whose document is read, and a server that sends a
  list where a collection belongs.
-/
theorem file_and_page_are_handled :
    let client : Client := ⟨"http://localhost", .int 30⟩
    let page : Value := .object [("items", .list [.list []])]
    let session : Session :=
      { replies := [.response
          { status := 200, url := none
            document := .ok page }]
        silence := "" }
    (∀ error,
        (loadCollections .usual PostsFile.tree
            "s.json").result = .error error →
          ∃ fault,
            error = .notExport (.ofString "s.json") fault) ∧
      ∀ cause after,
        (client.readAll Machine.usual.tagLevels).run
            session = .error cause after →
          ∃ fault, cause = .server (.malformed fault) := by
  intro client page session
  have hHandled := (reading_is_handled_iff .usual).1
  have hPosts : ¬ MeetsDeepTag Machine.usual.tagLevels
      (.list [.object [("name", .text "posts")]]) := by
    rw [← readCollections_eq_tooDeep_iff]
    nofun
  have hPage : ¬ MeetsDeepTag Machine.usual.tagLevels
      (.list [.list []]) := by
    rw [← readCollections_eq_tooDeep_iff]
    nofun
  have hFetch : ∃ next,
      (client.fetch defaultPageSize).run session =
        .ok [.list []] next := ⟨_, rfl⟩
  rcases hFetch with ⟨next, hFetch⟩
  exact ⟨((hHandled _).mpr hPosts).files PostsFile.tree
      "s.json" PostsFile.readDocument_tree,
    ((hHandled _).mpr hPage).servers _ rfl client session
      next hFetch⟩

def Value.nested : Nat → Value
  | 0 => .null
  | count + 1 => .list [nested count]

theorem Value.showFault?_nested
    (count levels : Nat) :
    (nested count).showFault? levels =
      if count ≤ levels then none else some .tooDeep := by
  induction count generalizing levels with
  | zero => rfl
  | succ count ih =>
      cases levels with
      | zero => rfl
      | succ levels =>
          have hInside :
              (nested (count + 1)).showFault? (levels + 1) =
                ((nested count).showFault? levels).or none :=
            rfl
          rw [hInside, ih, Option.or_none]
          simp only [Nat.add_le_add_iff_right]

def deepTagDocument (count : Nat) : Value :=
  .list
    [.object [("name", .text "p"),
      ("fields", .list [.object
        [("name", .text "a"), ("type", .nested count)]])],
      .int 5]

/- With one list more than are shown it is not handled. -/
theorem deep_tag_not_handled :
    ¬ IsHandledDocument .usual
      (deepTagDocument (Machine.usual.tagLevels + 1)) := by
  intro hHandled
  refine readingIsHandled_iff.mp hHandled.reading ?_
  have hDeep : (Value.nested
      (Machine.usual.tagLevels + 1)).showFault?
        Machine.usual.tagLevels = some .tooDeep := by
    rw [Value.showFault?_nested, if_neg (by omega)]
  exact ⟨[], _, [.int 5], [], rfl, rfl, _, _, .text "p", [],
    _, [], [], rfl, rfl, rfl, rfl, rfl, _, [], .text "a",
    rfl, rfl, rfl, hDeep⟩

end PocketDart
