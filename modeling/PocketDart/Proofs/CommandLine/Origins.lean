import PocketDart.Proofs.CommandLine.SchemaFile
import PocketDart.Proofs.Server.Pages

/-
  This file proves that it does not matter where a run gets
  its collections from: a server that gives payloads in
  pages and a file that holds them lead to the same list, in
  the same order and with the same collections left out.

  Key theorems include:
    * `readCollections_of_holds`
    * `server_and_file_give_same_collections`
-/

------------------------------------------------------------
-- Documents
------------------------------------------------------------

namespace PocketDart

def Value.Holds
    (document : Value)
    (payloads : List Value) : Prop :=
  document = .list payloads ∨
    document.get? "items" = some (.list payloads)

theorem readCollections_of_holds
    {levels : Nat}
    {document : Value}
    {payloads : List Value}
    (hHolds : document.Holds payloads) :
    readCollections levels document =
      readCollections levels (.list payloads) := by
  rcases hHolds with rfl | hItems
  · rfl
  · cases document with
    | object entries =>
        have hLookup : entries.lookup "items" =
            some (.list payloads) := hItems
        simp only [readCollections, collectionPayloads?,
          hLookup]
    | _ => cases hItems

------------------------------------------------------------
-- Servers and Files
------------------------------------------------------------

/-
  Collections with texts for names are the same from a
  server that gives their payloads in pages of any size, and
  from a file that holds the payloads. The server is asked
  once for each page, in order.
-/
theorem server_and_file_give_same_collections
    {size : Nat}
    {payloads : List Value}
    {collections : List Collection}
    {answer : Nat → Reply}
    {session : Session}
    {later : List Reply}
    {surroundings : Surroundings}
    {arguments : Arguments}
    {configuration : Option Configuration}
    {state loaded : RunState}
    {file : String}
    {document : Value}
    {includeSystem : Bool}
    (hRead :
      readCollections surroundings.machine.tagLevels
        (.list payloads) = .ok collections)
    (hNames : ∀ collection ∈ collections,
      collection.name = .text collection.nameText)
    (hSize : 1 ≤ size)
    (hAnswers : AnswersInPages size payloads answer)
    (hReplies : session.replies =
      (pageNumbers size payloads).map answer ++ later)
    (hFile : arguments.schemaFile = some file)
    (hSome : file ≠ "")
    (hConfigured :
      (Run.configurationIfAny surroundings arguments).run
        state = .ok configuration loaded)
    (hDocument :
      readDocument surroundings.machine state.tree
        (.ofString file) = .ok document)
    (hHolds : document.Holds payloads)
    (hWanted :
      Run.wantsSystem arguments configuration =
        includeSystem)
    (client : Client) :
    ∃ wanted after fetched,
      (client.collections surroundings.machine.tagLevels
          includeSystem).run session = .ok wanted after ∧
        (Run.collections surroundings arguments).run state =
          .ok (configuration, wanted) fetched ∧
        wanted = collections.filter (fun collection =>
          includeSystem || !collection.system) ∧
        session.Answered
          ((pageNumbers size payloads).map
            (client.pageRequest Client.defaultPageSize
              session.token))
          ((pageNumbers size payloads).map answer) after := by
  rcases Client.run_collections client hSize
      hAnswers hReplies hRead hNames includeSystem with
    ⟨after, hServer, hAnswered⟩
  have hLoaded := loadCollections_of_document hDocument
    ((readCollections_of_holds hHolds).trans hRead)
  rcases Run.exists_run_collections hConfigured hFile hSome
      hLoaded with
    ⟨fetched, hFetched⟩
  rw [hWanted] at hFetched
  exact ⟨_, after, fetched, hServer, hFetched, rfl,
    hAnswered⟩

namespace TwoCollections

/- Payloads of two collections, one of the system. -/
def payloads : List Value :=
  [.object [("name", .text "a"), ("system", .int 1)],
    .object [("name", .text "b")]]

def collections : List Collection :=
  [{ name := .text "a", fields := [], id := .null
     kind := .text "base", system := true },
    { name := .text "b", fields := [], id := .null
      kind := .text "base", system := false }]

theorem collections_areTexts :
    ∀ collection ∈ collections,
      collection.name = .text collection.nameText := by
  simp [collections, Collection.nameText]

def answer (number : Nat) : Reply :=
  .response
    { status := 200, url := none
      document := .ok <| .object
        [("page", .int number),
          ("items", .list (payloadsOn 1 payloads number)),
          ("totalPages", .int (pageCount 1 payloads))] }

theorem answersInPages :
    AnswersInPages 1 payloads answer :=
  fun _ _ => ⟨_, _, rfl, rfl, rfl, rfl, rfl⟩

/- A document that holds the payloads under a key. -/
def text : String :=
  "\x7b\"items\":[\x7b\"name\":\"a\",\"system\":1\x7d,\x7b\"name\":\"b\"\x7d]\x7d"

def tree : FileTree :=
  { nodes := [(["s.json"], .file (Utf8.encode text))] }

theorem readDocument_tree :
    readDocument .usual tree (.ofString "s.json") =
      .ok (.object [("items", .list payloads)]) := by
  have hBytes : tree.readFile (.ofString "s.json") =
      .ok (Utf8.encode text) := rfl
  have hText : Utf8.decode (Utf8.encode text) =
      .ok text := by
    have hAscii : Text.IsAscii text.toList := by
      decide
    simpa using Utf8.decode_encode_ascii hAscii
  have hDocument : Json.read .usual (String.ofList
      (Text.unifyBreaks text.toList)) =
        .ok (.object [("items", .list payloads)]) := by
    simp only [Json.read, String.toList_ofList, text,
      String.reduceToList]
    rfl
  simp [readDocument, hBytes, hText, hDocument,
    Except.mapError]

end TwoCollections

/- Two pages lead to the same collections as a file. -/
theorem two_pages_and_file_give_same_collections :
    let client : Client := ⟨"http://localhost", .int 30⟩
    let session : Session :=
      { replies := [1, 2].map TwoCollections.answer
        silence := "" }
    let state : RunState :=
      { tree := TwoCollections.tree
        session := { replies := [], silence := "" } }
    let arguments : Arguments :=
      { schemaFile := some "s.json" }
    let surroundings : Surroundings := .usual [] .notFound
    ∃ wanted after fetched,
      (client.collections surroundings.machine.tagLevels
          false).run session = .ok wanted after ∧
        (Run.collections surroundings arguments).run
          state = .ok (none, wanted) fetched ∧
        wanted.map Collection.nameText = ["b"] := by
  intro client session state arguments surroundings
  have hNone : state.tree.exists?
      (.ofString defaultConfigurationPath) =
        .ok false := rfl
  have hConfigured :
      (Run.configurationIfAny surroundings
        arguments).run state = .ok none state :=
    Run.run_configurationIfAny surroundings rfl hNone
  have hRead :
      readCollections surroundings.machine.tagLevels
        (.list TwoCollections.payloads) =
          .ok TwoCollections.collections := rfl
  have hReplies : session.replies =
      (pageNumbers 1 TwoCollections.payloads).map
        TwoCollections.answer ++ [] := rfl
  rcases server_and_file_give_same_collections hRead
      TwoCollections.collections_areTexts (by decide)
      TwoCollections.answersInPages hReplies rfl (by decide)
      hConfigured TwoCollections.readDocument_tree
      (Or.inr rfl) rfl client with
    ⟨wanted, after, fetched, hServer, hFile, rfl, _⟩
  exact ⟨_, after, fetched, hServer, hFile, rfl⟩

end PocketDart
