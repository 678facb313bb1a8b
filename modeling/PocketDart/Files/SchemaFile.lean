import PocketDart.Files.Tree
import PocketDart.Json.Reader
import PocketDart.Log.Message
import PocketDart.Schema.Collection

/-
  This file defines how collections are loaded from an
  exported file instead of a server.

  Key definitions include:
    * `SchemaFileError`
    * `loadCollections`
-/

------------------------------------------------------------
-- Errors
------------------------------------------------------------

namespace PocketDart

/-
  Why no collections can be loaded. The last four are not
  about the file being an export: its path cannot be looked
  up, its bytes are no text, its document has too much of
  something, or its values are misused in a way that no
  handler is there for.
-/
inductive SchemaFileError where
  | notFound (path : Path)
  | malformed (path : Path) (error : Json.SyntaxError)
  | unreadable (path : Path) (error : FileError)
  | notExport (path : Path) (fault : SchemaFault)
  | unreachable (error : FileError)
  | notText (error : Utf8.DecodeError)
  | beyond (excess : Json.Excess)
  | unhandled (cause : Misuse)

/- An error in words. -/
def SchemaFileError.message : SchemaFileError → String
  | .notFound path => "File not found: " ++ path.render
  | .malformed path error =>
      "Invalid JSON in file " ++ path.render ++ ": " ++
        error.message
  | .unreadable path error =>
      "Error reading file " ++ path.render ++ ": " ++
        error.message
  | .notExport path fault =>
      "Not a collection export " ++ path.render ++ ": " ++
        fault.message
  | .unreachable error => error.message
  | .notText error => error.message
  | .beyond excess => excess.message
  | .unhandled cause => cause.message

/- Whether those who load collections handle an error. -/
def SchemaFileError.isHandled : SchemaFileError → Bool
  | .notFound _ | .malformed _ _ | .unreadable _ _
  | .notExport _ _ => true
  | .unreachable _ | .notText _ | .beyond _
  | .unhandled _ => false

def SchemaFileError.isLogged : SchemaFileError → Bool
  | .notFound _ | .malformed _ _ | .unreadable _ _ => true
  | _ => false

------------------------------------------------------------
-- Loading
------------------------------------------------------------

def schemaFileMessage
    (level : Log.Level)
    (text : String) : Log.Message :=
  .of .schemaFile level text

def SchemaFileError.ofReadError
    (path : Path) : Json.ReadError → SchemaFileError
  | .malformed error => .malformed path error
  | .beyond excess => .beyond excess

/- The error for a document without collections. -/
def SchemaFileError.ofFault
    (path : Path) : SchemaFault → SchemaFileError
  | .misuse cause =>
      if cause.isHandled then .notExport path (.misuse cause)
      else .unhandled cause
  | fault => .notExport path fault

def readDocument
    (machine : Machine)
    (tree : FileTree)
    (path : Path) : Except SchemaFileError Value := do
  let bytes ← (tree.readFile path).mapError (.unreadable path)
  let text ← (Utf8.decode bytes).mapError .notText
  let text := String.ofList (Text.unifyBreaks text.toList)
  (Json.read machine text).mapError (.ofReadError path)

def readSchemaFile
    (machine : Machine)
    (tree : FileTree)
    (path : Path) :
    Except SchemaFileError (List Collection) := do
  let document ← readDocument machine tree path
  (readCollections machine.tagLevels document).mapError
    (.ofFault path)

/- The warning about an unusual extension. -/
def extensionWarning (path : Path) : List Log.Message :=
  if path.hasExtension ".json" then []
  else
    [schemaFileMessage .warning
      ("File does not have .json extension: " ++ path.render)]

def loadedMessage
    (path : Path) :
    Except SchemaFileError (List Collection) →
      List Log.Message
  | .ok collections =>
      [schemaFileMessage .info
        ("Loaded " ++ toString collections.length ++
          " collections from " ++ path.render)]
  | .error e =>
      if e.isLogged then [schemaFileMessage .error e.message]
      else []

def loadCollections
    (machine : Machine)
    (tree : FileTree)
    (path : String) :
    Log.Logged
      (Except SchemaFileError (List Collection)) :=
  let path := Path.ofString path
  let attempt :=
    schemaFileMessage .debug
      ("Attempting to load collections from file: " ++
        path.render)
  match tree.exists? path with
  | .error e => ⟨.error (.unreachable e), [attempt]⟩
  | .ok false =>
      let result := .error (.notFound path)
      ⟨result, attempt :: loadedMessage path result⟩
  | .ok true =>
      let result := readSchemaFile machine tree path
      ⟨result, attempt :: extensionWarning path ++
        loadedMessage path result⟩

end PocketDart
