import PocketDart.Files.Tree
import PocketDart.Generation.Emit

/-
  This file defines how generated models are written to
  files.

  Key definitions include:
    * `WriteError`
    * `Written`
    * `writeModels`
-/

------------------------------------------------------------
-- Errors
------------------------------------------------------------

namespace PocketDart

/- Why models cannot be written. -/
inductive WriteError where
  | noDirectory (directory : Path) (error : FileError)
  | notWritten (path : Path) (error : FileError)
  | unusable (error : FileError)
  deriving DecidableEq, Repr

/- An error in words. -/
def WriteError.message : WriteError → String
  | .noDirectory directory error =>
      "Cannot create output directory " ++
        directory.render ++ ": " ++ error.message
  | .notWritten path error =>
      "Failed to write " ++ path.render ++ ": " ++
        error.message
  | .unusable error => error.message

/-
  The error for a failed operation, which need not be the
  fault of the system.
-/
def WriteError.of
    (place : FileError → WriteError) :
    FileError → WriteError
  | .system fault path => place (.system fault path)
  | error => .unusable error

------------------------------------------------------------
-- Writing
------------------------------------------------------------

/-
  What came of writing: the paths of the models or an error,
  the tree as it was left, and what was logged.
-/
structure Written where
  result : Except WriteError (List Path)
  tree : FileTree
  messages : List Log.Message

/- The message about a written file. -/
def writtenMessage (path : Path) : Log.Message :=
  .of .writer .debug ("Wrote " ++ path.render)

def writeInto
    (directory : Path)
    (tree : FileTree) :
    List GeneratedModel → Written
  | [] => ⟨.ok [], tree, []⟩
  | model :: rest =>
      let path :=
        directory.join (Path.ofString model.fileName)
      match tree.writeFile path model.source with
      | .error e =>
          ⟨.error (.of (.notWritten path) e),
            tree.afterFailure path e, []⟩
      | .ok tree =>
          let more := writeInto directory tree rest
          { result := more.result.map (path :: ·)
            tree := more.tree
            messages := writtenMessage path :: more.messages }

/- Write models into a directory, made if need be. -/
def writeModels
    (levels : Nat)
    (tree : FileTree)
    (directory : String)
    (models : List GeneratedModel) : Written :=
  let path := Path.ofString directory
  match tree.makeDirectories levels path with
  | (tree, some e) =>
      ⟨.error (.of (.noDirectory path) e), tree, []⟩
  | (tree, none) => writeInto path tree models

end PocketDart
