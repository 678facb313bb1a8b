import PocketDart.Log.Message
import PocketDart.Text.Blank

/-
  This file defines how the source formatter is run over
  written models. Formatting changes only white space, so
  its failures are logged and nothing more.

  Key definitions include:
    * `Formatter`
    * `Formatted`
    * `formatModels`
-/

------------------------------------------------------------
-- Formatters
------------------------------------------------------------

namespace PocketDart

/- How the formatter behaves when it is called. -/
inductive Formatter where
  | notFound
  | notRun (reason : String)
  | exits (code : Int) (errors : String)
  deriving DecidableEq, Repr

/- The usual command. -/
def formatCommand : List String :=
  ["dart", "format"]

/- Why no command can be run. -/
inductive FormatError where
  | emptyCommand
  deriving DecidableEq, Repr

/- An error in words. -/
def FormatError.message : FormatError → String
  | .emptyCommand => "list index out of range"

/- What came of formatting. -/
structure Formatted where
  result : Except FormatError Bool
  commands : List (List String)
  messages : List Log.Message

------------------------------------------------------------
-- Running
------------------------------------------------------------

def formatWarning (text : String) : Log.Message :=
  .of .writer .warning text

/- Run a command over a directory. -/
def formatModels
    (formatter : Formatter)
    (command : List String)
    (directory : String) : Formatted :=
  let run := command ++ [directory]
  match command with
  | [] => ⟨.error .emptyCommand, [], []⟩
  | program :: _ =>
      match formatter with
      | .notFound =>
          ⟨.ok false, [],
            [formatWarning ("Formatter '" ++ program ++
              "' not found, skipping formatting")]⟩
      | .notRun reason =>
          ⟨.ok false, [run],
            [formatWarning
              ("Could not run formatter: " ++ reason)]⟩
      | .exits code errors =>
          if code = 0 then ⟨.ok true, [run], []⟩
          else
            let errors :=
              String.ofList (Text.trim errors.toList)
            ⟨.ok false, [run],
              [formatWarning ("Formatter exited with " ++
                toString code ++ ": " ++ errors)]⟩

end PocketDart
