import PocketDart.Config.Configuration
import PocketDart.Files.Tree
import PocketDart.Log.Message

/-
  This file defines how the configuration is loaded from its
  file. What makes a document of the bytes of a file is not
  defined here: any reader will do.

  Key definitions include:
    * `LoadFault`
    * `DocumentReader`
    * `ConfigurationError`
    * `loadConfiguration`
-/

------------------------------------------------------------
-- Readers
------------------------------------------------------------

namespace PocketDart

/-
  Why a reader makes no document of bytes. Either they are
  none, or something comes up that nobody handles.
-/
inductive LoadFault where
  | malformed (reason : String)
  | unhandled (message : String)
  deriving DecidableEq, Repr

/- What makes documents of bytes. -/
abbrev DocumentReader :=
  List UInt8 → Except LoadFault Document

------------------------------------------------------------
-- Errors
------------------------------------------------------------

/-
  Why there is no configuration. The last two are not about
  the file being a configuration: its path cannot be looked
  up, or something that nobody handles came up in reading
  its document.
-/
inductive ConfigurationError where
  | notFound (path : String)
  | malformed (path reason : String)
  | unreadable (path : String) (error : FileError)
  | incomplete (fault : ConfigurationFault)
  | unreachable (error : FileError)
  | unhandled (message : String)
  deriving DecidableEq, Repr

/- An error in words. -/
def ConfigurationError.message :
    ConfigurationError → String
  | .notFound path =>
      "Configuration file not found at " ++ path
  | .malformed path reason =>
      "Invalid YAML in configuration file " ++ path ++ ": " ++
        reason
  | .unreadable path error =>
      "Failed to read configuration file " ++ path ++ ": " ++
        error.message
  | .incomplete fault => fault.message
  | .unreachable error => error.message
  | .unhandled message => message

/- The error for bytes of which no document is made. -/
def ConfigurationError.ofLoading
    (path : String) : LoadFault → ConfigurationError
  | .malformed reason => .malformed path reason
  | .unhandled message => .unhandled message

def ConfigurationError.isHandled :
    ConfigurationError → Bool
  | .notFound _ | .malformed _ _ | .unreadable _ _ => true
  | .incomplete fault => fault.isRefusal
  | .unreachable _ | .unhandled _ => false

------------------------------------------------------------
-- Loading
------------------------------------------------------------

def configurationMessage
    (level : Log.Level)
    (text : String) : Log.Message :=
  .of .configuration level text

/- The place that a configuration path stands for. -/
def configurationPath (path : String) : Path :=
  (Path.ofString path).collapse

section

variable (reader : DocumentReader)
variable (levels : Nat)
variable (tree : FileTree)
variable (environment : Environment)
variable (path : String)

def readConfigurationFile :
    Except ConfigurationError Configuration := do
  let bytes ←
    (tree.readFile (configurationPath path)).mapError
      (.unreadable path)
  let document ← (reader bytes).mapError (.ofLoading path)
  (Configuration.read levels environment document).mapError
    .incomplete

/- The configuration at a path. -/
def findConfiguration :
    Except ConfigurationError Configuration := do
  let found ←
    (tree.exists? (configurationPath path)).mapError
      .unreachable
  if found then
    readConfigurationFile reader levels tree environment path
  else throw (.notFound path)

/- Load the configuration at a path. -/
def loadConfiguration :
    Log.Logged
      (Except ConfigurationError Configuration) :=
  let result :=
    findConfiguration reader levels tree environment path
  let start :=
    configurationMessage .debug
      ("Loading configuration from " ++
        (configurationPath path).render)
  match result with
  | .ok configuration =>
      ⟨result, [start, configurationMessage .info
        ("Configuration loaded for " ++
          configuration.domain)]⟩
  | .error _ => ⟨result, [start]⟩

end

end PocketDart
