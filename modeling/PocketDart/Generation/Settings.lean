import PocketDart.Config.Document

/-
  This file defines the settings that change the generated
  source, and how they are read from a document.

  Key definitions include:
    * `Settings`
    * `SettingsFault`
    * `Settings.read`
-/

------------------------------------------------------------
-- Settings
------------------------------------------------------------

namespace PocketDart

/- The settings, with defaults for the Dart client. -/
structure Settings where
  addComments : Bool := true
  recordImport : String :=
    "package:pocketbase/pocketbase.dart"
  recordType : String := "RecordModel"
  classSuffix : String := "Model"
  fileExtension : String := ".dart"
  deriving DecidableEq, Repr

/- What can be wrong with a document of settings. -/
inductive SettingsFault where
  | notMapping
  | unknown (keys : List String)
  | keyNotText (kind : String)
  | notFlag (key : String)
  | notText (key : String)
  deriving DecidableEq, Repr

/-
  A fault in words. Those about a key that is no text are
  the ones for a key that is alone in being unknown.
-/
def SettingsFault.message : SettingsFault → String
  | .notMapping =>
      "Generator configuration must be a mapping"
  | .unknown keys =>
      "Unknown generator settings: " ++ ", ".intercalate keys
  | .keyNotText kind =>
      "sequence item 0: expected str instance, " ++ kind ++
        " found"
  | .notFlag key =>
      "Generator setting '" ++ key ++ "' must be a bool"
  | .notText key =>
      "Generator setting '" ++ key ++ "' must be a str"

------------------------------------------------------------
-- Reading
------------------------------------------------------------

namespace Settings

/- The keys of the settings. -/
def keys : List String :=
  ["add_comments", "record_import", "record_type",
   "class_suffix", "file_extension"]

/- Set one entry, a text under every key but the first. -/
def set
    (settings : Settings)
    (key : String)
    (value : Document) : Except SettingsFault Settings :=
  if key = "add_comments" then
    match value with
    | .bool b => .ok { settings with addComments := b }
    | _ => .error (.notFlag key)
  else
    match value with
    | .text s =>
        .ok <| match key with
          | "record_import" =>
              { settings with recordImport := s }
          | "record_type" =>
              { settings with recordType := s }
          | "class_suffix" =>
              { settings with classSuffix := s }
          | "file_extension" =>
              { settings with fileExtension := s }
          | _ => settings
    | _ => .error (.notText key)

/- Keys in the order of code points. -/
def sortKeys (names : List String) : List String :=
  names.mergeSort fun a b => a ≤ b

def textEntries
    (entries : DocumentEntries) :
    Except SettingsFault (List (String × Document)) :=
  entries.mapM fun (key, value) =>
    match key with
    | .text key => .ok (key, value)
    | key => .error (.keyNotText key.kindWord)

def readEntries
    (entries : List (String × Document)) :
    Except SettingsFault Settings :=
  let unknown :=
    (entries.map (·.1)).filter fun key => key ∉ keys
  if unknown.isEmpty then
    entries.foldlM (fun settings (key, value) =>
      settings.set key value) {}
  else .error (.unknown (sortKeys unknown))

/- Read settings. Null stands for the defaults. -/
def read (data : Document) : Except SettingsFault Settings :=
  match data with
  | .null => .ok {}
  | .mapping entries => do readEntries (← textEntries entries)
  | _ => .error .notMapping

end Settings

end PocketDart
