/-
  This file defines the texts that tell how the program is
  used.

  Key definitions include:
    * `usageText`
    * `helpText`
    * `versionText`
    * `configurationHelp`
-/

------------------------------------------------------------
-- Command Line
------------------------------------------------------------

namespace PocketDart

def commandName : String := "pb-modelgen"

def commandVersion : String := "0.1.0"

/- Lines as a text, each with its line break. -/
def textOfLines (lines : List String) : String :=
  String.join (lines.map (· ++ "\n"))

/- The options in short. -/
def usageText : String :=
  textOfLines [
    "usage: " ++ commandName ++
      " [-h] [--config CONFIG] [--schema-file FILE] " ++
      "[--output DIR]",
    "                   [--include-system] [--no-format] " ++
      "[--stdout]",
    "                   [--verbose | --quiet] [--version]"]

/- What is said about a command line that is not usable. -/
def usageErrorText (message : String) : String :=
  usageText ++ commandName ++ ": error: " ++ message ++ "\n"

/- The name of the command with its version. -/
def versionText : String :=
  commandName ++ " " ++ commandVersion ++ "\n"

/-
  An option with what is said about it. The lines about it
  begin in one column, beside the option where it leaves
  room for that.
-/
def helpEntry
    (option : String)
    (lines : List String) : List String :=
  let blanks (n : Nat) := String.ofList (List.replicate n ' ')
  let column := blanks 24
  let beside := "  " ++ option ++ blanks (22 - option.length)
  match lines with
  | first :: rest =>
      if option.length ≤ 20 then
        (beside ++ first) :: rest.map (column ++ ·)
      else ("  " ++ option) :: lines.map (column ++ ·)
  | [] => ["  " ++ option]

def optionHelp : List (String × List String) :=
  [("-h, --help", ["show this help message and exit"]),
   ("--config CONFIG, -c CONFIG",
    ["Configuration file path (default: " ++
      "./pocketbase.yaml)"]),
   ("--schema-file FILE",
    ["Read collections from an exported JSON file instead of",
     "the server"]),
   ("--output DIR, -o DIR",
    ["Output directory (overrides output_directory from the",
     "config)"]),
   ("--include-system",
    ["Also generate models for system collections"]),
   ("--no-format",
    ["Don't run 'dart format' on the generated files"]),
   ("--stdout",
    ["Print generated code instead of writing files"]),
   ("--verbose, -v", ["Debug output"]),
   ("--quiet, -q", ["Warnings only"]),
   ("--version",
    ["show program's version number and exit"])]

/- Command lines to start from. -/
def helpExamples : List String :=
  ["",
   "--config config/pocketbase.yaml " ++
     "--output lib/src/models",
   "--schema-file pb_schema.json --output lib/models",
   "--schema-file pb_schema.json --stdout"]

/- An example as the help text has it. -/
def exampleLine (arguments : String) : String :=
  if arguments.isEmpty then "  " ++ commandName
  else "  " ++ commandName ++ " " ++ arguments

/- The options at length. -/
def helpText : String :=
  usageText ++ textOfLines
    (["",
      "Generate Dart models from PocketBase collections",
      "",
      "options:"] ++
    (optionHelp.flatMap fun (option, lines) =>
      helpEntry option lines) ++
    ["", "Examples:"] ++
    helpExamples.map exampleLine)

------------------------------------------------------------
-- Configuration
------------------------------------------------------------

/- What a configuration looks like. -/
def configurationHelp : String :=
  textOfLines [
    "Expected configuration file in YAML format with the " ++
      "following structure:",
    "",
    "pocketbase:",
    "  hosting:",
    "    domain: 'https://your-pocketbase-domain.com'",
    "    email: 'your-email@example.com'",
    "    password: 'your-password'",
    "  output_directory: './lib/models'  # Optional, " ++
      "default is './lib/models'",
    "  include_system: false             # Optional, " ++
      "also generate system collections",
    "  format: true                      # Optional, " ++
      "run 'dart format' on the output",
    "  generator:                        # Optional, " ++
      "see GeneratorConfig",
    "    class_suffix: 'Model'",
    "",
    "Credentials can also come from the PB_DOMAIN, " ++
      "PB_EMAIL and PB_PASSWORD",
    "environment variables.",
    "",
    "Usage:",
    "  pb-modelgen --config path/to/pocketbase.yaml"]

end PocketDart
