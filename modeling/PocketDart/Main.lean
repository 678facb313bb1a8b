import PocketDart.CommandLine.Run

/-
  This file defines the program that is run from a shell. It
  looks at the files that a run depends on, runs the command
  line on them, and makes the changes that come of it.

  It opens no connections and calls no programs: a server is
  never reached, and no formatter is found.

  Key definitions include:
    * `main`
-/

------------------------------------------------------------
-- Looking at Files
------------------------------------------------------------

namespace PocketDart

def placePath (location : Location) : String :=
  "/" ++ "/".intercalate location

/- What stands at a place on the disk. -/
def lookAt (location : Location) : IO (Option FileNode) := do
  try
    let path ← IO.FS.realPath (placePath location)
    if ← path.isDir then return some .directory
    else
      let bytes ← IO.FS.readBinFile path
      return some (.file bytes.toList)
  catch _ => return none

/- Take a place and those on the way to it into a tree. -/
def takeIn
    (tree : FileTree)
    (location : Location) : IO FileTree := do
  let mut tree := tree
  for length in List.range location.length do
    let place := location.take (length + 1)
    if let some node ← lookAt place then
      tree := tree.set place node
  return tree

/- The place of a path before double dots are resolved. -/
def nearPlace
    (start : Location)
    (path : String) : Location :=
  let path := Path.ofString path
  if path.absolute then path.parts else start ++ path.parts

def namedPlaces
    (start : Location)
    (arguments : Arguments) : List Location :=
  let paths :=
    arguments.configurationPath ::
      (arguments.schemaFile.toList ++ arguments.output.toList)
  paths.flatMap fun path =>
    let place := nearPlace start path
    let collapsed :=
      Path.collapse ⟨true, nearPlace start path⟩
    [place, collapsed.parts]

------------------------------------------------------------
-- Running
------------------------------------------------------------

/- The variables of the environment that matter. -/
def readEnvironment : IO Environment := do
  let mut environment := []
  for credential in Credential.all do
    let name := credential.environmentName
    if let some value ← IO.getEnv name then
      environment := environment ++ [(name, value)]
  return environment

/- The files before a run. -/
def readTree (words : List String) : IO FileTree := do
  let start :=
    (Path.ofString (← IO.currentDir).toString).parts
  let mut tree : FileTree :=
    { start, surrogate? := Text.surrogate? }
  tree ← takeIn tree start
  if let .ok arguments := Arguments.read words then
    for place in namedPlaces start arguments do
      tree ← takeIn tree place
  return tree

/- Make the changes between two trees on the disk. -/
def applyChanges (earlier later : FileTree) : IO Unit := do
  for location in later.locations.reverse do
    let node := later.node? location
    if node ≠ earlier.node? location then
      match node with
      | some .directory => IO.FS.createDirAll (placePath location)
      | some (.file bytes) =>
          IO.FS.writeBinFile (placePath location)
            ⟨bytes.toArray⟩
      | none => pure ()

/-
  Run a command line. The first run tells which places are
  written; they are looked at before the run that counts.
-/
def runWords (words : List String) : IO UInt32 := do
  let surroundings :=
    Surroundings.usual (← readEnvironment) .notFound
  let session : Session :=
    { replies := [], silence := "there is no connection" }
  let first ← readTree words
  let trial :=
    runCommand surroundings words { tree := first, session }
  let mut tree := first
  for location in trial.state.tree.locations do
    tree ← takeIn tree location
  let result :=
    runCommand surroundings words { tree, session }
  applyChanges tree result.state.tree
  IO.print result.output
  for shown in result.state.shown do
    IO.print shown.plain
  IO.eprint result.errors
  match result.exit with
  | .ok code => return code.toUInt32
  | .error cause =>
      IO.eprintln cause.message
      return 1

end PocketDart

/- Run the command line that the program was called with. -/
def main (words : List String) : IO UInt32 :=
  PocketDart.runWords words
