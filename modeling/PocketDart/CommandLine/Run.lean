import PocketDart.CommandLine.Arguments
import PocketDart.CommandLine.Console
import PocketDart.CommandLine.Help
import PocketDart.Config.File
import PocketDart.Files.Formatter
import PocketDart.Files.ModelFiles
import PocketDart.Files.SchemaFile
import PocketDart.Generation.Lenient
import PocketDart.Server.Client
import PocketDart.Yaml.Reader

/-
  This file defines a run of the program: load the
  configuration, get the collections from the server or from
  a file, generate the models, and write or show them. All
  that a run does to the world is in its state.

  Key definitions include:
    * `Surroundings`
    * `Surroundings.usual`
    * `RunState`
    * `Halt`
    * `Run`
    * `Run.generation`
    * `runCommand`
-/

------------------------------------------------------------
-- Runs
------------------------------------------------------------

namespace PocketDart

/-
  What a run finds but does not change: the variables of the
  environment, the formatter, the machine that it runs on
  and what makes documents of the configuration.
-/
structure Surroundings where
  environment : Environment
  formatter : Formatter
  machine : Machine
  reader : DocumentReader

/- The surroundings on a usual machine. -/
def Surroundings.usual
    (environment : Environment)
    (formatter : Formatter) : Surroundings where
  environment := environment
  formatter := formatter
  machine := .usual
  reader := Yaml.reader .usual

/-
  The state of a run: the files, the talk with the server,
  and what was shown, logged and called so far.
-/
structure RunState where
  tree : FileTree
  session : Session
  shown : List Shown := []
  messages : List Log.Message := []
  commands : List (List String) := []

def RunState.display
    (state : RunState)
    (shown : Shown) : RunState :=
  { state with shown := state.shown ++ [shown] }

/- What ends a run that no one foresaw. -/
inductive Crash where
  | configuration (error : ConfigurationError)
  | schemaFile (error : SchemaFileError)
  | address (error : AddressError)
  | undecoded (message : String)
  | misuse (cause : Misuse)
  | writing (error : WriteError)
  | formatting (error : FormatError)
  | notShowable (kind : Value.Kind)

def Crash.message : Crash → String
  | .configuration error => error.message
  | .schemaFile error => error.message
  | .address error => error.message
  | .undecoded message => message
  | .misuse cause => cause.message
  | .writing error => error.message
  | .formatting error => error.message
  | .notShowable kind =>
      "unable to render " ++ kind.word ++
        "; a string or other renderable object is required"

/- What ends a run early. -/
inductive Halt where
  | failure (message : String)
  | interruption
  | crash (cause : Crash)

/- A run, which may end early. -/
abbrev Run (α : Type) :=
  EStateM Halt RunState α

namespace Run

/- Show something on the console. -/
def display (shown : Shown) : Run Unit :=
  modify fun state => state.display shown

/- Show a line on the console. -/
def line (text : String) : Run Unit :=
  display (.line text)

def log (messages : List Log.Message) : Run Unit :=
  modify fun state =>
    { state with messages := state.messages ++ messages }

/- End with a message to the user. -/
def fail
    {α : Type}
    (message : String) : Run α :=
  throw (.failure message)

/- End without one. -/
def crash
    {α : Type}
    (cause : Crash) : Run α :=
  throw (.crash cause)

/- A result of what was logged on the way to it. -/
def logged
    {α : Type}
    (logged : Log.Logged α) : Run α := do
  log logged.messages
  return logged.result

------------------------------------------------------------
-- Configuration
------------------------------------------------------------

/- Tell what is wrong with the configuration, and end. -/
def rejectConfiguration
    {α : Type}
    (error : ConfigurationError) : Run α := do
  line ("[red]✗ Error loading configuration:[/red] " ++
    error.message)
  display (.panel "Configuration" configurationHelp)
  fail "Invalid or missing configuration"

/- Load the configuration. -/
def configuration
    (surroundings : Surroundings)
    (arguments : Arguments) : Run Configuration := do
  let loaded :=
    loadConfiguration surroundings.reader
      surroundings.machine.valueLevels (← get).tree
      surroundings.environment arguments.configurationPath
  match ← logged loaded with
  | .ok configuration => return configuration
  | .error error =>
      if error.isHandled then rejectConfiguration error
      else crash (.configuration error)

/-
  Load the configuration if its file is there. Without a
  path there is no way to tell.
-/
def configurationIfAny
    (surroundings : Surroundings)
    (arguments : Arguments) :
    Run (Option Configuration) := do
  match arguments.configuration with
  | none => crash (.misuse (.notPath .list))
  | some path =>
      match (← get).tree.exists? (Path.ofString path) with
      | .error error =>
          crash (.configuration (.unreachable error))
      | .ok false => return none
      | .ok true =>
          return some (← configuration surroundings arguments)

------------------------------------------------------------
-- Collections
------------------------------------------------------------

def wantsSystem
    (arguments : Arguments)
    (configuration : Option Configuration) : Bool :=
  arguments.includeSystem ||
    configuration.any Configuration.includeSystem

def fileCollections
    (machine : Machine)
    (path : String)
    (includeSystem : Bool) : Run (List Collection) := do
  line ("📄 Reading collections from [cyan]" ++ path ++
    "[/cyan]")
  let loaded := loadCollections machine (← get).tree path
  match ← logged loaded with
  | .ok collections =>
      return collections.filter fun c =>
        includeSystem || !c.system
  | .error error =>
      if error.isHandled then fail error.message
      else crash (.schemaFile error)

def talk
    {α : Type}
    (talk : Talk α)
    (explain : ServerError → Run α) : Run α := do
  let state ← get
  let finish (session : Session) : Run Unit :=
    set { state with
      session := { session with messages := [] }
      messages := state.messages ++ session.messages }
  match talk.run { state.session with messages := [] } with
  | .ok result session => finish session; return result
  | .error (.server error) session =>
      finish session; explain error
  | .error (.misuse cause) session =>
      finish session; crash (.misuse cause)
  | .error (.undecoded message) session =>
      finish session; crash (.undecoded message)
  | .error .interrupted session =>
      finish session; throw .interruption

/- Tell that the credentials did not help, and end. -/
def rejectCredentials
    {α : Type}
    (message : String) : Run α := do
  line ("[dim]Please check your email and password in the " ++
    "configuration file.[/dim]")
  fail ("Authentication failed: " ++ message)

/- The client of the server, if its address is usable. -/
def connect (domain : String) : Run Client :=
  match Client.connect domain Client.defaultTimeout with
  | .ok client => return client
  | .error (.incomplete address) =>
      rejectCredentials (AddressError.incomplete address).message
  | .error error => crash (.address error)

def serverCollections
    (machine : Machine)
    (configuration : Configuration)
    (includeSystem : Bool) : Run (List Collection) := do
  line ("🔐 Authenticating with [cyan]" ++
    configuration.domain ++ "[/cyan]")
  let client ← connect configuration.domain
  let _ ←
    talk
      (client.authenticate (.text configuration.email)
        (.text configuration.password))
      fun error => rejectCredentials error.message
  line "🌐 Fetching collections"
  let wanted :=
    client.collections machine.tagLevels includeSystem
  talk wanted fun error =>
    fail ("Failed to fetch collections: " ++ error.message)

/-
  The configuration and the collections. It is only needed
  if there is no file with collections.
-/
def collections
    (surroundings : Surroundings)
    (arguments : Arguments) :
    Run (Option Configuration × List Collection) := do
  match arguments.schemaFile.filter (· ≠ "") with
  | some path =>
      let configuration ←
        configurationIfAny surroundings arguments
      return (configuration,
        ← fileCollections surroundings.machine path
          (wantsSystem arguments configuration))
  | none =>
      let configuration ← configuration surroundings arguments
      return (some configuration,
        ← serverCollections surroundings.machine configuration
          (wantsSystem arguments configuration))

------------------------------------------------------------
-- Summary
------------------------------------------------------------

/- A name in the table; nothing stands for a null. -/
def nameCell (name : Value) : Run String :=
  match name with
  | .text s => return s
  | .null => return ""
  | _ => crash (.notShowable name.kind)

/- Where a model went, or its file name if it went nowhere. -/
def placeOf
    (written : List Path)
    (model : GeneratedModel) : String :=
  match written.reverse.find? (·.name = model.fileName) with
  | some path => path.render
  | none => model.fileName

/- The table of models. -/
def summaryTable
    (report : GenerationReport)
    (written : List Path) : Run Table := do
  let models ← report.models.mapM fun (name, model) =>
    return [← nameCell name, placeOf written model]
  let failures ← report.errors.mapM fun (name, _) =>
    return [← nameCell name, "[red]failed[/red]"]
  return {
    title := "📊 Generated Models"
    columns := ["Collection", "File"]
    rows := models ++ failures }

/- Show a list under a heading, unless it is empty. -/
def bullets
    (heading colour : String)
    (items : List String) : Run Unit := do
  if !items.isEmpty then
    line ("\n[" ++ colour ++ "]" ++ heading ++ "[/" ++ colour ++
      "]")
    for item in items do
      line ("  [" ++ colour ++ "]•[/" ++ colour ++ "] " ++ item)

/- Show what came of the generation. -/
def summary
    (report : GenerationReport)
    (written : List Path) : Run Unit := do
  let table ← summaryTable report written
  display .blank
  display (.summary table)
  bullets "⚠️  Warnings:" "yellow" report.warnings
  bullets "✗ Errors:" "red"
    (report.errors.map fun (_, error) => error.message)

------------------------------------------------------------
-- Models
------------------------------------------------------------

def writeTo
    (machine : Machine)
    (directory : String)
    (models : List GeneratedModel) : Run (List Path) := do
  let written :=
    writeModels machine.missingDirectories (← get).tree
      directory models
  modify fun state => { state with tree := written.tree }
  log written.messages
  match written.result with
  | .ok paths => return paths
  | .error (.unusable error) =>
      crash (.writing (.unusable error))
  | .error error => fail error.message

def formatIn
    (surroundings : Surroundings)
    (directory : String) : Run Unit := do
  line "🧹 Formatting generated models"
  let formatted :=
    formatModels surroundings.formatter formatCommand directory
  modify fun state =>
    { state with
      commands := state.commands ++ formatted.commands }
  log formatted.messages
  match formatted.result with
  | .error error => crash (.formatting error)
  | .ok true => return
  | .ok false =>
      line "[yellow]⚠️  Formatting skipped or failed[/yellow]"

/- Where the models go. -/
def outputDirectory
    (arguments : Arguments)
    (configuration : Option Configuration) : String :=
  match arguments.output.filter (· ≠ "") with
  | some directory => directory
  | none =>
      (configuration.map Configuration.outputDirectory).getD
        defaultOutputDirectory

/- Whether the models are formatted. -/
def wantsFormat
    (arguments : Arguments)
    (configuration : Option Configuration) : Bool :=
  !arguments.noFormat &&
    configuration.all Configuration.formatOutput

def exitCode (report : GenerationReport) : Nat :=
  if report.success then 0 else 1

/- Show the models. -/
def showAll (report : GenerationReport) : Run Nat := do
  for model in report.modelList do
    display (.listing model.fileName model.source)
  summary report []
  return exitCode report

/- Write the models. -/
def writeAll
    (surroundings : Surroundings)
    (arguments : Arguments)
    (configuration : Option Configuration)
    (report : GenerationReport) : Run Nat := do
  let directory := outputDirectory arguments configuration
  line ("📁 Writing models to [cyan]" ++ directory ++ "[/cyan]")
  let written ←
    writeTo surroundings.machine directory report.modelList
  if !written.isEmpty && wantsFormat arguments configuration then
    formatIn surroundings directory
  summary report written
  if report.success then line "[green]✓ Done[/green]"
  return exitCode report

def models
    (surroundings : Surroundings)
    (arguments : Arguments)
    (configuration : Option Configuration)
    (collections : List Collection) : Run Nat := do
  let settings :=
    (configuration.map Configuration.settings).getD {}
  line ("⚙️  Generating " ++ toString collections.length ++
    " models")
  match ← logged (generate settings collections) with
  | .error cause => crash (.misuse cause)
  | .ok report =>
      if arguments.standardOutput then showAll report
      else writeAll surroundings arguments configuration report

/- A run from the configuration to the exit code. -/
def generation
    (surroundings : Surroundings)
    (arguments : Arguments) : Run Nat := do
  let (configuration, collections) ←
    collections surroundings arguments
  if collections.isEmpty then
    line "[yellow]No collections found.[/yellow]"
    return 0
  else
    models surroundings arguments configuration collections

end Run

------------------------------------------------------------
-- Commands
------------------------------------------------------------

/-
  What came of a command: its exit code or a crash, what it
  wrote to the standard streams, and the state it left.
-/
structure CommandResult where
  exit : Except Crash Nat
  output : String
  errors : String
  state : RunState

namespace CommandResult

/- A command line that was answered with a text. -/
def ofRefusal
    (state : RunState) : Refusal → CommandResult
  | .help => ⟨.ok 0, helpText, "", state⟩
  | .version => ⟨.ok 0, versionText, "", state⟩
  | .usage error =>
      ⟨.ok 2, "", usageErrorText error.message, state⟩

def ofRun
    (arguments : Arguments)
    (exit : Except Crash Nat)
    (state : RunState) : CommandResult :=
  let threshold := arguments.verbosity.threshold
  let lines := state.messages.map (Log.output threshold)
  ⟨exit, "", String.join lines, state⟩

end CommandResult

/-
  Run a command line. Failures and interruptions are shown
  and have exit codes of their own.
-/
def runCommand
    (surroundings : Surroundings)
    (words : List String)
    (state : RunState) : CommandResult :=
  match Arguments.read words with
  | .error refusal => .ofRefusal state refusal
  | .ok arguments =>
      match (Run.generation surroundings arguments).run state with
      | .ok code state => .ofRun arguments (.ok code) state
      | .error (.failure message) state =>
          .ofRun arguments (.ok 1) <| state.display <|
            .line ("[red]✗ Error:[/red] " ++ message)
      | .error .interruption state =>
          .ofRun arguments (.ok 130) <| state.display <|
            .line "\n[yellow]Interrupted[/yellow]"
      | .error (.crash cause) state =>
          .ofRun arguments (.error cause) state

end PocketDart
