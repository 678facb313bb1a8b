import PocketDart.Generation.Settings
import PocketDart.Server.Address

/-
  This file defines the configuration of a run: the server,
  the credentials, and where and how models are written. A
  variable of the environment comes before the document.

  Key definitions include:
    * `Environment`
    * `Configuration`
    * `ConfigurationFault`
    * `Configuration.read`
-/

------------------------------------------------------------
-- Configurations
------------------------------------------------------------

namespace PocketDart

/- The variables of the environment. -/
abbrev Environment :=
  List (String × String)

/- The configuration of a run. -/
structure Configuration where
  domain : String
  email : String
  password : String
  outputDirectory : String
  includeSystem : Bool
  formatOutput : Bool
  settings : Settings
  deriving DecidableEq, Repr

def defaultOutputDirectory : String := "./lib/models"

/- Where the document is by default. -/
def defaultConfigurationPath : String := "./pocketbase.yaml"

/- What can be wrong with a document. -/
inductive ConfigurationFault where
  | notMapping
  | noSection
  | hostingNotMapping
  | noHosting
  | missing (keys : List String)
  | settings (fault : SettingsFault)
  | unshown (fault : ShowFault)
  deriving DecidableEq, Repr

/- A fault in words. -/
def ConfigurationFault.message :
    ConfigurationFault → String
  | .notMapping => "Configuration must be a YAML mapping."
  | .noSection =>
      "Missing \"pocketbase\" section in configuration."
  | .hostingNotMapping =>
      "\"hosting\" under \"pocketbase\" must be a mapping."
  | .noHosting =>
      "Missing \"hosting\" section under \"pocketbase\" " ++
        "in configuration."
  | .missing keys =>
      "Missing " ++
        ", ".intercalate (keys.map fun key =>
          "'" ++ key ++ "'") ++
        " in hosting configuration."
  | .settings fault => fault.message
  | .unshown fault => fault.message

/-
  Whether a fault is told as one of the configuration. A
  value that cannot be shown and a setting without a text
  for its key are not.
-/
def ConfigurationFault.isRefusal : ConfigurationFault → Bool
  | .unshown _ | .settings (.keyNotText _) => false
  | _ => true

------------------------------------------------------------
-- Credentials
------------------------------------------------------------

/- What is needed to reach the server. -/
inductive Credential where
  | domain
  | email
  | password
  deriving DecidableEq, Repr

namespace Credential

def all : List Credential :=
  [.domain, .email, .password]

def key : Credential → String
  | .domain => "domain"
  | .email => "email"
  | .password => "password"

def environmentName : Credential → String
  | .domain => "PB_DOMAIN"
  | .email => "PB_EMAIL"
  | .password => "PB_PASSWORD"

end Credential

/- A variable that is set to a text that is not empty. -/
def Environment.get?
    (environment : Environment)
    (name : String) : Option String :=
  match environment.lookup name with
  | some "" => none
  | found => found

def showValue
    (levels : Nat)
    (value : Document) : Except ConfigurationFault String :=
  match value.showFault? levels with
  | none => .ok value.display
  | some fault => .error (.unshown fault)

/- A credential, if it is given somewhere. -/
def credential?
    (environment : Environment)
    (hosting : DocumentEntries)
    (credential : Credential) : Option Document :=
  match Environment.get? environment credential.environmentName with
  | some value => some (.text value)
  | none =>
      (Document.find? hosting credential.key).filter
        Document.truthy

/- The keys of the credentials that are given nowhere. -/
def missingCredentials
    (environment : Environment)
    (hosting : DocumentEntries) : List String :=
  (Credential.all.filter fun credential =>
    (credential? environment hosting credential).isNone).map
      Credential.key

------------------------------------------------------------
-- Reading
------------------------------------------------------------

/- The mapping of a section, where nothing counts as empty. -/
def hostingSection
    (entries : DocumentEntries) :
    Except ConfigurationFault DocumentEntries :=
  match Document.orElse (Document.find? entries "hosting")
      (.mapping []) with
  | .mapping entries => .ok entries
  | _ => .error .hostingNotMapping

namespace Configuration

/- Read the section about the server. -/
def readSection
    (levels : Nat)
    (environment : Environment)
    (entries : DocumentEntries) :
    Except ConfigurationFault Configuration := do
  let hosting ← hostingSection entries
  let given (credential : Credential) :=
    (credential? environment hosting credential).mapM
      (showValue levels)
  match ← given .domain, ← given .email, ← given .password with
  | some domain, some email, some password =>
      let outputDirectory ← showValue levels <|
        Document.orElse
          (Document.find? entries "output_directory")
          (.text defaultOutputDirectory)
      let settings ←
        (Settings.read
          ((Document.find? entries "generator").getD
            .null)).mapError .settings
      return {
        domain := Address.withoutSlashes domain
        email, password, outputDirectory, settings
        includeSystem :=
          (Document.find? entries "include_system").any
            Document.truthy
        formatOutput :=
          (Document.find? entries "format").all
            Document.truthy }
  | _, _, _ =>
      if (Document.find? entries "hosting").isSome then
        throw (.missing
          (missingCredentials environment hosting))
      else throw .noHosting

/-
  Read the document of a configuration, with so many levels
  for the values that are shown.
-/
def read
    (levels : Nat)
    (environment : Environment)
    (document : Document) :
    Except ConfigurationFault Configuration :=
  match document with
  | .mapping entries =>
      match Document.find? entries "pocketbase" with
      | some (.mapping entries) =>
          readSection levels environment entries
      | _ => .error .noSection
  | _ => .error .notMapping

end Configuration

end PocketDart
