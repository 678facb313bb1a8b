import PocketDart.Machine
import PocketDart.Proofs.Config.Credentials
import PocketDart.Proofs.Config.Settings

/-
  This file proves which documents are read as
  configurations, and what is read from them. A document is
  read when it is complete, unless a value that has to be
  shown as a text cannot be, as a number that is too long.
  Such a value is an error of its own, even where something
  is missing as well, and so is a setting without a text for
  its key.

  Key definitions include:
    * `Configuration.ShowsValues`
    * `Configuration.IsComplete`
    * `Configuration.Describes`
    * `Configuration.IsReadExactly`

  Key theorems include:
    * `Configuration.readSection_eq_ok_iff`
    * `Configuration.failsOnly_read_iff`
    * `Configuration.describes_of_read`
    * `Configuration.exists_read`
    * `configuration_read_exactly_iff`
-/

------------------------------------------------------------
-- Steps of Reading
------------------------------------------------------------

namespace PocketDart

open Fallible

namespace Configuration

variable {levels : Nat}
variable {environment : Environment}
variable {server hosting : DocumentEntries}

/- The value for where models go. -/
def outputValue (server : DocumentEntries) : Document :=
  Document.orElse (Document.find? server "output_directory")
    (.text defaultOutputDirectory)

def assembled
    (server : DocumentEntries)
    (domain email password outputDirectory : String)
    (settings : Settings) : Configuration where
  domain := Address.withoutSlashes domain
  email := email
  password := password
  outputDirectory := outputDirectory
  includeSystem :=
    (Document.find? server "include_system").any
      Document.truthy
  formatOutput :=
    (Document.find? server "format").all Document.truthy
  settings := settings

/- What the document says besides the credentials. -/
def finish
    (levels : Nat)
    (server : DocumentEntries)
    (domain email password : String) :
    Except ConfigurationFault Configuration := do
  let outputDirectory ←
    showValue levels (outputValue server)
  let settings ←
    (Settings.read
      ((Document.find? server "generator").getD
        .null)).mapError .settings
  return assembled server domain email password
    outputDirectory settings

/- What is wrong when a credential is missing. -/
def missingFault
    (environment : Environment)
    (server hosting : DocumentEntries) :
    ConfigurationFault :=
  if (Document.find? server "hosting").isSome then
    .missing (missingCredentials environment hosting)
  else .noHosting

theorem readSection_eq
    (levels : Nat)
    (environment : Environment)
    (server : DocumentEntries) :
    readSection levels environment server = (do
      let hosting ← hostingSection server
      let domain ←
        shownCredential levels environment hosting .domain
      let email ←
        shownCredential levels environment hosting .email
      let password ←
        shownCredential levels environment hosting .password
      match domain, email, password with
      | some domain, some email, some password =>
          finish levels server domain email password
      | _, _, _ =>
          .error (missingFault environment server hosting)) := by
  unfold readSection
  refine bind_congr fun hosting => ?_
  refine bind_congr fun domain => ?_
  refine bind_congr fun email => ?_
  refine bind_congr fun password => ?_
  have hRefuse :
      (if (Document.find? server "hosting").isSome then
          throw (.missing
            (missingCredentials environment hosting))
        else throw .noHosting :
          Except ConfigurationFault Configuration) =
        .error (missingFault environment server hosting) := by
    unfold missingFault
    split <;> rfl
  rcases domain with _ | domain <;>
    rcases email with _ | email <;>
    rcases password with _ | password
  case some.some.some => rfl
  all_goals exact hRefuse

theorem readSection_eq_ok_iff
    {c : Configuration} :
    readSection levels environment server = .ok c ↔
      ∃ hosting domain email password,
        hosting? server = some hosting ∧
        shownCredential levels environment hosting .domain =
          .ok (some domain) ∧
        shownCredential levels environment hosting .email =
          .ok (some email) ∧
        shownCredential levels environment hosting
          .password = .ok (some password) ∧
        finish levels server domain email password =
          .ok c := by
  rw [readSection_eq]
  constructor
  · intro hRead
    rcases bind_eq_ok.mp hRead with
      ⟨hosting, hHosting, hRead⟩
    rcases bind_eq_ok.mp hRead with ⟨domain, hDomain, hRead⟩
    rcases bind_eq_ok.mp hRead with ⟨email, hEmail, hRead⟩
    rcases bind_eq_ok.mp hRead with
      ⟨password, hPassword, hRead⟩
    rcases domain with _ | domain <;>
      rcases email with _ | email <;>
      rcases password with _ | password
    case some.some.some =>
      exact ⟨hosting, domain, email, password,
        hostingSection_eq_ok_iff.mp hHosting, hDomain,
        hEmail, hPassword, hRead⟩
    all_goals cases hRead
  · rintro ⟨hosting, domain, email, password, hHosting,
      hDomain, hEmail, hPassword, hFinish⟩
    rw [hostingSection_eq_ok_iff.mpr hHosting]
    refine bind_eq_ok.mpr ⟨_, rfl, ?_⟩
    rw [hDomain, hEmail, hPassword]
    exact hFinish

@[simp]
theorem failsOnly_showValue_iff
    {value : Document} :
    FailsOnly (·.isRefusal) (showValue levels value) ↔
      value.showFault? levels = none := by
  cases hShow : value.showFault? levels with
  | none => simp [showValue, hShow]
  | some fault =>
      simp [showValue, hShow, ConfigurationFault.isRefusal]

@[simp]
theorem showValue_eq_ok_iff
    {value : Document}
    {text : String} :
    showValue levels value = .ok text ↔
      value.showFault? levels = none ∧
        value.display = text := by
  cases hShow : value.showFault? levels with
  | none => simp [showValue, hShow]
  | some fault => simp [showValue, hShow]

theorem finish_eq_ok_iff
    {domain email password : String}
    {c : Configuration} :
    finish levels server domain email password = .ok c ↔
      ∃ outputDirectory settings,
        showValue levels (outputValue server) =
          .ok outputDirectory ∧
        Settings.read ((Document.find? server
          "generator").getD .null) = .ok settings ∧
        c = assembled server domain email password
          outputDirectory settings := by
  unfold finish
  simp only [bind_eq_ok, mapError_eq_ok, pure_eq_ok]
  constructor
  · rintro ⟨_, hOutput, _, hSettings, hFinished⟩
    exact ⟨_, _, hOutput, hSettings, hFinished⟩
  · rintro ⟨_, _, hOutput, hSettings, hFinished⟩
    exact ⟨_, hOutput, _, hSettings, hFinished⟩

theorem isRefusal_settings_iff (fault : SettingsFault) :
    (ConfigurationFault.settings fault).isRefusal ↔
      Settings.SparesKeys fault := by
  cases fault with
  | keyNotText kind =>
      exact iff_of_false Bool.false_ne_true
        fun hSpares => hSpares kind rfl
  | _ => exact iff_of_true rfl nofun

/-
  After the credentials one value is shown, and then there
  may be a key that is no text.
-/
theorem failsOnly_finish_iff
    {domain email password : String} :
    FailsOnly (·.isRefusal)
        (finish levels server domain email password) ↔
      (outputValue server).showFault? levels = none ∧
        Settings.HasTextKeys
          (Document.find? server "generator") := by
  unfold finish
  rw [failsOnly_bind, failsOnly_showValue_iff]
  refine and_congr_right fun hShown => ?_
  have hOutput : showValue levels (outputValue server) =
      .ok (outputValue server).display :=
    showValue_eq_ok_iff.mpr ⟨hShown, rfl⟩
  simp only [hOutput, Except.ok.injEq, forall_eq',
    failsOnly_bind, failsOnly_mapError,
    isRefusal_settings_iff, Settings.failsOnly_read_iff]
  exact and_iff_left fun _ _ => failsOnly_ok _

------------------------------------------------------------
-- Shown Values
------------------------------------------------------------

/-
  Nothing is met that is not refused: what is given for a
  credential can be shown, even if another one is missing,
  and with all credentials the output directory can be, and
  the settings have texts for keys.
-/
structure ShowsValues
    (levels : Nat)
    (environment : Environment)
    (server hosting : DocumentEntries) : Prop where
  credentials :
    ∀ (credential : Credential) (value : Document),
      credential.Given environment hosting value →
        value.showFault? levels = none
  outputDirectory :
    (∀ credential : Credential, ∃ value,
        credential.Given environment hosting value) →
      (outputValue server).showFault? levels = none
  settings :
    (∀ credential : Credential, ∃ value,
        credential.Given environment hosting value) →
      Settings.HasTextKeys
        (Document.find? server "generator")

theorem isRefusal_missingFault :
    (missingFault environment server hosting).isRefusal := by
  unfold missingFault
  split
  · rfl
  · rfl

theorem failsOnly_hostingSection :
    FailsOnly (·.isRefusal) (hostingSection server) := by
  rw [hostingSection_eq]
  cases hosting? server with
  | none => simp [ConfigurationFault.isRefusal]
  | some hosting => simp

theorem failsOnly_readSection_iff :
    FailsOnly (·.isRefusal)
        (readSection levels environment server) ↔
      ∀ hosting, hosting? server = some hosting →
        ShowsValues levels environment server hosting := by
  rw [readSection_eq]
  simp only [failsOnly_bind, failsOnly_shownCredential_iff,
    hostingSection_eq_ok_iff, failsOnly_hostingSection,
    true_and]
  constructor
  · intro hReads hosting hHosting
    rcases hReads hosting hHosting with ⟨hDomain, hReads⟩
    rcases exists_shownCredential hDomain with
      ⟨domain, hSome⟩
    rcases hReads domain hSome with ⟨hEmail, hRest⟩
    rcases exists_shownCredential hEmail with
      ⟨email, hSome⟩
    rcases hRest email hSome with ⟨hPassword, -⟩
    have hFinish
        (hGiven : ∀ credential : Credential, ∃ value,
          credential.Given environment hosting value) :
        (outputValue server).showFault? levels = none ∧
          Settings.HasTextKeys
            (Document.find? server "generator") := by
      rcases hGiven .domain with ⟨domain, hSome⟩
      have hReads := (hReads _ (shownCredential_eq_ok_iff.mpr
        ⟨domain, hSome, hDomain _ hSome, rfl⟩)).2
      rcases hGiven .email with ⟨email, hSome⟩
      have hReads := (hReads _ (shownCredential_eq_ok_iff.mpr
        ⟨email, hSome, hEmail _ hSome, rfl⟩)).2
      rcases hGiven .password with ⟨password, hSome⟩
      have hReads := hReads _ (shownCredential_eq_ok_iff.mpr
        ⟨password, hSome, hPassword _ hSome, rfl⟩)
      exact failsOnly_finish_iff.mp hReads
    refine ⟨?_, fun hGiven => (hFinish hGiven).1,
      fun hGiven => (hFinish hGiven).2⟩
    intro credential
    cases credential with
    | domain => exact hDomain
    | email => exact hEmail
    | password => exact hPassword
  · intro hShows hosting hHosting
    have hValues := hShows hosting hHosting
    have hCredentials := hValues.credentials
    refine ⟨hCredentials .domain, fun domain hDomain => ?_⟩
    refine ⟨hCredentials .email, fun email hEmail => ?_⟩
    refine ⟨hCredentials .password,
      fun password hPassword => ?_⟩
    rcases domain with _ | domain <;>
      rcases email with _ | email <;>
      rcases password with _ | password
    case some.some.some =>
      have hGiven (credential : Credential) :
          ∃ value,
            credential.Given environment hosting value := by
        cases credential with
        | domain => exact Credential.exists_given hDomain
        | email => exact Credential.exists_given hEmail
        | password => exact Credential.exists_given hPassword
      exact failsOnly_finish_iff.mpr
        ⟨hValues.outputDirectory hGiven,
          hValues.settings hGiven⟩
    all_goals
      exact failsOnly_error.mpr isRefusal_missingFault

def sectionFault : Document → ConfigurationFault
  | .mapping _ => .noSection
  | _ => .notMapping

theorem read_eq
    (levels : Nat)
    (environment : Environment)
    (document : Document) :
    read levels environment document =
      match serverSection? document with
      | some server => readSection levels environment server
      | none => .error (sectionFault document) := by
  cases document with
  | mapping entries =>
      unfold read serverSection?
      dsimp only [Document.mapping?, bind, Option.bind]
      cases Document.find? entries "pocketbase" with
      | none => rfl
      | some value =>
          cases value with
          | _ => rfl
  | _ => rfl

theorem read_eq_ok_iff
    {document : Document}
    {c : Configuration} :
    read levels environment document = .ok c ↔
      ∃ server, serverSection? document = some server ∧
        readSection levels environment server = .ok c := by
  rw [read_eq]
  cases serverSection? document with
  | none => simp
  | some server => simp

theorem failsOnly_read_iff
    {document : Document} :
    FailsOnly (·.isRefusal)
        (read levels environment document) ↔
      ∀ server hosting,
        serverSection? document = some server →
        hosting? server = some hosting →
          ShowsValues levels environment server hosting := by
  rw [read_eq]
  cases serverSection? document with
  | none =>
      have hFault : (sectionFault document).isRefusal := by
        cases document with
        | _ => rfl
      simpa using hFault
  | some server =>
      simp only [failsOnly_readSection_iff,
        Option.some.injEq]
      constructor
      · rintro hShows _ hosting rfl
        exact hShows hosting
      · exact fun hShows hosting =>
          hShows server hosting rfl

------------------------------------------------------------
-- Complete Documents
------------------------------------------------------------

/-
  A document with all that a configuration needs: a section
  about the server, entries about hosting, something for
  each credential, and settings that can be read.
-/
structure IsComplete
    (environment : Environment)
    (document : Document)
    (server hosting : DocumentEntries)
    (given : List (String × Document)) : Prop where
  hasServer : serverSection? document = some server
  hasHosting : hosting? server = some hosting
  hasCredentials :
    ∀ credential : Credential, ∃ value,
      credential.Given environment hosting value
  hasSettings :
    Settings.given? (Document.find? server "generator") =
      some given
  admitted : Settings.AreGiven given

/- A configuration that says what the document says. -/
structure Describes
    (environment : Environment)
    (server hosting : DocumentEntries)
    (given : List (String × Document))
    (c : Configuration) : Prop where
  domain :
    ∃ value,
      Credential.domain.Given environment hosting value ∧
        Address.CutsSlashes value.display c.domain
  email :
    ∃ value,
      Credential.email.Given environment hosting value ∧
        c.email = value.display
  password :
    ∃ value,
      Credential.password.Given environment hosting value ∧
        c.password = value.display
  outputDirectory :
    c.outputDirectory = (outputValue server).display
  includeSystem :
    c.includeSystem =
      (Document.find? server "include_system").any
        Document.truthy
  formatOutput :
    c.formatOutput =
      (Document.find? server "format").all Document.truthy
  settings : Settings.Overrides given {} c.settings

theorem describes_of_read
    {document : Document}
    {c : Configuration}
    (hRead : read levels environment document = .ok c) :
    ∃ server hosting given,
      IsComplete environment document server hosting given ∧
        Describes environment server hosting given c := by
  rcases read_eq_ok_iff.mp hRead with
    ⟨server, hServer, hRead⟩
  rcases readSection_eq_ok_iff.mp hRead with
    ⟨hosting, _, _, _, hHosting, hDomain, hEmail,
      hPassword, hFinish⟩
  rcases finish_eq_ok_iff.mp hFinish with
    ⟨outputDirectory, settings, hOutput, hSettings, rfl⟩
  rcases Settings.read_cases
      (Document.find? server "generator")
    with ⟨given, settings', hGiven, hAdmitted, hRead,
      hOverrides⟩ | ⟨-, fault, hRead⟩
  · rw [hSettings] at hRead
    cases hRead
    refine ⟨server, hosting, given,
      ⟨hServer, hHosting, ?_, hGiven, hAdmitted⟩,
      ⟨?_, ?_, ?_, ?_, rfl, rfl, hOverrides⟩⟩
    · intro credential
      cases credential with
      | domain => exact Credential.exists_given hDomain
      | email => exact Credential.exists_given hEmail
      | password => exact Credential.exists_given hPassword
    · rcases shownCredential_eq_ok_iff.mp hDomain with
        ⟨value, hValue, -, rfl⟩
      exact ⟨value, hValue,
        Address.cutsSlashes_withoutSlashes value.display⟩
    · rcases shownCredential_eq_ok_iff.mp hEmail with
        ⟨value, hValue, -, hText⟩
      exact ⟨value, hValue, hText.symm⟩
    · rcases shownCredential_eq_ok_iff.mp hPassword with
        ⟨value, hValue, -, hText⟩
      exact ⟨value, hValue, hText.symm⟩
    · exact (showValue_eq_ok_iff.mp hOutput).2.symm
  · rw [hSettings] at hRead
    cases hRead

theorem exists_read
    {document : Document}
    {given : List (String × Document)}
    (hComplete :
      IsComplete environment document server hosting given)
    (hShows :
      ShowsValues levels environment server hosting) :
    ∃ c, read levels environment document = .ok c := by
  have hShown : ∀ credential : Credential, ∃ text,
      shownCredential levels environment hosting
        credential = .ok (some text) := by
    intro credential
    rcases hComplete.hasCredentials credential with
      ⟨value, hGiven⟩
    exact ⟨value.display, shownCredential_eq_ok_iff.mpr
      ⟨value, hGiven, hShows.credentials _ _ hGiven, rfl⟩⟩
  rcases hShown .domain with ⟨domain, hDomain⟩
  rcases hShown .email with ⟨email, hEmail⟩
  rcases hShown .password with ⟨password, hPassword⟩
  have hOutput := showValue_eq_ok_iff.mpr
    ⟨hShows.outputDirectory hComplete.hasCredentials, rfl⟩
  rcases Settings.read_cases
      (Document.find? server "generator")
    with ⟨_, settings, _, _, hRead, _⟩ | ⟨hNot, _⟩
  · have hFinish :
        finish levels server domain email password =
          .ok (assembled server domain email password
            (outputValue server).display settings) :=
      finish_eq_ok_iff.mpr ⟨_, settings, hOutput, hRead, rfl⟩
    have hSection := readSection_eq_ok_iff.mpr
      ⟨hosting, domain, email, password,
        hComplete.hasHosting, hDomain, hEmail, hPassword,
        hFinish⟩
    exact ⟨_, read_eq_ok_iff.mpr
      ⟨server, hComplete.hasServer, hSection⟩⟩
  · exact absurd hComplete.admitted
      (hNot _ hComplete.hasSettings)

------------------------------------------------------------
-- Exact Reading
------------------------------------------------------------

/-
  A document that is read exactly when it is complete, as
  what it says, and otherwise refused.
-/
structure IsReadExactly
    (levels : Nat)
    (environment : Environment)
    (document : Document) : Prop where
  accepts :
    (∃ c, read levels environment document = .ok c) ↔
      ∃ server hosting given,
        IsComplete environment document server hosting given
  describes :
    ∀ c, read levels environment document = .ok c →
      ∃ server hosting given,
        IsComplete environment document server hosting
            given ∧
          Describes environment server hosting given c
  refuses :
    FailsOnly (·.isRefusal)
      (read levels environment document)

end Configuration

/- It is, unless it has to show what cannot be shown. -/
theorem configuration_read_exactly_iff
    (levels : Nat)
    (environment : Environment)
    (document : Document) :
    Configuration.IsReadExactly levels environment
        document ↔
      ∀ server hosting,
        serverSection? document = some server →
        hosting? server = some hosting →
          Configuration.ShowsValues levels environment
            server hosting := by
  constructor
  · intro hExact
    exact Configuration.failsOnly_read_iff.mp hExact.refuses
  · intro hShows
    refine ⟨⟨?_, ?_⟩, ?_, ?_⟩
    · rintro ⟨c, hRead⟩
      rcases Configuration.describes_of_read hRead with
        ⟨server, hosting, given, hComplete, -⟩
      exact ⟨server, hosting, given, hComplete⟩
    · rintro ⟨server, hosting, given, hComplete⟩
      exact Configuration.exists_read hComplete
        (hShows server hosting hComplete.hasServer
          hComplete.hasHosting)
    · exact fun c hRead =>
        Configuration.describes_of_read hRead
    · exact Configuration.failsOnly_read_iff.mpr hShows

def longNumber : Document :=
  .int (Nat.pow 16 3572)

/- A domain that is a long number hides what is missing. -/
theorem long_domain_not_read_exactly :
    ¬ Configuration.IsReadExactly Machine.usual.valueLevels []
      (.mapping [(.text "pocketbase", .mapping
        [(.text "hosting", .mapping
          [(.text "domain", longNumber)])])]) := by
  intro hExact
  have hShows := Configuration.failsOnly_read_iff.mp
    hExact.refuses _ [(.text "domain", longNumber)] rfl rfl
  have hGiven : Credential.domain.Given []
      [(.text "domain", longNumber)] longNumber :=
    .ofEntry nofun rfl (by decide +kernel)
  have hLong : longNumber.showFault?
      Machine.usual.valueLevels = some .longNumber := by
    decide +kernel
  rw [hShows.credentials .domain _ hGiven] at hLong
  cases hLong

end PocketDart
