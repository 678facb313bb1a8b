import PocketDart.Proofs.Config.Reading

/-
  This file proves that what is read as a configuration names
  credentials, and a server as well, but for one case: what
  is given for the domain may be slashes only.

  Key definitions include:
    * `Configuration.NamesServer`
    * `Configuration.GivesDomain`

  Key theorems include:
    * `Configuration.cutsSlashes_of_read`
    * `configuration_names_server_iff`
-/

------------------------------------------------------------
-- Domains
------------------------------------------------------------

namespace PocketDart

namespace Configuration

variable {levels : Nat}
variable {environment : Environment}
variable {document value : Document}
variable {c : Configuration}

/- A configuration that names a server and credentials. -/
structure NamesServer (c : Configuration) : Prop where
  domain : c.domain ≠ ""
  email : c.email ≠ ""
  password : c.password ≠ ""
  noSlash : c.domain.toList.getLast? ≠ some '/'

/- The value that is given for the domain. -/
def GivesDomain
    (environment : Environment)
    (document value : Document) : Prop :=
  ∃ server hosting,
    serverSection? document = some server ∧
      hosting? server = some hosting ∧
      Credential.domain.Given environment hosting value

/- The domain is what is given without its last slashes. -/
theorem cutsSlashes_of_read
    (hRead : read levels environment document = .ok c)
    (hGives : GivesDomain environment document value) :
    Address.CutsSlashes value.display c.domain := by
  rcases describes_of_read hRead with
    ⟨server, hosting, given, hComplete, hDescribes⟩
  rcases hDescribes.domain with ⟨other, hOther, hCuts⟩
  rcases hGives with
    ⟨server', hosting', hServer, hHosting, hGiven⟩
  rw [hComplete.hasServer] at hServer
  cases hServer
  rw [hComplete.hasHosting] at hHosting
  cases hHosting
  rw [hGiven.unique hOther]
  exact hCuts

end Configuration

/-
  What is read names credentials, and a server unless slashes
  are all that is given for the domain: those at its end are
  cut off after it was found to be given.
-/
theorem configuration_names_server_iff
    {levels : Nat}
    {environment : Environment}
    {document : Document}
    {c : Configuration}
    (hRead :
      Configuration.read levels environment document =
        .ok c) :
    (c.NamesServer ↔
      ∀ value,
        Configuration.GivesDomain environment document
            value →
          ∃ character ∈ value.display.toList,
            character ≠ '/') ∧
      c.email ≠ "" ∧ c.password ≠ "" ∧
        c.domain.toList.getLast? ≠ some '/' := by
  rcases Configuration.describes_of_read hRead with
    ⟨server, hosting, given, hComplete, hDescribes⟩
  have hEmail : c.email ≠ "" := by
    rcases hDescribes.email with ⟨value, hGiven, hText⟩
    rw [hText]
    exact hGiven.display_ne_empty
  have hPassword : c.password ≠ "" := by
    rcases hDescribes.password with ⟨value, hGiven, hText⟩
    rw [hText]
    exact hGiven.display_ne_empty
  rcases hDescribes.domain with ⟨value, hGiven, hCuts⟩
  refine ⟨⟨?_, ?_⟩, hEmail, hPassword, hCuts.noSlash⟩
  · intro hNames other hGives
    have hCuts :=
      Configuration.cutsSlashes_of_read hRead hGives
    exact hCuts.ne_empty_iff.mp hNames.domain
  · intro hOther
    have hGives : Configuration.GivesDomain environment
        document value :=
      ⟨server, hosting, hComplete.hasServer,
        hComplete.hasHosting, hGiven⟩
    exact ⟨hCuts.ne_empty_iff.mpr (hOther value hGives),
      hEmail, hPassword, hCuts.noSlash⟩

def domainDocument (domain : String) : Document :=
  .mapping [(.text "pocketbase", .mapping
    [(.text "hosting", .mapping
      [(.text "domain", .text domain),
       (.text "email", .text "a@b.c"),
       (.text "password", .text "pw")])])]

/- What is read from it. -/
def domainConfiguration (domain : String) : Configuration where
  domain := domain
  email := "a@b.c"
  password := "pw"
  outputDirectory := defaultOutputDirectory
  includeSystem := false
  formatOutput := true
  settings := {}

/- A slash after the name of a server does no harm. -/
theorem local_server_named :
    Configuration.read Machine.usual.valueLevels []
        (domainDocument "http://localhost/") =
      .ok (domainConfiguration "http://localhost") ∧
    (domainConfiguration "http://localhost").NamesServer := by
  have hRead : Configuration.read
      Machine.usual.valueLevels []
      (domainDocument "http://localhost/") =
        .ok (domainConfiguration "http://localhost") := by
    rfl
  refine ⟨hRead, ?_⟩
  refine (configuration_names_server_iff hRead).1.mpr ?_
  rintro value ⟨server, hosting, hServer, hHosting, hGiven⟩
  cases hServer
  cases hHosting
  have hGives : Credential.domain.Given []
      [(.text "domain", .text "http://localhost/"),
       (.text "email", .text "a@b.c"),
       (.text "password", .text "pw")]
      (.text "http://localhost/") :=
    .ofEntry nofun rfl rfl
  rw [hGiven.unique hGives]
  exact ⟨'h', by decide, by decide⟩

/- A slash alone is taken for a server without a name. -/
theorem slash_names_no_server :
    ¬ ∀ c,
      Configuration.read Machine.usual.valueLevels []
          (domainDocument "/") = .ok c →
        c.NamesServer := by
  intro hNames
  exact (hNames (domainConfiguration "") rfl).domain rfl

end PocketDart
