import PocketDart.Config.Configuration
import PocketDart.Log.Threshold
import PocketDart.Text.Digit
import PocketDart.Text.Quoted

/-
  This file defines how the words of a command line are
  read. A long option may be cut short as long as one option
  is meant, its value may follow an equals sign, and short
  options may stand together in one word. Two minus signs as
  the value of an option in the same word stand for no value.

  Key definitions include:
    * `Switch`
    * `Arguments`
    * `UsageError`
    * `Word.read`
    * `Arguments.read`
-/

------------------------------------------------------------
-- Switches
------------------------------------------------------------

namespace PocketDart

/- The options of the command line. -/
inductive Switch where
  | help
  | configuration
  | schemaFile
  | output
  | includeSystem
  | noFormat
  | standardOutput
  | verbose
  | quiet
  | version
  deriving DecidableEq, Repr

namespace Switch

/- All options, in the order of the help text. -/
def all : List Switch :=
  [.help, .configuration, .schemaFile, .output,
   .includeSystem, .noFormat, .standardOutput, .verbose,
   .quiet, .version]

/- The spellings of an option. -/
def spellings : Switch → List String
  | .help => ["-h", "--help"]
  | .configuration => ["--config", "-c"]
  | .schemaFile => ["--schema-file"]
  | .output => ["--output", "-o"]
  | .includeSystem => ["--include-system"]
  | .noFormat => ["--no-format"]
  | .standardOutput => ["--stdout"]
  | .verbose => ["--verbose", "-v"]
  | .quiet => ["--quiet", "-q"]
  | .version => ["--version"]

/- An option as error messages name it. -/
def name (switch : Switch) : String :=
  "/".intercalate switch.spellings

/- Whether an option has a value. -/
def takesValue : Switch → Bool
  | .configuration | .schemaFile | .output => true
  | _ => false

/- The option that cannot be given together with another. -/
def rival? : Switch → Option Switch
  | .verbose => some .quiet
  | .quiet => some .verbose
  | _ => none

/- Every spelling with its option. -/
def table : List (String × Switch) :=
  all.flatMap fun switch =>
    switch.spellings.map fun spelling => (spelling, switch)

def ofSpelling? (spelling : String) : Option Switch :=
  table.lookup spelling

end Switch

------------------------------------------------------------
-- Errors
------------------------------------------------------------

/- What can be wrong with a command line. -/
inductive UsageError where
  | ambiguous (word : String) (spellings : List String)
  | ignoredValue (switch : Switch) (value : String)
  | missingValue (switch : Switch)
  | conflict (switch rival : Switch)
  | unrecognized (words : List String)
  deriving DecidableEq, Repr

/- An error about an option. -/
def Switch.complaint
    (switch : Switch)
    (text : String) : String :=
  "argument " ++ switch.name ++ ": " ++ text

def UsageError.message : UsageError → String
  | .ambiguous word spellings =>
      "ambiguous option: " ++ word ++ " could match " ++
        ", ".intercalate spellings
  | .ignoredValue switch value =>
      switch.complaint
        ("ignored explicit argument " ++ Text.quoted value)
  | .missingValue switch =>
      switch.complaint "expected one argument"
  | .conflict switch rival =>
      switch.complaint
        ("not allowed with argument " ++ rival.name)
  | .unrecognized words =>
      "unrecognized arguments: " ++ " ".intercalate words

------------------------------------------------------------
-- Words
------------------------------------------------------------

/-
  What a word is: one that is no option, the one that ends
  the options, one that looks like an option but is none, or
  an option with the text that is attached to it.
-/
inductive Word where
  | plain
  | divider
  | unknown
  | given
      (switch : Switch)
      (long : Bool)
      (attached : Option (List Char))
  deriving DecidableEq, Repr

namespace Word

/- The text before the first equals sign and after it. -/
def cutEquals
    (cs : List Char) : List Char × Option (List Char) :=
  match Text.split '=' cs with
  | (first, []) => (first, none)
  | (first, more) => (first, some (Text.join ['='] more))

/-
  Whether a word is a negative number: digits after a minus
  sign, with a dot before the last of them if need be. A
  line break at the end does not count.
-/
def isNegativeNumber (cs : List Char) : Bool :=
  let isDigit (c : Char) := (Text.digitValue? c).isSome
  let cs := if cs.getLast? = some '\n' then cs.dropLast else cs
  match cs with
  | '-' :: rest =>
      let after := rest.dropWhile isDigit
      match after with
      | [] => !rest.isEmpty
      | '.' :: decimals =>
          !decimals.isEmpty && decimals.all isDigit
      | _ => false
  | _ => false

/- A word that spells no option. -/
def withoutSwitch (cs : List Char) : Word :=
  if isNegativeNumber cs ∨ ' ' ∈ cs then .plain
  else .unknown

/- The long options that a word cuts short. -/
def completions
    (start : List Char) : List (String × Switch) :=
  Switch.table.filter fun (spelling, _) =>
    start.isPrefixOf spelling.toList

/- Read a word that starts with two minus signs. -/
def readLong (cs : List Char) : Except UsageError Word :=
  let (start, value) := cutEquals cs
  match completions start with
  | [] => .ok (withoutSwitch cs)
  | [(_, switch)] =>
      .ok (.given switch true value)
  | several =>
      .error (.ambiguous (String.ofList cs)
        (several.map (·.1)))

/- Read a word that starts with one minus sign. -/
def readShort (cs : List Char) : Word :=
  match Switch.ofSpelling? (String.ofList (cs.take 2)) with
  | some switch =>
      .given switch false (some (cs.drop 2))
  | none => withoutSwitch cs

/- Whether a text starts with two minus signs. -/
def isLong : List Char → Bool
  | '-' :: '-' :: _ => true
  | _ => false

/- Read a word of the command line. -/
def read (word : String) : Except UsageError Word :=
  let cs := word.toList
  if cs.head? ≠ some '-' then .ok .plain
  else
    match Switch.ofSpelling? word with
    | some switch => .ok (.given switch (isLong cs) none)
    | none =>
        if cs.length = 1 then .ok .plain
        else
          let (start, value) := cutEquals cs
          match value,
              Switch.ofSpelling? (String.ofList start) with
          | some value, some switch =>
              .ok (.given switch (isLong cs) (some value))
          | _, _ =>
              if isLong cs then readLong cs
              else .ok (readShort cs)

/- Read all words. After two minus signs all are plain. -/
def readAll :
    List String → Except UsageError (List (String × Word))
  | [] => .ok []
  | word :: rest =>
      if word = "--" then
        .ok ((word, .divider) ::
          rest.map fun word => (word, .plain))
      else do
        let kind ← read word
        return (word, kind) :: (← readAll rest)

end Word

------------------------------------------------------------
-- Words with Several Options
------------------------------------------------------------

/- An option with its value, if it has one. -/
structure Given where
  switch : Switch
  value : Option String := none
  deriving DecidableEq, Repr

/-
  What a word with an option stands for: options that are
  complete, and one that may want the next word as its value.
-/
structure Cluster where
  given : List Given := []
  last : Option Switch := none
  deriving DecidableEq, Repr

namespace Cluster

/- Put an option without a value in front. -/
def after
    (switch : Switch)
    (cluster : Cluster) : Cluster :=
  { cluster with given := ⟨switch, none⟩ :: cluster.given }

def attachedValue (text : List Char) : Option String :=
  if text = ['-', '-'] then none
  else some (String.ofList text)

/-
  The options of a word from one of them on, with the text
  that follows it. If the option is short and has no value,
  the text holds more short options.
-/
def read
    (switch : Switch)
    (long : Bool)
    (text : List Char) : Except UsageError Cluster :=
  if switch.takesValue then
    .ok { given := [⟨switch, attachedValue text⟩] }
  else
    let ignored := .ignoredValue switch (String.ofList text)
    match long, text with
    | false, c :: rest =>
        match Switch.ofSpelling? (String.ofList ['-', c]), rest
        with
        | none, _ => .error ignored
        | some next, [] =>
            .ok (after switch { last := some next })
        | some next, d :: more =>
            (read next false (d :: more)).map (after switch)
    | _, _ => .error ignored
termination_by text.length

def ofWord
    (switch : Switch)
    (long : Bool) :
    Option (List Char) → Except UsageError Cluster
  | none => .ok { last := some switch }
  | some text => read switch long text

end Cluster

------------------------------------------------------------
-- Arguments
------------------------------------------------------------

/- What the command line asks for. -/
structure Arguments where
  configuration : Option String :=
    some defaultConfigurationPath
  schemaFile : Option String := none
  output : Option String := none
  includeSystem : Bool := false
  noFormat : Bool := false
  standardOutput : Bool := false
  verbosity : Log.Verbosity := {}
  deriving DecidableEq, Repr

/- Why there is nothing to run. -/
inductive Refusal where
  | help
  | version
  | usage (error : UsageError)
  deriving DecidableEq, Repr

namespace Arguments

/-
  The path of the configuration. An option without a value
  holds an empty list, which is shown as two brackets.
-/
def configurationPath (arguments : Arguments) : String :=
  arguments.configuration.getD "[]"

/- Whether an option was given. -/
def has
    (arguments : Arguments) : Switch → Bool
  | .verbose => arguments.verbosity.verbose
  | .quiet => arguments.verbosity.quiet
  | _ => false

/- Take an option with its value into account. -/
def set
    (arguments : Arguments)
    (given : Given) : Except Refusal Arguments :=
  match given.switch with
  | .help => .error .help
  | .version => .error .version
  | .configuration =>
      .ok { arguments with configuration := given.value }
  | .schemaFile =>
      .ok { arguments with schemaFile := given.value }
  | .output => .ok { arguments with output := given.value }
  | .includeSystem =>
      .ok { arguments with includeSystem := true }
  | .noFormat => .ok { arguments with noFormat := true }
  | .standardOutput =>
      .ok { arguments with standardOutput := true }
  | .verbose =>
      .ok { arguments with verbosity.verbose := true }
  | .quiet =>
      .ok { arguments with verbosity.quiet := true }

/- The same, unless a rival of the option was given. -/
def give
    (arguments : Arguments)
    (given : Given) : Except Refusal Arguments :=
  match given.switch.rival?.filter arguments.has with
  | some rival =>
      .error (.usage (.conflict given.switch rival))
  | none => arguments.set given

/-
  The options of a cluster, where the last one may want the
  next word, and the words that are left.
-/
def complete
    (cluster : Cluster)
    (words : List (String × Word)) :
    Except UsageError
      (List Given × List (String × Word)) :=
  match cluster.last with
  | none => .ok (cluster.given, words)
  | some switch =>
      if !switch.takesValue then
        .ok (cluster.given ++ [⟨switch, none⟩], words)
      else
        match words with
        | (value, .plain) :: rest =>
            .ok (cluster.given ++ [⟨switch, some value⟩], rest)
        | _ => .error (.missingValue switch)

theorem length_of_complete
    {cluster : Cluster}
    {words rest : List (String × Word)}
    {given : List Given}
    (h : complete cluster words = .ok (given, rest)) :
    rest.length ≤ words.length := by
  unfold complete at h
  split at h
  · simp_all
  · split at h
    · simp_all
    · split at h
      · obtain ⟨_, rfl⟩ := Prod.mk.inj (Except.ok.inj h)
        simp
      · simp at h

/-
  Read words one after the other. Those without a meaning
  are collected.
-/
def collect
    (arguments : Arguments)
    (extras : List String) :
    List (String × Word) →
      Except Refusal (Arguments × List String)
  | [] => .ok (arguments, extras)
  | (text, .plain) :: rest
  | (text, .divider) :: rest
  | (text, .unknown) :: rest =>
      collect arguments (extras ++ [text]) rest
  | (_, .given switch long attached) :: rest =>
      match Cluster.ofWord switch long attached with
      | .error e => .error (.usage e)
      | .ok cluster =>
          match _h : complete cluster rest with
          | .error e => .error (.usage e)
          | .ok (given, rest) => do
              let arguments ← given.foldlM give arguments
              collect arguments extras rest
termination_by words => words.length
decreasing_by
  all_goals simp_wf
  have := length_of_complete _h
  omega

/- Read a command line. -/
def read (words : List String) : Except Refusal Arguments := do
  let words ← (Word.readAll words).mapError .usage
  let (arguments, extras) ← collect {} [] words
  if extras.isEmpty then return arguments
  else throw (.usage (.unrecognized extras))

end Arguments

end PocketDart
