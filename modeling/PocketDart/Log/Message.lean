import PocketDart.Value.Misuse

/-
  This file defines log messages: how urgent they are, which
  part of the program they come from, and how they are
  written.

  Key definitions include:
    * `Log.Level`
    * `Log.Origin`
    * `Log.Message`
    * `Log.Message.formatted`
    * `Log.Logged`
-/

------------------------------------------------------------
-- Levels
------------------------------------------------------------

namespace PocketDart

namespace Log

/-
  The levels of urgency. What has none is less urgent than
  everything else.
-/
inductive Level where
  | unset
  | debug
  | info
  | warning
  | error
  | critical
  deriving DecidableEq, Repr

namespace Level

def word : Level → String
  | .unset => "NOTSET"
  | .debug => "DEBUG"
  | .info => "INFO"
  | .warning => "WARNING"
  | .error => "ERROR"
  | .critical => "CRITICAL"

/- Levels in order of urgency. -/
def rank : Level → Nat
  | .unset => 0
  | .debug => 10
  | .info => 20
  | .warning => 30
  | .error => 40
  | .critical => 50

/- The level with a given word; two have another one. -/
def ofWord? (word : String) : Option Level :=
  match word with
  | "WARN" => some warning
  | "FATAL" => some critical
  | _ =>
      [unset, debug, info, warning, error, critical].find?
        (·.word = word)

/- The word, filled with blanks to a common width. -/
def padded (level : Level) : String :=
  let word := level.word
  word ++ String.ofList (List.replicate (8 - word.length) ' ')

end Level

------------------------------------------------------------
-- Origins
------------------------------------------------------------

/- The parts of the program that log. -/
inductive Origin where
  | model
  | generation
  | configuration
  | schemaFile
  | server
  | writer
  deriving DecidableEq, Repr

/- The name under which everything is logged. -/
def rootName : String := "pb_modelgen"

/- The name under which a part logs. -/
def Origin.name : Origin → String
  | .model =>
      rootName ++ ".codegen.languages.dart.generator"
  | .generation => rootName ++ ".codegen.core.generator"
  | .configuration => rootName ++ ".config"
  | .schemaFile => rootName ++ ".utils"
  | .server => rootName ++ ".client"
  | .writer => rootName ++ ".writer"

/-
  The full name of a logger: names outside the root are put
  under it.
-/
def fullName (name : Option String) : String :=
  match name with
  | none => rootName
  | some name =>
      if name = rootName ∨
          (rootName ++ ".").toList.isPrefixOf name.toList
      then name
      else rootName ++ "." ++ name

def nameOfValue : Value → Except Misuse String
  | .null => .ok (fullName none)
  | value => return fullName (← value.asText .startsWith)

------------------------------------------------------------
-- Messages
------------------------------------------------------------

/- A message with its level and the name of its logger. -/
structure Message where
  level : Level
  logger : String
  text : String
  deriving DecidableEq, Repr

namespace Message

/- A message of a part of the program. -/
def of
    (origin : Origin)
    (level : Level)
    (text : String) : Message :=
  ⟨level, origin.name, text⟩

/- A message on one line, for a record of messages. -/
def summary (m : Message) : String :=
  m.level.word ++ " " ++ m.logger ++ ": " ++ m.text

/- A message as it is written out. -/
def formatted (m : Message) : String :=
  m.level.padded ++ " " ++ m.logger ++ ": " ++ m.text ++ "\n"

end Message

------------------------------------------------------------
-- Logged Results
------------------------------------------------------------

/- A result with the messages logged on the way to it. -/
structure Logged (α : Type) where
  result : α
  messages : List Message

end Log

end PocketDart
