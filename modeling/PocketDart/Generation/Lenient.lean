import PocketDart.Generation.Strict

/-
  This file defines the generation of all models that goes
  on after a collection without one, and keeps account of
  what was generated and what was not.

  Key definitions include:
    * `GenerationReport`
    * `Progress.step`
    * `Progress.steps`
    * `generate`
-/

------------------------------------------------------------
-- Results by Name
------------------------------------------------------------

namespace PocketDart

/- Results by collection name, in order of appearance. -/
abbrev ByName (α : Type) :=
  List (Value × α)

namespace ByName

variable {α : Type}

/- Set the result under a name, which keeps its place. -/
def insert
    (name : Value)
    (result : α) : ByName α → ByName α
  | [] => [(name, result)]
  | (other, old) :: rest =>
      if other.equals name then (other, result) :: rest
      else (other, old) :: insert name result rest

/- Drop the result under a name. -/
def erase
    (name : Value)
    (results : ByName α) : ByName α :=
  results.filter fun entry => !entry.1.equals name

def has
    (results : ByName α)
    (name : Value) : Bool :=
  results.any fun entry => entry.1.equals name

end ByName

------------------------------------------------------------
-- Progress
------------------------------------------------------------

/- What has come of the collections so far. -/
structure Progress where
  seen : List Value
  models : ByName GeneratedModel
  errors : ByName Inconsistency
  warnings : List String
  messages : List Log.Message

namespace Progress

/- Before the first collection. -/
def start : Progress :=
  ⟨[], [], [], [], []⟩

/- The message about a generated model. -/
def generatedMessage (name : Value) : Log.Message :=
  .of .generation .debug <|
    "Generated model for collection " ++ name.display

def failedMessage
    (name : Value)
    (cause : Inconsistency) : Log.Message :=
  .of .generation .error <|
    "Generation failed for " ++ name.display ++ ": " ++
      cause.message

/- A name that was seen before has no model any more. -/
def reject
    (p : Progress)
    (name : Value) : Progress :=
  let cause :=
    Inconsistency.ofCollection name .repeatedCollection
  { p with
    models := ByName.erase name p.models
    errors := ByName.insert name cause p.errors }

/- Generate the model of a collection with a new name. -/
def accept
    (settings : Settings)
    (p : Progress)
    (collection : Collection) : Progress :=
  let name := collection.name
  let p :=
    { p with
      seen := name :: p.seen
      warnings := p.warnings ++ collection.warnings }
  match collection.layout settings with
  | .ok layout =>
      { p with
        models :=
          ByName.insert name (layout.model settings) p.models
        messages := p.messages ++
          [layout.renderedMessage, generatedMessage name] }
  | .error cause =>
      { p with
        errors := ByName.insert name cause p.errors
        messages := p.messages ++ [failedMessage name cause] }

/- Take one more collection into account. -/
def step
    (settings : Settings)
    (p : Progress)
    (collection : Collection) : Except Misuse Progress := do
  if ← isSeen p.seen collection.name then
    return p.reject collection.name
  else return p.accept settings collection

/-
  Take collections into account one after the other. What
  was logged before a misuse stays logged.
-/
def steps
    (settings : Settings) :
    Progress → List Collection →
      Log.Logged (Except Misuse Progress)
  | p, [] => ⟨.ok p, p.messages⟩
  | p, collection :: rest =>
      match p.step settings collection with
      | .error cause => ⟨.error cause, p.messages⟩
      | .ok p => steps settings p rest

end Progress

------------------------------------------------------------
-- Reports
------------------------------------------------------------

/- The account of a generation. -/
structure GenerationReport where
  models : ByName GeneratedModel
  errors : ByName Inconsistency
  warnings : List String
  fileExtension : String
  collectionCount : Nat
  enumCount : Nat

namespace GenerationReport

/- Whether every collection has its model. -/
def success (report : GenerationReport) : Bool :=
  report.errors.isEmpty

/- The language of the models. -/
def language : String := "dart"

/- The number of models. -/
def generatedCount (report : GenerationReport) : Nat :=
  report.models.length

/- The number of names without a model. -/
def failedCount (report : GenerationReport) : Nat :=
  report.errors.length

/- The models in order. -/
def modelList
    (report : GenerationReport) : List GeneratedModel :=
  report.models.map (·.2)

end GenerationReport

def enumCount
    (models : ByName GeneratedModel)
    (collections : List Collection) : Nat :=
  let counted := collections.filter fun collection =>
    ByName.has models collection.name
  counted.foldl
    (fun n collection => n + collection.selectFields.length) 0

def Progress.report
    (settings : Settings)
    (collections : List Collection)
    (p : Progress) : GenerationReport where
  models := p.models
  errors := p.errors
  warnings := p.warnings
  fileExtension := settings.fileExtension
  collectionCount := collections.length
  enumCount := enumCount p.models collections

def generate
    (settings : Settings)
    (collections : List Collection) :
    Log.Logged (Except Misuse GenerationReport) :=
  let final := Progress.start.steps settings collections
  { result :=
      final.result.map (Progress.report settings collections)
    messages := final.messages }

end PocketDart
