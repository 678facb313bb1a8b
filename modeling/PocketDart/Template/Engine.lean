import PocketDart.Template.Store

/-
  This file defines the engine that templates are asked for.
  It keeps the templates that it parsed last, so that they
  are not parsed again. A kept template counts while the
  text that it was parsed from is still there, and an added
  text makes the engine forget all that it kept.

  Key definitions include:
    * `KeptTemplate`
    * `TemplateEngine`
    * `TemplateEngine.get`
    * `TemplateEngine.Request`
    * `TemplateEngine.step`
    * `TemplateEngine.answers`
-/

------------------------------------------------------------
-- Engines
------------------------------------------------------------

namespace PocketDart

open Template (Language Variables)

/- A template as it was parsed, and its text if it was added. -/
structure KeptTemplate (Parsed : Type) where
  source : Option String
  parsed : Parsed

/- A store, and the kept templates, asked for last first. -/
structure TemplateEngine (Parsed : Type) where
  store : TemplateStore Parsed
  kept : List (String × KeptTemplate Parsed)

namespace TemplateEngine

variable {Thing Parsed Fault : Type}

def ofStore
    (store : TemplateStore Parsed) : TemplateEngine Parsed :=
  ⟨store, []⟩

/-
  Add a text under a name. A shipped template of that name
  that is kept would otherwise still be found.
-/
def add
    (engine : TemplateEngine Parsed)
    (name text : String) : TemplateEngine Parsed :=
  ofStore (engine.store.add name text)

/-
  Keep a template as the one that was asked for last. If
  there are too many, the one asked for first is forgotten.
-/
def keep
    (capacity : Nat)
    (engine : TemplateEngine Parsed)
    (name : String)
    (template : KeptTemplate Parsed) :
    TemplateEngine Parsed :=
  let others := engine.kept.filter (·.1 ≠ name)
  { engine with
    kept := ((name, template) :: others).take capacity }

def isCurrent
    (engine : TemplateEngine Parsed)
    (name : String)
    (template : KeptTemplate Parsed) : Bool :=
  match template.source with
  | none => true
  | some text =>
      engine.store.added.lookup name == some text

def load
    (language : Language Thing Parsed Fault)
    (engine : TemplateEngine Parsed)
    (name : String) :
    Option (Except Fault Parsed) × TemplateEngine Parsed :=
  match engine.store.find language name with
  | some (.ok parsed) =>
      let source := engine.store.added.lookup name
      (some (.ok parsed),
        engine.keep language.capacity name ⟨source, parsed⟩)
  | found => (found, engine)

/- The template of a name, kept or parsed. -/
def get
    (language : Language Thing Parsed Fault)
    (engine : TemplateEngine Parsed)
    (name : String) :
    Option (Except Fault Parsed) × TemplateEngine Parsed :=
  match engine.kept.lookup name with
  | some template =>
      if engine.isCurrent name template then
        (some (.ok template.parsed),
          engine.keep language.capacity name template)
      else engine.load language name
  | none => engine.load language name

------------------------------------------------------------
-- Requests
------------------------------------------------------------

/-
  What an engine is asked, where texts and data have some
  form.
-/
inductive Request (Text Values : Type) where
  | add (name : String) (text : Text)
  | isThere (name : String)
  | render (name : String) (values : Values)
  | renderText (text : Text) (values : Values)
  deriving DecidableEq, Repr

/- What it answers. -/
inductive Answer where
  | done
  | truth (holds : Bool)
  | text (text : String)
  deriving DecidableEq, Repr

def step
    (language : Language Thing Parsed Fault)
    (engine : TemplateEngine Parsed) :
    Request String (Variables Thing) →
      Except (TemplateError Fault) Answer ×
        TemplateEngine Parsed
  | .add name text => (.ok .done, engine.add name text)
  | .isThere name =>
      let (found, next) := engine.get language name
      ((TemplateStore.presence found).map .truth, next)
  | .render name given =>
      let (found, next) := engine.get language name
      let result :=
        TemplateStore.renderFound language name given found
      (result.map .text, next)
  | .renderText text given =>
      let result :=
        TemplateStore.renderText language text given
      (result.map .text, engine)

def after
    (language : Language Thing Parsed Fault)
    (engine : TemplateEngine Parsed) :
    List (Request String (Variables Thing)) →
      TemplateEngine Parsed
  | [] => engine
  | request :: more =>
      (engine.step language request).2.after language more

def answers
    (language : Language Thing Parsed Fault)
    (engine : TemplateEngine Parsed) :
    List (Request String (Variables Thing)) →
      List (Except (TemplateError Fault) Answer)
  | [] => []
  | request :: more =>
      let (answer, next) := engine.step language request
      answer :: next.answers language more

end TemplateEngine

end PocketDart
