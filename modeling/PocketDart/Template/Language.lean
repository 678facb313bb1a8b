import PocketDart.Dart.Literal
import PocketDart.Naming.Convention
import PocketDart.Value.Misuse

/-
  This file defines what a template language does for a
  store of templates, whichever language it is, and the
  filters that the store adds to those of the language.

  Key definitions include:
    * `Template.Language`
    * `Template.Filter`
    * `Template.Filter.apply`
    * `Template.Language.filter?`
-/

------------------------------------------------------------
-- Languages
------------------------------------------------------------

namespace PocketDart

namespace Template

/- What templates deal with, as far as texts are concerned. -/
structure TextView (Thing Fault : Type) where
  text : String → Thing
  asText : Ability → Thing → Except Fault String
  display : Thing → Except Fault String

/- The filters that templates may use, by their names. -/
abbrev Filters (Thing Fault : Type) :=
  String → Option (Thing → Except Fault Thing)

/- Variables with what they stand for. -/
abbrev Variables (Thing : Type) :=
  List (String × Thing)

/- The name under which a template knows itself. -/
def selfName : String := "self"

/-
  A template language: what passes for a name, what names
  stand for in a template of some name or of none, its own
  filters, and how it parses and renders. Its own faults are
  those that it tells from all others, and it keeps as many
  templates as its capacity says.
-/
structure Language (Thing Parsed Fault : Type) where
  view : TextView Thing Fault
  isName : String → Bool
  undefined : String → Thing
  known? : Option String → String → Option Thing
  filters : Filters Thing Fault
  parse :
    Filters Thing Fault → String → Except Fault Parsed
  render :
    Filters Thing Fault → Option String →
      Variables Thing → Parsed → Except Fault String
  isOwn : Fault → Bool
  message : Fault → String
  capacity : Nat

------------------------------------------------------------
-- Filters
------------------------------------------------------------

/- What the store lets templates do besides. -/
inductive Filter where
  | memberCase
  | typeCase
  | literal
  deriving DecidableEq, Repr

namespace Filter

def ofName? : String → Option Filter
  | "camel_case" => some .memberCase
  | "pascal_case" => some .typeCase
  | "dart_string" => some .literal
  | _ => none

/-
  Apply a filter. The cases are those of texts; anything
  can be shown in a literal.
-/
def apply
    {Thing Fault : Type}
    (view : TextView Thing Fault)
    (filter : Filter)
    (thing : Thing) : Except Fault Thing :=
  match filter with
  | .memberCase =>
      return view.text (memberName (← view.asText .split thing))
  | .typeCase =>
      return view.text (typeName (← view.asText .lower thing))
  | .literal =>
      return view.text (Dart.literal (← view.display thing))

end Filter

/-
  The filters of templates in a store: those of the language
  come after its own.
-/
def Language.filter?
    {Thing Parsed Fault : Type}
    (language : Language Thing Parsed Fault) :
    Filters Thing Fault := fun name =>
  match Filter.ofName? name with
  | some filter => some (filter.apply language.view)
  | none => language.filters name

end Template

end PocketDart
