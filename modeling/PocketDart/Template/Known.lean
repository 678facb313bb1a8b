import PocketDart.Template.Syntax
import PocketDart.Text.Normal.Form

/-
  This file defines what the names in a template stand for:
  what it is rendered with, or else one of the things that
  every template knows. Names of one compatible form are one
  variable.

  Key definitions include:
    * `Template.known`
    * `Template.find?`
    * `Template.bindings`
-/

------------------------------------------------------------
-- Known Things
------------------------------------------------------------

namespace PocketDart

namespace Template

/- A template as it is shown; one without name has none. -/
def selfDatum (template : Option String) : Datum :=
  .shown
    ("<TemplateReference " ++
      (template.map Text.quoted).getD "None" ++ ">")
    "'TemplateReference' object"

def classDatum (fullName name : String) : Datum :=
  .shown ("<class '" ++ fullName ++ "'>")
    ("type object '" ++ name ++ "'")

/- What every template knows besides itself. -/
def known : Data :=
  [("range", classDatum "range" "range"),
   ("dict", classDatum "dict" "dict"),
   ("lipsum",
     .shown "<function generate_lorem_ipsum>"
       "'function' object"),
   ("cycler", classDatum "jinja2.utils.Cycler" "Cycler"),
   ("joiner", classDatum "jinja2.utils.Joiner" "Joiner"),
   ("namespace",
     classDatum "jinja2.utils.Namespace" "Namespace")]

def knownTo (template : Option String) : Data :=
  (selfName, selfDatum template) :: known

/- What a name stands for: what is given comes first. -/
def find?
    (given : Variables Thing)
    (name : String) : Option Thing :=
  (given.lookup name).or ((known.lookup name).map .ok)

------------------------------------------------------------
-- Names
------------------------------------------------------------

def Term.names : Term → List String
  | .constant _ => []
  | .variable name => [name]
  | .attribute term _ => term.names
  | .filtered term _ => term.names
  | .textIf _ condition => condition.names

mutual

/- The variables of a part, in order. -/
def Node.names : Node → List String
  | .text _ => []
  | .output term => term.names
  | .whenTrue condition body =>
      condition.names ++ namesOf body
  | .each _ source body => source.names ++ namesOf body
  | .unlessLast body => namesOf body

/- The variables of parts, in order. -/
def namesOf : List Node → List String
  | [] => []
  | node :: rest => node.names ++ namesOf rest

end

------------------------------------------------------------
-- Variables
------------------------------------------------------------

/-
  What a name stands for among others. Of names with one
  form the last one that appears for the first time counts.
-/
def thingFor?
    (given : Variables Thing)
    (names : List String)
    (name : String) : Option Thing :=
  let form := Text.compatibleForm name
  let alike := names.filter fun other =>
    Text.compatibleForm other = form
  find? given (alike.getLast?.getD name)

/-
  The variables of a template with what they stand for. Its
  own name comes before all others, and is never without
  anything that it stands for.
-/
def bindings
    (template : Option String)
    (given : Variables Thing)
    (nodes : List Node) : Variables Thing :=
  let names := (selfName :: namesOf nodes).eraseDups
  let own : Thing := .ok (selfDatum template)
  let given := (selfName, own) :: given
  names.filterMap fun name =>
    let thing? := thingFor? given names name
    let thing? :=
      if name = selfName then thing?.or (some own)
      else thing?
    thing?.map fun thing => (name, thing)

end Template

end PocketDart
