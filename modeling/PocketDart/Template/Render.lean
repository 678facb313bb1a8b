import PocketDart.Template.Known

/-
  This file defines how a template is rendered with things
  for its variables. Nothing undefined ever passes as empty.

  Key definitions include:
    * `Template.Context`
    * `Template.Term.eval`
    * `Template.render`
    * `Template.usual`
-/

------------------------------------------------------------
-- Terms
------------------------------------------------------------

namespace PocketDart

namespace Template

/-
  The filters, the variables, and whether the current
  element is the last one.
-/
structure Context where
  filters : Filters Thing Fault
  bound : Variables Thing
  isLast : Bool := false

def undefined (name : String) : Thing :=
  .error (.reason (.undefined name))

/-
  What a term stands for. To look for an attribute is to use
  a thing, and so is to ask whether it is truthy.
-/
def Term.eval
    (context : Context) : Term → Except Fault Thing
  | .constant word => return .ok (.value word.value)
  | .variable name =>
      return (context.bound.lookup name).getD
        (undefined name)
  | .attribute term key => do
      let datum ← (← term.eval context)
      match datum.get? key with
      | some found => return .ok found
      | none =>
          return .error (.reason (.noAttribute datum.kind key))
  | .filtered term name => do
      let thing ← term.eval context
      match context.filters name with
      | some filter => filter thing
      | none => .error (.reason (.unknownFilter name))
  | .textIf text condition => do
      let datum ← (← condition.eval context)
      return .ok (.text (if datum.truthy then text else ""))

------------------------------------------------------------
-- Rendering
------------------------------------------------------------

/- Render something for each datum, told the last one. -/
def renderEach
    (render : Datum → Bool → Except Fault String) :
    List Datum → Except Fault String
  | [] => .ok ""
  | datum :: rest => do
      let first ← render datum rest.isEmpty
      let more ← renderEach render rest
      return first ++ more

mutual

/- Render one part. -/
def renderNode
    (context : Context) : Node → Except Fault String
  | .text text => .ok text
  | .output term => do
      view.display (← term.eval context)
  | .whenTrue condition body => do
      let datum ← (← condition.eval context)
      if datum.truthy then renderNodes context body
      else return ""
  | .each item source body => do
      let datum ← (← source.eval context)
      let elements ← datum.elements.mapError .misuse
      renderEach (fun datum isLast =>
        renderNodes
          { context with
            bound := (item, .ok datum) :: context.bound
            isLast } body) elements
  | .unlessLast body =>
      if context.isLast then .ok ""
      else renderNodes context body

/- Render parts one after the other. -/
def renderNodes
    (context : Context) : List Node → Except Fault String
  | [] => .ok ""
  | node :: rest => do
      let first ← renderNode context node
      let more ← renderNodes context rest
      return first ++ more

end

/-
  Render a template with things for its variables. The name
  under which it knows itself is not for them.
-/
def render
    (filters : Filters Thing Fault)
    (template : Option String)
    (given : Variables Thing)
    (nodes : List Node) : Except Fault String :=
  if (given.lookup selfName).isSome then .error .selfGiven
  else
    let bound := bindings template given nodes
    renderNodes { filters, bound } nodes

------------------------------------------------------------
-- Languages
------------------------------------------------------------

/- A fault of reading, of filters or of what is undefined. -/
def Fault.isReason : Fault → Bool
  | .reason _ => true
  | _ => false

/- What is undefined is taken for an empty text. -/
def orEmpty : Thing → Except Fault Thing
  | .error (.reason _) => .ok (view.text "")
  | thing => .ok thing

def changeShown
    (change : List Char → List Char)
    (thing : Thing) : Except Fault Thing := do
  let shown ← view.display thing
  return view.text (String.ofList (change shown.toList))

/- Some of the filters that these templates come with. -/
def usualFilters : Filters Thing Fault
  | "d" | "default" => some orEmpty
  | "lower" => some (changeShown Text.lowerAll)
  | "string" => some (changeShown id)
  | "upper" => some (changeShown (·.flatMap Text.upper))
  | _ => none

/- The language of these templates. -/
def usual : Language Thing (List Node) Fault where
  view := view
  isName name := Text.isIdentifier name.toList
  undefined := undefined
  known? template name :=
    ((knownTo template).lookup name).map .ok
  filters := usualFilters
  parse filters text := (read filters text).mapError .reason
  render := render
  isOwn := Fault.isReason
  message := Fault.message
  capacity := 400

end Template

end PocketDart
