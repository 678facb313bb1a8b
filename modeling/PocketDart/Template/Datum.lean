import PocketDart.Template.Fault
import PocketDart.Template.Language

/-
  This file defines the data that a template is rendered
  with: document values, things of which only their text and
  what they are is known, and lists and records of such data.

  Key definitions include:
    * `Template.Datum`
    * `Template.Datum.display`
    * `Template.Datum.elements`
    * `Template.Datum.asText`
    * `Template.Thing`
-/

------------------------------------------------------------
-- Data
------------------------------------------------------------

namespace PocketDart

namespace Template

/- What a variable of a template can stand for. -/
inductive Datum where
  | value (v : Value)
  | shown (text holder : String)
  | list (items : List Datum)
  | record (entries : List (String × Datum))

/- A datum, or the fault of using what is undefined. -/
abbrev Thing :=
  Except Fault Datum

/- Data for variables. -/
abbrev Data :=
  Variables Datum

def things (data : Data) : Variables Thing :=
  data.map fun entry => (entry.1, .ok entry.2)

namespace Datum

def text (s : String) : Datum :=
  .value (.text s)

def kind : Datum → Value.Kind
  | .value v => v.kind
  | .shown _ _ => .object
  | .list _ => .list
  | .record _ => .object

def truthy : Datum → Bool
  | .value v => v.truthy
  | .shown _ _ => true
  | .list items => !items.isEmpty
  | .record entries => !entries.isEmpty

/- The entry of a record under a key. -/
def get?
    (datum : Datum)
    (key : String) : Option Datum :=
  match datum with
  | .value v => (v.get? key).map .value
  | .record entries => entries.lookup key
  | _ => none

/- What a datum yields one after the other. -/
def elements (datum : Datum) : Except Misuse (List Datum) :=
  match datum with
  | .value v => return (← v.elements).map .value
  | .list items => .ok items
  | .record entries => .ok (entries.map fun e => text e.1)
  | .shown _ _ => .error (.notIterable datum.kind)

def asText
    (datum : Datum)
    (ability : Ability) : Except Fault String :=
  match datum with
  | .value v => (v.asText ability).mapError .misuse
  | .shown _ holder => .error (.unfit holder ability)
  | _ => .error (.misuse (.lacks datum.kind ability))

------------------------------------------------------------
-- Shown Data
------------------------------------------------------------

mutual

def quoted : Datum → String
  | .value v => v.quoted
  | .shown text _ => text
  | .list items =>
      "[" ++ ", ".intercalate (quotedItems items) ++ "]"
  | .record entries =>
      "\x7b" ++ ", ".intercalate (quotedEntries entries) ++
        "\x7d"

def quotedItems : List Datum → List String
  | [] => []
  | item :: rest => item.quoted :: quotedItems rest

def quotedEntries : List (String × Datum) → List String
  | [] => []
  | (key, datum) :: rest =>
      (Text.quoted key ++ ": " ++ datum.quoted) ::
        quotedEntries rest

end

/- A datum as a template shows it. -/
def display : Datum → String
  | .value v => v.display
  | datum => datum.quoted

end Datum

/- Things as far as texts are concerned. -/
def view : TextView Thing Fault where
  text s := .ok (.text s)
  asText ability thing := do (← thing).asText ability
  display thing := return (← thing).display

end Template

end PocketDart
