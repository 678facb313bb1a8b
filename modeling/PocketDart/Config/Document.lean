import PocketDart.Value.Display

/-
  This file defines the documents that configurations are
  read from. Unlike those of collections they may have keys
  that are no texts, and values of further kinds, such as
  days, which count only by how they are shown.

  Key definitions include:
    * `Document`
    * `Document.truthy`
    * `Document.find?`
    * `Document.display`
    * `Document.showFault?`
-/

------------------------------------------------------------
-- Documents
------------------------------------------------------------

namespace PocketDart

/-
  A value of a further kind: the word for its kind, whether
  it is truthy, how it is shown by itself and inside another
  value, and why it is not when so many levels are left.
-/
structure OtherThing where
  kind : String
  truthy : Bool
  display : String
  quoted : String
  fault? : (levels : Nat) → Option ShowFault
  display_ne_empty : truthy = true → display ≠ ""

/-
  A document. A mapping has each of its keys once, in the
  order of the document.
-/
inductive Document where
  | null
  | bool (b : Bool)
  | int (n : Int)
  | float (x : Binary64)
  | text (s : String)
  | list (items : List Document)
  | mapping (entries : List (Document × Document))
  | other (thing : OtherThing)
  deriving Inhabited

/- The keys of a mapping with their values. -/
abbrev DocumentEntries :=
  List (Document × Document)

namespace Document

/- The word that messages use for the kind of a value. -/
def kindWord : Document → String
  | .null => "NoneType"
  | .bool _ => "bool"
  | .int _ => "int"
  | .float _ => "float"
  | .text _ => "str"
  | .list _ => "list"
  | .mapping _ => "dict"
  | .other thing => thing.kind

/-
  Null, false, the zeros and whatever is empty are falsy;
  all else is truthy, if it does not say otherwise.
-/
def truthy : Document → Bool
  | .null => false
  | .bool b => b
  | .int n => n != 0
  | .float x => !x.isZero
  | .text s => s != ""
  | .list items => !items.isEmpty
  | .mapping entries => !entries.isEmpty
  | .other thing => thing.truthy

/- The value, unless it is falsy. -/
def orElse
    (value : Option Document)
    (fallback : Document) : Document :=
  match value with
  | some v => if v.truthy then v else fallback
  | none => fallback

/- Whether a key is a certain text. -/
def isText
    (document : Document)
    (s : String) : Bool :=
  match document with
  | .text t => t == s
  | _ => false

/- The value under a key that is a text. -/
def find?
    (entries : DocumentEntries)
    (key : String) : Option Document :=
  (entries.find? fun entry => entry.1.isText key).map (·.2)

------------------------------------------------------------
-- Shown Documents
------------------------------------------------------------

mutual

def quoted : Document → String
  | .null => "None"
  | .bool b => if b then "True" else "False"
  | .int n => toString n
  | .float x => x.render
  | .text s => Text.quoted s
  | .list items =>
      "[" ++ ", ".intercalate (quotedItems items) ++ "]"
  | .mapping entries =>
      "\x7b" ++ ", ".intercalate (quotedEntries entries) ++
        "\x7d"
  | .other thing => thing.quoted

def quotedItems : List Document → List String
  | [] => []
  | item :: rest => item.quoted :: quotedItems rest

def quotedEntries :
    List (Document × Document) → List String
  | [] => []
  | (key, value) :: rest =>
      (key.quoted ++ ": " ++ value.quoted) ::
        quotedEntries rest

end

/- A value by itself. -/
def display : Document → String
  | .text s => s
  | .other thing => thing.display
  | document => document.quoted

mutual

/-
  The first fault that is met in showing a value, with so
  many levels for what is nested in it.
-/
def showFault? :
    Document → (levels : Nat) → Option ShowFault
  | .int n, _ => ShowFault.ofInt? n
  | .list items, levels =>
      ShowFault.ofNest? items.isEmpty (itemsFault? items)
        levels
  | .mapping entries, levels =>
      ShowFault.ofNest? entries.isEmpty
        (entriesFault? entries) levels
  | .other thing, levels => thing.fault? levels
  | _, _ => none

def itemsFault? :
    List Document → (levels : Nat) → Option ShowFault
  | [], _ => none
  | item :: rest, levels =>
      (item.showFault? levels).or (itemsFault? rest levels)

/- The same for the entries of a mapping. -/
def entriesFault? :
    List (Document × Document) → (levels : Nat) →
      Option ShowFault
  | [], _ => none
  | (key, value) :: rest, levels =>
      (key.showFault? levels).or
        ((value.showFault? levels).or
          (entriesFault? rest levels))

end

/- A text is shown as it is. -/
@[simp]
theorem display_text (s : String) :
    (Document.text s).display = s := rfl

/- So it is never at fault. -/
@[simp]
theorem showFault?_text
    (s : String)
    (levels : Nat) :
    (Document.text s).showFault? levels = none := rfl

end Document

end PocketDart
