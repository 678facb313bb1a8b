import PocketDart.Json.Writer
import PocketDart.Value.Equality
import PocketDart.Value.Misuse

/-
  This file defines the fields of a collection and how they
  are read from a payload.

  Key definitions include:
    * `FieldKind`
    * `Field`
    * `Field.declaredValues`
    * `Field.read`

  Key theorems include:
    * `FieldKind.ofTag_tag`
-/

------------------------------------------------------------
-- Kinds of Field
------------------------------------------------------------

namespace PocketDart

/-
  The kinds of field. Whatever has no kind of its own is
  carried along without a type.
-/
inductive FieldKind where
  | text
  | number
  | bool
  | date
  | select
  | other
  deriving DecidableEq, Repr

namespace FieldKind

/- The tag that the server uses for a kind. -/
def tag : FieldKind → String
  | .text => "text"
  | .number => "number"
  | .bool => "bool"
  | .date => "date"
  | .select => "select"
  | .other => "other"

def all : List FieldKind :=
  [.text, .number, .bool, .date, .select, .other]

def ofTag : Value → FieldKind
  | .text s => (all.find? (·.tag = s)).getD .other
  | _ => .other

/- A tag leads back to its kind. -/
@[simp]
theorem ofTag_tag (kind : FieldKind) :
    ofTag (.text kind.tag) = kind := by
  cases kind <;> decide

/-
  Read the kind of a tag. An unknown tag is shown on the way
  to no kind of its own, with so many levels for what is
  nested in it. Only when it is nested deeper is this fatal:
  a number in it that is too long to be shown counts as
  being unknown.
-/
def read
    (levels : Nat)
    (tag : Value) : Except Misuse FieldKind :=
  if tag.showFault? levels = some .tooDeep then
    .error .tooDeep
  else .ok (ofTag tag)

end FieldKind

------------------------------------------------------------
-- Fields
------------------------------------------------------------

/-
  A field of a collection. The name is what the payload
  says, which a sound payload makes a text. A field is
  required by whatever is truthy. The options hold the
  settings that belong to the kind, and the tag is the one
  of the payload.
-/
structure Field where
  name : Value
  kind : FieldKind
  required : Value
  options : Entries
  tag : Value

namespace Field

/- Whether a record has to hold a value of the field. -/
def isRequired (field : Field) : Bool :=
  field.required.truthy

/- Whether the values of a field are declared one by one. -/
def isSelect (field : Field) : Bool :=
  field.kind = .select

/-
  The declared values. Where one value stands in place of
  a list, it is the only one.
-/
def declaredValues (field : Field) : List Value :=
  match field.options.lookup "values" with
  | none => []
  | some .null => []
  | some (.list items) => items
  | some value => [value]

def ofKind
    (name : Value)
    (kind : FieldKind)
    (required : Value)
    (options : Entries)
    (tag : Value) : Field :=
  { name, kind, required, options
    tag :=
      match tag with
      | .null => .text kind.tag
      | tag => tag }

def ofTag
    (levels : Nat)
    (name : Value)
    (kindTag : Value)
    (required : Value)
    (options : Entries)
    (tag : Value) : Except Misuse Field := do
  return {
    name, required, options
    kind := ← FieldKind.read levels kindTag
    tag := if tag.truthy then tag else kindTag }

------------------------------------------------------------
-- Reading
------------------------------------------------------------

def keyText : Value → String
  | .text s => s
  | value => Json.write value

def readPairs
    (index : Nat)
    (entries : Entries) :
    List Value → Except Misuse Entries
  | [] => .ok entries
  | item :: rest =>
      match item.elements? with
      | none => .error (.notPair index)
      | some [key, value] => do
          let key ← key.asKey
          readPairs (index + 1)
            (Entries.insert (keyText key) value entries) rest
      | some parts =>
          .error (.pairLength index parts.length)

/- The options of a payload: an object, or pairs. -/
def readOptions
    (value : Option Value) : Except Misuse Entries :=
  match Value.orElse value (.object []) with
  | .object entries => .ok entries
  | value => do readPairs 0 [] (← value.elements)

/- Settings that may stand beside the name of a field. -/
def settings : List String :=
  ["values", "maxSelect", "min", "max", "pattern"]

def addSetting
    (data options : Entries)
    (key : String) : Entries :=
  match data.lookup key with
  | some value =>
      if Entries.hasKey options key then options
      else Entries.insert key value options
  | none => options

def read
    (levels : Nat)
    (data : Value) : Except Misuse Field := do
  let data ← data.entries
  let options ← readOptions (data.lookup "options")
  let options := settings.foldl (addSetting data) options
  let name ← Value.require data "name"
  let tag := (data.lookup "type").getD .null
  let kind ← FieldKind.read levels tag
  let required :=
    (data.lookup "required").any Value.truthy
  return .ofKind name kind (.bool required) options tag

end Field

end PocketDart
