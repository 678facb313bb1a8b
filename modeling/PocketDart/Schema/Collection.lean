import PocketDart.Schema.Field

/-
  This file defines the collections of a server and how
  they are read from a payload. Older servers list the
  fields of a user under one key; newer ones list all fields
  under another, those of the system among them.

  Key definitions include:
    * `systemFieldNames`
    * `Collection`
    * `Collection.read`
    * `SchemaFault`
    * `readCollections`
-/

------------------------------------------------------------
-- Collections
------------------------------------------------------------

namespace PocketDart

/- The fields that every record has. -/
def systemFieldNames : List String :=
  ["id", "created", "updated"]

/- A collection with its fields in order of declaration. -/
structure Collection where
  name : Value
  fields : List Field
  id : Value
  kind : Value
  system : Bool

namespace Collection

def field?
    (collection : Collection)
    (name : Value) : Option Field :=
  collection.fields.find? fun field =>
    field.name.equalsAlone name

def selectFields (collection : Collection) : List Field :=
  collection.fields.filter Field.isSelect

------------------------------------------------------------
-- Reading
------------------------------------------------------------

/-
  Whether a listed field is one of the user: it is not
  hidden and has no system name.
-/
def isUserField (data : Value) : Except Misuse Bool := do
  let data ← data.entries
  let name := (data.lookup "name").getD .null
  let hidden := (data.lookup "hidden").any Value.truthy
  return !systemFieldNames.any name.equalsText && !hidden

def userFields :
    List Value → Except Misuse (List Value)
  | [] => .ok []
  | data :: rest => do
      let keep ← isUserField data
      let more ← userFields rest
      return if keep then data :: more else more

/- Whether a text stands somewhere inside another. -/
def occursIn
    (part : List Char) : List Char → Bool
  | [] => part.isEmpty
  | c :: rest =>
      part.isPrefixOf (c :: rest) || occursIn part rest

/-
  Whether a payload holds a word: as a key, as an item or
  as part of a text.
-/
def holds
    (data : Value)
    (word : String) : Except Misuse Bool :=
  match data with
  | .object entries => .ok (Entries.hasKey entries word)
  | .list items => .ok (items.any (·.equalsText word))
  | .text s => .ok (occursIn word.toList s.toList)
  | value => .error (.notSearchable value.kind)

/- The payloads of the fields, yet to be iterated. -/
def fieldList (data : Value) : Except Misuse Value := do
  if ← holds data "schema" then
    let data ← data.entries
    return Value.orElse (data.lookup "schema") (.list [])
  else
    let data ← data.entries
    let listed := Value.orElse (data.lookup "fields") (.list [])
    return .list (← userFields (← listed.elements))

def read
    (levels : Nat)
    (data : Value) : Except Misuse Collection := do
  let fields ← fieldList data
  let data ← data.entries
  let name ← Value.require data "name"
  let fields ← (← fields.elements).mapM (Field.read levels)
  return {
    name, fields
    id := (data.lookup "id").getD .null
    kind := (data.lookup "type").getD (.text "base")
    system := (data.lookup "system").any Value.truthy }

end Collection

------------------------------------------------------------
-- Lists of Collections
------------------------------------------------------------

/- What can be wrong with a document of collections. -/
inductive SchemaFault where
  | noCollections
  | misuse (cause : Misuse)
  deriving DecidableEq, Repr

/- A fault in words. -/
def SchemaFault.message : SchemaFault → String
  | .noCollections =>
      "Expected a list of collections or an object with " ++
        "'items'"
  | .misuse cause => cause.message

/-
  The payloads of a document: a list, or an object that
  holds one under `items`.
-/
def collectionPayloads? : Value → Option (List Value)
  | .list items => some items
  | .object entries =>
      match entries.lookup "items" with
      | none => some []
      | some (.list items) => some items
      | some _ => none
  | _ => none

/-
  Read all collections of a document, in order, with so many
  levels for the tags of fields that are shown.
-/
def readCollections
    (levels : Nat)
    (document : Value) :
    Except SchemaFault (List Collection) :=
  match collectionPayloads? document with
  | none => .error .noCollections
  | some payloads =>
      (payloads.mapM (Collection.read levels)).mapError .misuse

end PocketDart
