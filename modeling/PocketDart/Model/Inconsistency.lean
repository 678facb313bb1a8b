import PocketDart.Dart.Identifier
import PocketDart.Value.Display

/-
  This file defines why a collection may have no model: its
  names are no identifiers or clash, or a select field has
  no usable values.

  Key definitions include:
    * `Owner`
    * `Role`
    * `Cause`
    * `Inconsistency`
    * `Inconsistency.message`
-/

------------------------------------------------------------
-- Owners of Names
------------------------------------------------------------

namespace PocketDart

/- What a name of the source is taken by. -/
inductive Owner where
  | modelClass
  | modelMember
  | builtInType
  | recordType
  | constructor
  | systemField (name : String)
  | field (name : String)
  | enumOf (name : String)
  | enumMember
  | value (value : String)
  deriving DecidableEq, Repr

/- An owner in words. -/
def Owner.describe : Owner → String
  | .modelClass => "model class"
  | .modelMember => "built-in member"
  | .builtInType => "built-in type"
  | .recordType => "the record type"
  | .constructor => "constructor"
  | .systemField name => "built-in field '" ++ name ++ "'"
  | .field name => "field '" ++ name ++ "'"
  | .enumOf name => "enum of field '" ++ name ++ "'"
  | .enumMember => "built-in enum member"
  | .value text => "value '" ++ text ++ "'"

/- What a name is to be used for. -/
inductive Role where
  | member
  | constant
  | enum
  deriving DecidableEq, Repr

def Role.word : Role → String
  | .member => "member"
  | .constant => "constant"
  | .enum => "enum"

------------------------------------------------------------
-- Causes
------------------------------------------------------------

/- The reasons for having no model. -/
inductive Cause where
  | repeatedCollection
  | emptyCollectionName
  | className (problem : Dart.NameProblem)
  | emptyFieldName
  | systemFieldName
  | badName (role : Role) (problem : Dart.NameProblem)
  | takenName (role : Role) (name : String) (owner : Owner)
  | valuesNotList (kind : Value.Kind)
  | noValues
  | valueNotText (value : Value)
  | repeatedValue (value : String)
  | badValue (value : String) (problem : Dart.NameProblem)
  | takenValue (value name : String) (owner : Owner)

def Cause.message : Cause → String
  | .repeatedCollection =>
      "collection name appears more than once"
  | .emptyCollectionName => "collection name is empty"
  | .className problem => "class name " ++ problem.message
  | .emptyFieldName => "field name is empty"
  | .systemFieldName =>
      "collides with the built-in record field of the " ++
        "same name"
  | .badName role problem =>
      role.word ++ " name " ++ problem.message
  | .takenName role name owner =>
      role.word ++ " name '" ++ name ++
        "' collides with " ++ owner.describe
  | .valuesNotList kind =>
      "select values must be a list, got " ++ kind.word
  | .noValues => "select field declares no values"
  | .valueNotText value =>
      "select value " ++ value.quoted ++
        " is not a non-empty string"
  | .repeatedValue value =>
      "select value '" ++ value ++
        "' is declared more than once"
  | .badValue value problem =>
      "select value '" ++ value ++ "': " ++ problem.message
  | .takenValue value name owner =>
      "select value '" ++ value ++ "' maps to '" ++ name ++
        "', same as " ++ owner.describe

------------------------------------------------------------
-- Inconsistencies
------------------------------------------------------------

/-
  A cause with the collection that it concerns, and the
  field, which is null when it concerns no single field.
-/
structure Inconsistency where
  collection : Value
  field : Value
  cause : Cause

namespace Inconsistency

def ofCollection
    (collection : Value)
    (cause : Cause) : Inconsistency :=
  ⟨collection, .null, cause⟩

/- The place and the cause in words. -/
def message (i : Inconsistency) : String :=
  let place :=
    if i.field.truthy then
      i.collection.display ++ "." ++ i.field.display
    else i.collection.display
  place ++ ": " ++ i.cause.message

end Inconsistency

end PocketDart
