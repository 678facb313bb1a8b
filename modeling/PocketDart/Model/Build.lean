import PocketDart.Generation.Settings
import PocketDart.Model.Inconsistency
import PocketDart.Model.Layout
import PocketDart.Naming.Scope
import PocketDart.Schema.Collection

/-
  This file defines how the layout of a model class is built
  from a collection. Every name that the source declares is
  claimed in its scope, so that no two of them clash and
  none hides a name that the class uses.

  Key definitions include:
    * `Scopes`
    * `layoutVariants`
    * `layoutEnum`
    * `layoutField`
    * `Collection.layout`
-/

------------------------------------------------------------
-- Claims
------------------------------------------------------------

namespace PocketDart

/- A name that a scope of the source may know. -/
abbrev Names :=
  Scope Owner

/-
  The scope of the file, which holds the class and the
  enums, and the scope of the class body.
-/
structure Scopes where
  file : Names
  body : Names

/- A name without a problem. -/
def checkName
    (role : Role)
    (name : String) : Except Cause Unit :=
  match Dart.nameProblem? name with
  | some problem => .error (.badName role problem)
  | none => .ok ()

def claimName
    (role : Role)
    (name : String)
    (owner : Owner)
    (scope : Names) : Except Cause Names :=
  match scope.claim name (some owner) with
  | (some other, _) => .error (.takenName role name other)
  | (none, scope) => .ok scope

------------------------------------------------------------
-- Enums
------------------------------------------------------------

def enumScope : Names :=
  .reserve (Dart.enumMembers.map fun name =>
    (name, some .enumMember))

/- Lay out the constant of one declared value. -/
def layoutVariant
    (scope : Names)
    (seen : List String)
    (value : Value) : Except Cause (Variant × Names) := do
  match value with
  | .text s =>
      if s = "" then throw (.valueNotText value)
      if s ∈ seen then throw (.repeatedValue s)
      let name := memberName s
      if let some problem := Dart.nameProblem? name then
        throw (.badValue s problem)
      match scope.claim name (some (.value s)) with
      | (some other, _) => throw (.takenValue s name other)
      | (none, scope) => return (⟨name, s⟩, scope)
  | _ => throw (.valueNotText value)

/- Lay out the constants of the declared values in order. -/
def layoutVariants
    (scope : Names)
    (seen : List String) :
    List Value → Except Cause (List Variant)
  | [] => .ok []
  | value :: rest => do
      let (variant, scope) ← layoutVariant scope seen value
      let more ←
        layoutVariants scope (variant.value :: seen) rest
      return variant :: more

def checkValues
    (field : Field) : Except Cause (List Value) :=
  match field.options.lookup "values" with
  | none | some .null => .error .noValues
  | some (.list []) => .error .noValues
  | some (.list values) => .ok values
  | some value => .error (.valuesNotList value.kind)

/-
  Lay out the enum of a select field. The class body refers
  to the type, so its name is claimed there as well.
-/
def layoutEnum
    (scopes : Scopes)
    (field : Field)
    (name : String) :
    Except Cause (EnumLayout × Scopes) := do
  let values ← checkValues field
  let typeName := enumTypeName name
  let owner := Owner.enumOf name
  let file ← claimName .enum typeName owner scopes.file
  let body ← claimName .enum typeName owner scopes.body
  let variants ← layoutVariants enumScope [] values
  let layout : EnumLayout :=
    { fieldName := name, typeName
      member := memberName name, variants }
  return (layout, ⟨file, body⟩)

------------------------------------------------------------
-- Fields
------------------------------------------------------------

/- Lay out a field under its name. -/
def layoutNamedField
    (scopes : Scopes)
    (field : Field)
    (name : String) :
    Except Cause (FieldLayout × Scopes) := do
  if name ∈ systemFieldNames then throw .systemFieldName
  let member := memberName name
  let constant := typeName name
  checkName .member member
  let body ←
    claimName .member member (.field name) scopes.body
  checkName .constant constant
  let body ←
    claimName .constant constant (.field name) body
  let scopes := { scopes with body }
  let plain : FieldLayout :=
    { name, member, constant
      type := .ofKind field.kind name field.isRequired
      required := field.isRequired
      kind := field.kind
      enum? := none }
  if field.isSelect then
    let (layout, scopes) ← layoutEnum scopes field name
    return ({ plain with enum? := some layout }, scopes)
  else return (plain, scopes)

/- Lay out a field, whose name has to be a text. -/
def layoutField
    (scopes : Scopes)
    (field : Field) :
    Except Cause (FieldLayout × Scopes) :=
  match field.name with
  | .text name =>
      if name = "" then .error .emptyFieldName
      else layoutNamedField scopes field name
  | _ => .error .emptyFieldName

/- Lay out fields in order. -/
def layoutFields
    (collection : Value)
    (scopes : Scopes) :
    List Field → Except Inconsistency (List FieldLayout)
  | [] => .ok []
  | field :: rest => do
      let (layout, scopes) ←
        (layoutField scopes field).mapError
          fun cause => ⟨collection, field.name, cause⟩
      let more ← layoutFields collection scopes rest
      return layout :: more

------------------------------------------------------------
-- Classes
------------------------------------------------------------

def className
    (settings : Settings)
    (collection : String) : String :=
  typeName collection ++ settings.classSuffix

/-
  The names that the class body uses before any field: the
  record type, the built-in types and members, then the
  constructor and the fields of every record.
-/
def bodyScope
    (settings : Settings)
    (className : String) : Names :=
  let reserved : Names := .reserve <|
    (settings.recordType, some .recordType) ::
      (Dart.builtInTypes.map fun name =>
        (name, some .builtInType)) ++
      (Dart.modelMembers.map fun name =>
        (name, some .modelMember))
  let withClass :=
    (reserved.claim className (some .constructor)).2
  systemFields.foldl (fun scope field =>
    let owner := some (Owner.systemField field.name)
    let scope := (scope.claim field.member owner).2
    (scope.claim field.constant owner).2) withClass

/- The scopes before any field. -/
def initialScopes
    (settings : Settings)
    (className : String) : Scopes :=
  { file := .reserve [(className, some .modelClass)]
    body := bodyScope settings className }

/- The layout of the class of a collection. -/
def Collection.layout
    (settings : Settings)
    (collection : Collection) :
    Except Inconsistency Layout := do
  match collection.name with
  | .text name =>
      if name = "" then
        throw (.ofCollection (.text "") .emptyCollectionName)
      let className := className settings name
      if let some problem := Dart.nameProblem? className then
        throw (.ofCollection (.text name)
          (.className problem))
      let fields ←
        layoutFields collection.name
          (initialScopes settings className)
          collection.fields
      return ⟨name, className, fields⟩
  | other =>
      throw (.ofCollection (.text other.display)
        .emptyCollectionName)

end PocketDart
