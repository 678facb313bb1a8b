import PocketDart.Dart.Expression
import PocketDart.Dart.TypeName

/-
  This file defines the layout of a model class: the names
  that its source declares, field by field, and the
  expressions that convert between a record and the model.

  Key definitions include:
    * `Variant`
    * `EnumLayout`
    * `FieldLayout`
    * `Layout`
    * `FieldLayout.readExpression`
    * `FieldLayout.writeExpression`
-/

------------------------------------------------------------
-- Enums
------------------------------------------------------------

namespace PocketDart

open Dart (Expression TypeName)

/- A declared value and the enum constant that names it. -/
structure Variant where
  name : String
  value : String
  deriving DecidableEq, Repr

/- The enum of a select field. -/
structure EnumLayout where
  fieldName : String
  typeName : String
  member : String
  variants : List Variant
  deriving DecidableEq, Repr

namespace EnumLayout

/- The table from enum constants to values. -/
def toMap (layout : EnumLayout) : String :=
  "_" ++ layout.member ++ "EnumToMap"

/- The table from values to enum constants. -/
def fromMap (layout : EnumLayout) : String :=
  "_" ++ layout.member ++ "EnumFromMap"

/- The function that insists on a known value. -/
def fromWire (layout : EnumLayout) : String :=
  "_" ++ layout.member ++ "EnumFromWire"

end EnumLayout

------------------------------------------------------------
-- Fields
------------------------------------------------------------

/-
  A field of the class: its member, the constant that holds
  its name in records, its type, and its enum if it has one.
-/
structure FieldLayout where
  name : String
  member : String
  constant : String
  type : TypeName
  required : Bool
  kind : FieldKind
  enum? : Option EnumLayout
  deriving DecidableEq, Repr

namespace FieldLayout

/- From the value in the record to that of the member. -/
def readExpression (field : FieldLayout) : Expression :=
  let wire := Expression.recordValue field.constant
  match field.kind, field.enum? with
  | .select, some layout =>
      let value := Expression.call layout.fromWire wire
      if field.type.nullable then .unlessBlank wire value
      else value
  | .date, _ =>
      if field.type.nullable then
        .unlessNull wire (.parseTime wire)
      else .parseTime wire
  | _, _ => wire

/- From the value of the member to that in the record. -/
def writeExpression (field : FieldLayout) : Expression :=
  let value := Expression.member field.member
  match field.kind, field.enum? with
  | .select, some layout => .lookup layout.toMap value
  | .date, _ => .formatTime value field.type.nullable
  | _, _ => value

end FieldLayout

------------------------------------------------------------
-- Classes
------------------------------------------------------------

/- A field that every record has. -/
def systemField
    (name : String)
    (kind : FieldKind) : FieldLayout :=
  { name, kind
    member := memberName name
    constant := typeName name
    type := .ofKind kind name true
    required := true
    enum? := none }

/- The fields that every record has. -/
def systemFields : List FieldLayout :=
  [systemField "id" .text, systemField "created" .date,
   systemField "updated" .date]

/- The expressions that read them, for each member. -/
def systemArguments : List (String × Expression) :=
  [("id", .recordField "id"),
   ("created", .parseTime (.recordField "created")),
   ("updated", .parseTime (.recordField "updated"))]

/- The layout of the class of one collection. -/
structure Layout where
  collection : String
  className : String
  fields : List FieldLayout
  deriving DecidableEq, Repr

namespace Layout

/- All fields of the class, those of every record first. -/
def allFields (layout : Layout) : List FieldLayout :=
  systemFields ++ layout.fields

/- The enums, in the order of their fields. -/
def enums (layout : Layout) : List EnumLayout :=
  layout.fields.filterMap (·.enum?)

end Layout

end PocketDart
