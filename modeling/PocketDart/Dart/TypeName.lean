import PocketDart.Naming.Convention
import PocketDart.Schema.Field

/-
  This file defines the Dart types of fields.

  Key definitions include:
    * `Dart.TypeName`
    * `Dart.TypeName.render`
    * `Dart.TypeName.ofKind`
-/

------------------------------------------------------------
-- Types
------------------------------------------------------------

namespace PocketDart

namespace Dart

/- A base type that may also hold null. -/
structure TypeName where
  base : String
  nullable : Bool
  deriving DecidableEq, Repr

namespace TypeName

/- The type of values about which nothing is known. -/
def untyped : String := "dynamic"

/- Whether nothing is known about the values. -/
def isUntyped (type : TypeName) : Bool :=
  type.base = untyped

/- The spelling; what is untyped holds null anyway. -/
def render (type : TypeName) : String :=
  if type.nullable && !type.isUntyped then type.base ++ "?"
  else type.base

def baseOf
    (kind : FieldKind)
    (name : String) : String :=
  match kind with
  | .text => "String"
  | .number => "num"
  | .bool => "bool"
  | .date => "DateTime"
  | .select => enumTypeName name
  | .other => untyped

/- The type of a field. What is optional may be null. -/
def ofKind
    (kind : FieldKind)
    (name : String)
    (required : Bool) : TypeName :=
  ⟨baseOf kind name, !required⟩

/-
  The type of a field whose name may be any value. Only a
  select field needs its name to be a text.
-/
def ofField (field : Field) : Except Misuse TypeName :=
  match field.kind, field.name with
  | .select, .text name =>
      .ok (ofKind .select name field.isRequired)
  | .select, name => .error (.lacks name.kind .lower)
  | kind, _ => .ok (ofKind kind "" field.isRequired)

end TypeName

end Dart

end PocketDart
